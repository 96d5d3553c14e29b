/-!
# Layouts of values

The diagnostic text of a value: a record with its fields in braces, a case with its data in
parentheses, a list in brackets.
-/

namespace OpcUa.Text

/-- `Name`, or `Name` and its fields in braces. -/
def record (name : String) (fields : List (String × String)) : String :=
  match fields with
  | [] => name
  | fields =>
    name ++ " \x7b " ++ String.intercalate ", " (fields.map fun (f, v) => f ++ ": " ++ v) ++ " \x7d"

/-- `Name(value)`. -/
def wrapped (name value : String) : String := name ++ "(" ++ value ++ ")"

def bracketed (items : List String) : String := "[" ++ String.intercalate ", " items ++ "]"

def optional {α : Type} (text : α → String) : Option α → String
  | some a => wrapped "Some" (text a)
  | none => "None"

def boolean (b : Bool) : String := if b then "true" else "false"

end OpcUa.Text
