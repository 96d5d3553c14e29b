/-!
# Blank characters

The characters with the Unicode property White_Space, and what is left of a text without them.

* `trim`: a text without the blanks at its two ends.
-/

namespace OpcUa.Text

/-- The property White_Space. -/
def isBlank (c : Char) : Bool :=
  let n := c.toNat
  (0x09 ≤ n && n ≤ 0x0D) || n == 0x20 || n == 0x85 || n == 0xA0 || n == 0x1680 ||
    (0x2000 ≤ n && n ≤ 0x200A) || n == 0x2028 || n == 0x2029 || n == 0x202F || n == 0x205F ||
    n == 0x3000

/-- The characters without the blanks at both ends. -/
def trimChars (cs : List Char) : List Char :=
  ((cs.dropWhile isBlank).reverse.dropWhile isBlank).reverse

def trim (s : String) : String := String.ofList (trimChars s.toList)

/-- Whether nothing but blanks is in the text. -/
def isAllBlank (s : String) : Bool := s.toList.all isBlank

end OpcUa.Text
