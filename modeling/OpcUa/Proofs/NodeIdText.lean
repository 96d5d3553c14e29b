import OpcUa.NodeId.Parser
import OpcUa.Proofs.TextForms

/-!
# The text of a node identifier

A node identifier is written without blanks around it, and what is read is cut at its blanks first.
Only the identifier that is a string may end with blanks of its own, and these are lost.

* `NodeId.parseChars_toChars`: what is written stands for what was written.
* `NodeId.trimmed`: a node identifier without the blanks at its end.
* `NodeId.read_back`: what is read from the text of a node identifier.
-/

namespace OpcUa

namespace Identifier

/-- The letter of the kind. -/
def letter : Identifier → Char
  | numeric _ => 'i'
  | string _ => 's'
  | guid _ => 'g'
  | bytes _ => 'b'

/-- The identifier itself, after the letter of its kind and the equals sign. -/
def content : Identifier → List Char
  | numeric v => (toString v.toNat).toList
  | string v => v.toList
  | guid v => v.toChars
  | bytes v => Text.Base64.encode v

/-- The identifier without the blanks at its end, which only a string can have. -/
def trimmed : Identifier → Identifier
  | string v => string (String.ofList (v.toList.rdropWhile Text.isBlank))
  | numeric v => numeric v
  | guid v => guid v
  | bytes v => bytes v

/-- Whether the identifier is a string that ends with a blank. -/
def EndsBlank : Identifier → Prop
  | string v => ∃ h : v.toList ≠ [], Text.isBlank (v.toList.getLast h) = true
  | numeric _ | guid _ | bytes _ => False

theorem toChars_eq (i : Identifier) : i.toChars = i.letter :: '=' :: i.content := by
  cases i <;> rfl

theorem isBlank_letter (i : Identifier) : Text.isBlank i.letter = false := by
  cases i <;> rfl

theorem content_trimmed (i : Identifier) :
    i.trimmed.content = i.content.rdropWhile Text.isBlank := by
  have hkeep {cs : List Char} (h : ∀ c ∈ cs, Text.isBlank c = false) :
      cs = cs.rdropWhile Text.isBlank := (Text.rdropWhile_of_forall h).symm
  cases i with
  | numeric v =>
    refine hkeep fun c hc => Text.isBlank_of_isDigit ?_
    have hc : c ∈ (toString v.toNat).toList := hc
    exact List.all_eq_true.1 (Text.all_isDigit_toDigits v.toNat) c (by simpa using hc)
  | string v => exact String.toList_ofList
  | guid v => exact hkeep fun c => v.isBlank_toChars
  | bytes v => exact hkeep fun c => Text.isBlank_encode

theorem letter_trimmed (i : Identifier) : i.trimmed.letter = i.letter := by
  cases i <;> rfl

theorem trimmed_eq_self_iff (i : Identifier) : i.trimmed = i ↔ ¬ i.EndsBlank := by
  cases i with
  | numeric | guid | bytes => exact iff_of_true rfl id
  | string v =>
    rw [trimmed, string.injEq, ← String.toList_inj, String.toList_ofList,
      List.rdropWhile_eq_self_iff, EndsBlank, not_exists]

theorem parseIdentifier_toChars (i : Identifier) : NodeId.parseIdentifier i.toChars = .ok i := by
  cases i with
  | numeric v =>
    have hread : Text.unsignedBelow? UInt32.size (toString v.toNat).toList = some v.toNat := by
      simp [Text.unsignedBelow?_toDigits v.toNat_lt]
    simp only [toChars, NodeId.parseIdentifier, hread, NodeId.orElse]
    simp
  | string v => simp [toChars, NodeId.parseIdentifier]
  | guid v => simp [toChars, NodeId.parseIdentifier, Guid.ofChars?_toChars, NodeId.orElse]
  | bytes v => simp [toChars, NodeId.parseIdentifier, Text.Base64.decode?_encode, NodeId.orElse]

end Identifier

namespace NodeId

theorem splitSemicolon_append {cs : List Char} (h : ';' ∉ cs) (rest : List Char) :
    splitSemicolon (cs ++ ';' :: rest) = some (cs, rest) := by
  induction cs with
  | nil => rfl
  | cons c cs ih =>
    rw [List.mem_cons, not_or] at h
    have hc : c ≠ ';' := fun e => h.1 e.symm
    simp [splitSemicolon, ih h.2]

theorem semicolon_not_mem_toDigits (n : Nat) : ';' ∉ Nat.toDigits 10 n := by
  intro h
  have hdigit := List.all_eq_true.1 (Text.all_isDigit_toDigits n) _ h
  simp at hdigit

/-- What is written stands for what was written. -/
theorem parseChars_toChars (n : NodeId) : parseChars n.toChars = .ok n := by
  obtain ⟨space, i⟩ := n
  unfold toChars
  dsimp only
  split
  · rename_i hspace
    subst hspace
    have hread : parseChars i.toChars = do return ⟨0, ← parseIdentifier i.toChars⟩ := by
      cases i <;> rfl
    rw [hread, i.parseIdentifier_toChars]
    rfl
  · have hdigits : (toString space.toNat).toList = Nat.toDigits 10 space.toNat := by simp
    have hread : Text.unsignedBelow? UInt16.size (Nat.toDigits 10 space.toNat) =
        some space.toNat := Text.unsignedBelow?_toDigits space.toNat_lt
    rw [hdigits]
    simp [parseChars, splitSemicolon_append (semicolon_not_mem_toDigits space.toNat), orElse, hread,
      i.parseIdentifier_toChars, bind, Except.bind, pure, Except.pure]

/-- A node identifier without the blanks at its end. -/
def trimmed (n : NodeId) : NodeId := { n with identifier := n.identifier.trimmed }

/-- The blanks that are cut from the text are those at the end of the identifier. -/
theorem trimChars_toChars (n : NodeId) : Text.trimChars n.toChars = n.trimmed.toChars := by
  obtain ⟨space, i⟩ := n
  have hletter := i.isBlank_letter
  have hequals : Text.isBlank '=' = false := rfl
  unfold toChars trimmed
  dsimp only
  rw [i.toChars_eq, i.trimmed.toChars_eq, i.letter_trimmed, i.content_trimmed]
  split
  · exact Text.trimChars_append_cons hletter hequals [] i.content
  · have hfirst : Text.isBlank 'n' = false := rfl
    have h := Text.trimChars_append_cons hfirst hequals
      ('s' :: '=' :: ((toString space.toNat).toList ++ [';', i.letter])) i.content
    simpa using h

/-- The text of a node identifier is always one that can be read, and what is read is the node
identifier without the blanks at its end. So it is read back unless it is a string that ends with a
blank. -/
theorem read_back (n : NodeId) : parse n.toText = .ok n.trimmed ∧
    (parse n.toText = .ok n ↔ ¬ n.identifier.EndsBlank) := by
  have hread : parse n.toText = .ok n.trimmed := by
    unfold parse toText
    dsimp only
    rw [String.toList_ofList, trimChars_toChars, parseChars_toChars]
  refine ⟨hread, ?_⟩
  rw [hread, Except.ok.injEq, ← n.identifier.trimmed_eq_self_iff]
  exact ⟨congrArg identifier, fun h => congrArg (NodeId.mk n.space) h⟩

/-- A blank at the end of a string is lost. -/
theorem not_read_back :
    parse (toText ⟨0, .string "a "⟩) = .ok ⟨0, .string "a"⟩ ∧
      parse (toText ⟨0, .string "a "⟩) ≠ .ok ⟨0, .string "a "⟩ := by
  decide

end NodeId

end OpcUa
