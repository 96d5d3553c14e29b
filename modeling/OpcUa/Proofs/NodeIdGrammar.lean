import OpcUa.Proofs.NodeIdText
import OpcUa.Proofs.TextGrammar

/-!
# The grammar of node identifiers

A text is cut at the blanks around it, and what is left is either an identifier or a namespace, a
semicolon and an identifier. The namespace is a numeral and has no semicolon, so the first semicolon
ends it; what comes after that belongs to the identifier.

* `Identifier.IsText`, `NodeId.IsText`: the grammar.
* `NodeId.parseChars_eq_ok_iff`: it is what is read.
* `NodeId.parse_iff_isText`: every text is read by the grammar, or refused as it stands.
-/

namespace OpcUa

/-- The texts of an identifier: the letter of its kind, an equals sign, and then a numeral, the
string as it is, a text of the GUID, or the text of the byte string. -/
inductive Identifier.IsText : List Char → Identifier → Prop
  | numeric {cs : List Char} {v : UInt32} : Text.IsNumeral cs v.toNat →
    IsText ('i' :: '=' :: cs) (.numeric v)
  | string (cs : List Char) : IsText ('s' :: '=' :: cs) (.string (String.ofList cs))
  | guid {cs : List Char} {g : Guid} : Guid.IsText cs g → IsText ('g' :: '=' :: cs) (.guid g)
  | bytes (bytes : List UInt8) :
    IsText ('b' :: '=' :: Text.Base64.encode bytes) (.bytes bytes)

namespace NodeId

/-- The texts of a node identifier: an identifier of the namespace 0, or `ns=`, a numeral of the
namespace, a semicolon and an identifier. -/
inductive IsText : List Char → NodeId → Prop
  | standard {cs : List Char} {i : Identifier} : i.IsText cs → IsText cs ⟨0, i⟩
  | spaced {digits cs : List Char} {space : UInt16} {i : Identifier} :
    Text.IsNumeral digits space.toNat → i.IsText cs →
    IsText ('n' :: 's' :: '=' :: (digits ++ ';' :: cs)) ⟨space, i⟩

/-! ## Reading -/

variable {α β : Type} {flaw : Flaw}

theorem bind_orElse_eq_ok_iff {o : Option α} {f : α → Except Flaw β} {b : β} :
    (orElse flaw o >>= f) = .ok b ↔ ∃ a, o = some a ∧ f a = .ok b := by
  cases o with
  | none => exact ⟨nofun, fun ⟨a, ha, _⟩ => nomatch ha⟩
  | some a => exact ⟨fun h => ⟨a, rfl, h⟩, by rintro ⟨_, ⟨⟩, h⟩; exact h⟩

theorem exists_of_map_eq_ok {x : Except Flaw α} {f : α → β} {b : β}
    (h : (do return f (← x)) = .ok b) : ∃ a, x = .ok a ∧ f a = b := by
  cases x with
  | error flaw => cases h
  | ok a => exact ⟨a, rfl, Except.ok.inj h⟩

theorem parseIdentifier_eq_ok_iff {cs : List Char} {i : Identifier} :
    parseIdentifier cs = .ok i ↔ i.IsText cs := by
  constructor
  · intro h
    unfold parseIdentifier at h
    split at h
    · obtain ⟨n, hn, h⟩ := bind_orElse_eq_ok_iff.1 h
      obtain ⟨hnum, hlt⟩ := Text.unsignedBelow?_eq_some_iff.1 hn
      cases h
      refine .numeric ?_
      rwa [UInt32.toNat_ofNat_of_lt' hlt]
    · cases h
      exact .string _
    · obtain ⟨g, hg, h⟩ := bind_orElse_eq_ok_iff.1 h
      cases h
      exact .guid (Guid.ofChars?_eq_some_iff.1 hg)
    · obtain ⟨bytes, hbytes, h⟩ := bind_orElse_eq_ok_iff.1 h
      cases h
      rw [Text.Base64.decode?_eq_some_iff.1 hbytes]
      exact .bytes bytes
    · cases h
  · intro h
    cases h with
    | @numeric cs v h =>
      have hread := Text.unsignedBelow?_eq_some_iff.2 ⟨h, v.toNat_lt⟩
      refine bind_orElse_eq_ok_iff.2 ⟨_, hread, ?_⟩
      rw [UInt32.ofNat_toNat]
      rfl
    | string cs => rfl
    | guid h => exact bind_orElse_eq_ok_iff.2 ⟨_, Guid.ofChars?_eq_some_iff.2 h, rfl⟩
    | bytes bytes => exact bind_orElse_eq_ok_iff.2 ⟨_, Text.Base64.decode?_encode bytes, rfl⟩

/-- The first semicolon is the one that nothing before it is. -/
theorem splitSemicolon_eq_some_iff {cs a b : List Char} :
    splitSemicolon cs = some (a, b) ↔ cs = a ++ ';' :: b ∧ ';' ∉ a := by
  constructor
  · intro h
    fun_induction splitSemicolon cs generalizing a with
    | case1 => cases h
    | case2 rest =>
      cases h
      exact ⟨rfl, List.not_mem_nil⟩
    | case3 c rest hc ih =>
      obtain ⟨⟨a', b'⟩, hsplit, h⟩ := Option.map_eq_some_iff.1 h
      cases h
      obtain ⟨rfl, hmem⟩ := ih hsplit
      refine ⟨rfl, fun h => ?_⟩
      rcases List.mem_cons.1 h with rfl | h
      · exact hc rfl
      · exact hmem h
  · rintro ⟨rfl, hmem⟩
    exact splitSemicolon_append hmem b

/-- An identifier does not begin like a namespace. -/
theorem parseChars_of_isText {cs : List Char} {i : Identifier} (h : i.IsText cs) :
    parseChars cs = .ok ⟨0, i⟩ := by
  have hread : parseChars cs = do return ⟨0, ← parseIdentifier cs⟩ := by
    cases h <;> rfl
  rw [hread, parseIdentifier_eq_ok_iff.2 h]
  rfl

theorem parseChars_eq_ok_iff {cs : List Char} {n : NodeId} :
    parseChars cs = .ok n ↔ IsText cs n := by
  constructor
  · intro h
    unfold parseChars at h
    split at h
    · obtain ⟨⟨digits, rest⟩, hsplit, hspace⟩ := bind_orElse_eq_ok_iff.1 h
      obtain ⟨space, hread, hidentifier⟩ := bind_orElse_eq_ok_iff.1 hspace
      obtain ⟨hnum, hlt⟩ := Text.unsignedBelow?_eq_some_iff.1 hread
      obtain ⟨i, hi, rfl⟩ := exists_of_map_eq_ok hidentifier
      rw [(splitSemicolon_eq_some_iff.1 hsplit).1]
      refine .spaced ?_ (parseIdentifier_eq_ok_iff.1 hi)
      rwa [UInt16.toNat_ofNat_of_lt' hlt]
    · obtain ⟨i, hi, rfl⟩ := exists_of_map_eq_ok h
      exact .standard (parseIdentifier_eq_ok_iff.1 hi)
  · intro h
    cases h with
    | standard h => exact parseChars_of_isText h
    | @spaced digits cs space i hspace h =>
      have hsplit := splitSemicolon_append hspace.semicolon_not_mem cs
      have hread := Text.unsignedBelow?_eq_some_iff.2 ⟨hspace, space.toNat_lt⟩
      refine bind_orElse_eq_ok_iff.2 ⟨_, hsplit, bind_orElse_eq_ok_iff.2 ⟨_, hread, ?_⟩⟩
      rw [parseIdentifier_eq_ok_iff.2 h, UInt16.ofNat_toNat]
      rfl

/-- Every text is read by the grammar. There is one core, which is what is left of the text without
the blanks around it. If the core is a text of a node identifier, then the text is accepted and
stands for that. Otherwise it is refused, and the error shows the core. -/
theorem parse_iff_isText (text : String) :
    ∃ core : List Char, (∀ cs, Text.Strips text.toList cs ↔ cs = core) ∧
      (∀ n, parse text = .ok n ↔ IsText core n) ∧
      ((∀ n, ¬ IsText core n) ↔ ∃ reason : String, parse text =
        .error (.configuration (.invalidNodeId (String.ofList core) reason))) := by
  refine ⟨Text.trimChars text.toList, fun cs => Text.strips_iff, fun n => ?_, ?_⟩
  · rw [← parseChars_eq_ok_iff]
    unfold parse
    dsimp only
    cases parseChars (Text.trimChars text.toList) <;> simp
  · simp only [← parseChars_eq_ok_iff]
    unfold parse
    dsimp only
    cases parseChars (Text.trimChars text.toList) with
    | ok n => exact iff_of_false (fun h => h n rfl) nofun
    | error flaw => exact iff_of_true nofun ⟨flaw.message, rfl⟩

/-- A plus sign, leading zeros and blanks around the text are accepted; semicolons after the first
one belong to the string. -/
example : parse " ns=+007;s=a;ns=b " = .ok ⟨7, .string "a;ns=b"⟩ := by decide

end NodeId

end OpcUa
