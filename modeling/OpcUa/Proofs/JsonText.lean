import Mathlib.Data.Nat.Basic
import Mathlib.Data.Option.Basic
import OpcUa.Json.Reader
import OpcUa.Json.Writer
import OpcUa.Proofs.TextForms

/-!
# JSON texts that read back

What the writer writes for a value is read back as that value, whatever stands behind it. This file
says so for strings, for numbers that are 64-bit words, and for lists and objects of values that
read back. Two calls of the readers take at least one character, so twice the number of characters
is fuel enough.

* `Json.IsTextOf`: a text that is written for a value and read back; `Json.ReadsBack`: there is one.
* `Json.readsBack_str`, `Json.readsBack_nat`, `Json.readsBack_arr`, `Json.readsBack_obj`: the values
  that read back.
* `Json.parse?_render`: the text of such a value stands for it.
-/

namespace OpcUa.Json

open Reader

/-- What may stand behind a value: nothing, or a character that ends all values. -/
def Ends (rest : List Char) : Prop := ∀ c ∈ rest.head?, c = ',' ∨ c = ']' ∨ c = '\x7d'

/-- The writer appends `cs` for `j`, and the reader takes it off again. -/
structure IsTextOf (cs : List Char) (j : Json) : Prop where
  written : ∀ out, (Writer.value out j).toList = out.toList ++ cs
  head : ∃ c, cs.head? = some c ∧ isSpace c = false ∧ c ≠ ']'
  read : ∀ {fuel rest}, 2 * cs.length ≤ fuel → Ends rest → value? fuel (cs ++ rest) = some (j, rest)

/-- The text that is written for the value is read back. -/
def ReadsBack (j : Json) : Prop := ∃ cs, IsTextOf cs j

theorem skipSpace_of_not {c : Char} (h : isSpace c = false) (cs : List Char) :
    skipSpace (c :: cs) = c :: cs :=
  List.dropWhile_cons_of_neg (by rw [h]; nofun)

theorem value?_quote (fuel : Nat) (rest : List Char) :
    value? (fuel + 1) ('"' :: rest) =
      (stringBody? fuel [] rest).map fun (s, rest) => (.str s, rest) := rfl

theorem value?_bracket (fuel : Nat) {c : Char} (hspace : isSpace c = false) (hclose : c ≠ ']')
    (rest : List Char) : value? (fuel + 1) ('[' :: c :: rest) = items? fuel [] (c :: rest) := by
  rw [value?, skipSpace_of_not rfl]
  simp only [skipSpace_of_not hspace]
  split
  · rename_i e
    exact absurd (List.cons.inj e).1 hclose
  · rfl

theorem value?_brace (fuel : Nat) (rest : List Char) :
    value? (fuel + 1) ('\x7b' :: '"' :: rest) = fields? fuel [] ('"' :: rest) := rfl

theorem fields?_quote (fuel : Nat) (seen : List (String × Json)) (rest : List Char) :
    fields? (fuel + 1) seen ('"' :: rest) = (do
      let (name, rest) ← stringBody? fuel [] rest
      match skipSpace rest with
      | ':' :: rest =>
        let (v, rest) ← value? fuel rest
        let seen := setField name v seen
        match skipSpace rest with
        | ',' :: rest => fields? fuel seen rest
        | '\x7d' :: rest => return (.obj seen, rest)
        | _ => none
      | _ => none) := rfl

/-! ## Strings -/

theorem hexValue?_hexDigit {d : Nat} (h : d < 16) : hexValue? (Writer.hexDigit d) = some d := by
  have hall : ∀ d : Fin 16, hexValue? (Writer.hexDigit d.val) = some d.val := by decide
  exact hall ⟨d, h⟩

/-- A control character in its escaped form. -/
theorem escapedUnit?_of_lt {c : Char} (h : c.toNat < 0x20) (rest : List Char) :
    escapedUnit? ('0' :: '0' :: Writer.hexDigit (c.toNat / 16) ::
      Writer.hexDigit (c.toNat % 16) :: rest) = some (c, rest) := by
  have h0 : hexValue? '0' = some 0 := rfl
  have hhi := hexValue?_hexDigit (d := c.toNat / 16) (by omega)
  have hlo := hexValue?_hexDigit (d := c.toNat % 16) (by omega)
  have hunit : ((0 * 16 + 0) * 16 + c.toNat / 16) * 16 + c.toNat % 16 = c.toNat := by omega
  unfold escapedUnit? hex4?
  simp only [h0, hhi, hlo, Option.bind_eq_bind, Option.bind_some, Option.pure_def, hunit]
  rw [if_neg (by omega), if_neg (by omega), Char.ofNat_toNat]

/-- One character, in its escaped form if it has one. -/
theorem stringBody?_escape (c : Char) (fuel : Nat) (seen rest : List Char) :
    stringBody? (fuel + 1) seen (Writer.escape c ++ rest) = stringBody? fuel (c :: seen) rest := by
  unfold Writer.escape
  split
  · rfl
  · rfl
  · rfl
  · rfl
  · rfl
  · rfl
  · rfl
  · rename_i hquote hslash _ _ _ _ _
    split
    · rename_i hlt
      simp only [List.cons_append, List.nil_append, stringBody?, escapedUnit?_of_lt hlt,
        Option.bind_eq_bind, Option.bind_some]
    · rename_i hge
      have hplain : (c.toNat < 0x20 || c == '\\') = false := by
        rw [Bool.or_eq_false_iff, decide_eq_false_iff_not]
        exact ⟨hge, beq_false_of_ne hslash⟩
      rw [List.singleton_append, stringBody?, hplain]
      · rfl
      · exact hquote
      · exact fun _ e _ => hslash e
      · exact fun _ _ e _ => hslash e

theorem length_escape_pos (c : Char) : 0 < (Writer.escape c).length := by
  unfold Writer.escape
  repeat' split
  all_goals exact Nat.succ_pos _

theorem stringBody?_flatMap_escape (cs : List Char) {fuel : Nat}
    (h : (cs.flatMap Writer.escape).length < fuel) (seen rest : List Char) :
    stringBody? fuel seen (cs.flatMap Writer.escape ++ '"' :: rest) =
      some (String.ofList (seen.reverse ++ cs), rest) := by
  induction cs generalizing fuel seen with
  | nil =>
    obtain ⟨fuel, rfl⟩ := Nat.exists_eq_add_one_of_ne_zero (Nat.ne_of_gt h)
    rw [List.append_nil]
    rfl
  | cons c cs ih =>
    have hpos := length_escape_pos c
    rw [List.flatMap_cons, List.length_append] at h
    obtain ⟨fuel, rfl⟩ := Nat.exists_eq_add_one_of_ne_zero (Nat.ne_of_gt (Nat.zero_lt_of_lt h))
    rw [List.flatMap_cons, List.append_assoc, stringBody?_escape, ih (by omega),
      List.reverse_cons, List.append_assoc, List.singleton_append]

theorem toList_foldl_push (l : List Char) (out : String) :
    (l.foldl String.push out).toList = out.toList ++ l := by
  induction l generalizing out with
  | nil => rw [List.foldl_nil, List.append_nil]
  | cons c l ih => rw [List.foldl_cons, ih, String.toList_push, List.append_assoc]; rfl

/-- A string with its escapes and the closing quote. -/
def stringBody (s : String) : List Char := s.toList.flatMap Writer.escape ++ ['"']

theorem toList_quoted (out s : String) :
    (Writer.quoted out s).toList = out.toList ++ '"' :: stringBody s := by
  have hfold (l : List Char) (out : String) :
      (l.foldl (fun out c => (Writer.escape c).foldl String.push out) out).toList =
        out.toList ++ l.flatMap Writer.escape := by
    induction l generalizing out with
    | nil => rw [List.foldl_nil, List.flatMap_nil, List.append_nil]
    | cons c l ih =>
      rw [List.foldl_cons, ih, toList_foldl_push, List.flatMap_cons, List.append_assoc]
  rw [Writer.quoted, String.toList_push, hfold, String.toList_push, stringBody, List.append_assoc,
    List.append_assoc]
  rfl

theorem stringBody?_stringBody (s : String) {fuel : Nat} (h : (stringBody s).length ≤ fuel)
    (rest : List Char) : stringBody? fuel [] (stringBody s ++ rest) = some (s, rest) := by
  rw [stringBody, List.length_append] at h
  rw [stringBody, List.append_assoc, List.singleton_append, stringBody?_flatMap_escape _ h,
    List.reverse_nil, List.nil_append, String.ofList_toList]

theorem readsBack_str (s : String) : ReadsBack (.str s) := by
  refine ⟨'"' :: stringBody s, fun out => toList_quoted out s, ⟨'"', rfl, rfl, by decide⟩, ?_⟩
  intro fuel rest hfuel _
  rw [List.length_cons] at hfuel
  obtain ⟨fuel, rfl⟩ := Nat.exists_eq_add_one_of_ne_zero (n := fuel) (by omega)
  rw [List.cons_append, value?_quote, stringBody?_stringBody s (by omega)]
  rfl

/-! ## Numbers -/

/-- Only the number zero begins with a zero. -/
theorem head?_toDigits {n : Nat} (h : n ≠ 0) : (Nat.toDigits 10 n).head? ≠ some '0' := by
  induction n using Nat.strongRecOn with
  | _ n ih =>
    by_cases hn : n < 10
    · rw [Nat.toDigits_of_lt_base hn]
      have hall : ∀ d : Fin 10, d.val ≠ 0 → some d.val.digitChar ≠ some '0' := by decide
      exact hall ⟨n, hn⟩ h
    · rw [Nat.toDigits_of_base_le (by decide) (Nat.le_of_not_lt hn),
        List.head?_append_of_ne_nil _ Nat.toDigits_ne_nil]
      exact ih (n / 10) (by omega) (by omega)

theorem digitsValue_eq (ds : List Char) : digitsValue ds = Nat.ofDigitChars 10 ds 0 :=
  Text.ofDigits_eq ds

/-- The digits are those up to the end. -/
theorem span_toDigits (n : Nat) {rest : List Char} (hrest : Ends rest) :
    (Nat.toDigits 10 n ++ rest).takeWhile Char.isDigit = Nat.toDigits 10 n ∧
      (Nat.toDigits 10 n ++ rest).dropWhile Char.isDigit = rest := by
  have hd := List.all_eq_true.1 (Text.all_isDigit_toDigits n)
  have hnot : ∀ c ∈ rest.head?, c.isDigit = false := by
    intro c hc
    rcases hrest c hc with rfl | rfl | rfl <;> rfl
  rw [List.takeWhile_append_of_pos hd, List.dropWhile_append_of_pos hd]
  cases rest with
  | nil => exact ⟨List.append_nil _, rfl⟩
  | cons c rest =>
    have hc : ¬ c.isDigit = true := Bool.eq_false_iff.1 (hnot c rfl)
    rw [List.takeWhile_cons_of_neg hc, List.dropWhile_cons_of_neg hc, List.append_nil]
    exact ⟨rfl, rfl⟩

theorem ofInteger_toDigits {n : Nat} (h : n < UInt64.size) :
    ofInteger false (digitsValue (Nat.toDigits 10 n)) = .int n := by
  rw [digitsValue_eq, Nat.ofDigitChars_ten_toDigits, ofInteger, if_neg nofun, if_pos h]

/-- The digits of a number do not begin with a sign, and with a zero only if that is all. -/
theorem toDigits_leading (n : Nat) : (∃ d ds, Nat.toDigits 10 n = d :: ds ∧ d.isDigit = true) ∧
    ((Nat.toDigits 10 n).length = 1 || (Nat.toDigits 10 n).head? != some '0') = true := by
  constructor
  · obtain ⟨d, ds, h⟩ := List.exists_cons_of_ne_nil (Nat.toDigits_ne_nil (b := 10) (n := n))
    refine ⟨d, ds, h, List.all_eq_true.1 (Text.all_isDigit_toDigits n) d ?_⟩
    rw [h]
    exact List.mem_cons_self
  · by_cases hn : n = 0
    · rw [hn]
      rfl
    · rw [Bool.or_eq_true, bne_iff_ne]
      exact .inr (head?_toDigits hn)

/-- A number is read up to the end of its digits. -/
theorem number?_toDigits {n : Nat} (h : n < UInt64.size) {rest : List Char} (hrest : Ends rest) :
    number? (Nat.toDigits 10 n ++ rest) = some (.int n, rest) := by
  obtain ⟨htake, hdrop⟩ := span_toDigits n hrest
  have hvalue := ofInteger_toDigits h
  obtain ⟨⟨d, ds, hcons, hd⟩, hzero⟩ := toDigits_leading n
  have hne : (Nat.toDigits 10 n).isEmpty = false := by rw [hcons]; rfl
  unfold number?
  split
  · rename_i e
    split at e
    · rename_i e'
      rw [hcons] at e'
      cases e'
      cases hd
    · cases e
      rw [htake, hdrop]
      dsimp only
      rw [hne, hzero]
      -- What ends the number is no point and no exponent.
      cases rest with
      | nil => exact congrArg (fun j => some (j, [])) hvalue
      | cons c rest =>
        rcases hrest c rfl with rfl | rfl | rfl
        all_goals exact congrArg (fun j => some (j, _)) hvalue

theorem isSpace_of_isDigit {d : Char} (h : d.isDigit = true) : isSpace d = false := by
  by_contra hspace
  simp only [Bool.not_eq_false, isSpace, Bool.or_eq_true, beq_iff_eq] at hspace
  rcases hspace with ((rfl | rfl) | rfl) | rfl <;> cases h

/-- No other value begins with a digit. -/
theorem value?_of_isDigit {d : Char} (h : d.isDigit = true) (fuel : Nat) (cs : List Char) :
    value? (fuel + 1) (d :: cs) = number? (d :: cs) := by
  rw [value?, skipSpace_of_not (isSpace_of_isDigit h)]
  split
  case h_7 => rfl
  all_goals
    rename_i e
    cases e
    cases h

theorem readsBack_nat {n : Nat} (h : n < UInt64.size) : ReadsBack (.nat n) := by
  obtain ⟨⟨d, ds, hcons, hd⟩, -⟩ := toDigits_leading n
  refine ⟨Nat.toDigits 10 n, fun out => ?_, ⟨d, by rw [hcons]; rfl, isSpace_of_isDigit hd, ?_⟩, ?_⟩
  · change (out ++ toString n).toList = _
    simp
  · rintro rfl
    cases hd
  · intro fuel rest hfuel hrest
    rw [hcons, List.length_cons] at hfuel
    obtain ⟨fuel, rfl⟩ := Nat.exists_eq_add_one_of_ne_zero (n := fuel) (by omega)
    rw [hcons, List.cons_append, value?_of_isDigit hd, ← List.cons_append, ← hcons,
      number?_toDigits h hrest]
    rfl

/-! ## Lists -/

/-- The items of a list up to the closing bracket. -/
theorem exists_text_items {j : Json} {js : List Json} (h : ∀ x ∈ j :: js, ReadsBack x) :
    ∃ cs, (∀ out, (Writer.items (Writer.value out j) js).toList = out.toList ++ cs) ∧
      (∃ c, cs.head? = some c ∧ isSpace c = false ∧ c ≠ ']') ∧
      ∀ {fuel seen rest}, 2 * cs.length < fuel →
        items? fuel seen (cs ++ rest) = some (.arr (seen.reverse ++ j :: js), rest) := by
  induction js generalizing j with
  | nil =>
    obtain ⟨cs, hcs⟩ := h j List.mem_cons_self
    obtain ⟨c, hc, hspace⟩ := hcs.head
    refine ⟨cs ++ [']'], fun out => ?_, ⟨c, by rw [List.head?_append, hc]; rfl, hspace⟩, ?_⟩
    · rw [Writer.items, String.toList_push, hcs.written, List.append_assoc]
    · intro fuel seen rest hfuel
      rw [List.length_append] at hfuel
      obtain ⟨fuel, rfl⟩ := Nat.exists_eq_add_one_of_ne_zero (n := fuel) (by omega)
      have hread : value? fuel (cs ++ ']' :: rest) = some (j, ']' :: rest) :=
        hcs.read (by omega) (by rintro _ ⟨⟩; exact .inr (.inl rfl))
      rw [List.append_assoc, List.singleton_append, items?, hread]
      simp [skipSpace_of_not (c := ']') rfl]
  | cons j' js ih =>
    obtain ⟨cs, hcs⟩ := h j List.mem_cons_self
    obtain ⟨c, hc, hspace⟩ := hcs.head
    obtain ⟨cs', hwritten, -, hrest⟩ := ih fun x hx => h x (List.mem_cons_of_mem j hx)
    refine ⟨cs ++ ',' :: cs', fun out => ?_, ⟨c, by rw [List.head?_append, hc]; rfl, hspace⟩, ?_⟩
    · rw [Writer.items, hwritten, String.toList_push, hcs.written, List.append_assoc,
        List.append_assoc, List.singleton_append]
    · intro fuel seen rest hfuel
      rw [List.length_append, List.length_cons] at hfuel
      obtain ⟨fuel, rfl⟩ := Nat.exists_eq_add_one_of_ne_zero (n := fuel) (by omega)
      have hread : value? fuel (cs ++ ',' :: (cs' ++ rest)) = some (j, ',' :: (cs' ++ rest)) :=
        hcs.read (by omega) (by rintro _ ⟨⟩; exact .inl rfl)
      rw [List.append_assoc, List.cons_append, items?, hread]
      simp only [Option.bind_eq_bind, Option.bind_some, skipSpace_of_not (c := ',') rfl]
      rw [hrest (by omega), List.reverse_cons, List.append_assoc, List.singleton_append]

theorem readsBack_arr {items : List Json} (h : ∀ j ∈ items, ReadsBack j) :
    ReadsBack (.arr items) := by
  cases items with
  | nil =>
    refine ⟨['[', ']'], fun out => String.toList_append, ⟨'[', rfl, rfl, by decide⟩, ?_⟩
    intro fuel rest hfuel _
    obtain ⟨fuel, rfl⟩ := Nat.exists_eq_add_one_of_ne_zero (n := fuel) (by rintro rfl; cases hfuel)
    rfl
  | cons j js =>
    obtain ⟨cs, hwritten, ⟨c, hc, hspace, hclose⟩, hread⟩ := exists_text_items h
    obtain ⟨cs, rfl⟩ : ∃ cs', cs = c :: cs' := ⟨cs.tail, List.eq_cons_of_mem_head? hc⟩
    refine ⟨'[' :: c :: cs, fun out => ?_, ⟨'[', rfl, rfl, by decide⟩, ?_⟩
    · rw [Writer.value, hwritten, String.toList_push, List.append_assoc, List.singleton_append]
    · intro fuel rest hfuel _
      rw [List.length_cons] at hfuel
      obtain ⟨fuel, rfl⟩ := Nat.exists_eq_add_one_of_ne_zero (n := fuel) (by omega)
      rw [List.cons_append, List.cons_append, value?_bracket fuel hspace hclose]
      exact hread (by omega)

/-! ## Objects -/

theorem setField_of_notMem {name : String} {seen : List (String × Json)}
    (h : name ∉ seen.map (·.1)) (j : Json) : setField name j seen = seen ++ [(name, j)] := by
  induction seen with
  | nil => rfl
  | cons f seen ih =>
    rw [List.map_cons, List.mem_cons, not_or] at h
    rw [setField, beq_false_of_ne (Ne.symm h.1), if_neg nofun, ih h.2, List.cons_append]

theorem notMem_of_nodup {name : String} {j : Json} {seen fs : List (String × Json)}
    (hd : ((seen ++ (name, j) :: fs).map (·.1)).Nodup) : name ∉ seen.map (·.1) := by
  rw [List.map_append, List.map_cons, List.nodup_append] at hd
  exact fun hmem => hd.2.2 _ hmem _ List.mem_cons_self rfl

/-- A name and its value, from behind the opening quote of the name. -/
theorem fields?_field {name : String} {j : Json} {cs rest : List Char} (hj : IsTextOf cs j)
    (hrest : Ends rest) {fuel : Nat} {seen : List (String × Json)}
    (hfuel : 2 * (stringBody name ++ ':' :: cs).length ≤ fuel) (hname : name ∉ seen.map (·.1)) :
    fields? (fuel + 1) seen ('"' :: (stringBody name ++ ':' :: (cs ++ rest))) =
      (match skipSpace rest with
      | ',' :: rest => fields? fuel (seen ++ [(name, j)]) rest
      | '\x7d' :: rest => some (.obj (seen ++ [(name, j)]), rest)
      | _ => none) := by
  rw [List.length_append, List.length_cons] at hfuel
  have hread : value? fuel (cs ++ rest) = some (j, rest) := hj.read (by omega) hrest
  rw [fields?_quote, stringBody?_stringBody name (by omega), ← setField_of_notMem hname j]
  simp only [Option.bind_eq_bind, Option.bind_some, skipSpace_of_not (c := ':') rfl, hread]
  rfl

/-- The fields of an object up to the closing brace. -/
theorem exists_text_fields {name : String} {j : Json} {fs : List (String × Json)}
    (h : ∀ f ∈ (name, j) :: fs, ReadsBack f.2) :
    ∃ cs, (∀ out, (Writer.fields (Writer.value ((Writer.quoted out name).push ':') j) fs).toList =
        out.toList ++ '"' :: cs) ∧
      ∀ {fuel seen rest}, 2 * (cs.length + 1) < fuel →
        ((seen ++ (name, j) :: fs).map (·.1)).Nodup →
        fields? fuel seen ('"' :: (cs ++ rest)) = some (.obj (seen ++ (name, j) :: fs), rest) := by
  induction fs generalizing name j with
  | nil =>
    obtain ⟨cs, hcs⟩ := h _ List.mem_cons_self
    refine ⟨stringBody name ++ ':' :: (cs ++ ['\x7d']), fun out => ?_, ?_⟩
    · rw [Writer.fields, String.toList_push, hcs.written, String.toList_push, toList_quoted]
      simp
    · intro fuel seen rest hfuel hd
      rw [List.length_append, List.length_cons, List.length_append] at hfuel
      obtain ⟨fuel, rfl⟩ := Nat.exists_eq_add_one_of_ne_zero (n := fuel) (by omega)
      have hends : Ends ('\x7d' :: rest) := by
        rintro _ ⟨⟩
        exact .inr (.inr rfl)
      rw [List.append_assoc, List.cons_append, List.append_assoc, List.singleton_append,
        fields?_field hcs hends (by rw [List.length_append, List.length_cons]; omega)
          (notMem_of_nodup hd), skipSpace_of_not rfl]
      rfl
  | cons f fs ih =>
    obtain ⟨cs, hcs⟩ := h _ List.mem_cons_self
    obtain ⟨cs', hwritten, hrest⟩ := ih fun x hx => h x (List.mem_cons_of_mem _ hx)
    refine ⟨stringBody name ++ ':' :: (cs ++ ',' :: '"' :: cs'), fun out => ?_, ?_⟩
    · rw [Writer.fields, hwritten, String.toList_push, hcs.written, String.toList_push,
        toList_quoted]
      simp
    · intro fuel seen rest hfuel hd
      simp only [List.length_append, List.length_cons] at hfuel
      obtain ⟨fuel, rfl⟩ := Nat.exists_eq_add_one_of_ne_zero (n := fuel) (by omega)
      have hends : Ends (',' :: '"' :: (cs' ++ rest)) := by
        rintro _ ⟨⟩
        exact .inl rfl
      rw [List.append_assoc, List.cons_append, List.append_assoc, List.cons_append,
        List.cons_append, fields?_field hcs hends
          (by rw [List.length_append, List.length_cons]; omega) (notMem_of_nodup hd),
        skipSpace_of_not rfl]
      rw [List.append_cons] at hd
      have hlen : 2 * (cs'.length + 1) < fuel := by omega
      have hfields : fields? fuel (seen ++ [(name, j)]) ('"' :: (cs' ++ rest)) =
          some (.obj (seen ++ [(name, j)] ++ f :: fs), rest) := hrest hlen hd
      rw [← List.append_cons] at hfields
      exact hfields

theorem readsBack_obj {fs : List (String × Json)} (hd : (fs.map (·.1)).Nodup)
    (h : ∀ f ∈ fs, ReadsBack f.2) : ReadsBack (.obj fs) := by
  cases fs with
  | nil =>
    refine ⟨['\x7b', '\x7d'], fun out => String.toList_append, ⟨'\x7b', rfl, rfl, by decide⟩, ?_⟩
    intro fuel rest hfuel _
    obtain ⟨fuel, rfl⟩ := Nat.exists_eq_add_one_of_ne_zero (n := fuel) (by rintro rfl; cases hfuel)
    rfl
  | cons f fs =>
    obtain ⟨cs, hwritten, hread⟩ := exists_text_fields h
    refine ⟨'\x7b' :: '"' :: cs, fun out => ?_, ⟨'\x7b', rfl, rfl, by decide⟩, ?_⟩
    · rw [Writer.value, hwritten, String.toList_push, List.append_assoc, List.singleton_append]
    · intro fuel rest hfuel _
      rw [List.length_cons, List.length_cons] at hfuel
      obtain ⟨fuel, rfl⟩ := Nat.exists_eq_add_one_of_ne_zero (n := fuel) (by omega)
      rw [List.cons_append, List.cons_append, value?_brace]
      exact hread (by omega) hd

/-- **The text written for a value is the text of that value.** -/
theorem parse?_render {j : Json} (h : ReadsBack j) : parse? j.render = some j := by
  obtain ⟨cs, hcs⟩ := h
  have htext : j.render.toList = cs := hcs.written ""
  have hread : value? (2 * cs.length + 4) (cs ++ []) = some (j, []) := hcs.read (by omega) nofun
  rw [List.append_nil] at hread
  rw [parse?, htext, hread]
  rfl

end OpcUa.Json
