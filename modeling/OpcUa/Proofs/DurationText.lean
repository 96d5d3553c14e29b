import Mathlib.Data.Nat.Basic
import OpcUa.Proofs.TextForms
import OpcUa.Time.Spelling

/-!
# Spelled durations read back

A duration is spelled as a sum of parts, and the sum that is read has the same number of
nanoseconds. No intermediate sum is too large, because the total is that of a duration.

* `Duration.Spells`: texts of parts and the nanoseconds they add up to.
* `Duration.sum?_of_spells`: such texts, put together with blanks, are read as their sum.
* `Duration.spells_parts`: the parts of a duration add up to it.
* `Duration.ofSpelling?_spell`: every duration is read back from its text.
-/

namespace OpcUa.Duration

theorem wrapNanos_toNanos (d : Duration) : wrapNanos d.toNanos = d := by
  obtain ⟨secs, nanos, h⟩ := d
  have hsecs : (secs.toNat * perSecond + nanos) / perSecond = secs.toNat := by
    unfold perSecond
    omega
  have hnanos : (secs.toNat * perSecond + nanos) % perSecond = nanos := by
    unfold perSecond
    omega
  simp only [wrapNanos, toNanos, hsecs, hnanos, UInt64.ofNat_toNat]

theorem toNanos_lt (d : Duration) : d.toNanos < UInt64.size * perSecond := by
  have hsecs : d.secs.toNat < UInt64.size := d.secs.toNat_lt
  have hnanos := d.nanos_lt
  unfold toNanos perSecond
  omega

theorem ofNanos?_toNanos (d : Duration) : ofNanos? d.toNanos = some d := by
  rw [ofNanos?, if_pos d.toNanos_lt, wrapNanos_toNanos]

/-! ## Units -/

deriving instance DecidableEq for TimeUnit

/-- A unit is found by each of its names. -/
theorem timeUnit?_of_mem : ∀ u ∈ timeUnits, ∀ name ∈ u.names, timeUnit? name = some u := by decide

/-- Names are neither blank nor do they have digits or points. -/
theorem name_chars : ∀ u ∈ timeUnits, ∀ name ∈ u.names, name.toList ≠ [] ∧
    ∀ c ∈ name.toList, isNameChar c = true ∧ c ≠ '.' := by
  have h : ∀ u ∈ timeUnits, ∀ name ∈ u.names, name.toList ≠ [] ∧
      name.toList.all (fun c => isNameChar c && c != '.') = true := by decide
  intro u hu name hname
  obtain ⟨hne, hall⟩ := h u hu name hname
  refine ⟨hne, fun c hc => ?_⟩
  obtain ⟨hchar, hpoint⟩ := Bool.and_eq_true_iff.1 (List.all_eq_true.1 hall c hc)
  exact ⟨hchar, bne_iff_ne.1 hpoint⟩

/-- A quantum is a nanosecond or a second, and divides the unit. -/
theorem quantum_cases : ∀ u ∈ timeUnits, (u.quantum = 1 ∨ u.quantum = perSecond) ∧
    0 < u.nanos / u.quantum ∧ u.nanos / u.quantum * u.quantum = u.nanos := by decide

/-! ## Reading one part -/

theorem spacedDigits_digits {ds : List Char} (hd : ∀ d ∈ ds, d.isDigit = true) {c : Char}
    (hc : isNameChar c = true) (rest : List Char) :
    spacedDigits (ds ++ c :: rest) = (ds, c :: rest) := by
  rw [isNameChar, Bool.not_eq_true', Bool.or_eq_false_iff] at hc
  induction ds with
  | nil => rw [List.nil_append, spacedDigits, hc.1, hc.2, if_neg nofun, if_neg nofun]
  | cons d ds ih =>
    rw [List.cons_append, spacedDigits, hd d List.mem_cons_self, if_pos rfl,
      ih fun d hd' => hd d (List.mem_cons_of_mem _ hd')]

/-- A number without a point. -/
theorem amount?_toDigits (n : Nat) {c : Char} (hc : isNameChar c = true) (hpoint : c ≠ '.')
    (rest : List Char) :
    amount? (Nat.toDigits 10 n ++ c :: rest) = some (Nat.toDigits 10 n, [], c :: rest) := by
  have hne : (Nat.toDigits 10 n).isEmpty = false := by
    rw [List.isEmpty_eq_false_iff]
    exact Nat.toDigits_ne_nil
  rw [amount?, spacedDigits_digits (List.all_eq_true.1 (Text.all_isDigit_toDigits n)) hc]
  dsimp only
  rw [hne, if_neg nofun]
  split
  · rename_i e
    exact absurd (List.cons.inj e).1 hpoint
  · rfl

/-- The nanoseconds of a number of units, of which there are not too many. -/
theorem wholeNanos?_toDigits {u : TimeUnit} (hu : u ∈ timeUnits) {n : Nat}
    (h : n * u.nanos < UInt64.size * perSecond)
    (hsub : u.quantum ≠ perSecond → n * u.nanos < perSecond) :
    wholeNanos? u (Nat.toDigits 10 n) = some (n * u.nanos) := by
  obtain ⟨hq, hpos, hmul⟩ := quantum_cases u hu
  have hquanta : n * (u.nanos / u.quantum) < UInt64.size := by
    rcases hq with hq | hq
    · have hlt := hsub (by rw [hq]; decide)
      rw [hq, Nat.div_one]
      exact Nat.lt_trans hlt (by decide)
    · rw [← hmul, ← Nat.mul_assoc, hq] at h
      rw [hq]
      exact Nat.lt_of_mul_lt_mul_right h
  have hn : n < UInt64.size := Nat.lt_of_le_of_lt (Nat.le_mul_of_pos_right n hpos) hquanta
  rw [wholeNanos?, Text.ofDigits_eq, Nat.ofDigitChars_ten_toDigits, word?, if_pos hn]
  change ((word? (n * (u.nanos / u.quantum))).bind fun q => some (q * u.quantum)) = _
  rw [word?, if_pos hquanta, Option.bind_some, Nat.mul_assoc, hmul]

theorem add?_eq_some {u : TimeUnit} {total amount : Nat}
    (h : total + amount < UInt64.size * perSecond)
    (hsub : u.quantum ≠ perSecond → amount < perSecond) :
    add? u total amount = some (total + amount) := by
  have hword : (if u.quantum = perSecond then 0 else total % perSecond + amount) < UInt64.size := by
    split
    · decide
    · rename_i hq
      have hamount := hsub hq
      have hrest : total % perSecond < perSecond := Nat.mod_lt _ (by decide)
      have hbound : perSecond + perSecond < UInt64.size := by decide
      omega
  rw [add?, word?, if_pos hword, if_pos h]
  rfl

/-- The text of a number of units, and its nanoseconds: less than a second of a unit that is no
whole number of seconds. -/
def IsPart (text : String) (amount : Nat) : Prop :=
  ∃ u ∈ timeUnits, ∃ name ∈ u.names, ∃ n, text = toString n ++ name ∧ amount = n * u.nanos ∧
    (u.quantum ≠ perSecond → amount < perSecond)

/-- A part is read up to the blank behind it. -/
theorem sum?_part {text : String} {amount : Nat} (h : IsPart text amount) {rest : List Char}
    (hrest : ∀ c ∈ rest.head?, isNameChar c = false) {total : Nat}
    (hbound : total + amount < UInt64.size * perSecond) (fuel : Nat) :
    sum? (fuel + 1) total (text.toList ++ rest) =
      if (rest.dropWhile Text.isBlank).isEmpty then some (total + amount)
      else sum? fuel (total + amount) (rest.dropWhile Text.isBlank) := by
  obtain ⟨u, hu, name, hname, n, rfl, rfl, hsub⟩ := h
  obtain ⟨hne, hchars⟩ := name_chars u hu name hname
  have htext : (toString n ++ name).toList = Nat.toDigits 10 n ++ name.toList := by simp
  have hamount : amount? ((toString n ++ name).toList ++ rest) =
      some (Nat.toDigits 10 n, [], name.toList ++ rest) := by
    rw [htext, List.append_assoc]
    obtain ⟨c, cs, hcons⟩ := List.exists_cons_of_ne_nil hne
    have hc := hchars c (hcons ▸ List.mem_cons_self)
    rw [hcons]
    exact amount?_toDigits n hc.1 hc.2 _
  have hnot : ∀ c cs, rest = c :: cs → ¬ isNameChar c = true := by
    rintro c cs rfl
    rw [hrest c rfl]
    nofun
  have htake : (name.toList ++ rest).takeWhile isNameChar = name.toList := by
    rw [List.takeWhile_append_of_pos fun c hc => (hchars c hc).1]
    cases rest with
    | nil => exact List.append_nil _
    | cons c cs => rw [List.takeWhile_cons_of_neg (hnot c cs rfl), List.append_nil]
  have hdrop : (name.toList ++ rest).dropWhile isNameChar = rest := by
    rw [List.dropWhile_append_of_pos fun c hc => (hchars c hc).1]
    cases rest with
    | nil => rfl
    | cons c cs => exact List.dropWhile_cons_of_neg (hnot c cs rfl)
  have hwhole := wholeNanos?_toDigits hu (n := n) (by omega) hsub
  have hfraction : fractionNanos? u [] = some 0 := rfl
  have hadd := add?_eq_some (u := u) hbound hsub
  have hadd' : add? u (total + n * u.nanos) 0 = some (total + n * u.nanos) :=
    add?_eq_some hbound fun _ => by decide
  rw [sum?, hamount]
  simp only [Option.bind_eq_bind, Option.bind_some, htake, String.ofList_toList,
    timeUnit?_of_mem u hu name hname, hwhole, hfraction, hadd, hadd', hdrop]
  rfl

/-! ## Sums -/

/-- Texts of parts, and the nanoseconds they add up to. -/
inductive Spells : List String → Nat → Prop where
  | nil : Spells [] 0
  | cons {text : String} {amount : Nat} {texts : List String} {n : Nat} :
    IsPart text amount → Spells texts n → Spells (text :: texts) (amount + n)

theorem Spells.append {as bs : List String} {n m : Nat} (ha : Spells as n) (hb : Spells bs m) :
    Spells (as ++ bs) (n + m) := by
  induction ha with
  | nil => rwa [List.nil_append, Nat.zero_add]
  | cons hpart _ ih =>
    rw [List.cons_append, Nat.add_assoc]
    exact .cons hpart ih

/-- Every part begins with a digit. -/
theorem IsPart.dropWhile_isBlank {text : String} {amount : Nat} (h : IsPart text amount)
    (rest : List Char) : (text.toList ++ rest).dropWhile Text.isBlank = text.toList ++ rest ∧
      (text.toList ++ rest).isEmpty = false := by
  obtain ⟨u, hu, name, hname, n, rfl, -, -⟩ := h
  have htext : (toString n ++ name).toList = Nat.toDigits 10 n ++ name.toList := by simp
  obtain ⟨d, ds, hcons⟩ := List.exists_cons_of_ne_nil (Nat.toDigits_ne_nil (b := 10) (n := n))
  have hd : d.isDigit = true := by
    refine List.all_eq_true.1 (Text.all_isDigit_toDigits n) d ?_
    rw [hcons]
    exact List.mem_cons_self
  rw [htext, hcons]
  exact ⟨List.dropWhile_cons_of_neg (by rw [Text.isBlank_of_isDigit hd]; nofun), rfl⟩

/-- Texts put together begin with the first one. -/
theorem exists_intercalate (text : List Char) (texts : List (List Char)) :
    ∃ rest, [' '].intercalate (text :: texts) = text ++ rest := by
  cases texts with
  | nil => exact ⟨[], by rw [List.intercalate_singleton, List.append_nil]⟩
  | cons text' texts => exact ⟨_, by rw [List.intercalate_cons_cons, List.append_assoc]⟩

/-- **Parts with blanks between them are read as their sum.** -/
theorem sum?_of_spells {texts : List String} {n : Nat} (h : Spells texts n) (hne : texts ≠ [])
    {total fuel : Nat} (hbound : total + n < UInt64.size * perSecond)
    (hfuel : texts.length ≤ fuel) :
    sum? fuel total (String.intercalate " " texts).toList = some (total + n) := by
  rw [String.toList_intercalate]
  induction h generalizing total fuel with
  | nil => exact absurd rfl hne
  | @cons text amount texts n hpart hrest ih =>
    obtain ⟨fuel, rfl⟩ := Nat.exists_eq_add_one_of_ne_zero (n := fuel) (by
      rintro rfl
      cases hfuel)
    cases hrest with
    | nil =>
      have hread : sum? (fuel + 1) total (text.toList ++ []) = some (total + amount) :=
        sum?_part hpart (by rintro _ ⟨⟩) hbound fuel
      rw [List.append_nil] at hread
      rw [List.map_singleton, List.intercalate_singleton]
      exact hread
    | @cons text' amount' texts n hpart' hrest =>
      have hbound' : total + amount + (amount' + n) < UInt64.size * perSecond := by omega
      have hnext := ih nofun hbound' (Nat.le_of_succ_le_succ hfuel)
      obtain ⟨more, hmore⟩ := exists_intercalate text'.toList (texts.map String.toList)
      obtain ⟨hdrop, hempty⟩ := hpart'.dropWhile_isBlank more
      rw [← hmore] at hdrop hempty
      rw [List.map_cons, List.map_cons, List.intercalate_cons_cons, List.append_assoc,
        sum?_part hpart (by rintro _ ⟨⟩; rfl) (by omega)]
      change (if (List.dropWhile Text.isBlank ([' '].intercalate _)).isEmpty then _ else
        sum? fuel _ (List.dropWhile Text.isBlank ([' '].intercalate _))) = _
      rw [hdrop, hempty, if_neg nofun, ← Nat.add_assoc]
      exact hnext

/-- There is a blank between any two parts. -/
theorem length_le_intercalate (text : List Char) (texts : List (List Char)) :
    texts.length ≤ ([' '].intercalate (text :: texts)).length := by
  induction texts generalizing text with
  | nil => exact Nat.zero_le _
  | cons text' texts ih =>
    have hle := ih text'
    rw [List.intercalate_cons_cons, List.length_append, List.length_append, List.length_singleton,
      List.length_cons]
    omega

/-! ## Parts of a duration -/

theorem spells_spellPart {u : TimeUnit} (hu : u ∈ timeUnits) {name : String} {plural : Bool}
    (hname : name ∈ u.names) (hplural : plural = true → name ++ "s" ∈ u.names) {n : Nat}
    (hsub : u.quantum ≠ perSecond → n * u.nanos < perSecond) :
    Spells (spellPart n name plural) (n * u.nanos) := by
  unfold spellPart
  split
  · rename_i hn
    rw [hn, Nat.zero_mul]
    exact .nil
  · refine .cons ?_ .nil
    split
    · rename_i h
      rw [Bool.and_eq_true] at h
      exact ⟨u, hu, name ++ "s", hplural h.1, n, String.append_assoc, rfl, hsub⟩
    · exact ⟨u, hu, name, hname, n, String.append_empty, rfl, hsub⟩

theorem spells_parts (d : Duration) : Spells d.parts d.toNanos := by
  have years (n : Nat) : Spells (spellPart n "year" true) (n * (31557600 * perSecond)) :=
    spells_spellPart (timeUnits.get_mem ⟨9, by decide⟩) (by decide) (by decide) nofun
  have months (n : Nat) : Spells (spellPart n "month" true) (n * (2630016 * perSecond)) :=
    spells_spellPart (timeUnits.get_mem ⟨8, by decide⟩) (by decide) (by decide) nofun
  have days (n : Nat) : Spells (spellPart n "day" true) (n * (86400 * perSecond)) :=
    spells_spellPart (timeUnits.get_mem ⟨6, by decide⟩) (by decide) (by decide) nofun
  have hours (n : Nat) : Spells (spellPart n "h" false) (n * (3600 * perSecond)) :=
    spells_spellPart (timeUnits.get_mem ⟨5, by decide⟩) (by decide) (by decide) nofun
  have minutes (n : Nat) : Spells (spellPart n "m" false) (n * (60 * perSecond)) :=
    spells_spellPart (timeUnits.get_mem ⟨4, by decide⟩) (by decide) (by decide) nofun
  have seconds (n : Nat) : Spells (spellPart n "s" false) (n * perSecond) :=
    spells_spellPart (timeUnits.get_mem ⟨3, by decide⟩) (by decide) (by decide) nofun
  have millis {n : Nat} (h : n * 1000000 < perSecond) :
      Spells (spellPart n "ms" false) (n * 1000000) :=
    spells_spellPart (timeUnits.get_mem ⟨2, by decide⟩) (by decide) (by decide) fun _ => h
  have micros {n : Nat} (h : n * 1000 < perSecond) : Spells (spellPart n "us" false) (n * 1000) :=
    spells_spellPart (timeUnits.get_mem ⟨1, by decide⟩) (by decide) (by decide) fun _ => h
  have nanos {n : Nat} (h : n * 1 < perSecond) : Spells (spellPart n "ns" false) (n * 1) :=
    spells_spellPart (timeUnits.get_mem ⟨0, by decide⟩) (by decide) (by decide) fun _ => h
  have hlt := d.nanos_lt
  unfold perSecond at millis micros nanos
  have hsum : Spells d.parts _ := ((((((((years _).append (months _)).append (days _)).append
    (hours _)).append (minutes _)).append (seconds _)).append (millis (by omega))).append
    (micros (by omega))).append (nanos (by omega))
  convert hsum using 1
  unfold toNanos perSecond
  omega

/-- What is spelled is at least one part. -/
theorem exists_spell (d : Duration) :
    ∃ texts, texts ≠ [] ∧ d.spell = String.intercalate " " texts ∧ Spells texts d.toNanos := by
  have hparts := spells_parts d
  unfold spell
  split
  · rename_i h
    have hzero : IsPart "0s" 0 :=
      ⟨_, timeUnits.get_mem ⟨3, by decide⟩, "s", by decide, 0, rfl, rfl, nofun⟩
    rw [isZero, beq_iff_eq] at h
    rw [h]
    exact ⟨["0s"], nofun, rfl, .cons hzero .nil⟩
  · rename_i h
    refine ⟨d.parts, fun hnil => h ?_, rfl, hparts⟩
    rw [hnil] at hparts
    have hsum : d.toNanos = 0 := by
      generalize d.toNanos = n at hparts
      cases hparts
      rfl
    rw [isZero, hsum]
    rfl

/-- **Every duration is read back from its text.** -/
theorem ofSpelling?_spell (d : Duration) : ofSpelling? d.spell = some d := by
  obtain ⟨texts, hne, hspell, hspells⟩ := exists_spell d
  have hfuel : texts.length ≤ d.spell.length + 1 := by
    obtain ⟨text, texts, rfl⟩ := List.exists_cons_of_ne_nil hne
    have hle := length_le_intercalate text.toList (texts.map String.toList)
    rw [hspell, ← String.length_toList, String.toList_intercalate]
    rw [List.length_map] at hle
    exact Nat.succ_le_succ hle
  have hsum : sum? (d.spell.length + 1) 0 d.spell.toList = some (0 + d.toNanos) := by
    have hbound := d.toNanos_lt
    rw [hspell] at hfuel ⊢
    exact sum?_of_spells hspells hne (by omega) hfuel
  have hbare : d.spell ≠ "0" := by
    have hnone : sum? ("0".length + 1) 0 "0".toList = none := by decide
    intro h
    rw [h, hnone] at hsum
    cases hsum
  rw [ofSpelling?, if_neg hbare, hsum, Option.bind_some, Nat.zero_add]
  exact ofNanos?_toNanos d

end OpcUa.Duration
