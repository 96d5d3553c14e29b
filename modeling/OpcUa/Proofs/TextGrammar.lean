import Mathlib.Data.Nat.Digits.Lemmas
import OpcUa.Proofs.TextForms

/-!
# What the readers accept

The readers of `Proofs.TextForms` accept some texts that are never written: leading zeros and a plus
sign, digits of either case, GUIDs in braces. This file says which texts they accept, and what these
stand for, without the readers.

* `Text.IsNumeral`, `Text.IsHexNumeral`: numbers in decimal and in hexadecimal digits.
* `Guid.IsText`: the forms of a GUID.
* `Text.Base64.decode?_eq_some_iff`: byte strings have one text each.
* `Text.Strips`: a text without the blanks around it.
-/

namespace OpcUa

namespace Text

/-! ## Numbers -/

/-- ASCII digits, at least one, after an optional plus sign. -/
def IsNumeral (cs : List Char) (n : Nat) : Prop :=
  ∃ ds, (cs = ds ∨ cs = '+' :: ds) ∧ ds ≠ [] ∧ (∀ d ∈ ds, d.isDigit = true) ∧
    n = Nat.ofDigitChars 10 ds 0

theorem unsigned?_of_plus {ds : List Char} (hne : ds ≠ []) (hd : ds.all Char.isDigit = true) :
    unsigned? ('+' :: ds) = some (ofDigits ds) :=
  if_pos ⟨hne, hd⟩

theorem unsigned?_eq_some_iff {cs : List Char} {n : Nat} :
    unsigned? cs = some n ↔ IsNumeral cs n := by
  constructor
  · intro h
    -- Only a plus sign is taken off.
    have hread {ds : List Char} (hcs : cs = ds ∨ cs = '+' :: ds)
        (h : (if ds ≠ [] ∧ ds.all Char.isDigit then some (ofDigits ds) else none) = some n) :
        IsNumeral cs n := by
      split at h
      · rename_i hds
        cases h
        exact ⟨ds, hcs, hds.1, List.all_eq_true.1 hds.2, ofDigits_eq ds⟩
      · cases h
    unfold unsigned? at h
    dsimp only at h
    split at h
    · exact hread (.inr rfl) h
    · exact hread (.inl rfl) h
  · rintro ⟨ds, rfl | rfl, hne, hd, rfl⟩
    · rw [unsigned?_of_digits hne (List.all_eq_true.2 hd), ofDigits_eq]
    · rw [unsigned?_of_plus hne (List.all_eq_true.2 hd), ofDigits_eq]

theorem unsignedBelow?_eq_some_iff {bound n : Nat} {cs : List Char} :
    unsignedBelow? bound cs = some n ↔ IsNumeral cs n ∧ n < bound := by
  rw [unsignedBelow?, Option.filter_eq_some_iff, unsigned?_eq_some_iff, decide_eq_true_iff]

/-- A numeral has no semicolon. -/
theorem IsNumeral.semicolon_not_mem {cs : List Char} {n : Nat} (h : IsNumeral cs n) : ';' ∉ cs := by
  obtain ⟨ds, hcs, -, hd, -⟩ := h
  have hds : ';' ∉ ds := fun hmem => by simpa using hd _ hmem
  rcases hcs with rfl | rfl
  · exact hds
  · simpa using hds

/-! ## Hexadecimal digits -/

/-- Hexadecimal digits of either case. -/
def IsHexNumeral (cs : List Char) (n : Nat) : Prop :=
  ∃ ds : List Nat, cs.map hexValue? = ds.map some ∧ n = Nat.ofDigits 16 ds.reverse

theorem foldlM_hexValue?_eq_some_iff {cs : List Char} {a n : Nat} :
    cs.foldlM (fun n c => (hexValue? c).map (n * 16 + ·)) a = some n ↔
      ∃ ds : List Nat, cs.map hexValue? = ds.map some ∧
        n = ds.foldl (fun n d => n * 16 + d) a := by
  induction cs generalizing a with
  | nil =>
    constructor
    · rintro ⟨⟩
      exact ⟨[], rfl, rfl⟩
    · rintro ⟨ds, hds, rfl⟩
      obtain rfl : ds = [] := by simpa using hds.symm
      rfl
  | cons c cs ih =>
    rw [List.foldlM_cons]
    constructor
    · intro h
      obtain ⟨b, hb, h⟩ := Option.bind_eq_some_iff.1 h
      obtain ⟨d, hd, rfl⟩ := Option.map_eq_some_iff.1 hb
      obtain ⟨ds, hds, rfl⟩ := ih.1 h
      exact ⟨d :: ds, by rw [List.map_cons, List.map_cons, hd, hds], rfl⟩
    · rintro ⟨ds, hds, rfl⟩
      cases ds with
      | nil => cases hds
      | cons d ds =>
        obtain ⟨hd, hds⟩ := List.cons.inj hds
        rw [hd]
        exact ih.2 ⟨ds, hds, rfl⟩

theorem ofHexDigits?_eq_some_iff {cs : List Char} {n : Nat} :
    ofHexDigits? cs = some n ↔ IsHexNumeral cs n := by
  refine foldlM_hexValue?_eq_some_iff.trans (exists_congr fun ds => and_congr_right fun _ => ?_)
  have hvalue : ds.foldl (fun n d => n * 16 + d) 0 = Nat.ofDigits 16 ds.reverse := by
    rw [Nat.ofDigits_eq_foldr, List.foldr_reverse]
    exact congrArg (List.foldl · 0 ds) (funext₂ fun n d => by simp [Nat.add_comm, Nat.mul_comm])
  rw [hvalue]

theorem hexValue?_lt {c : Char} {d : Nat} (h : hexValue? c = some d) : d < 16 := by
  unfold hexValue? at h
  split at h
  · rename_i hc
    have hle : c.toNat ≤ '9'.toNat := hc.2
    cases h
    exact Nat.lt_of_le_of_lt (Nat.sub_le_sub_right hle _) (by decide)
  · split at h
    · rename_i hc
      have hle : c.toNat ≤ 'f'.toNat := hc.2
      cases h
      exact Nat.lt_of_le_of_lt (Nat.add_le_add_right (Nat.sub_le_sub_right hle _) 10) (by decide)
    · split at h
      · rename_i hc
        have hle : c.toNat ≤ 'F'.toNat := hc.2
        cases h
        exact Nat.lt_of_le_of_lt (Nat.add_le_add_right (Nat.sub_le_sub_right hle _) 10) (by decide)
      · cases h

theorem IsHexNumeral.lt {cs : List Char} {n : Nat} (h : IsHexNumeral cs n) :
    n < 16 ^ cs.length := by
  obtain ⟨ds, hds, rfl⟩ := h
  have hlen : cs.length = ds.reverse.length := by
    rw [List.length_reverse, ← List.length_map (hexValue? ·), hds, List.length_map]
  rw [hlen]
  refine Nat.ofDigits_lt_base_pow_length (by decide) fun d hd => ?_
  have hsome : some d ∈ cs.map hexValue? := by
    rw [hds]
    exact List.mem_map_of_mem (List.mem_reverse.1 hd)
  obtain ⟨c, -, hc⟩ := List.mem_map.1 hsome
  exact hexValue?_lt hc

/-! ## Base64 -/

namespace Base64

theorem ofNat_of_eq {c : Char} {n : Nat} (h : n = c.toNat) : Char.ofNat n = c := by
  rw [h, Char.ofNat_toNat]

theorem digit_of_value? {c : Char} {v : Nat} (h : value? c = some v) : v < 64 ∧ digit v = c := by
  have hA : 'A'.toNat = 65 := rfl
  have ha : 'a'.toNat = 97 := rfl
  have h0 : '0'.toNat = 48 := rfl
  unfold value? at h
  unfold digit
  split at h
  · rename_i hc
    have hge : 65 ≤ c.toNat := hc.1
    have hle : c.toNat ≤ 90 := hc.2
    cases h
    rw [if_pos (by omega)]
    exact ⟨by omega, ofNat_of_eq (by omega)⟩
  split at h
  · rename_i hc
    have hge : 97 ≤ c.toNat := hc.1
    have hle : c.toNat ≤ 122 := hc.2
    cases h
    rw [if_neg (by omega), if_pos (by omega)]
    exact ⟨by omega, ofNat_of_eq (by omega)⟩
  split at h
  · rename_i hc
    have hge : 48 ≤ c.toNat := hc.1
    have hle : c.toNat ≤ 57 := hc.2
    cases h
    rw [if_neg (by omega), if_neg (by omega), if_pos (by omega)]
    exact ⟨by omega, ofNat_of_eq (by omega)⟩
  split at h
  · rename_i hc
    cases h
    exact ⟨by decide, hc.symm⟩
  split at h
  · rename_i hc
    cases h
    exact ⟨by decide, hc.symm⟩
  · cases h

theorem toNat_ofNat {n : Nat} (h : n < 256) : (UInt8.ofNat n).toNat = n :=
  UInt8.toNat_ofNat_of_lt' h

/-- Only what is written is read: the text of a byte string is unique. -/
theorem encode_of_decode? {cs : List Char} {bytes : List UInt8} (h : decode? cs = some bytes) :
    encode bytes = cs := by
  fun_induction decode? cs generalizing bytes with
  | case1 =>
    cases h
    rfl
  | case2 c₁ c₂ =>
    obtain ⟨a, ha, h⟩ := Option.bind_eq_some_iff.1 h
    obtain ⟨b, hb, h⟩ := Option.bind_eq_some_iff.1 h
    split at h
    · rename_i hunused
      cases h
      obtain ⟨ha', rfl⟩ := digit_of_value? ha
      obtain ⟨hb', rfl⟩ := digit_of_value? hb
      have hbyte : (UInt8.ofNat (a * 4 + b / 16)).toNat = a * 4 + b / 16 :=
        toNat_ofNat (by omega)
      have h₁ : (a * 4 + b / 16) / 4 = a := by omega
      have h₂ : (a * 4 + b / 16) % 4 * 16 = b := by omega
      simp only [encode, hbyte, h₁, h₂]
    · cases h
  | case3 c₁ c₂ c₃ =>
    obtain ⟨a, ha, h⟩ := Option.bind_eq_some_iff.1 h
    obtain ⟨b, hb, h⟩ := Option.bind_eq_some_iff.1 h
    obtain ⟨c, hc, h⟩ := Option.bind_eq_some_iff.1 h
    split at h
    · rename_i hunused
      cases h
      obtain ⟨ha', rfl⟩ := digit_of_value? ha
      obtain ⟨hb', rfl⟩ := digit_of_value? hb
      obtain ⟨hc', rfl⟩ := digit_of_value? hc
      have hbyte : (UInt8.ofNat (a * 4 + b / 16)).toNat = a * 4 + b / 16 :=
        toNat_ofNat (by omega)
      have hbyte' : (UInt8.ofNat (b % 16 * 16 + c / 4)).toNat = b % 16 * 16 + c / 4 :=
        toNat_ofNat (by omega)
      have h₁ : (a * 4 + b / 16) / 4 = a := by omega
      have h₂ : (a * 4 + b / 16) % 4 * 16 + (b % 16 * 16 + c / 4) / 16 = b := by omega
      have h₃ : (b % 16 * 16 + c / 4) % 16 * 4 = c := by omega
      simp only [encode, hbyte, hbyte', h₁, h₂, h₃]
    · cases h
  | case4 c₁ c₂ c₃ c₄ rest _ _ ih =>
    obtain ⟨a, ha, h⟩ := Option.bind_eq_some_iff.1 h
    obtain ⟨b, hb, h⟩ := Option.bind_eq_some_iff.1 h
    obtain ⟨c, hc, h⟩ := Option.bind_eq_some_iff.1 h
    obtain ⟨d, hd, h⟩ := Option.bind_eq_some_iff.1 h
    obtain ⟨more, hmore, h⟩ := Option.bind_eq_some_iff.1 h
    cases h
    obtain ⟨ha', rfl⟩ := digit_of_value? ha
    obtain ⟨hb', rfl⟩ := digit_of_value? hb
    obtain ⟨hc', rfl⟩ := digit_of_value? hc
    obtain ⟨hd', rfl⟩ := digit_of_value? hd
    have hbyte : (UInt8.ofNat (a * 4 + b / 16)).toNat = a * 4 + b / 16 :=
      toNat_ofNat (by omega)
    have hbyte' : (UInt8.ofNat (b % 16 * 16 + c / 4)).toNat = b % 16 * 16 + c / 4 :=
      toNat_ofNat (by omega)
    have hbyte'' : (UInt8.ofNat (c % 4 * 64 + d)).toNat = c % 4 * 64 + d :=
      toNat_ofNat (by omega)
    have h₁ : (a * 4 + b / 16) / 4 = a := by omega
    have h₂ : (a * 4 + b / 16) % 4 * 16 + (b % 16 * 16 + c / 4) / 16 = b := by omega
    have h₃ : (b % 16 * 16 + c / 4) % 16 * 4 + (c % 4 * 64 + d) / 64 = c := by omega
    have h₄ : (c % 4 * 64 + d) % 64 = d := by omega
    simp only [encode, hbyte, hbyte', hbyte'', h₁, h₂, h₃, h₄, ih hmore]
  | case5 => cases h

theorem decode?_eq_some_iff {cs : List Char} {bytes : List UInt8} :
    decode? cs = some bytes ↔ cs = encode bytes :=
  ⟨fun h => (encode_of_decode? h).symm, fun h => h ▸ decode?_encode bytes⟩

end Base64

/-! ## Blanks -/

/-- `core` is what is left of the text without the blanks around it. -/
structure Strips (text core : List Char) : Prop where
  blanks : ∃ l r, text = l ++ core ++ r ∧ ∀ c ∈ l ++ r, isBlank c = true
  head : ∀ c ∈ core.head?, isBlank c = false
  last : ∀ c ∈ core.getLast?, isBlank c = false

theorem dropWhile_isBlank_of_head {cs : List Char} (h : ∀ c ∈ cs.head?, isBlank c = false) :
    cs.dropWhile isBlank = cs := by
  cases cs with
  | nil => rfl
  | cons c cs => exact List.dropWhile_cons_of_neg (by simp [h c rfl])

theorem Strips.eq {text core : List Char} (h : Strips text core) : core = trimChars text := by
  obtain ⟨l, r, rfl, hblank⟩ := h.blanks
  have hl : ∀ c ∈ l, isBlank c = true := fun c hc => hblank c (List.mem_append_left r hc)
  have hr : ∀ c ∈ r.reverse, isBlank c = true := fun c hc =>
    hblank c (List.mem_append_right l (List.mem_reverse.1 hc))
  have hlast : core.reverse.dropWhile isBlank = core.reverse :=
    dropWhile_isBlank_of_head fun c hc => h.last c (by rwa [List.head?_reverse] at hc)
  unfold trimChars
  rw [List.append_assoc, List.dropWhile_append_of_pos hl]
  cases hcore : core with
  | nil =>
    have hnil : r.dropWhile isBlank = [] :=
      List.dropWhile_eq_nil_iff.2 fun c hc => hr c (List.mem_reverse.2 hc)
    rw [List.nil_append, hnil]
    rfl
  | cons c cs =>
    have hdrop : (core ++ r).dropWhile isBlank = core ++ r :=
      dropWhile_isBlank_of_head fun x hx => h.head x (by rwa [hcore] at hx ⊢)
    rw [← hcore, hdrop, List.reverse_append, List.dropWhile_append_of_pos hr, hlast,
      List.reverse_reverse]

theorem strips_trimChars (text : List Char) : Strips text (trimChars text) := by
  have hsplit : trimChars text ++ (text.dropWhile isBlank).rtakeWhile isBlank =
      text.dropWhile isBlank := List.rdropWhile_append_rtakeWhile
  refine ⟨⟨text.takeWhile isBlank, (text.dropWhile isBlank).rtakeWhile isBlank, ?_, ?_⟩, ?_, ?_⟩
  · rw [List.append_assoc, hsplit, List.takeWhile_append_dropWhile]
  · intro c hc
    rcases List.mem_append.1 hc with hc | hc
    · exact List.mem_takeWhile_imp hc
    · exact List.mem_rtakeWhile_imp hc
  · intro c hc
    have hhead : c ∈ (text.dropWhile isBlank).head? := by
      rw [← hsplit, List.head?_append]
      exact Option.or_eq_some_iff.2 (.inl hc)
    have hnot := List.head?_dropWhile_not isBlank text
    rw [Option.mem_def.1 hhead] at hnot
    exact hnot
  · intro c hc
    obtain ⟨hne, rfl⟩ := List.mem_getLast?_eq_getLast hc
    exact Bool.eq_false_iff.2 (List.rdropWhile_last_not isBlank (text.dropWhile isBlank) hne)

/-- Every text has exactly one core. -/
theorem strips_iff {text core : List Char} : Strips text core ↔ core = trimChars text :=
  ⟨Strips.eq, fun h => h ▸ strips_trimChars text⟩

end Text

namespace Guid

/-! ## GUIDs -/

/-- Groups of characters of the given sizes with hyphens between them, and the groups joined. -/
def IsGrouped (sizes : List Nat) (cs joined : List Char) : Prop :=
  ∃ gs : List (List Char), gs.map List.length = sizes ∧ cs = ['-'].intercalate gs ∧
    joined = gs.flatten

theorem IsGrouped.cons {n m : Nat} {sizes : List Nat} {g cs joined : List Char} (hg : g.length = n)
    (h : IsGrouped (m :: sizes) cs joined) :
    IsGrouped (n :: m :: sizes) (g ++ '-' :: cs) (g ++ joined) := by
  obtain ⟨gs, hsizes, rfl, rfl⟩ := h
  cases gs with
  | nil => cases hsizes
  | cons g' gs =>
    refine ⟨g :: g' :: gs, by rw [List.map_cons, hg, hsizes], ?_, rfl⟩
    rw [List.intercalate_cons_cons, List.append_assoc]
    rfl

theorem joinGroups?_eq_some_iff {n : Nat} {sizes : List Nat} {cs joined : List Char} :
    joinGroups? (n :: sizes) cs = some joined ↔ IsGrouped (n :: sizes) cs joined := by
  induction sizes generalizing n cs joined with
  | nil =>
    constructor
    · intro h
      unfold joinGroups? at h
      split at h
      · rename_i hlen
        cases h
        exact ⟨[cs], by rw [List.map_singleton, hlen], by rw [List.intercalate_singleton],
          by rw [List.flatten_singleton]⟩
      · cases h
    · rintro ⟨gs, hsizes, rfl, rfl⟩
      obtain ⟨g, rfl, hg⟩ := List.map_eq_singleton_iff.1 hsizes
      rw [List.intercalate_singleton, List.flatten_singleton, joinGroups?_last hg]
  | cons m sizes ih =>
    constructor
    · intro h
      unfold joinGroups? at h
      split at h
      · rename_i rest hdrop
        obtain ⟨joined', hjoined, rfl⟩ := Option.map_eq_some_iff.1 h
        have hlen : (cs.take n).length = n := by
          refine List.length_take_of_le (Nat.le_of_not_lt fun hlt => ?_)
          rw [List.drop_eq_nil_of_le (Nat.le_of_lt hlt)] at hdrop
          cases hdrop
        have hcons := IsGrouped.cons hlen (ih.1 hjoined)
        rwa [← hdrop, List.take_append_drop] at hcons
      · cases h
    · rintro ⟨gs, hsizes, rfl, rfl⟩
      match gs, hsizes with
      | g :: g' :: gs, hsizes =>
        obtain ⟨hg, hsizes⟩ := List.cons.inj hsizes
        rw [List.intercalate_cons_cons, List.append_assoc, List.singleton_append,
          joinGroups?_append hg, ih.2 ⟨g' :: gs, hsizes, rfl, rfl⟩]
        rfl

/-- The forms of a GUID: its digits alone, the digits in groups, and these in braces or after
`urn:uuid:`. -/
inductive IsForm : List Char → List Char → Prop
  | plain {digits : List Char} : digits.length = 32 → IsForm digits digits
  | hyphenated {cs digits : List Char} : IsGrouped [8, 4, 4, 4, 12] cs digits → IsForm cs digits
  | braced {cs digits : List Char} : IsGrouped [8, 4, 4, 4, 12] cs digits →
    IsForm ('\x7b' :: (cs ++ ['\x7d'])) digits
  | urn {start cs digits : List Char} :
    start.map Char.toLower = ['u', 'r', 'n', ':', 'u', 'u', 'i', 'd', ':'] →
    IsGrouped [8, 4, 4, 4, 12] cs digits → IsForm (start ++ cs) digits

/-- A text of the GUID: one of the forms, with hexadecimal digits of either case. -/
def IsText (cs : List Char) (g : Guid) : Prop :=
  ∃ digits, IsForm cs digits ∧ Text.IsHexNumeral digits g.bits.toNat

theorem length_intercalate {gs : List (List Char)} (h : gs ≠ []) :
    (['-'].intercalate gs).length + 1 = (gs.map List.length).sum + gs.length := by
  induction gs with
  | nil => exact absurd rfl h
  | cons g gs ih =>
    cases gs with
    | nil => simp
    | cons g' gs =>
      have hrest := ih (List.cons_ne_nil g' gs)
      rw [List.intercalate_cons_cons, List.map_cons, List.sum_cons, List.length_append,
        List.length_append, List.length_singleton, List.length_cons (a := g)]
      omega

/-- Thirty-two digits and four hyphens. -/
theorem IsGrouped.length {cs digits : List Char} (h : IsGrouped groups cs digits) :
    cs.length = 36 ∧ digits.length = 32 := by
  obtain ⟨gs, hsizes, rfl, rfl⟩ := h
  have hcount : gs.length = 5 := by rw [← List.length_map List.length, hsizes]; rfl
  have hsum : (gs.map List.length).sum = 32 := by rw [hsizes]; rfl
  have hne : gs ≠ [] := by
    rintro rfl
    cases hcount
  have hlen := length_intercalate hne
  exact ⟨by omega, by rw [List.length_flatten, hsum]⟩

theorem IsForm.length {cs digits : List Char} (h : IsForm cs digits) : digits.length = 32 := by
  cases h with
  | plain h => exact h
  | hyphenated h | braced h | urn _ h => exact h.length.2

/-- Thirty-two digits are all the bits of a GUID. -/
theorem map_ofNat_eq_some_iff {digits : List Char} {g : Guid} (h : digits.length = 32) :
    (Text.ofHexDigits? digits).map ofNat = some g ↔ Text.IsHexNumeral digits g.bits.toNat := by
  rw [Option.map_eq_some_iff]
  constructor
  · rintro ⟨n, hn, rfl⟩
    have hn := Text.ofHexDigits?_eq_some_iff.1 hn
    have hlt : n < 2 ^ 128 := by simpa [h] using hn.lt
    rwa [ofNat, BitVec.toNat_ofNat, Nat.mod_eq_of_lt hlt]
  · intro hn
    refine ⟨_, Text.ofHexDigits?_eq_some_iff.2 hn, ?_⟩
    rw [ofNat, BitVec.ofNat_toNat, BitVec.setWidth_eq]

theorem hyphenated?_eq_some_iff {cs : List Char} {g : Guid} : hyphenated? cs = some g ↔
    ∃ digits, IsGrouped groups cs digits ∧ Text.IsHexNumeral digits g.bits.toNat := by
  rw [hyphenated?, Option.bind_eq_some_iff]
  refine exists_congr fun digits => ?_
  rw [groups, joinGroups?_eq_some_iff]
  exact and_congr_right fun h => map_ofNat_eq_some_iff h.length.2

/-- A text in braces. -/
theorem eq_braced {cs : List Char} (hlen : cs.length = 38) (hhead : cs.head? = some '\x7b')
    (hlast : cs.getLast? = some '\x7d') : cs = '\x7b' :: ((cs.drop 1).dropLast ++ ['\x7d']) := by
  cases cs with
  | nil => cases hhead
  | cons c cs =>
    obtain rfl := Option.some.inj hhead
    have hne : cs ≠ [] := by
      rintro rfl
      cases hlen
    rw [List.getLast?_cons_of_ne_nil hne] at hlast
    rw [List.drop_succ_cons, List.drop_zero]
    rw [List.dropLast_append_getLast? _ hlast]

theorem ofChars?_eq_some_iff {cs : List Char} {g : Guid} :
    ofChars? cs = some g ↔ IsText cs g := by
  constructor
  · intro h
    unfold ofChars? at h
    split at h
    · rename_i hlen
      exact ⟨cs, .plain hlen, (map_ofNat_eq_some_iff hlen).1 h⟩
    split at h
    · obtain ⟨digits, hgroups, hn⟩ := hyphenated?_eq_some_iff.1 h
      exact ⟨digits, .hyphenated hgroups, hn⟩
    split at h
    · rename_i hbraces
      obtain ⟨digits, hgroups, hn⟩ := hyphenated?_eq_some_iff.1 h
      refine ⟨digits, ?_, hn⟩
      rw [eq_braced hbraces.1 hbraces.2.1 hbraces.2.2]
      exact .braced hgroups
    split at h
    · rename_i hurn
      obtain ⟨digits, hgroups, hn⟩ := hyphenated?_eq_some_iff.1 h
      refine ⟨digits, ?_, hn⟩
      rw [← List.take_append_drop 9 cs]
      exact .urn hurn.2 hgroups
    · cases h
  · rintro ⟨digits, hform, hn⟩
    -- The forms have different lengths.
    cases hform with
    | plain hlen => rw [ofChars?, if_pos hlen, (map_ofNat_eq_some_iff hlen).2 hn]
    | hyphenated h =>
      have hlen := h.length.1
      rw [ofChars?, if_neg (by omega), if_pos hlen, hyphenated?_eq_some_iff.2 ⟨_, h, hn⟩]
    | braced h =>
      have hlen := h.length.1
      rename_i cs
      have hlen' : ('\x7b' :: (cs ++ ['\x7d'])).length = 38 := by simp [hlen]
      rw [ofChars?, if_neg (by omega), if_neg (by omega),
        if_pos ⟨hlen', rfl, by rw [← List.cons_append, List.getLast?_concat]⟩]
      simpa using hyphenated?_eq_some_iff.2 ⟨_, h, hn⟩
    | @urn start cs _ hstart h =>
      have hlen := h.length.1
      have hnine : start.length = 9 := by rw [← List.length_map Char.toLower, hstart]; rfl
      have hlen' : (start ++ cs).length = 45 := by simp [hlen, hnine]
      have hurn : ((start ++ cs).take 9).map Char.toLower = urn := by
        rw [← hnine, List.take_left, hstart, urn]
      rw [ofChars?, if_neg (by omega), if_neg (by omega), if_neg (by omega), if_pos ⟨hlen', hurn⟩,
        ← hnine, List.drop_left, hyphenated?_eq_some_iff.2 ⟨_, h, hn⟩]

end Guid

end OpcUa
