import Mathlib.Algebra.Group.Nat.Defs
import Mathlib.Data.List.DropRight
import OpcUa.Text.Base64
import OpcUa.Text.Blank
import OpcUa.Text.Guid

/-!
# Texts that read back

Numbers, GUIDs and byte strings are read back from the texts that are written for them, and these
texts have no blanks around them.

* `Text.unsigned?_toDigits`: numbers in decimal digits.
* `Text.ofHexDigits?_hexDigits`: numbers in a fixed number of hexadecimal digits.
* `Guid.ofChars?_toChars`, `Text.Base64.decode?_encode`: GUIDs and byte strings.
* `Text.trimChars_append_cons`: a text that does not begin or end with a blank is not cut.
-/

namespace OpcUa

namespace Text

/-! ## Decimal digits -/

theorem ofDigits_eq (ds : List Char) : ofDigits ds = Nat.ofDigitChars 10 ds 0 := by
  simp [ofDigits, Nat.ofDigitChars_eq_foldl, digitValue, Nat.mul_comm]

theorem all_isDigit_toDigits (n : Nat) : (Nat.toDigits 10 n).all Char.isDigit = true :=
  List.all_eq_true.2 fun _ => Nat.isDigit_of_mem_toDigits (by decide) (by decide)

/-- Digits without a sign are all read. -/
theorem unsigned?_of_digits {ds : List Char} (hne : ds ≠ []) (hd : ds.all Char.isDigit = true) :
    unsigned? ds = some (ofDigits ds) := by
  cases ds with
  | nil => exact absurd rfl hne
  | cons d ds =>
    have hsign : d ≠ '+' := by
      rintro rfl
      simp at hd
    simp [unsigned?, hsign, hd]

theorem unsigned?_toDigits (n : Nat) : unsigned? (Nat.toDigits 10 n) = some n := by
  rw [unsigned?_of_digits Nat.toDigits_ne_nil (all_isDigit_toDigits n), ofDigits_eq,
    Nat.ofDigitChars_ten_toDigits]

theorem unsignedBelow?_toDigits {n bound : Nat} (h : n < bound) :
    unsignedBelow? bound (Nat.toDigits 10 n) = some n := by
  simp [unsignedBelow?, unsigned?_toDigits, h]

/-! ## Hexadecimal digits -/

theorem hexValue?_digitChar {d : Nat} (h : d < 16) : hexValue? d.digitChar = some d := by
  have hall : ∀ d : Fin 16, hexValue? d.val.digitChar = some d.val := by decide
  exact hall ⟨d, h⟩

theorem length_hexDigits (width n : Nat) : (hexDigits width n).length = width := by
  simp [hexDigits]

/-- The last digit is the one of the units. -/
theorem hexDigits_succ (width n : Nat) :
    hexDigits (width + 1) n = hexDigits width (n / 16) ++ [(n % 16).digitChar] := by
  have hunits : n >>> (4 * (width + 1 - 1 - width)) = n := by simp
  rw [hexDigits, List.range_succ, List.map_append, List.map_singleton, hunits]
  refine congrArg (· ++ _) (List.map_congr_left fun i hi => ?_)
  have hi : i < width := List.mem_range.1 hi
  have hshift : 4 * (width + 1 - 1 - i) = 4 + 4 * (width - 1 - i) := by omega
  rw [hshift, Nat.shiftRight_add, Nat.shiftRight_eq_div_pow n 4]

theorem ofHexDigits?_hexDigits (width n : Nat) :
    ofHexDigits? (hexDigits width n) = some (n % 16 ^ width) := by
  induction width generalizing n with
  | zero =>
    rw [Nat.pow_zero, Nat.mod_one]
    rfl
  | succ width ih =>
    have hread := ih (n / 16)
    unfold ofHexDigits? at hread ⊢
    rw [hexDigits_succ, List.foldlM_append, hread]
    have hdigit : hexValue? (n % 16).digitChar = some (n % 16) :=
      hexValue?_digitChar (Nat.mod_lt n (by decide))
    have hsplit : n % 16 ^ (width + 1) = n / 16 % 16 ^ width * 16 + n % 16 := by
      rw [Nat.pow_succ, Nat.mul_comm, Nat.mod_mul, Nat.add_comm, Nat.mul_comm]
    change (do
      let n ← (hexValue? (n % 16).digitChar).map (n / 16 % 16 ^ width * 16 + ·)
      some n) = _
    rw [hdigit, hsplit]
    rfl

/-! ## Byte strings -/

namespace Base64

theorem value?_digit {n : Nat} (h : n < 64) : value? (digit n) = some n := by
  have hall : ∀ n : Fin 64, value? (digit n.val) = some n.val := by decide
  exact hall ⟨n, h⟩

/-- The padding is no digit. -/
theorem digit_ne_pad {n : Nat} (h : n < 64) : digit n ≠ '=' := by
  have hall : ∀ n : Fin 64, digit n.val ≠ '=' := by decide
  exact hall ⟨n, h⟩

/-- Four digits without padding are three bytes, whatever follows. -/
theorem decode?_quad {a b c d : Char} (hd : d ≠ '=') (rest : List Char) :
    decode? (a :: b :: c :: d :: rest) = do
      let a ← value? a
      let b ← value? b
      let c ← value? c
      let d ← value? d
      let more ← decode? rest
      return UInt8.ofNat (a * 4 + b / 16) :: UInt8.ofNat (b % 16 * 16 + c / 4) ::
        UInt8.ofNat (c % 4 * 64 + d) :: more := by
  cases rest with
  | nil => simp [decode?, hd]
  | cons e rest => simp [decode?]

theorem ofNat_eq {byte : UInt8} {n : Nat} (h : n = byte.toNat) : UInt8.ofNat n = byte := by
  rw [h, UInt8.ofNat_toNat]

theorem decode?_encode (bytes : List UInt8) : decode? (encode bytes) = some bytes := by
  fun_induction encode bytes with
  | case1 => rfl
  | case2 byte a =>
    have ha : a < 256 := byte.toNat_lt
    have hbyte : UInt8.ofNat (a / 4 * 4 + a % 4 * 16 / 16) = byte := ofNat_eq (by omega)
    have hunused : a % 4 * 16 % 16 = 0 := by omega
    have h₁ := value?_digit (n := a / 4) (by omega)
    have h₂ := value?_digit (n := a % 4 * 16) (by omega)
    simp only [decode?, h₁, h₂, Option.bind_eq_bind, Option.bind_some, hunused, if_true, hbyte]
    rfl
  | case3 byte byte' a b =>
    have ha : a < 256 := byte.toNat_lt
    have hb : b < 256 := byte'.toNat_lt
    have hbyte : UInt8.ofNat (a / 4 * 4 + (a % 4 * 16 + b / 16) / 16) = byte :=
      ofNat_eq (by omega)
    have hbyte' : UInt8.ofNat ((a % 4 * 16 + b / 16) % 16 * 16 + b % 16 * 4 / 4) = byte' :=
      ofNat_eq (by omega)
    have hunused : b % 16 * 4 % 4 = 0 := by omega
    have h₁ := value?_digit (n := a / 4) (by omega)
    have h₂ := value?_digit (n := a % 4 * 16 + b / 16) (by omega)
    have h₃ := value?_digit (n := b % 16 * 4) (by omega)
    have hpad := digit_ne_pad (n := b % 16 * 4) (by omega)
    rw [decode?]
    · simp only [h₁, h₂, h₃, Option.bind_eq_bind, Option.bind_some, hunused, if_true, hbyte, hbyte']
      rfl
    · exact hpad
  | case4 byte byte' byte'' rest a b c ih =>
    have ha : a < 256 := byte.toNat_lt
    have hb : b < 256 := byte'.toNat_lt
    have hc : c < 256 := byte''.toNat_lt
    have hbyte : UInt8.ofNat (a / 4 * 4 + (a % 4 * 16 + b / 16) / 16) = byte :=
      ofNat_eq (by omega)
    have hbyte' : UInt8.ofNat ((a % 4 * 16 + b / 16) % 16 * 16 + (b % 16 * 4 + c / 64) / 4) =
      byte' := ofNat_eq (by omega)
    have hbyte'' : UInt8.ofNat ((b % 16 * 4 + c / 64) % 4 * 64 + c % 64) = byte'' :=
      ofNat_eq (by omega)
    have h₁ := value?_digit (n := a / 4) (by omega)
    have h₂ := value?_digit (n := a % 4 * 16 + b / 16) (by omega)
    have h₃ := value?_digit (n := b % 16 * 4 + c / 64) (by omega)
    have h₄ := value?_digit (n := c % 64) (by omega)
    rw [decode?_quad (digit_ne_pad (Nat.mod_lt c (by decide)))]
    simp only [h₁, h₂, h₃, h₄, ih, Option.bind_eq_bind, Option.bind_some, hbyte, hbyte', hbyte'']
    rfl

/-- What is written are digits and padding. -/
theorem mem_encode {bytes : List UInt8} {c : Char} (h : c ∈ encode bytes) :
    (∃ n < 64, c = digit n) ∨ c = '=' := by
  fun_induction encode bytes with
  | case1 => cases h
  | case2 byte a =>
    have ha : a < 256 := byte.toNat_lt
    simp only [List.mem_cons, List.not_mem_nil, or_false] at h
    rcases h with h | h | h | h
    · exact .inl ⟨_, by omega, h⟩
    · exact .inl ⟨_, by omega, h⟩
    · exact .inr h
    · exact .inr h
  | case3 byte byte' a b =>
    have ha : a < 256 := byte.toNat_lt
    have hb : b < 256 := byte'.toNat_lt
    simp only [List.mem_cons, List.not_mem_nil, or_false] at h
    rcases h with h | h | h | h
    · exact .inl ⟨_, by omega, h⟩
    · exact .inl ⟨_, by omega, h⟩
    · exact .inl ⟨_, by omega, h⟩
    · exact .inr h
  | case4 byte byte' byte'' rest a b c ih =>
    have ha : a < 256 := byte.toNat_lt
    have hb : b < 256 := byte'.toNat_lt
    have hc : c < 256 := byte''.toNat_lt
    simp only [List.mem_cons] at h
    rcases h with h | h | h | h | h
    · exact .inl ⟨_, by omega, h⟩
    · exact .inl ⟨_, by omega, h⟩
    · exact .inl ⟨_, by omega, h⟩
    · exact .inl ⟨_, by omega, h⟩
    · exact ih h

end Base64

/-! ## Blanks -/

/-- The visible characters of ASCII are no blanks. -/
theorem isBlank_of_visible {c : Char} (h : 0x20 < c.toNat) (h' : c.toNat < 0x7F) :
    isBlank c = false := by
  simp only [isBlank, Bool.or_eq_false_iff, Bool.and_eq_false_iff, decide_eq_false_iff_not,
    beq_eq_false_iff_ne]
  omega

theorem isBlank_of_isDigit {c : Char} (h : c.isDigit = true) : isBlank c = false := by
  simp only [Char.isDigit, Bool.and_eq_true, decide_eq_true_eq, UInt32.le_iff_toNat_le] at h
  exact isBlank_of_visible (Nat.lt_of_lt_of_le (by decide) h.1) (Nat.lt_of_le_of_lt h.2 (by decide))

theorem isBlank_hexDigits {width n : Nat} {c : Char} (h : c ∈ hexDigits width n) :
    isBlank c = false := by
  have hall : ∀ d : Fin 16, isBlank d.val.digitChar = false := by decide
  obtain ⟨i, -, rfl⟩ := List.mem_map.1 h
  exact hall ⟨_, Nat.mod_lt _ (by decide)⟩

theorem isBlank_encode {bytes : List UInt8} {c : Char} (h : c ∈ Base64.encode bytes) :
    isBlank c = false := by
  have hall : ∀ n : Fin 64, isBlank (Base64.digit n.val) = false := by decide
  rcases Base64.mem_encode h with ⟨n, hn, rfl⟩ | rfl
  · exact hall ⟨n, hn⟩
  · rfl

/-- What comes before a character that is not dropped is not dropped either. -/
theorem rdropWhile_append_cons {p : Char → Bool} {x : Char} (hx : p x = false)
    (l r : List Char) : (l ++ x :: r).rdropWhile p = l ++ x :: r.rdropWhile p := by
  induction r using List.reverseRecOn with
  | nil => exact List.rdropWhile_concat_neg _ _ _ (by simp [hx])
  | append_singleton r y ih =>
    rw [← List.cons_append, ← List.append_assoc]
    by_cases hy : p y = true
    · rw [List.rdropWhile_concat_pos _ _ _ hy, List.rdropWhile_concat_pos _ _ _ hy, ih]
    · rw [List.rdropWhile_concat_neg _ _ _ hy, List.rdropWhile_concat_neg _ _ _ hy,
        List.append_assoc, List.cons_append]

/-- A text that does not begin with a blank is cut after the last character that is none. -/
theorem trimChars_append_cons {c x : Char} (hc : isBlank c = false) (hx : isBlank x = false)
    (l r : List Char) : trimChars (c :: (l ++ x :: r)) = c :: (l ++ x :: r.rdropWhile isBlank) := by
  have hfirst : (c :: (l ++ x :: r)).dropWhile isBlank = c :: (l ++ x :: r) := by simp [hc]
  show ((c :: (l ++ x :: r)).dropWhile isBlank).rdropWhile isBlank = _
  rw [hfirst]
  exact rdropWhile_append_cons hx (c :: l) r

theorem rdropWhile_of_forall {cs : List Char} (h : ∀ c ∈ cs, isBlank c = false) :
    cs.rdropWhile isBlank = cs :=
  List.rdropWhile_eq_self_iff.2 fun hne => by simp [h _ (List.getLast_mem hne)]

end Text

namespace Guid

theorem joinGroups?_append {n m : Nat} {sizes : List Nat} {cs rest : List Char}
    (h : cs.length = n) : joinGroups? (n :: m :: sizes) (cs ++ '-' :: rest) =
      (joinGroups? (m :: sizes) rest).map (cs ++ ·) := by
  subst h
  simp [joinGroups?]

theorem joinGroups?_last {n : Nat} {cs : List Char} (h : cs.length = n) :
    joinGroups? [n] cs = some cs := if_pos h

theorem length_toChars (g : Guid) : g.toChars.length = 36 := by
  simp [toChars, Text.length_hexDigits]

/-- The digits of the groups, without the hyphens. -/
theorem joinGroups?_toChars (g : Guid) :
    joinGroups? groups g.toChars = some (Text.hexDigits 32 g.bits.toNat) := by
  have hlen := Text.length_hexDigits 32 g.bits.toNat
  unfold toChars groups
  generalize Text.hexDigits 32 g.bits.toNat = ds at hlen
  simp only [List.append_assoc, List.cons_append]
  rw [joinGroups?_append (by simp [hlen]), joinGroups?_append (by simp [hlen]),
    joinGroups?_append (by simp [hlen]), joinGroups?_append (by simp [hlen]),
    joinGroups?_last (by simp [hlen])]
  have hjoin (m : Nat) : (ds.drop m).take 4 ++ ds.drop (m + 4) = ds.drop m := by
    rw [← List.drop_drop, List.take_append_drop]
  simp only [Option.map_some, Option.some.injEq]
  rw [hjoin 16, hjoin 12, hjoin 8, List.take_append_drop]

theorem ofChars?_toChars (g : Guid) : ofChars? g.toChars = some g := by
  have hbits : g.bits.toNat % 16 ^ 32 = g.bits.toNat := Nat.mod_eq_of_lt g.bits.isLt
  unfold ofChars? hyphenated?
  rw [if_neg (by simp [length_toChars]), if_pos g.length_toChars, joinGroups?_toChars,
    Option.bind_some, Text.ofHexDigits?_hexDigits, hbits, Option.map_some, ofNat,
    BitVec.ofNat_toNat, BitVec.setWidth_eq]

/-- What is written are digits and hyphens. -/
theorem isBlank_toChars (g : Guid) {c : Char} (h : c ∈ g.toChars) : Text.isBlank c = false := by
  have hdigit {l : List Char} (hl : l ⊆ Text.hexDigits 32 g.bits.toNat) (hc : c ∈ l) :
      Text.isBlank c = false := Text.isBlank_hexDigits (hl hc)
  have hpart (m : Nat) : ((Text.hexDigits 32 g.bits.toNat).drop m).take 4 ⊆
      Text.hexDigits 32 g.bits.toNat :=
    List.Subset.trans (List.take_subset ..) (List.drop_subset ..)
  simp only [toChars, List.mem_append, List.mem_cons] at h
  rcases h with (((h | rfl | h) | rfl | h) | rfl | h) | rfl | h
  · exact hdigit (List.take_subset ..) h
  · rfl
  · exact hdigit (hpart 8) h
  · rfl
  · exact hdigit (hpart 12) h
  · rfl
  · exact hdigit (hpart 16) h
  · rfl
  · exact hdigit (List.drop_subset ..) h

end Guid

end OpcUa
