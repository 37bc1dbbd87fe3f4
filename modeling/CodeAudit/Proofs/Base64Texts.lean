import CodeAudit.Matching.Disguise
import CodeAudit.Proofs.Encodings
import Mathlib.Data.List.Forall2
import Mathlib.Data.Nat.Bitwise

/-!
# Which texts are base 64

The written form of some bytes is described by their bits: these are cut into sixes, with zeros at the end to
fill up the last one, and each six is written as a character of the alphabet; then the text is filled up with
`=` to a multiple of four. `Writes` says so without groups of bytes. Decoding takes blanks off the end of a
text and accepts exactly what follows these rules, and so each byte sequence has one written form.
-/

namespace CodeAudit.Base64

/-! ### Bits -/

/-- The last bits of a number, the most significant one first. -/
def bits : Nat → Nat → List Bool
  | 0, _ => []
  | width + 1, n => n.testBit width :: bits width n

/-- The bits of some bytes. -/
def byteBits (bytes : List UInt8) : List Bool := bytes.flatMap fun b => bits 8 b.toNat

/-- The bits of some digits. -/
def digitBits (values : List Nat) : List Bool := values.flatMap (bits 6)

/-- The digits in the order of their values. -/
def table : List Char := "ABCDEFGHIJKLMNOPQRSTUVWXYZabcdefghijklmnopqrstuvwxyz0123456789+/".toList

theorem table_eq : ∀ v < 64, table[v]? = some (digit v) := by decide

/-- A text of digits with some values, and of signs that fill it up. -/
structure IsFilled (text : List Char) (values : List Nat) (fill : Nat) : Prop where
  eq_append : ∃ digits, text = digits ++ List.replicate fill '=' ∧
    List.Forall₂ (fun c v => table[v]? = some c) digits values
  four_dvd : 4 ∣ text.length
  fill_le : fill ≤ 2

/-- The written form of some bytes: their bits in sixes, with zeros up to the end of the last one. -/
def Writes (bytes : List UInt8) (text : List Char) : Prop :=
  ∃ values fill, IsFilled text values fill ∧
    digitBits values = byteBits bytes ++ List.replicate (2 * fill) false

/-- The rules for a text: digits up to a multiple of four, where at most two signs at the end fill it up, and
no bit set in what these leave over. -/
def WellFormed (text : List Char) : Prop :=
  ∃ values fill, IsFilled text values fill ∧ List.replicate (2 * fill) false <:+ digitBits values

theorem Writes.wellFormed {bytes : List UInt8} {text : List Char} (h : Writes bytes text) : WellFormed text := by
  obtain ⟨values, fill, hfilled, hbits⟩ := h
  exact ⟨values, fill, hfilled, _, hbits.symm⟩

theorem IsFilled.group {text : List Char} {values : List Nat} {fill a b c d : Nat} (h : IsFilled text values fill)
    (ha : a < 64) (hb : b < 64) (hc : c < 64) (hd : d < 64) :
    IsFilled (digit a :: digit b :: digit c :: digit d :: text) (a :: b :: c :: d :: values) fill where
  eq_append := by
    obtain ⟨digits, rfl, hdigits⟩ := h.eq_append
    exact ⟨digit a :: digit b :: digit c :: digit d :: digits, rfl,
      .cons (table_eq a ha) (.cons (table_eq b hb) (.cons (table_eq c hc) (.cons (table_eq d hd) hdigits)))⟩
  four_dvd := (Nat.dvd_add_left (Nat.dvd_refl 4)).mpr h.four_dvd
  fill_le := h.fill_le

theorem eq_digit_of_value? {c : Char} {v : Nat} (h : value? c = some v) : v < 64 ∧ c = digit v := by
  unfold value? at h
  simp only [Char.le_def, UInt32.le_iff_toNat_le] at h
  split_ifs at h with hupper hlower hdecimal hplus hslash
  all_goals obtain rfl := Option.some.inj h
  · obtain ⟨hlo, hhi⟩ : 65 ≤ c.toNat ∧ c.toNat ≤ 90 := hupper
    refine ⟨by omega, ?_⟩
    rw [digit, if_pos (by omega), Nat.add_sub_cancel' hlo, Char.ofNat_toNat]
  · obtain ⟨hlo, hhi⟩ : 97 ≤ c.toNat ∧ c.toNat ≤ 122 := hlower
    refine ⟨by omega, ?_⟩
    rw [digit, if_neg (by omega), if_pos (by omega), Nat.add_sub_cancel, Nat.add_sub_cancel' hlo,
      Char.ofNat_toNat]
  · obtain ⟨hlo, hhi⟩ : 48 ≤ c.toNat ∧ c.toNat ≤ 57 := hdecimal
    refine ⟨by omega, ?_⟩
    rw [digit, if_neg (by omega), if_neg (by omega), if_pos (by omega), Nat.add_sub_cancel,
      Nat.add_sub_cancel' hlo, Char.ofNat_toNat]
  · exact ⟨by decide, hplus⟩
  · exact ⟨by decide, hslash⟩

/-- The three ways in which a group is read. -/
theorem decode?_group_cases {p q r s : Char} {rest : List Char} {bytes : List UInt8}
    (h : decode? (p :: q :: r :: s :: rest) = some bytes) :
    ∃ a b, value? p = some a ∧ value? q = some b ∧
      ((r = '=' ∧ s = '=' ∧ rest = [] ∧ b % 16 = 0 ∧ bytes = [UInt8.ofNat (a * 4 + b / 16)]) ∨
        (∃ c, value? r = some c ∧ s = '=' ∧ rest = [] ∧ c % 4 = 0 ∧
          bytes = [UInt8.ofNat (a * 4 + b / 16), UInt8.ofNat (b % 16 * 16 + c / 4)]) ∨
        ∃ c d tail, value? r = some c ∧ value? s = some d ∧ decode? rest = some tail ∧
          bytes = UInt8.ofNat (a * 4 + b / 16) :: UInt8.ofNat (b % 16 * 16 + c / 4) ::
            UInt8.ofNat (c % 4 * 64 + d) :: tail) := by
  rw [decode?] at h
  obtain ⟨a, ha, h⟩ := Option.bind_eq_some_iff.mp h
  obtain ⟨b, hb, h⟩ := Option.bind_eq_some_iff.mp h
  refine ⟨a, b, ha, hb, ?_⟩
  dsimp only at h
  split_ifs at h with hend hr hzero
  · exact .inl ⟨hr, hend.1, hend.2, hzero, (Option.some.inj h).symm⟩
  · obtain ⟨c, hc, h⟩ := Option.bind_eq_some_iff.mp h
    split_ifs at h with hzero
    exact .inr (.inl ⟨c, hc, hend.1, hend.2, hzero, (Option.some.inj h).symm⟩)
  · obtain ⟨c, hc, h⟩ := Option.bind_eq_some_iff.mp h
    obtain ⟨d, hd, h⟩ := Option.bind_eq_some_iff.mp h
    obtain ⟨tail, htail, h⟩ := Option.bind_eq_some_iff.mp h
    exact .inr (.inr ⟨c, d, tail, hc, hd, htail, (Option.some.inj h).symm⟩)

theorem eq_encode_of_decode? {text : List Char} {bytes : List UInt8} (h : decode? text = some bytes) :
    text = encode bytes := by
  induction text using decode?.induct generalizing bytes with
  | case1 =>
    obtain rfl : [] = bytes := Option.some.inj h
    rfl
  | case2 p q r s rest ih =>
    obtain ⟨a, b, hp, hq, hcases⟩ := decode?_group_cases h
    obtain ⟨ha, rfl⟩ := eq_digit_of_value? hp
    obtain ⟨hb, rfl⟩ := eq_digit_of_value? hq
    have hfirst : (UInt8.ofNat (a * 4 + b / 16)).toNat = a * 4 + b / 16 :=
      UInt8.toNat_ofNat_of_lt' (show a * 4 + b / 16 < 256 by omega)
    rcases hcases with ⟨rfl, rfl, rfl, hzero, rfl⟩ | ⟨c, hr, rfl, rfl, hzero, rfl⟩ |
      ⟨c, d, tail, hr, hs, htail, rfl⟩
    · rw [encode, hfirst, show (a * 4 + b / 16) / 4 = a by omega,
        show (a * 4 + b / 16) % 4 * 16 = b by omega]
    · obtain ⟨hc, rfl⟩ := eq_digit_of_value? hr
      have hsecond : (UInt8.ofNat (b % 16 * 16 + c / 4)).toNat = b % 16 * 16 + c / 4 :=
        UInt8.toNat_ofNat_of_lt' (show b % 16 * 16 + c / 4 < 256 by omega)
      rw [encode, hfirst, hsecond, show (a * 4 + b / 16) / 4 = a by omega,
        show (a * 4 + b / 16) % 4 * 16 + (b % 16 * 16 + c / 4) / 16 = b by omega,
        show (b % 16 * 16 + c / 4) % 16 * 4 = c by omega]
    · obtain ⟨hc, rfl⟩ := eq_digit_of_value? hr
      obtain ⟨hd, rfl⟩ := eq_digit_of_value? hs
      have hsecond : (UInt8.ofNat (b % 16 * 16 + c / 4)).toNat = b % 16 * 16 + c / 4 :=
        UInt8.toNat_ofNat_of_lt' (show b % 16 * 16 + c / 4 < 256 by omega)
      have hthird : (UInt8.ofNat (c % 4 * 64 + d)).toNat = c % 4 * 64 + d :=
        UInt8.toNat_ofNat_of_lt' (show c % 4 * 64 + d < 256 by omega)
      rw [encode, hfirst, hsecond, hthird, ← ih htail,
        show (a * 4 + b / 16) / 4 = a by omega,
        show (a * 4 + b / 16) % 4 * 16 + (b % 16 * 16 + c / 4) / 16 = b by omega,
        show (b % 16 * 16 + c / 4) % 16 * 4 + (c % 4 * 64 + d) / 64 = c by omega,
        show (c % 4 * 64 + d) % 64 = d by omega]
  | case3 t hempty hgroup =>
    rw [decode?.eq_3 t hempty hgroup] at h
    cases h

theorem decode?_eq_some_iff {text : List Char} {bytes : List UInt8} :
    decode? text = some bytes ↔ text = encode bytes :=
  ⟨eq_encode_of_decode?, fun h => h ▸ decode?_encode bytes⟩

end CodeAudit.Base64

namespace CodeAudit.Encoding

end CodeAudit.Encoding
