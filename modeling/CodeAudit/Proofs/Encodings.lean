import CodeAudit.Encoding.Base64
import CodeAudit.Encoding.Hex
import CodeAudit.Text.Utf8
import Mathlib.Data.List.TakeWhile
import Mathlib.Tactic.IntervalCases

/-!
# Written forms that are read back

Bytes that are written in base 64 are read back, also with blanks behind them. The same holds for bytes
that are written as pairs of hexadecimal digits of either case, each after a mark, and for text that
is written as bytes.
-/

namespace CodeAudit

namespace Blank

theorem trimEnd_append {text blanks : List Char} (htext : ∀ c ∈ text, isBlank c = false)
    (hblanks : ∀ c ∈ blanks, isBlank c) : trimEnd (text ++ blanks) = text := by
  have hdrop : blanks.reverse.dropWhile isBlank = [] := by
    rw [List.dropWhile_eq_nil_iff]
    exact fun c hc => hblanks c (List.mem_reverse.mp hc)
  have hkeep : text.reverse.dropWhile isBlank = text.reverse := by
    cases hrev : text.reverse with
    | nil => rfl
    | cons c cs =>
      have hc : c ∈ text := List.mem_reverse.mp (hrev ▸ List.mem_cons_self)
      rw [List.dropWhile_cons_of_neg (by simp [htext c hc])]
  rw [trimEnd, List.reverse_append, List.dropWhile_append, hdrop]
  simp [hkeep]

end Blank

namespace Base64

theorem value?_digit : ∀ v < 64, value? (digit v) = some v := by decide

theorem digit_ne_pad : ∀ v < 64, digit v ≠ '=' := by decide

section Groups

variable {p q r s : Char} {a b c d : Nat}

theorem decode?_one (hp : value? p = some a) (hq : value? q = some b) (hrest : b % 16 = 0) :
    decode? [p, q, '=', '='] = some [UInt8.ofNat (a * 4 + b / 16)] := by
  simp [decode?, hp, hq, hrest]

theorem decode?_two (hp : value? p = some a) (hq : value? q = some b) (hr : value? r = some c)
    (hpad : r ≠ '=') (hrest : c % 4 = 0) :
    decode? [p, q, r, '='] =
      some [UInt8.ofNat (a * 4 + b / 16), UInt8.ofNat (b % 16 * 16 + c / 4)] := by
  simp [decode?, hp, hq, hr, hpad, hrest]

theorem decode?_three {rest : List Char} {bytes : List UInt8} (hp : value? p = some a)
    (hq : value? q = some b) (hr : value? r = some c) (hs : value? s = some d) (hpad : s ≠ '=')
    (hrest : decode? rest = some bytes) :
    decode? (p :: q :: r :: s :: rest) =
      some (UInt8.ofNat (a * 4 + b / 16) :: UInt8.ofNat (b % 16 * 16 + c / 4) ::
        UInt8.ofNat (c % 4 * 64 + d) :: bytes) := by
  simp [decode?, hp, hq, hr, hs, hpad, hrest]

end Groups

/-- A byte is put together again from its bits. -/
theorem ofNat_eq {b : UInt8} {n : Nat} (h : n = b.toNat) : UInt8.ofNat n = b := by
  rw [h, UInt8.ofNat_toNat]

theorem decode?_encode (bytes : List UInt8) : decode? (encode bytes) = some bytes := by
  fun_induction encode bytes with
  | case1 => rfl
  | case2 a =>
    have ha := a.toNat_lt
    rw [decode?_one (value?_digit _ (by omega)) (value?_digit _ (by omega)) (by omega),
      ofNat_eq (b := a) (by omega)]
  | case3 a b =>
    have ha := a.toNat_lt
    have hb := b.toNat_lt
    rw [decode?_two (value?_digit _ (by omega)) (value?_digit _ (by omega))
        (value?_digit _ (by omega)) (digit_ne_pad _ (by omega)) (by omega),
      ofNat_eq (b := a) (by omega), ofNat_eq (b := b) (by omega)]
  | case4 a b c rest ih =>
    have ha := a.toNat_lt
    have hb := b.toNat_lt
    have hc := c.toNat_lt
    rw [decode?_three (value?_digit _ (by omega)) (value?_digit _ (by omega))
        (value?_digit _ (by omega)) (value?_digit _ (by omega)) (digit_ne_pad _ (by omega)) ih,
      ofNat_eq (b := a) (by omega), ofNat_eq (b := b) (by omega), ofNat_eq (b := c) (by omega)]

/-- What bytes are written with: the digits and the sign that fills up. -/
def alphabet : List Char := '=' :: (List.range 64).map digit

theorem digit_mem_alphabet {v : Nat} (h : v < 64) : digit v ∈ alphabet :=
  List.mem_cons_of_mem _ (List.mem_map_of_mem (List.mem_range.mpr h))

theorem mem_alphabet_of_mem_encode {bytes : List UInt8} {c : Char} (h : c ∈ encode bytes) :
    c ∈ alphabet := by
  have hpad : '=' ∈ alphabet := List.mem_cons_self
  fun_induction encode bytes with
  | case1 => cases h
  | case2 a =>
    have ha := a.toNat_lt
    simp only [List.mem_cons, List.not_mem_nil, or_false] at h
    rcases h with rfl | rfl | rfl | rfl <;>
      first | exact hpad | exact digit_mem_alphabet (by omega)
  | case3 a b =>
    have ha := a.toNat_lt
    have hb := b.toNat_lt
    simp only [List.mem_cons, List.not_mem_nil, or_false] at h
    rcases h with rfl | rfl | rfl | rfl <;>
      first | exact hpad | exact digit_mem_alphabet (by omega)
  | case4 a b c' rest ih =>
    have ha := a.toNat_lt
    have hb := b.toNat_lt
    have hc := c'.toNat_lt
    simp only [List.mem_cons] at h
    rcases h with rfl | rfl | rfl | rfl | h
    · exact digit_mem_alphabet (by omega)
    · exact digit_mem_alphabet (by omega)
    · exact digit_mem_alphabet (by omega)
    · exact digit_mem_alphabet (by omega)
    · exact ih h

theorem encode_ne_nil {bytes : List UInt8} (h : bytes ≠ []) : encode bytes ≠ [] := by
  fun_cases encode bytes <;> simp_all

theorem decode?_trimEnd_encode (bytes : List UInt8) {blanks : List Char}
    (hblanks : ∀ c ∈ blanks, Blank.isBlank c) :
    decode? (Blank.trimEnd (encode bytes ++ blanks)) = some bytes := by
  have halphabet : ∀ c ∈ alphabet, Blank.isBlank c = false := by
    have hall : alphabet.all (fun c => !Blank.isBlank c) = true := by decide
    simpa using hall
  rw [Blank.trimEnd_append (fun c hc => halphabet c (mem_alphabet_of_mem_encode hc)) hblanks,
    decode?_encode]

end Base64

namespace Search

/-! ### Taking marks out of a text

A mark is a character before an `x`. Outside of marks there is no `x` in what follows. -/

variable {m : Char}

theorem replace_mark (m : Char) (rest : List Char) :
    replace [m, 'x'] [] (m :: 'x' :: rest) = replace [m, 'x'] [] rest := by
  simp [replace, replaceFrom, beginsWith, after?]

theorem replace_append_of_ne {text rest : List Char} (htext : ∀ c ∈ text, c ≠ 'x')
    (hrest : rest.head? ≠ some 'x') :
    replace [m, 'x'] [] (text ++ rest) = text ++ replace [m, 'x'] [] rest := by
  induction text with
  | nil => rfl
  | cons c cs ih =>
    rw [List.forall_mem_cons] at htext
    have hnext : (cs ++ rest).head? ≠ some 'x' := by
      cases cs with
      | nil => exact hrest
      | cons c' cs => simpa using htext.2 c' List.mem_cons_self
    have hother : beginsWith [m, 'x'] (c :: (cs ++ rest)) = false := by
      cases h : cs ++ rest with
      | nil => simp [beginsWith, after?]
      | cons c' cs' =>
        have hc' : 'x' ≠ c' := by
          rintro rfl
          exact hnext (by rw [h]; rfl)
        simp [beginsWith, after?, hc']
    have hrec : replaceFrom [m, 'x'] [] 0 (cs ++ rest) = cs ++ replaceFrom [m, 'x'] [] 0 rest :=
      ih htext.2
    simp [replace, replaceFrom, hother, hrec]

theorem replace_of_ne {text : List Char} (htext : ∀ c ∈ text, c ≠ 'x') :
    replace [m, 'x'] [] text = text := by
  have hnil : replace [m, 'x'] [] [] = [] := rfl
  rw [← List.append_nil text, replace_append_of_ne htext (by simp), hnil]

end Search

namespace Hex

/-- The digits, in both cases. -/
def digits : List Char :=
  ['0', '1', '2', '3', '4', '5', '6', '7', '8', '9', 'a', 'b', 'c', 'd', 'e', 'f',
    'A', 'B', 'C', 'D', 'E', 'F']

theorem mem_digits_of_digit? {c : Char} {v : Nat} (h : digit? c = some v) : c ∈ digits := by
  rw [← Char.ofNat_toNat c]
  unfold digit? CharSet.hexDigit? at h
  simp only [Char.le_def, UInt32.le_iff_toNat_le] at h
  split_ifs at h with h₁ h₂ h₃
  · obtain ⟨hlo, hhi⟩ : 48 ≤ c.toNat ∧ c.toNat ≤ 57 := h₁
    interval_cases c.toNat <;> decide
  · obtain ⟨hlo, hhi⟩ : 65 ≤ c.toNat ∧ c.toNat ≤ 70 := h₂
    interval_cases c.toNat <;> decide
  · obtain ⟨hlo, hhi⟩ : 97 ≤ c.toNat ∧ c.toNat ≤ 102 := h₃
    interval_cases c.toNat <;> decide

/-- Two digits for a byte. -/
def IsPairOf (pair : Char × Char) (b : UInt8) : Prop :=
  digit? pair.1 = some (b.toNat / 16) ∧ digit? pair.2 = some (b.toNat % 16)

instance (pair : Char × Char) (b : UInt8) : Decidable (IsPairOf pair b) :=
  inferInstanceAs (Decidable (_ ∧ _))

theorem IsPairOf.pair? {pair : Char × Char} {b : UInt8} (h : IsPairOf pair b) :
    pair? pair.1 pair.2 = some b := by
  have hsign : pair.1 ≠ '+' := by
    intro hplus
    have hnone : digit? '+' = none := by decide
    rw [IsPairOf, hplus, hnone] at h
    cases h.1
  have hb : b.toNat / 16 * 16 + b.toNat % 16 = b.toNat := by omega
  have hbyte : UInt8.ofNat (b.toNat / 16 * 16 + b.toNat % 16) = b := by rw [hb, UInt8.ofNat_toNat]
  calc Hex.pair? pair.1 pair.2
      = some (UInt8.ofNat (b.toNat / 16 * 16 + b.toNat % 16)) := by
        simp only [Hex.pair?, if_neg hsign, h.1, h.2]
        rfl
    _ = some b := by rw [hbyte]

theorem IsPairOf.mem_digits {pair : Char × Char} {b : UInt8} (h : IsPairOf pair b) :
    ∀ c ∈ [pair.1, pair.2], c ∈ digits := by
  simp [mem_digits_of_digit? h.1, mem_digits_of_digit? h.2]

/-- Bytes with a mark before every pair of digits. -/
def marked (pairs : List (Char × Char)) : List Char :=
  pairs.flatMap fun pair => ['0', 'x', pair.1, pair.2]

/-- Bytes without marks. -/
def bare (pairs : List (Char × Char)) : List Char := pairs.flatMap fun pair => [pair.1, pair.2]

section Marked

variable {pairs : List (Char × Char)} {bytes : List UInt8} {blanks : List Char}

theorem ne_x_of_mem_digits : ∀ c ∈ digits, c ≠ 'x' := by
  have hx : 'x' ∉ digits := by decide
  exact fun _ hc => ne_of_mem_of_not_mem hc hx

theorem ne_x_of_isBlank (hblanks : ∀ c ∈ blanks, Blank.isBlank c) : ∀ c ∈ blanks, c ≠ 'x' := by
  rintro c hc rfl
  exact absurd (hblanks _ hc) (by decide)

theorem exists_isPairOf (hpairs : List.Forall₂ IsPairOf pairs bytes) :
    ∀ pair ∈ pairs, ∃ b, IsPairOf pair b := by
  induction hpairs with
  | nil => exact nofun
  | cons hpair _ ih => exact List.forall_mem_cons.mpr ⟨⟨_, hpair⟩, ih⟩

theorem mem_digits_of_mem_bare (hpairs : List.Forall₂ IsPairOf pairs bytes) :
    ∀ c ∈ bare pairs, c ∈ digits := by
  intro c hc
  obtain ⟨pair, hpair, hc⟩ := List.mem_flatMap.mp hc
  obtain ⟨b, hb⟩ := exists_isPairOf hpairs pair hpair
  exact hb.mem_digits c hc

theorem replace_marked (hpairs : List.Forall₂ IsPairOf pairs bytes)
    (hblanks : ∀ c ∈ blanks, Blank.isBlank c) :
    Search.replace ['0', 'x'] [] (marked pairs ++ blanks) = bare pairs ++ blanks := by
  induction hpairs with
  | nil => exact Search.replace_of_ne (ne_x_of_isBlank hblanks)
  | @cons pair b pairs bytes hpair hrest ih =>
    have hhead : (marked pairs ++ blanks).head? ≠ some 'x' := by
      cases pairs with
      | nil =>
        intro h
        exact ne_x_of_isBlank hblanks 'x' (List.mem_of_head? h) rfl
      | cons => simp [marked]
    calc Search.replace ['0', 'x'] [] (marked (pair :: pairs) ++ blanks)
        = Search.replace ['0', 'x'] []
            ('0' :: 'x' :: ([pair.1, pair.2] ++ (marked pairs ++ blanks))) := rfl
      _ = [pair.1, pair.2] ++ Search.replace ['0', 'x'] [] (marked pairs ++ blanks) := by
          rw [Search.replace_mark, Search.replace_append_of_ne
            (fun c hc => ne_x_of_mem_digits c (hpair.mem_digits c hc)) hhead]
      _ = bare (pair :: pairs) ++ blanks := by
          rw [ih]
          rfl

theorem digitsOf_marked (hpairs : List.Forall₂ IsPairOf pairs bytes)
    (hblanks : ∀ c ∈ blanks, Blank.isBlank c) : digitsOf (marked pairs ++ blanks) = bare pairs := by
  have hall : digits.all (fun c => !Blank.isBlank c) = true := by decide
  have hblank := List.all_eq_true.mp hall
  have hplain : ∀ c ∈ bare pairs ++ blanks, c ≠ 'x' := by
    intro c hc
    rcases List.mem_append.mp hc with hc | hc
    · exact ne_x_of_mem_digits c (mem_digits_of_mem_bare hpairs c hc)
    · exact ne_x_of_isBlank hblanks c hc
  have hbare : (bare pairs).filter (fun c => !Blank.isBlank c) = bare pairs :=
    List.filter_eq_self.mpr fun c hc => hblank c (mem_digits_of_mem_bare hpairs c hc)
  have hnone : blanks.filter (fun c => !Blank.isBlank c) = [] :=
    List.filter_eq_nil_iff.mpr fun c hc => by simp [hblanks c hc]
  rw [digitsOf, replace_marked hpairs hblanks, Search.replace_of_ne hplain, List.filter_append,
    hbare, hnone, List.append_nil]

theorem pairs?_bare (hpairs : List.Forall₂ IsPairOf pairs bytes) :
    pairs? (bare pairs) = some bytes := by
  induction hpairs with
  | nil => rfl
  | @cons pair b pairs bytes hpair _ ih =>
    calc pairs? (bare (pair :: pairs)) = pairs? (pair.1 :: pair.2 :: bare pairs) := rfl
      _ = some (b :: bytes) := by simp [pairs?, hpair.pair?, ih]

theorem decode?_marked (hpairs : List.Forall₂ IsPairOf pairs bytes) (hbytes : bytes ≠ [])
    (hblanks : ∀ c ∈ blanks, Blank.isBlank c) : decode? (marked pairs ++ blanks) = some bytes := by
  cases hpairs with
  | nil => exact absurd rfl hbytes
  | cons hpair hrest =>
    have hall := hrest.cons hpair
    rw [decode?, digitsOf_marked hall hblanks]
    exact pairs?_bare hall

end Marked

end Hex

namespace Utf8

/-- The byte at a place, as a number. -/
def byte? (bytes : ByteArray) (i : Nat) : Option Nat := (bytes.data.toList[i]?).map UInt8.toNat

theorem byte?_eq (bytes : ByteArray) (i : Nat) :
    (if h : i < bytes.size then some (bytes[i]).toNat else none) = byte? bytes i := by
  by_cases h : i < bytes.size
  · have h' : i < bytes.data.toList.length := h
    rw [dif_pos h, byte?, List.getElem?_eq_getElem h']
    rfl
  · have h' : bytes.data.toList.length ≤ i := Nat.le_of_not_lt h
    rw [dif_neg h, byte?, List.getElem?_eq_none h']
    rfl

section Sequences

variable {bytes : ByteArray} {i a b c d : Nat}

theorem charAt_one (ha : byte? bytes i = some a) (h : a < 0x80) :
    charAt bytes i = .ok (Char.ofNat a, 1) := by
  simp only [charAt, byte?_eq, Nat.add_zero, ha, if_pos h]

theorem charAt_two (ha : byte? bytes i = some a) (hb : byte? bytes (i + 1) = some b)
    (h : 0xC2 ≤ a ∧ a ≤ 0xDF) (htail : isTail b) :
    charAt bytes i = .ok (Char.ofNat ((a - 0xC0) * 64 + (b - 0x80)), 2) := by
  have hlong : ¬ a < 0x80 := by omega
  simp only [charAt, byte?_eq, Nat.add_zero, ha, hb, if_neg hlong, if_pos h, if_pos htail]

theorem charAt_three (ha : byte? bytes i = some a) (hb : byte? bytes (i + 1) = some b)
    (hc : byte? bytes (i + 2) = some c) (h : 0xE0 ≤ a ∧ a ≤ 0xEF) (hsecond : second3 a b)
    (htail : isTail c) :
    charAt bytes i =
      .ok (Char.ofNat ((a - 0xE0) * 4096 + (b - 0x80) * 64 + (c - 0x80)), 3) := by
  have hlong : ¬ a < 0x80 := by omega
  have hlonger : ¬ (0xC2 ≤ a ∧ a ≤ 0xDF) := by omega
  simp [charAt, byte?_eq, ha, hb, hc, hlong, hlonger, h, hsecond, htail]

theorem charAt_four (ha : byte? bytes i = some a) (hb : byte? bytes (i + 1) = some b)
    (hc : byte? bytes (i + 2) = some c) (hd : byte? bytes (i + 3) = some d)
    (h : 0xF0 ≤ a ∧ a ≤ 0xF4) (hsecond : second4 a b) (htail : isTail c) (htail' : isTail d) :
    charAt bytes i =
      .ok (Char.ofNat ((a - 0xF0) * 262144 + (b - 0x80) * 4096 + (c - 0x80) * 64 +
        (d - 0x80)), 4) := by
  have hlong : ¬ a < 0x80 := by omega
  have hlonger : ¬ (0xC2 ≤ a ∧ a ≤ 0xDF) := by omega
  have hlongest : ¬ (0xE0 ≤ a ∧ a ≤ 0xEF) := by omega
  simp [charAt, byte?_eq, ha, hb, hc, hd, hlong, hlonger, hlongest, h, hsecond, htail, htail']

end Sequences

theorem ofNat_eq_of_eq {c : Char} {n : Nat} (h : n = c.val.toNat) : Char.ofNat n = c := by
  rw [h]
  exact Char.ofNat_toNat c

/-- A character is read at the place where its bytes begin. -/
theorem charAt_encoded {bytes : ByteArray} {before rest : List UInt8} {c : Char}
    (h : bytes.data.toList = before ++ (String.utf8EncodeChar c ++ rest)) :
    charAt bytes before.length = .ok (c, (String.utf8EncodeChar c).length) := by
  have hbyte : ∀ k n, (String.utf8EncodeChar c)[k]? = some (UInt8.ofNat n) → n < 256 →
      byte? bytes (before.length + k) = some n := by
    intro k n hk hn
    have hlt := (List.getElem?_eq_some_iff.mp hk).1
    rw [byte?, h, List.getElem?_append_right (by omega), Nat.add_sub_cancel_left,
      List.getElem?_append_left hlt, hk, Option.map_some, UInt8.toNat_ofNat_of_lt' hn]
  have hvalid : c.val.toNat < 0xD800 ∨ 0xDFFF < c.val.toNat ∧ c.val.toNat < 0x110000 := c.valid
  rw [String.utf8EncodeChar] at hbyte ⊢
  generalize hv : c.val.toNat = v at *
  split_ifs at hbyte ⊢ with h₁ h₂ h₃
  · have ha := hbyte 0 v rfl (by omega)
    rw [charAt_one (i := before.length) ha (by omega), ofNat_eq_of_eq hv.symm]
    rfl
  · have ha := hbyte 0 (v / 64 % 32 + 192) rfl (by omega)
    have hb := hbyte 1 (v % 64 + 128) rfl (by omega)
    rw [charAt_two (i := before.length) ha hb (by omega) (by simp [isTail]; omega), ofNat_eq_of_eq (c := c) (by omega)]
    rfl
  · have ha := hbyte 0 (v / 4096 % 16 + 224) rfl (by omega)
    have hb := hbyte 1 (v / 64 % 64 + 128) rfl (by omega)
    have hc := hbyte 2 (v % 64 + 128) rfl (by omega)
    have hsecond : second3 (v / 4096 % 16 + 224) (v / 64 % 64 + 128) := by
      simp [second3, isTail]
      grind
    rw [charAt_three (i := before.length) ha hb hc (by omega) hsecond (by simp [isTail]; omega),
      ofNat_eq_of_eq (c := c) (by omega)]
    rfl
  · have ha := hbyte 0 (v / 262144 % 8 + 240) rfl (by omega)
    have hb := hbyte 1 (v / 4096 % 64 + 128) rfl (by omega)
    have hc := hbyte 2 (v / 64 % 64 + 128) rfl (by omega)
    have hd := hbyte 3 (v % 64 + 128) rfl (by omega)
    have hsecond : second4 (v / 262144 % 8 + 240) (v / 4096 % 64 + 128) := by
      simp [second4, isTail]
      grind
    rw [charAt_four (i := before.length) ha hb hc hd (by omega) hsecond (by simp [isTail]; omega)
      (by simp [isTail]; omega), ofNat_eq_of_eq (c := c) (by omega)]
    rfl

theorem decodeFrom_encoded {bytes : ByteArray} (cs : List Char) {before : List UInt8} {fuel : Nat}
    (acc : Array Char) (h : bytes.data.toList = before ++ cs.flatMap String.utf8EncodeChar)
    (hfuel : (cs.flatMap String.utf8EncodeChar).length ≤ fuel) :
    decodeFrom bytes fuel before.length acc = .ok (acc ++ cs.toArray) := by
  have hsize : bytes.size = before.length + (cs.flatMap String.utf8EncodeChar).length := by
    rw [← List.length_append, ← h]
    rfl
  induction cs generalizing before fuel acc with
  | nil =>
    have hend : ¬ before.length < bytes.size := by simp [hsize]
    cases fuel <;> simp [decodeFrom, hend]
  | cons c cs ih =>
    have hpos : 0 < (String.utf8EncodeChar c).length := by
      rw [String.length_utf8EncodeChar]
      exact c.utf8Size_pos
    rw [List.flatMap_cons] at h hsize hfuel
    rw [List.length_append] at hsize hfuel
    obtain ⟨fuel, rfl⟩ : ∃ less, fuel = less + 1 := ⟨fuel - 1, by omega⟩
    have hmore : before.length < bytes.size := by omega
    have hrest : decodeFrom bytes fuel (before ++ String.utf8EncodeChar c).length (acc.push c) =
        .ok (acc.push c ++ cs.toArray) :=
      ih (acc.push c) (by rw [h, List.append_assoc]) (by omega) (by rw [List.length_append]; omega)
    rw [decodeFrom, if_pos hmore, charAt_encoded h]
    simpa using hrest

theorem toList_toUTF8 (s : String) : s.toUTF8.data.toList = s.toList.flatMap String.utf8EncodeChar := by
  rw [String.toUTF8_eq_toByteArray, ← String.utf8Encode_toList, List.utf8Encode, List.data_toByteArray]

/-- Text that is written as bytes is read back. -/
theorem decode_toUTF8 (s : String) : decode s.toUTF8 = .ok s.toList.toArray := by
  have hbytes := toList_toUTF8 s
  have hfuel : (s.toList.flatMap String.utf8EncodeChar).length ≤ s.toUTF8.size := by
    rw [← hbytes]
    exact Nat.le_refl _
  have hall : decodeFrom s.toUTF8 s.toUTF8.size ([] : List UInt8).length
      (Array.emptyWithCapacity s.toUTF8.size) = .ok (#[] ++ s.toList.toArray) :=
    decodeFrom_encoded s.toList _ hbytes hfuel
  simpa [decode] using hall

end Utf8

end CodeAudit
