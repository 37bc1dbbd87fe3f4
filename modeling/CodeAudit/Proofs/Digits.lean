import CodeAudit.Proofs.Encodings
import CodeAudit.Source.Escape
import CodeAudit.Source.Numeral
import Mathlib.Data.List.Forall2
import Mathlib.Data.Nat.Digits.Defs

/-!
# Digits and the numbers they stand for

A digit above nine is a letter, in either case. Digits in a row are read with the most significant one
first. This is what the numbers in escapes and in literals are compared with.
-/

namespace CodeAudit

/-- A digit of a base, in either case, and its value. -/
def IsDigit (base : Nat) (c : Char) (v : Nat) : Prop :=
  v < base ∧ (c = v.digitChar ∨ c = v.digitChar.toUpper)

instance (base : Nat) (c : Char) (v : Nat) : Decidable (IsDigit base c v) :=
  inferInstanceAs (Decidable (_ ∧ _))

/-- The number that digits of some base with these values stand for. -/
def numberOf (base : Nat) (values : List Nat) : Nat := Nat.ofDigits base values.reverse

/-- Digits of a base, and the number that they stand for. -/
def Denotes (base : Nat) (digits : List Char) (n : Nat) : Prop :=
  ∃ values, List.Forall₂ (IsDigit base) digits values ∧ numberOf base values = n

/-- A text that does not begin with a digit of a base. -/
def NoDigit (base : Nat) (text : List Char) : Prop := ∀ c ∈ text.head?, ∀ v, ¬ IsDigit base c v

namespace IsDigit

variable {base v : Nat} {c : Char}

theorem mono {larger : Nat} (h : IsDigit base c v) (hle : base ≤ larger) : IsDigit larger c v :=
  ⟨Nat.lt_of_lt_of_le h.1 hle, h.2⟩

theorem hexDigit? (h : IsDigit 16 c v) : CharSet.hexDigit? c = some v := by
  have hlower : ∀ v < 16, CharSet.hexDigit? v.digitChar = some v := by decide
  have hupper : ∀ v < 16, CharSet.hexDigit? v.digitChar.toUpper = some v := by decide
  obtain ⟨hlt, rfl | rfl⟩ := h
  · exact hlower v hlt
  · exact hupper v hlt

end IsDigit

theorem lt_of_forall₂ {base : Nat} {digits : List Char} {values : List Nat}
    (h : List.Forall₂ (IsDigit base) digits values) : ∀ v ∈ values, v < base := by
  induction h with
  | nil => exact nofun
  | cons hdigit _ ih => exact List.forall_mem_cons.mpr ⟨hdigit.1, ih⟩

/-- A number with some digits is less than the power of the base. -/
theorem Denotes.lt {base n : Nat} {digits : List Char} (h : Denotes base digits n) (hbase : 1 < base) :
    n < base ^ digits.length := by
  obtain ⟨values, hdigits, rfl⟩ := h
  rw [hdigits.length_eq, ← List.length_reverse]
  apply Nat.ofDigits_lt_base_pow_length hbase
  exact fun v hv => lt_of_forall₂ hdigits v (List.mem_reverse.mp hv)

theorem Denotes.isDigit {base n : Nat} {digits : List Char} (h : Denotes base digits n) :
    ∀ c ∈ digits, ∃ v, IsDigit base c v := by
  obtain ⟨values, hdigits, -⟩ := h
  induction hdigits with
  | nil => exact nofun
  | cons hdigit _ ih => exact List.forall_mem_cons.mpr ⟨⟨_, hdigit⟩, ih⟩

theorem hexDigit?_eq_some_iff {c : Char} {v : Nat} : CharSet.hexDigit? c = some v ↔ IsDigit 16 c v := by
  refine ⟨fun h => ?_, IsDigit.hexDigit?⟩
  have hall : Hex.digits.all (fun c => (CharSet.hexDigit? c).all fun v => decide (IsDigit 16 c v)) = true := by
    decide
  have hc := List.all_eq_true.mp hall c (Hex.mem_digits_of_digit? h)
  rw [h] at hc
  exact of_decide_eq_true hc

/-- A row of digits is worked out from left to right. -/
theorem numberOf_eq_foldl (base : Nat) (values : List Nat) :
    numberOf base values = values.foldl (fun n v => n * base + v) 0 := by
  rw [numberOf, Nat.ofDigits_eq_foldr, List.foldr_reverse]
  simp only [Nat.cast_id, Nat.add_comm, Nat.mul_comm]

namespace Numeral

variable {base v : Nat} {c : Char}

theorem digit?_eq_some_iff (h : base ≤ 16) : digit? base c = some v ↔ IsDigit base c v := by
  rw [digit?, Option.filter_eq_some_iff, hexDigit?_eq_some_iff, decide_eq_true_eq]
  constructor
  · rintro ⟨hdigit, hlt⟩
    exact ⟨hlt, hdigit.2⟩
  · intro hdigit
    exact ⟨hdigit.mono h, hdigit.1⟩

theorem digits?_of_forall₂ {cs : List Char} {values : List Nat} (hbase : base ≤ 16)
    (h : List.Forall₂ (IsDigit base) cs values) (hne : cs ≠ []) :
    digits? base cs = some (numberOf base values) := by
  have hfold (n : Nat) : cs.foldlM (fun n c => (digit? base c).map fun d => n * base + d) n =
      some (values.foldl (fun n v => n * base + v) n) := by
    clear hne
    induction h generalizing n with
    | nil => rfl
    | @cons c v cs values hdigit _ ih =>
      rw [List.foldlM_cons, (digit?_eq_some_iff hbase).mpr hdigit]
      exact ih _
  rw [digits?, if_neg (by simpa using hne), hfold, numberOf_eq_foldl]

end Numeral

namespace Escape

theorem valueOf_of_denotes {base n : Nat} {cs : List Char} (hbase : base ≤ 16)
    (h : Denotes base cs n) : valueOf base cs = n := by
  obtain ⟨values, hdigits, rfl⟩ := h
  have hfold (n : Nat) : cs.foldl (fun n c => n * base + (CharSet.hexDigit? c).getD 0) n =
      values.foldl (fun n v => n * base + v) n := by
    induction hdigits generalizing n with
    | nil => rfl
    | @cons c v cs values hdigit _ ih =>
      rw [List.foldl_cons, List.foldl_cons, (hdigit.mono hbase).hexDigit?]
      exact ih _
  rw [valueOf, hfold, numberOf_eq_foldl]

/-- Digits stand for a number. -/
theorem exists_denotes {base : Nat} {cs : List Char} (h : ∀ c ∈ cs, ∃ v, IsDigit base c v) :
    ∃ n, Denotes base cs n := by
  induction cs with
  | nil => exact ⟨_, [], .nil, rfl⟩
  | cons c cs ih =>
    rw [List.forall_mem_cons] at h
    obtain ⟨⟨v, hv⟩, hcs⟩ := h
    obtain ⟨_, values, hvalues, -⟩ := ih hcs
    exact ⟨_, v :: values, .cons hv hvalues, rfl⟩

end Escape

end CodeAudit
