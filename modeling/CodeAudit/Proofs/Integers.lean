import CodeAudit.Proofs.Digits
import CodeAudit.Source.Meaning
import Mathlib.Data.List.TakeDrop

/-!
# The values of integer literals

An integer literal is decimal, or it has a mark for another base after a zero. There can be an underscore
before each digit except the first one of a decimal literal. A literal of any length is read with its
value, or it is not read as an integer at all.
-/

namespace CodeAudit

/-- Digits of a base, some of them with an underscore before, and their values. -/
inductive Grouped (base : Nat) : List Char → List Nat → Prop
  | nil : Grouped base [] []
  | digit {c : Char} {v : Nat} {cs : List Char} {vs : List Nat} (first : IsDigit base c v)
      (rest : Grouped base cs vs) : Grouped base (c :: cs) (v :: vs)
  | separated {c : Char} {v : Nat} {cs : List Char} {vs : List Nat} (first : IsDigit base c v)
      (rest : Grouped base cs vs) : Grouped base ('_' :: c :: cs) (v :: vs)

/-- The marks for bases other than ten. -/
def baseMarks : List (Char × Nat) := [('x', 16), ('X', 16), ('o', 8), ('O', 8), ('b', 2), ('B', 2)]

/-- An integer literal with its base and its value. A decimal literal that begins with a zero consists of
zeros. -/
inductive IntegerLiteral : List Char → Nat → Nat → Prop
  | zero {cs : List Char} {vs : List Nat} (rest : Grouped 10 cs vs) (zeros : ∀ v ∈ vs, v = 0) :
      IntegerLiteral ('0' :: cs) 10 0
  | decimal {c : Char} {v : Nat} {cs : List Char} {vs : List Nat} (first : IsDigit 10 c v)
      (nonzero : v ≠ 0) (rest : Grouped 10 cs vs) : IntegerLiteral (c :: cs) 10 (numberOf 10 (v :: vs))
  | marked {mark : Char} {base : Nat} {cs : List Char} {vs : List Nat} (mem : (mark, base) ∈ baseMarks)
      (digits : Grouped base cs vs) (nonempty : vs ≠ []) :
      IntegerLiteral ('0' :: mark :: cs) base (numberOf base vs)

namespace IsDigit

variable {base v : Nat} {c : Char}

theorem ne_underscore (h : IsDigit base c v) (hbase : base ≤ 16) : c ≠ '_' := by
  rintro rfl
  have hnone : CharSet.hexDigit? '_' = none := by decide
  rw [(h.mono hbase).hexDigit?] at hnone
  cases hnone

theorem isDigit (h : IsDigit 10 c v) : c.isDigit := by
  have hlower : ∀ v < 10, v.digitChar.isDigit := by decide
  have hupper : ∀ v < 10, v.digitChar.toUpper.isDigit := by decide
  obtain ⟨hlt, rfl | rfl⟩ := h
  · exact hlower v hlt
  · exact hupper v hlt

theorem not_mem_baseMarks (h : IsDigit 10 c v) : c ∉ baseMarks.map Prod.fst := by
  intro hmem
  obtain ⟨mark, hmark, rfl⟩ := List.mem_map.mp hmem
  have hmarks : ∀ mark ∈ baseMarks, mark.1.isDigit = false := by decide
  have hdigit := h.isDigit
  rw [hmarks mark hmark] at hdigit
  cases hdigit

end IsDigit

theorem numberOf_eq_zero {base : Nat} {vs : List Nat} (h : ∀ v ∈ vs, v = 0) : numberOf base vs = 0 := by
  obtain ⟨n, rfl⟩ : ∃ n, vs = List.replicate n 0 := ⟨_, List.eq_replicate_of_mem h⟩
  rw [numberOf, List.reverse_replicate, Nat.ofDigits_replicate_zero]

namespace Numeral

/-- Without the underscores, the digits are left. -/
theorem forall₂_filter {base : Nat} {cs : List Char} {vs : List Nat} (h : Grouped base cs vs)
    (hbase : base ≤ 16) : List.Forall₂ (IsDigit base) (cs.filter (· != '_')) vs := by
  have hkeep {c : Char} {v : Nat} (hc : IsDigit base c v) : (c != '_') = true :=
    bne_iff_ne.mpr (hc.ne_underscore hbase)
  induction h with
  | nil => exact .nil
  | digit hfirst _ ih =>
    rw [List.filter_cons, if_pos (hkeep hfirst)]
    exact .cons hfirst ih
  | separated hfirst _ ih =>
    rw [List.filter_cons_of_neg (by decide), List.filter_cons, if_pos (hkeep hfirst)]
    exact .cons hfirst ih

/-- The digits of a literal without underscores: all of a decimal literal, and what follows the mark of
another one. -/
inductive Bare : List Char → Nat → Nat → Prop
  | decimal {cs : List Char} {vs : List Nat} (digits : List.Forall₂ (IsDigit 10) cs vs)
      (nonempty : cs ≠ []) : Bare cs 10 (numberOf 10 vs)
  | marked {mark : Char} {base : Nat} {cs : List Char} {vs : List Nat} (mem : (mark, base) ∈ baseMarks)
      (digits : List.Forall₂ (IsDigit base) cs vs) (nonempty : cs ≠ []) :
      Bare ('0' :: mark :: cs) base (numberOf base vs)

theorem bare_of_literal {text : String} {base n : Nat} (h : IntegerLiteral text.toList base n) :
    Bare (bare text) base n := by
  rw [bare]
  generalize text.toList = cs at h
  cases h with
  | @zero cs vs hrest hzeros =>
    have hzero : IsDigit 10 '0' 0 := by decide
    have hvalue : numberOf 10 (0 :: vs) = 0 := numberOf_eq_zero (List.forall_mem_cons.mpr ⟨rfl, hzeros⟩)
    rw [← hvalue]
    exact .decimal (forall₂_filter (.digit hzero hrest) (by decide)) (by simp)
  | @decimal c v cs vs hfirst _ hrest =>
    have hdigits := forall₂_filter (.digit hfirst hrest) (by decide)
    refine .decimal hdigits fun hnil => ?_
    rw [hnil] at hdigits
    cases hdigits
  | @marked mark base cs vs hmem hdigits hne =>
    have hmarks : ∀ p ∈ baseMarks, (p.1 != '_') = true ∧ p.2 ≤ 16 := by decide
    have hbare := forall₂_filter hdigits (hmarks _ hmem).2
    rw [List.filter_cons_of_pos (by decide), List.filter_cons, if_pos (hmarks _ hmem).1]
    refine .marked hmem hbare fun hnil => ?_
    rw [hnil] at hbare
    cases hbare
    exact hne rfl

namespace Bare

variable {cs : List Char} {base n : Nat}

theorem natural?_of_not_mem {c d : Char} {rest : List Char} (h : d ∉ baseMarks.map Prod.fst) :
    Numeral.natural? (c :: d :: rest) = digits? 10 (c :: d :: rest) := by
  simp only [baseMarks, List.map_cons, List.map_nil, List.mem_cons, List.not_mem_nil, or_false, not_or] at h
  unfold Numeral.natural?
  split <;> simp_all

/-- A literal of any size has its value. -/
theorem natural? (h : Bare cs base n) : Numeral.natural? cs = some n := by
  cases h with
  | decimal hdigits hne =>
    rw [← digits?_of_forall₂ (by decide) hdigits hne]
    cases hdigits with
    | nil => exact absurd rfl hne
    | cons _ hrest =>
      cases hrest with
      | nil => simp [Numeral.natural?]
      | cons hsecond _ => exact natural?_of_not_mem hsecond.not_mem_baseMarks
  | @marked mark _ cs vs hmem hdigits hne =>
    have hbase : ∀ p ∈ baseMarks, p.2 ≤ 16 := by decide
    have hread : ∀ p ∈ baseMarks, Numeral.natural? ('0' :: p.1 :: cs) = digits? p.2 cs := by
      simp [baseMarks, Numeral.natural?]
    rw [hread _ hmem, digits?_of_forall₂ (hbase _ hmem) hdigits hne]

/-- A decimal literal can be read as a fraction, and no other one can. -/
theorem isSome_fraction? {text : String} (h : Bare (bare text) base n) :
    (fraction? text).isSome ↔ base = 10 := by
  generalize hbare : bare text = cs at h
  cases h with
  | @decimal cs vs hdigits hne =>
    have hall : ∀ c ∈ cs, c.isDigit := by
      have hdenotes : Denotes 10 cs (numberOf 10 vs) := ⟨vs, hdigits, rfl⟩
      intro c hc
      obtain ⟨v, hv⟩ := hdenotes.isDigit c hc
      exact hv.isDigit
    have htake : cs.takeWhile Char.isDigit = cs := List.takeWhile_eq_self_iff.mpr hall
    have hdrop : cs.dropWhile Char.isDigit = [] := List.dropWhile_eq_nil_iff.mpr hall
    simp [fraction?, hbare, List.span_eq_takeWhile_dropWhile, htake, hdrop, exponent?,
      digits?_of_forall₂ (by decide) hdigits hne]
  | @marked mark _ cs vs hmem hdigits hne =>
    have hmarks : ∀ p ∈ baseMarks, p.1.isDigit = false ∧ p.1 ≠ '.' ∧ p.1 ≠ 'e' ∧ p.1 ≠ 'E' ∧ p.2 ≠ 10 := by
      decide
    obtain ⟨hdigit, hdot, he, hE, hbase⟩ := hmarks _ hmem
    simp [fraction?, hbare, List.span_eq_takeWhile_dropWhile, hdigit, hdot, he, hE, hbase, exponent?]

end Bare

/-- A literal is an integer if it fits into sixty-four bits with a sign. -/
theorem integer?_of_literal {text : String} {base n : Nat} (h : IntegerLiteral text.toList base n) :
    integer? text = if n ≤ 2 ^ 63 - 1 then some (Int64.ofNat n) else none := by
  have hbound : 1 <<< 63 = 2 ^ 63 := rfl
  have hiff : n < 2 ^ 63 ↔ n ≤ 2 ^ 63 - 1 := by omega
  rw [integer?, (bare_of_literal h).natural?, Option.bind_some, hbound]
  simp only [hiff]

end Numeral

namespace Reading

variable {text : String} {base n : Nat}

/-- The number that an integer literal is read as. -/
theorem number?_of_fits (h : IntegerLiteral text.toList base n) (hfits : n ≤ 2 ^ 63 - 1) :
    number? .integer text = some (.int (Int64.ofNat n)) := by
  rw [number?, Numeral.integer?_of_literal h, if_pos hfits]
  rfl

theorem number?_of_large (h : IntegerLiteral text.toList base n) (hlarge : 2 ^ 63 - 1 < n) :
    number? .integer text = (Numeral.fraction? text).map .float := by
  rw [number?, Numeral.integer?_of_literal h, if_neg (Nat.not_le.mpr hlarge)]
  rfl

end Reading

/-- The shape of a token that is an integer literal. -/
theorem Tree.shape_integer (role : Option Role) (lexeme : Lexeme) :
    (Tree.leaf (.token .integer) role lexeme).read.expr.shape =
      ((Reading.number? .integer lexeme.text).map Shape.num).getD (.other "integer" []) := by
  have hread : (Tree.leaf (.token .integer) role lexeme).read.expr =
      Reading.token (.leaf (.token .integer) role lexeme) .integer := rfl
  have htext : (Tree.leaf (.token .integer) role lexeme).text = lexeme.text := rfl
  simp only [hread, Reading.token, htext]
  cases Reading.number? .integer lexeme.text <;> rfl

/-- An integer literal is read as an integer exactly if its value fits into sixty-four bits with a sign, and
then with that value. A larger decimal literal is read as a fraction, and a larger one with another base has
no value. -/
theorem Tree.integer_literal_is_read {lexeme : Lexeme} {base value : Nat}
    (literal : IntegerLiteral lexeme.text.toList base value) (role : Option Role) :
    let n := (Tree.leaf (.token .integer) role lexeme).read.expr
    ((∃ i, n.shape = .num (.int i) ∧ i.toInt = value) ↔ value ≤ 2 ^ 63 - 1) ∧
    (∀ i, n.shape = .num (.int i) → i.toInt = value) ∧
    (2 ^ 63 - 1 < value →
      (base = 10 → ∃ x, n.shape = .num (.float x)) ∧ (base ≠ 10 → n.shape = .other "integer" [])) := by
  intro n
  have hshape : n.shape = _ := Tree.shape_integer role lexeme
  rcases Nat.lt_or_ge (2 ^ 63 - 1) value with hlarge | hfits
  · rw [Reading.number?_of_large literal hlarge] at hshape
    have hfraction := (Numeral.bare_of_literal literal).isSome_fraction?
    have hother : ∀ i, n.shape ≠ .num (.int i) := by
      intro i
      rw [hshape]
      cases Numeral.fraction? lexeme.text <;> nofun
    refine ⟨⟨?_, fun hle => absurd hlarge (Nat.not_lt.mpr hle)⟩, fun i hi => absurd hi (hother i),
      fun _ => ⟨fun hbase => ?_, fun hbase => ?_⟩⟩
    · rintro ⟨i, hi, -⟩
      exact absurd hi (hother i)
    · obtain ⟨x, hx⟩ := Option.isSome_iff_exists.mp (hfraction.mpr hbase)
      rw [hx] at hshape
      exact ⟨x, hshape⟩
    · have hnone := Option.not_isSome_iff_eq_none.mp (mt hfraction.mp hbase)
      rwa [hnone] at hshape
  · rw [Reading.number?_of_fits literal hfits] at hshape
    have hvalue : (Int64.ofNat value).toInt = value := Int64.toInt_ofNat_of_lt (by omega)
    refine ⟨⟨fun _ => hfits, fun _ => ⟨_, hshape, hvalue⟩⟩, fun i hi => ?_, fun hlarge => ?_⟩
    · rw [hshape] at hi
      cases hi
      exact hvalue
    · exact absurd hlarge (Nat.not_lt.mpr hfits)

/-- The greatest hexadecimal number that fits, in both cases and with underscores, and the least decimal
number that does not. -/
theorem Tree.integer_literal_is_read_at_the_limit :
    let fits : Lexeme := ⟨"", ⟨1, 1⟩, "0X_7fff_ffff_FFFF_ffff"⟩
    let large : Lexeme := ⟨"", ⟨1, 1⟩, "9223372036854775808"⟩
    IntegerLiteral fits.text.toList 16 (2 ^ 63 - 1) ∧ IntegerLiteral large.text.toList 10 (2 ^ 63) ∧
      (∃ i, (Tree.leaf (.token .integer) none fits).read.expr.shape = .num (.int i) ∧
        i.toInt = (2 ^ 63 - 1 : Nat)) ∧
      ∃ x, (Tree.leaf (.token .integer) none large).read.expr.shape = .num (.float x) := by
  intro fits large
  have hfits : IntegerLiteral fits.text.toList 16 (2 ^ 63 - 1) := by
    have hdigits : Grouped 16 "_7fff_ffff_FFFF_ffff".toList (7 :: List.replicate 15 15) := by
      repeat first | exact .nil | refine .digit (by decide) ?_ | refine .separated (by decide) ?_
    have hvalue : numberOf 16 (7 :: List.replicate 15 15) = 2 ^ 63 - 1 := by decide
    have htext : fits.text.toList = '0' :: 'X' :: "_7fff_ffff_FFFF_ffff".toList := by decide
    rw [← hvalue, htext]
    exact .marked (show ('X', 16) ∈ baseMarks by decide) hdigits (by decide)
  have hlarge : IntegerLiteral large.text.toList 10 (2 ^ 63) := by
    have hdigits : Grouped 10 "223372036854775808".toList
        [2, 2, 3, 3, 7, 2, 0, 3, 6, 8, 5, 4, 7, 7, 5, 8, 0, 8] := by
      repeat first | exact .nil | refine .digit (by decide) ?_
    have hvalue : numberOf 10 [9, 2, 2, 3, 3, 7, 2, 0, 3, 6, 8, 5, 4, 7, 7, 5, 8, 0, 8] = 2 ^ 63 := by decide
    have htext : large.text.toList = '9' :: "223372036854775808".toList := by decide
    rw [← hvalue, htext]
    exact .decimal (show IsDigit 10 '9' 9 by decide) (by decide) hdigits
  exact ⟨hfits, hlarge, (integer_literal_is_read hfits none).1.mpr (Nat.le_refl _),
    ((integer_literal_is_read hlarge none).2.2 (by decide)).1 rfl⟩

end CodeAudit
