import CodeAudit.Proofs.HexTexts
import CodeAudit.Proofs.Replacing

/-!
# Which texts are read as hexadecimal

`Leaves` says what remains of a text once all marks and blanks are deleted, without a strategy for finding
the marks: a mark is deleted between segments in which it does not occur. Bytes are read if the remaining
characters are pairs of digits, and then they are the values of the pairs. Besides, a plus sign may stand for
the first digit of a pair. It adds nothing to the value, and so a text that is no sequence of digits is read
all the same. `decode_reads_digits_iff` says that this is the only such case.
-/

namespace CodeAudit

namespace Search

variable {piece : List Char}

/-- The second text is the first one without the occurrences of a piece. -/
def IsWithout (piece text rest : List Char) : Prop :=
  ∃ segments, text = piece.intercalate segments ∧ (∀ segment ∈ segments, ¬ piece <:+: segment) ∧
    rest = segments.flatten

theorem intercalate_nil_left (segments : List (List Char)) : List.intercalate [] segments = segments.flatten := by
  induction segments with
  | nil => rfl
  | cons segment segments ih => cases segments <;> simp_all

theorem isWithout_replace (hpiece : piece ≠ []) (text : List Char) :
    IsWithout piece text (replace piece [] text) := by
  obtain ⟨first, others, htext, hfree, hreplace⟩ := exists_segments hpiece text
  exact ⟨first :: others, htext, hfree, (hreplace []).trans (intercalate_nil_left _)⟩

theorem replace_append_of_free {m : Char} {segment : List Char} (hfree : ¬ [m, 'x'] <:+: segment) {rest : List Char}
    (hrest : rest.head? ≠ some 'x') : replace [m, 'x'] [] (segment ++ rest) = segment ++ replace [m, 'x'] [] rest := by
  induction segment with
  | nil => rfl
  | cons c cs ih =>
    have hbegins : ¬ [m, 'x'] <+: c :: (cs ++ rest) := by
      intro h
      obtain ⟨rfl, hx⟩ := List.cons_prefix_cons.mp h
      cases cs with
      | nil =>
        obtain ⟨later, hlater⟩ := hx
        exact hrest (congrArg List.head? hlater.symm)
      | cons c' cs =>
        obtain ⟨rfl, -⟩ := List.cons_prefix_cons.mp hx
        exact hfree ⟨[], cs, rfl⟩
    rw [List.cons_append, replace_cons_of_absent hbegins, List.cons_append,
      ih fun h => hfree (List.infix_cons h)]

/-- There is one way to delete a mark. -/
theorem isWithout_mark_iff {m : Char} (hm : m ≠ 'x') {text rest : List Char} :
    IsWithout [m, 'x'] text rest ↔ rest = replace [m, 'x'] [] text := by
  refine ⟨?_, fun h => h ▸ isWithout_replace (List.cons_ne_nil _ _) text⟩
  rintro ⟨segments, rfl, hfree, rfl⟩
  induction segments with
  | nil => rfl
  | cons segment segments ih =>
    rw [List.forall_mem_cons] at hfree
    cases segments with
    | nil =>
      have hend : replace [m, 'x'] [] (segment ++ []) = segment ++ [] := replace_append_of_free hfree.1 nofun
      simpa using hend.symm
    | cons next others =>
      have hnext : ([m, 'x'] ++ [m, 'x'].intercalate (next :: others)).head? ≠ some 'x' := by simpa using hm
      rw [List.intercalate_cons_cons, List.append_assoc, replace_append_of_free hfree.1 hnext, List.flatten_cons,
        ih hfree.2]
      exact congrArg (segment ++ ·) (replace_mark m _).symm

end Search

namespace Hex

/-- What is left of a text once all marks `0x`, then all marks `\x` and then all blanks are deleted. -/
def Leaves (text left : List Char) : Prop :=
  ∃ unmarked bare, Search.IsWithout Mark.zero.text text unmarked ∧
    Search.IsWithout Mark.backslash.text unmarked bare ∧ left = bare.filter fun c => !Blank.isBlank c

theorem leaves_iff {text left : List Char} : Leaves text left ↔ left = digitsOf text := by
  constructor
  · rintro ⟨unmarked, bare, hzero, hbackslash, rfl⟩
    obtain rfl := (Search.isWithout_mark_iff Mark.zero.char_ne_x).mp hzero
    obtain rfl := (Search.isWithout_mark_iff Mark.backslash.char_ne_x).mp hbackslash
    rfl
  · rintro rfl
    exact ⟨_, _, (Search.isWithout_mark_iff Mark.zero.char_ne_x).mpr rfl,
      (Search.isWithout_mark_iff Mark.backslash.char_ne_x).mpr rfl, rfl⟩

/-- Pairs of digits, and at least one of them, with their values. -/
def Spells (left : List Char) (bytes : List UInt8) : Prop :=
  bytes ≠ [] ∧ ∃ pairs, left = bare pairs ∧
    List.Forall₂ (fun (pair : Char × Char) (b : UInt8) => Denotes 16 [pair.1, pair.2] b.toNat) pairs bytes

/-- What is read as a byte: two digits, or a plus sign before one. -/
inductive ReadAs : Char × Char → UInt8 → Prop
  | digits {high low : Char} {b : UInt8} : Denotes 16 [high, low] b.toNat → ReadAs (high, low) b
  | signed {low : Char} {b : UInt8} : IsDigit 16 low b.toNat → ReadAs ('+', low) b

theorem isPairOf_iff_denotes {high low : Char} {b : UInt8} :
    IsPairOf (high, low) b ↔ Denotes 16 [high, low] b.toNat := by
  constructor
  · rintro ⟨hhigh, hlow⟩
    refine ⟨[b.toNat / 16, b.toNat % 16], ?_, ?_⟩
    · exact .cons (hexDigit?_eq_some_iff.mp hhigh) (.cons (hexDigit?_eq_some_iff.mp hlow) .nil)
    · rw [numberOf_eq_foldl]
      simp only [List.foldl_cons, List.foldl_nil]
      omega
  · intro h
    exact WrittenByte.isPairOf ⟨b, [], none, high, low, nofun, h⟩

/-- A plus sign is no digit. -/
theorem not_isDigit_plus (v : Nat) : ¬ IsDigit 16 '+' v := by
  rw [← hexDigit?_eq_some_iff]
  exact nofun

theorem pair?_eq_some_iff {a b : Char} {byte : UInt8} : pair? a b = some byte ↔ ReadAs (a, b) byte := by
  constructor
  · intro h
    unfold pair? at h
    split_ifs at h with hsign
    · obtain ⟨v, hv, rfl⟩ := Option.map_eq_some_iff.mp h
      have hdigit := hexDigit?_eq_some_iff.mp hv
      have hbyte : (UInt8.ofNat v).toNat = v := UInt8.toNat_ofNat_of_lt' (Nat.lt_trans hdigit.1 (by decide))
      exact hsign ▸ .signed (hbyte.symm ▸ hdigit)
    · obtain ⟨high, hhigh, h⟩ := Option.bind_eq_some_iff.mp h
      obtain ⟨low, hlow, h⟩ := Option.bind_eq_some_iff.mp h
      have hhigh' := (hexDigit?_eq_some_iff.mp hhigh).1
      have hlow' := (hexDigit?_eq_some_iff.mp hlow).1
      have hbyte : byte.toNat = high * 16 + low := by
        rw [← Option.some.inj h]
        exact UInt8.toNat_ofNat_of_lt' (show high * 16 + low < 256 by omega)
      refine .digits (isPairOf_iff_denotes.mp ⟨?_, ?_⟩)
      · rw [hhigh, show byte.toNat / 16 = high by omega]
      · rw [hlow, show byte.toNat % 16 = low by omega]
  · intro h
    cases h with
    | digits h => exact (isPairOf_iff_denotes.mpr h).pair?
    | signed h => rw [pair?, if_pos rfl, digit?, h.hexDigit?, Option.map_some, UInt8.ofNat_toNat]

theorem pairs?_eq_some_iff {left : List Char} {bytes : List UInt8} :
    pairs? left = some bytes ↔ ∃ pairs, left = bare pairs ∧ List.Forall₂ ReadAs pairs bytes := by
  fun_induction pairs? left generalizing bytes with
  | case1 =>
    constructor
    · intro h
      exact ⟨[], rfl, Option.some.inj h ▸ .nil⟩
    · rintro ⟨pairs, hleft, hpairs⟩
      cases hpairs with
      | nil => rfl
      | cons => cases hleft
  | case2 a b rest ih =>
    constructor
    · intro h
      obtain ⟨byte, hbyte, hrest⟩ := Option.bind_eq_some_iff.mp h
      obtain ⟨others, hothers, hbytes⟩ := Option.bind_eq_some_iff.mp hrest
      obtain ⟨pairs, hleft, hpairs⟩ := ih.mp hothers
      refine ⟨(a, b) :: pairs, hleft ▸ rfl, ?_⟩
      exact Option.some.inj hbytes ▸ hpairs.cons (pair?_eq_some_iff.mp hbyte)
    · rintro ⟨pairs, hleft, hpairs⟩
      cases hpairs with
      | nil => cases hleft
      | @cons pair byte pairs bytes hpair hpairs =>
        cases hleft
        have hrest := ih.mpr ⟨pairs, rfl, hpairs⟩
        rw [pair?_eq_some_iff.mpr hpair, hrest]
        rfl
  | case3 c =>
    refine ⟨nofun, ?_⟩
    rintro ⟨pairs, hleft, hpairs⟩
    cases hpairs <;> cases hleft

/-- Bytes are read from what is left if there is something to read. -/
theorem decode?_eq_some_iff {text : List Char} {bytes : List UInt8} :
    decode? text = some bytes ↔
      bytes ≠ [] ∧ ∃ pairs, digitsOf text = bare pairs ∧ List.Forall₂ ReadAs pairs bytes := by
  unfold decode?
  split
  · rename_i hempty
    refine ⟨nofun, ?_⟩
    rintro ⟨hbytes, pairs, hpairs, hread⟩
    cases hread with
    | nil => exact absurd rfl hbytes
    | cons => cases hempty.symm.trans hpairs
  · rename_i hsome
    rw [pairs?_eq_some_iff, iff_and_self]
    rintro ⟨pairs, hpairs, hread⟩ rfl
    cases hread
    exact hsome hpairs

theorem Spells.isDigit {left : List Char} {bytes : List UInt8} (h : Spells left bytes) :
    ∀ c ∈ left, ∃ v, IsDigit 16 c v := by
  obtain ⟨-, pairs, rfl, hpairs⟩ := h
  induction hpairs with
  | nil => exact nofun
  | cons hpair _ ih =>
    rintro c (_ | ⟨_, _ | ⟨_, hc⟩⟩)
    · exact hpair.isDigit _ (by simp)
    · exact hpair.isDigit _ (by simp)
    · exact ih c hc

theorem spells_of_unsigned {pairs : List (Char × Char)} {bytes : List UInt8} (hbytes : bytes ≠ [])
    (hread : List.Forall₂ ReadAs pairs bytes) (hsigns : ∀ pair ∈ pairs, pair.1 ≠ '+') :
    Spells (bare pairs) bytes := by
  refine ⟨hbytes, pairs, rfl, ?_⟩
  clear hbytes
  induction hread with
  | nil => exact .nil
  | cons hpair _ ih =>
    rw [List.forall_mem_cons] at hsigns
    refine .cons ?_ (ih hsigns.2)
    cases hpair with
    | digits h => exact h
    | signed => exact absurd rfl hsigns.1

/-- Bytes are read from pairs of digits and of a plus sign with a digit. So a text of which bytes are read
leaves just the digits of these bytes, and a text that leaves anything else is refused, exactly if no plus
sign stands in the place of a first digit. -/
theorem decode_reads_digits_iff (text : List Char) :
    ∃ left, (∀ other, Leaves text other ↔ other = left) ∧
      (∀ bytes, decode? text = some bytes ↔
        bytes ≠ [] ∧ ∃ pairs, left = bare pairs ∧ List.Forall₂ ReadAs pairs bytes) ∧
      ((∀ bytes, decode? text = some bytes → Spells left bytes) ∧
          ((∃ c ∈ left, ∀ v, ¬ IsDigit 16 c v) → decode? text = none) ↔
        ∀ pairs bytes, left = bare pairs → List.Forall₂ ReadAs pairs bytes → ∀ pair ∈ pairs, pair.1 ≠ '+') := by
  refine ⟨digitsOf text, fun other => leaves_iff, fun bytes => decode?_eq_some_iff, ?_, ?_⟩
  · rintro ⟨hspells, -⟩ pairs bytes hleft hread pair hpair hsign
    have hbytes : bytes ≠ [] := by
      rintro rfl
      cases hread
      cases hpair
    obtain ⟨v, hv⟩ := (hspells bytes (decode?_eq_some_iff.mpr ⟨hbytes, pairs, hleft, hread⟩)).isDigit pair.1
      (hleft ▸ List.mem_flatMap.mpr ⟨pair, hpair, List.mem_cons_self⟩)
    exact not_isDigit_plus v (hsign ▸ hv)
  · intro hsigns
    have hspells (bytes : List UInt8) (h : decode? text = some bytes) : Spells (digitsOf text) bytes := by
      obtain ⟨hbytes, pairs, hleft, hread⟩ := decode?_eq_some_iff.mp h
      exact hleft ▸ spells_of_unsigned hbytes hread (hsigns pairs bytes hleft hread)
    refine ⟨hspells, ?_⟩
    rintro ⟨c, hc, hother⟩
    rw [Option.eq_none_iff_forall_ne_some]
    intro bytes h
    obtain ⟨v, hv⟩ := (hspells bytes h).isDigit c hc
    exact hother v hv

/-- A byte is read although a plus sign is left. -/
theorem signed_digit_is_read :
    Leaves "+f".toList "+f".toList ∧ decode? "+f".toList = some [15] ∧ ∀ v, ¬ IsDigit 16 '+' v :=
  ⟨leaves_iff.mpr (by decide), by decide, not_isDigit_plus⟩

end Hex

end CodeAudit
