import CodeAudit.Proofs.Digits

/-!
# Bytes in every hexadecimal form

A byte can be written after either of two marks or without any, and the bytes of one text need not be
written alike. The marks are taken out of the whole text before the digits are paired, one kind after the
other. A mark is a character before an `x`, and no digit stands before an `x` that does not belong to it.
So a mark is never found where none has been written, and none of its characters is lost to a digit next
to it.
-/

namespace CodeAudit

theorem Search.replace_other_mark {m c : Char} (hc : c ≠ m) (hm : m ≠ 'x') (rest : List Char) :
    replace [m, 'x'] [] (c :: 'x' :: rest) = c :: 'x' :: replace [m, 'x'] [] rest := by
  simp [replace, replaceFrom, beginsWith, after?, hc.symm, hm]

namespace Hex

/-- The marks `0x` and `\x`. -/
inductive Mark where
  | zero
  | backslash
deriving DecidableEq

namespace Mark

/-- The character before the `x`. -/
def char : Mark → Char
  | zero => '0'
  | backslash => '\\'

def text (m : Mark) : List Char := [m.char, 'x']

theorem char_ne_x (m : Mark) : m.char ≠ 'x' := by
  cases m <;> decide

theorem char_injective {m m' : Mark} (h : m.char = m'.char) : m = m' := by
  cases m <;> cases m' <;> first | rfl | exact absurd h (by decide)

end Mark

/-- A byte in one of its forms: digits of either case, perhaps a mark before them, and blanks before all
that. -/
structure WrittenByte where
  byte : UInt8
  blanks : List Char
  mark : Option Mark
  high : Char
  low : Char
  areBlank : ∀ c ∈ blanks, Blank.isBlank c
  denotes : Denotes 16 [high, low] byte.toNat

namespace WrittenByte

/-- The form as it is written. -/
def text (w : WrittenByte) : List Char :=
  w.blanks ++ ((w.mark.map Mark.text).getD [] ++ [w.high, w.low])

/-- The same form without a mark, if it is the given one. -/
def unmark (m : Mark) (w : WrittenByte) : WrittenByte :=
  { w with mark := if w.mark = some m then none else w.mark }

theorem isPairOf (w : WrittenByte) : IsPairOf (w.high, w.low) w.byte := by
  obtain ⟨values, hdigits, hvalue⟩ := w.denotes
  cases hdigits with
  | @cons _ v _ _ hhigh hrest =>
    cases hrest with
    | @cons _ v' _ _ hlow hrest =>
      cases hrest
      have hnumber : w.byte.toNat = v * 16 + v' := by
        rw [← hvalue, numberOf_eq_foldl]
        simp
      have hlt : v' < 16 := hlow.1
      have hquotient : w.byte.toNat / 16 = v := by omega
      have hremainder : w.byte.toNat % 16 = v' := by omega
      exact ⟨hquotient ▸ hhigh.hexDigit?, hremainder ▸ hlow.hexDigit?⟩

theorem digits_ne_x (w : WrittenByte) : ∀ c ∈ [w.high, w.low], c ≠ 'x' :=
  fun c hc => ne_x_of_mem_digits c (w.isPairOf.mem_digits c hc)

/-- No form begins with an `x`. -/
theorem head?_text_append (w : WrittenByte) (rest : List Char) : (w.text ++ rest).head? ≠ some 'x' := by
  have hhigh : w.high ≠ 'x' := w.digits_ne_x _ List.mem_cons_self
  cases hblanks : w.blanks with
  | nil =>
    cases hmark : w.mark with
    | none => simp [text, hblanks, hmark, hhigh]
    | some m => simp [text, hblanks, hmark, Mark.text, m.char_ne_x]
  | cons c cs =>
    have hc := ne_x_of_isBlank w.areBlank c (hblanks ▸ List.mem_cons_self)
    simp [text, hblanks, hc]

/-- Taking out the marks of one kind does nothing but that. -/
theorem replace_text_append (m : Mark) (w : WrittenByte) {rest : List Char} (hrest : rest.head? ≠ some 'x') :
    Search.replace m.text [] (w.text ++ rest) = (w.unmark m).text ++ Search.replace m.text [] rest := by
  have hdigits := Search.replace_append_of_ne (m := m.char) w.digits_ne_x hrest
  have hblanks (later : List Char) (hlater : later.head? ≠ some 'x') :
      Search.replace m.text [] (w.blanks ++ later) = w.blanks ++ Search.replace m.text [] later :=
    Search.replace_append_of_ne (ne_x_of_isBlank w.areBlank) hlater
  have hhigh : w.high ≠ 'x' := w.digits_ne_x _ List.mem_cons_self
  simp only [text, unmark, List.append_assoc]
  cases hmark : w.mark with
  | none =>
    rw [hblanks _ (by simpa using hhigh)]
    exact congrArg (w.blanks ++ ·) hdigits
  | some m' =>
    rw [hblanks _ (by simpa [Mark.text] using m'.char_ne_x)]
    refine congrArg (w.blanks ++ ·) ?_
    by_cases heq : m' = m
    · simpa [Mark.text, Search.replace_mark, heq] using hdigits
    · have hchar : m'.char ≠ m.char := fun h => heq (Mark.char_injective h)
      simpa [Mark.text, Search.replace_other_mark hchar m.char_ne_x, heq] using hdigits

/-- Without both marks and without blanks, the digits are left. -/
theorem filter_text (w : WrittenByte) :
    ((w.unmark .zero).unmark .backslash).text.filter (fun c => !Blank.isBlank c) = [w.high, w.low] := by
  have hmark : ((w.unmark .zero).unmark .backslash).mark = none := by
    cases h : w.mark with
    | none => simp [unmark, h]
    | some m => cases m <;> simp [unmark, h]
  have hblanks : w.blanks.filter (fun c => !Blank.isBlank c) = [] :=
    List.filter_eq_nil_iff.mpr fun c hc => by simp [w.areBlank c hc]
  have hall : digits.all (fun c => !Blank.isBlank c) = true := by decide
  have hdigits : [w.high, w.low].filter (fun c => !Blank.isBlank c) = [w.high, w.low] :=
    List.filter_eq_self.mpr fun c hc => List.all_eq_true.mp hall c (w.isPairOf.mem_digits c hc)
  rw [text, hmark, List.filter_append]
  exact congrArg₂ (· ++ ·) hblanks hdigits

end WrittenByte

/-- A text for some bytes, each in a form of its own. -/
structure Rendering (bytes : List UInt8) where
  forms : List WrittenByte
  blanks : List Char
  bytes_eq : forms.map WrittenByte.byte = bytes
  areBlank : ∀ c ∈ blanks, Blank.isBlank c

/-- The text of a rendering. -/
def Rendering.text {bytes : List UInt8} (r : Rendering bytes) : List Char :=
  r.forms.flatMap WrittenByte.text ++ r.blanks

section Forms

variable {blanks : List Char}

theorem head?_forms_append (hblanks : ∀ c ∈ blanks, Blank.isBlank c) (forms : List WrittenByte) :
    (forms.flatMap WrittenByte.text ++ blanks).head? ≠ some 'x' := by
  cases forms with
  | nil => exact fun h => ne_x_of_isBlank hblanks 'x' (List.mem_of_head? h) rfl
  | cons w forms =>
    rw [List.flatMap_cons, List.append_assoc]
    exact w.head?_text_append _

theorem replace_forms (m : Mark) (hblanks : ∀ c ∈ blanks, Blank.isBlank c) (forms : List WrittenByte) :
    Search.replace m.text [] (forms.flatMap WrittenByte.text ++ blanks) =
      (forms.map (WrittenByte.unmark m)).flatMap WrittenByte.text ++ blanks := by
  induction forms with
  | nil => exact Search.replace_of_ne (ne_x_of_isBlank hblanks)
  | cons w forms ih =>
    rw [List.flatMap_cons, List.append_assoc, w.replace_text_append m (head?_forms_append hblanks forms), ih,
      List.map_cons, List.flatMap_cons, List.append_assoc]

/-- What is left of some forms are the digits of their bytes. -/
theorem digitsOf_forms (hblanks : ∀ c ∈ blanks, Blank.isBlank c) (forms : List WrittenByte) :
    digitsOf (forms.flatMap WrittenByte.text ++ blanks) = bare (forms.map fun w => (w.high, w.low)) := by
  have hzero := replace_forms .zero hblanks forms
  have hbackslash := replace_forms .backslash hblanks (forms.map (WrittenByte.unmark .zero))
  have hnone : blanks.filter (fun c => !Blank.isBlank c) = [] :=
    List.filter_eq_nil_iff.mpr fun c hc => by simp [hblanks c hc]
  calc digitsOf (forms.flatMap WrittenByte.text ++ blanks)
      = (Search.replace Mark.backslash.text [] (Search.replace Mark.zero.text []
          (forms.flatMap WrittenByte.text ++ blanks))).filter fun c => !Blank.isBlank c := rfl
    _ = forms.flatMap fun w => [w.high, w.low] := by
        rw [hzero, hbackslash, List.filter_append, hnone, List.append_nil, List.filter_flatMap, List.map_map,
          List.flatMap_map]
        exact congrArg (forms.flatMap ·) (funext WrittenByte.filter_text)
    _ = bare (forms.map fun w => (w.high, w.low)) := by
        rw [bare, List.flatMap_map]

end Forms

/-- Bytes are read back from every text that they can be written as, with marks, digits of both cases and
blanks in any mixture. -/
theorem decode_reads_every_rendering {bytes : List UInt8} (nonempty : bytes ≠ []) (r : Rendering bytes) :
    decode? r.text = some bytes := by
  obtain ⟨forms, blanks, rfl, areBlank⟩ := r
  have hpairs : List.Forall₂ IsPairOf (forms.map fun w => (w.high, w.low)) (forms.map WrittenByte.byte) := by
    rw [List.forall₂_map_left_iff, List.forall₂_map_right_iff, List.forall₂_same]
    exact fun w _ => w.isPairOf
  rw [decode?, Rendering.text, digitsOf_forms areBlank]
  cases forms with
  | nil => exact absurd rfl nonempty
  | cons w forms => exact pairs?_bare hpairs

/-- Zeros next to marks, digits of both cases, and blanks of three kinds. -/
theorem decode_reads_every_rendering_mixed :
    [0x10, 0x0A, 0xFF, 0x00] ≠ ([] : List UInt8) ∧
      ∃ r : Rendering [0x10, 0x0A, 0xFF, 0x00], r.text = "100x0a\t\\xfF 00\u2003".toList ∧
        decode? r.text = some [0x10, 0x0A, 0xFF, 0x00] := by
  have hnonempty : [0x10, 0x0A, 0xFF, 0x00] ≠ ([] : List UInt8) := by decide
  have hnone : ∀ c ∈ ([] : List Char), Blank.isBlank c := fun _ hc => absurd hc List.not_mem_nil
  have hdigits (high low : Char) (v w : Nat) (h : IsDigit 16 high v ∧ IsDigit 16 low w) :
      Denotes 16 [high, low] (numberOf 16 [v, w]) := ⟨[v, w], .cons h.1 (.cons h.2 .nil), rfl⟩
  let r : Rendering [0x10, 0x0A, 0xFF, 0x00] :=
    { forms :=
        [⟨0x10, [], none, '1', '0', hnone, hdigits '1' '0' 1 0 (by decide)⟩,
          ⟨0x0A, [], some .zero, '0', 'a', hnone, hdigits '0' 'a' 0 10 (by decide)⟩,
          ⟨0xFF, ['\t'], some .backslash, 'f', 'F', List.forall_mem_singleton.mpr rfl,
            hdigits 'f' 'F' 15 15 (by decide)⟩,
          ⟨0x00, [' '], none, '0', '0', List.forall_mem_singleton.mpr rfl, hdigits '0' '0' 0 0 (by decide)⟩]
      blanks := ['\u2003']
      bytes_eq := rfl
      areBlank := List.forall_mem_singleton.mpr rfl }
  exact ⟨hnonempty, r, rfl, decode_reads_every_rendering hnonempty r⟩

end Hex

end CodeAudit
