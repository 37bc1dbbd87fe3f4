import CodeAudit.Proofs.Braces
import CodeAudit.Proofs.Calls
import CodeAudit.Proofs.Grown

/-!
# The text around holes

The holes of a literal divide its text into segments, and each segment stands for a text of its own. The
segments are joined first, though, and only then are escapes decoded and pairs of braces replaced.

So an escape can begin in one segment and end in a later one. If none does, the text of the literal is that of
its segments exactly if no two braces clash, be it across a hole or because escapes stand for them.
-/

namespace CodeAudit

namespace Escape

/-! ### Escapes at the end of a text -/

theorem noDigit_of_append {base : Nat} {text after : List Char} (h : NoDigit base (text ++ after)) :
    NoDigit base text := by
  cases text with
  | nil => exact fun c hc => absurd hc (by simp)
  | cons c text => exact h

/-- Pieces that can stand before a text can stand before its beginning. -/
theorem Piece.Before.of_append {p : Piece} {text after : List Char} (h : p.Before (text ++ after)) :
    p.Before text := by
  cases h with
  | char writes => exact .char writes
  | shortOctal nonempty length value ends => exact .shortOctal nonempty length value (noDigit_of_append ends)
  | continued => exact .continued
  | verbatim malformed =>
    refine .verbatim ?_
    cases malformed with
    | unknown unknown => exact .unknown unknown
    | short mem hex length ends => exact .short mem hex length (noDigit_of_append ends)
    | outOfRange mem value invalid => exact .outOfRange mem value invalid
    | lone ends => exact .lone (List.append_eq_nil_iff.mp ends).1

/-- An escape begins in a text and ends in the text after it. -/
inductive RunsOn : List Char → List Char → Prop
  | here {w w' meaning rest : List Char} (begins : w ≠ []) (ends : w' ≠ [])
      (escape : Piece.Before rest ⟨w ++ w', meaning⟩) (decoded : meaning ≠ w ++ w') :
      RunsOn w (w' ++ rest)
  | later {p : Piece} {text after : List Char} (first : p.Before (text ++ after))
      (rest : RunsOn text after) : RunsOn (p.written ++ text) after

theorem one_lt_length_append {w w' : List Char} (hw : w ≠ []) (hw' : w' ≠ []) : 1 < (w ++ w').length := by
  have hpos := List.length_pos_iff.mpr hw
  have hpos' := List.length_pos_iff.mpr hw'
  rw [List.length_append]
  omega

/-- A piece of several characters begins with a backslash. -/
theorem Piece.Before.head?_written {p : Piece} {rest : List Char} (h : p.Before rest)
    (hlength : 1 < p.written.length) : p.written.head? = some '\\' := by
  cases h with
  | char writes =>
    cases writes with
    | itself => exact absurd hlength (Nat.lt_irrefl 1)
    | named | hexadecimal | octal => rfl
  | shortOctal | continued => rfl
  | verbatim malformed => cases malformed <;> rfl

/-- Nothing runs on to the end. -/
theorem not_runsOn_nil (s : List Char) : ¬ RunsOn s [] := by
  intro h
  generalize hrest : [] = rest at h
  induction h with
  | here _ ends => exact ends (List.append_eq_nil_iff.mp hrest.symm).1
  | later _ _ ih => exact ih hrest

/-- Nothing runs on from a text without backslashes. -/
theorem not_runsOn_of_not_mem {s rest : List Char} (h : '\\' ∉ s) : ¬ RunsOn s rest := by
  intro hruns
  induction hruns with
  | @here w w' meaning rest begins ends escape decoded =>
    obtain ⟨c, w, rfl⟩ := List.exists_cons_of_ne_nil begins
    have hc : some c = some '\\' := escape.head?_written (one_lt_length_append begins ends)
    exact h (Option.some.inj hc ▸ List.mem_cons_self)
  | later _ _ ih => exact ih fun hmem => h (List.mem_append_right _ hmem)

theorem decode_append_of_not_mem {w : List Char} (h : '\\' ∉ w) (rest : List Char) :
    decode (w ++ rest) = w ++ decode rest := by
  induction w with
  | nil => rfl
  | cons c w ih =>
    rw [List.mem_cons, not_or] at h
    rw [List.cons_append, decode_cons (Ne.symm h.1), ih h.2, List.cons_append]

/-- Hexadecimal digits that are cut off from their letter, or from other digits, make no escape. -/
theorem decode_cut_hex {letter : Char} {width : Nat} {digits w w' : List Char}
    (mem : (letter, width) ∈ widths) (hex : ∀ d ∈ digits, ∃ v, IsDigit 16 d v)
    (length : digits.length ≤ width) (hcut : w ++ w' = letter :: digits) (hw' : w' ≠ []) :
    decode ('\\' :: w) = '\\' :: w ∧ '\\' ∉ w' := by
  have hletters : ∀ p ∈ widths, p.1 ≠ '\\' := by decide
  have hdigits : '\\' ∉ digits := by
    intro hmem
    obtain ⟨v, hv⟩ := hex _ hmem
    have hnone : CharSet.hexDigit? '\\' = none := by decide
    rw [hv.hexDigit?] at hnone
    cases hnone
  have hplain : '\\' ∉ w ++ w' := by
    rw [hcut, List.mem_cons, not_or]
    exact ⟨(hletters _ mem).symm, hdigits⟩
  refine ⟨?_, fun hmem => hplain (List.mem_append_right w hmem)⟩
  cases w with
  | nil => exact decode_lone
  | cons c w =>
    rw [List.cons_append] at hcut
    obtain ⟨rfl, rfl⟩ := List.cons.inj hcut
    have hshort : w.length < width := by
      have hpos := List.length_pos_iff.mpr hw'
      rw [List.length_append] at length
      omega
    have hmalformed : Malformed [] ('\\' :: c :: w) :=
      .short mem (fun d hd => hex d (List.mem_append_left w' hd)) hshort (by simp [NoDigit])
    have hdecode := hmalformed.decode_append
    rwa [List.append_nil, decode_nil, List.append_nil] at hdecode

/-- What only looks like an escape stays as it is written, also when it is cut in two. -/
theorem Malformed.decode_cut {rest w w' : List Char} (h : Malformed rest (w ++ w')) (hw : w ≠ [])
    (hw' : w' ≠ []) : decode w = w ∧ '\\' ∉ w' := by
  obtain ⟨c, w, rfl⟩ := List.exists_cons_of_ne_nil hw
  rw [List.cons_append] at h
  generalize htext : c :: (w ++ w') = text at h
  cases h with
  | @unknown e unknown =>
    obtain ⟨rfl, hcut⟩ := List.cons.inj htext
    rcases List.append_eq_singleton_iff.mp hcut with ⟨rfl, rfl⟩ | ⟨rfl, rfl⟩
    · refine ⟨decode_lone, fun hmem => unknown ?_⟩
      rw [← List.mem_singleton.mp hmem]
      exact .inr (.inl ⟨'\\', by decide⟩)
    · exact absurd rfl hw'
  | short mem hex length ends =>
    obtain ⟨rfl, hcut⟩ := List.cons.inj htext
    exact decode_cut_hex mem hex (Nat.le_of_lt length) hcut hw'
  | outOfRange mem value invalid =>
    obtain ⟨rfl, hcut⟩ := List.cons.inj htext
    exact decode_cut_hex mem value.isDigit (Nat.le_refl _) hcut hw'
  | lone ends =>
    obtain ⟨-, hcut⟩ := List.cons.inj htext
    exact absurd (List.append_eq_nil_iff.mp hcut).2 hw'

/-- Several characters that stand for themselves only look like an escape. -/
theorem Piece.Before.malformed {p : Piece} {rest : List Char} (h : p.Before rest)
    (hmeaning : p.meaning = p.written) (hlength : 1 < p.written.length) : Malformed rest p.written := by
  cases h with
  | char writes =>
    rw [← hmeaning] at hlength
    exact absurd hlength (Nat.lt_irrefl 1)
  | shortOctal nonempty length value ends =>
    rw [← hmeaning] at hlength
    exact absurd hlength (Nat.lt_irrefl 1)
  | continued => cases hmeaning
  | verbatim malformed => exact malformed

/-- Two texts can be decoded one after the other if no escape runs on from the first to the second. -/
theorem decode_append_of_not_runsOn {s rest : List Char} (h : ¬ RunsOn s rest) :
    decode (s ++ rest) = decode s ++ decode rest := by
  induction hn : s.length using Nat.strongRecOn generalizing s with
  | ind n ih =>
    subst hn
    cases s with
    | nil => rw [List.nil_append, decode_nil, List.nil_append]
    | cons c cs =>
      obtain ⟨⟨written, meaning⟩, tail, hsplit, hp⟩ := exists_before c (cs ++ rest)
      replace hsplit : c :: cs ++ rest = written ++ tail := hsplit
      have hcut : (∃ s, c :: cs = written ++ s ∧ tail = s ++ rest) ∨
          ∃ w, w ≠ [] ∧ written = c :: cs ++ w ∧ rest = w ++ tail := by
        rcases List.append_eq_append_iff.mp hsplit with ⟨w, hwritten, hrest⟩ | hs
        · by_cases hw : w = []
          · subst hw
            exact .inl ⟨[], by simp [hwritten], by simp [hrest]⟩
          · exact .inr ⟨w, hw, hwritten, hrest⟩
        · exact .inl hs
      rcases hcut with ⟨s, hs, rfl⟩ | ⟨w, hw, rfl, rfl⟩
      · -- The first piece ends in the first text, and the rest of that text is shorter.
        have hlength : s.length < (c :: cs).length := by
          have hpos : 0 < written.length := List.length_pos_iff.mpr hp.written_ne_nil
          rw [hs, List.length_append]
          omega
        have hrest : ¬ RunsOn s rest := by
          intro hruns
          rw [hs] at h
          exact h (.later hp hruns)
        rw [hs, List.append_assoc, hp.decode_append, hp.of_append.decode_append, ih _ hlength hrest rfl,
          List.append_assoc]
      · -- The first piece is cut in two, so it is no escape.
        have hmeaning : meaning = c :: cs ++ w := by
          by_contra hdecoded
          exact h (.here (List.cons_ne_nil c cs) hw hp hdecoded)
        have hmalformed := hp.malformed hmeaning (one_lt_length_append (List.cons_ne_nil c cs) hw)
        obtain ⟨hfirst, hplain⟩ := hmalformed.decode_cut (List.cons_ne_nil c cs) hw
        rw [← List.append_assoc, hmalformed.decode_append, hfirst, decode_append_of_not_mem hplain,
          List.append_assoc]

/-- No escape runs on from one text to the texts after it. -/
def Unbroken : List (List Char) → Prop
  | [] => True
  | s :: ss => ¬ RunsOn s ss.flatten ∧ Unbroken ss

theorem decode_flatten {ss : List (List Char)} (h : Unbroken ss) : decode ss.flatten = ss.flatMap decode := by
  induction ss with
  | nil => exact decode_nil
  | cons s ss ih => rw [List.flatten_cons, decode_append_of_not_runsOn h.1, ih h.2, List.flatMap_cons]

end Escape

namespace Tree

/-- The text of some parts of a literal, without its quotes and holes. -/
def literalText (ts : List Tree) : List Char :=
  (ts.filter fun t => t.is .stringContent || t.isToken .escape).flatMap fun t => t.text.toList

/-- The text of a literal before, between and after its holes. -/
def segments (t : Tree) : List (List Char) :=
  (t.children.splitOnP fun c => c.is .interpolation).map literalText

theorem literalText_cons (t : Tree) (ts : List Tree) :
    literalText (t :: ts) = literalText [t] ++ literalText ts := by
  rw [literalText, literalText, literalText, ← List.flatMap_append, ← List.filter_append]
  rfl

theorem literalText_of_interpolation {t : Tree} (h : t.is .interpolation) : literalText [t] = [] := by
  have hlabel := label_eq h
  simp [literalText, is, isToken, hlabel]

/-- The segments are all of the text. -/
theorem flatten_segments (t : Tree) : t.segments.flatten = literalText t.children := by
  rw [segments]
  induction t.children with
  | nil => rfl
  | cons c cs ih =>
    rw [List.splitOnP_cons_eq_if_modifyHead, literalText_cons, ← ih]
    split
    · rename_i hc
      rw [literalText_of_interpolation hc]
      rfl
    · obtain ⟨first, others, hsplit⟩ :=
        List.exists_cons_of_ne_nil (List.splitOnP_ne_nil (fun c => c.is .interpolation) cs)
      rw [hsplit, List.modifyHead_cons, List.map_cons, List.flatten_cons, literalText_cons, List.map_cons,
        List.flatten_cons, List.append_assoc]

theorem writtenText_read (t : Tree) : Reading.writtenText t.read.children = t.segments.flatten := by
  rw [flatten_segments, children_read, Reading.writtenText, literalText, List.filter_map, List.flatMap_map]
  simp [Function.comp_def, Reading.text]

end Tree

/-- What a segment stands for by itself: one brace for each pair that is written, and what escapes stand for
unless the literal is raw. -/
def Tree.segmentText (raw : Bool) (segment : List Char) : List Char :=
  Braces.meaning raw (Braces.single segment)

/-- The text in the node of a literal: its own, or that of the first node in it if there are holes. -/
def Node.recordedText? (n : Node) : Option String :=
  match n.shape with
  | .str value _ => some value
  | .other label (first :: _) =>
    if label = Reading.interpolated then (Reading.plain? first).map Prod.fst else none
  | _ => none

namespace Reading

theorem recordedText?_string (t : Tree) (cs : List Reading) :
    (string t cs).recordedText? = some (String.ofList (decodeText (lettersOf cs) (writtenText cs))) := by
  rw [string]
  cases holes cs <;> rfl

/-- Where holes are possible, escapes are decoded first and pairs of braces replaced then. -/
theorem decodeText_of_mem {letters : List Char} (h : 'f' ∈ letters) (written : List Char) :
    decodeText letters written = Braces.single (Braces.meaning (letters.contains 'r') written) := by
  rw [decodeText, if_pos (List.contains_iff_mem.mpr h), Braces.replace_replace]
  rfl

end Reading

namespace Tree

theorem recordedText?_read {t : Tree} (h : t.is .string) :
    t.read.expr.recordedText? = some (String.ofList
      (Reading.decodeText (Reading.lettersOf t.read.children) t.segments.flatten)) := by
  have hexpr : t.read.expr = Reading.string t (t.children.map read) := by
    rw [expr_read, Reading.expression, label_eq h]
    rfl
  rw [hexpr, Reading.recordedText?_string, ← children_read, writtenText_read]

/-- When escapes stay within segments, the text of all segments is that of all glyphs. -/
theorem text_flatMap_glyphs {raw : Bool} {segments : List (List Char)}
    (h : raw = true ∨ Escape.Unbroken segments) :
    Braces.text (segments.flatMap (Braces.glyphs raw)) = Braces.meaning raw segments.flatten := by
  have htext : Braces.text (segments.flatMap (Braces.glyphs raw)) = segments.flatMap (Braces.meaning raw) := by
    rw [Braces.text, List.flatMap_assoc]
    exact List.flatMap_congr fun s _ => Braces.text_glyphs raw s
  rw [htext]
  cases raw with
  | true => exact List.flatMap_id
  | false => exact (Escape.decode_flatten (h.resolve_left Bool.false_ne_true)).symm

theorem map_char_flatMap_glyphs (raw : Bool) (segments : List (List Char)) :
    (segments.flatMap (Braces.glyphs raw)).map Braces.Glyph.char = segments.flatMap (segmentText raw) := by
  rw [List.map_flatMap]
  exact List.flatMap_congr fun s _ => Braces.map_char_glyphs raw s

end Tree

/-- The node of a literal that can have holes always holds a text. If the literal is raw, or if no escape runs
on across a hole, then this is what the segments stand for, one after the other, exactly if no braces clash:
if there are no two equal ones that are written once, with nothing but braces that are written twice between
them. -/
theorem Tree.segments_recorded_iff {t : Tree} (isString : t.is .string)
    (format : 'f' ∈ Reading.lettersOf t.read.children) :
    let raw := (Reading.lettersOf t.read.children).contains 'r'
    ∃ text, t.read.expr.recordedText? = some text ∧
      (raw = true ∨ Escape.Unbroken t.segments →
        (text.toList = t.segments.flatMap (segmentText raw) ↔
          ¬ Braces.Clash (t.segments.flatMap (Braces.glyphs raw)))) := by
  intro raw
  refine ⟨_, recordedText?_read isString, fun h => ?_⟩
  rw [String.toList_ofList, Reading.decodeText_of_mem format, ← text_flatMap_glyphs h,
    ← map_char_flatMap_glyphs, Braces.single_text_eq_iff]

/-! ### Formatted texts -/

namespace Formatted

open Sample

/-- One thing after another, in a repetition. -/
def pair (n : Nat) (o o' : Outline) : Outline :=
  .form (.loop n) { steps := [.loop n, .loop n].map fun s => ⟨s, { level := some 0, assoc := some .left }⟩ }
    [o, o']

/-- A token in the text of a literal. -/
def item (t : Terminal) (col : Nat) (text : String) : Outline :=
  chain (.loop 30) (.token t) (.token [] t ⟨"", ⟨1, col⟩, text⟩)

/-- A part of the text of a literal. -/
def content (o : Outline) : Outline :=
  chain (.loop 29) (.phrase .stringContent) <|
    .form (.phrase .stringContent) { steps := [⟨.loop 30, { level := some 0, assoc := some .right }⟩] } [o]

/-- A hole with the name `x` in it. -/
def hollow (col : Nat) : Outline :=
  chain (.loop 29) (.phrase .interpolation) <| hole []
    [word 1 "" col "\x7b",
      chain (.phrase .holeExpression) (.phrase .expression) (nameExpression 1 "" (col + 1) "x"),
      word 1 "" (col + 2) "\x7d"]

/-- A literal as the only statement of a text. -/
def outline (parts : Outline) (stop : Nat) : Outline :=
  chain (.phrase .module) (.loop 0) <| statement .simpleStatements <|
    simple .expressionStatement
      (chain (.phrase .expressionStatement) (.phrase .expression) <|
        chain (.phrase .expression) (.phrase .primaryExpression) <|
          chain (.phrase .primaryExpression) (.phrase .string) <|
            .form (.phrase .string) (plain [.token .stringStart, .loop 29, .token .stringEnd])
              [.token [] .stringStart ⟨"", ⟨1, 1⟩, "f\""⟩, parts,
                .token [] .stringEnd ⟨"", ⟨1, stop⟩, "\""⟩])
      1 (stop + 1)

/-- The text `{{a`, a hole, and the text `\x41}}` -/
def sound : Tree :=
  (outline (pair 29 (pair 29 (content (pair 30 (item .doubledBrace 3 "\x7b\x7b") (item .stringText 5 "a")))
    (hollow 6)) (content (pair 30 (item .escape 9 "\\x41") (item .doubledBrace 13 "\x7d\x7d")))) 15).text
      ⟨"", ⟨1, 16⟩, ""⟩

/-- The text `\1`, a hole, and the text `23` -/
def octal : Tree :=
  (outline (pair 29 (pair 29 (content (item .escape 3 "\\1")) (hollow 5)) (content (item .stringText 8 "23")))
    10).text ⟨"", ⟨1, 11⟩, ""⟩

/-- The text `\x7b\x7b` without a hole -/
def braces : Tree :=
  (outline (content (pair 30 (item .escape 3 "\\x7b") (item .escape 7 "\\x7b"))) 11).text ⟨"", ⟨1, 12⟩, ""⟩

theorem isModule_sound : sound.IsModule := Outline.isModule_text (by decide +kernel) rfl _

theorem isModule_octal : octal.IsModule := Outline.isModule_text (by decide +kernel) rfl _

theorem isModule_braces : braces.IsModule := Outline.isModule_text (by decide +kernel) rfl _

end Formatted

/-- Braces that are written twice before and after a hole, and an escape after it. -/
theorem Tree.segments_recorded_iff_sound :
    Formatted.sound.IsModule ∧ ∃ t ∈ Formatted.sound.subtrees, t.is .string ∧
      'f' ∈ Reading.lettersOf t.read.children ∧ Escape.Unbroken t.segments ∧
      ∃ text, t.read.expr.recordedText? = some text ∧
        text.toList = t.segments.flatMap (segmentText false) ∧ text = "\x7baA\x7d" := by
  have hexists : ∃ t ∈ Formatted.sound.subtrees, t.is .string ∧
      Reading.lettersOf t.read.children = ['f'] ∧
      t.segments = ["\x7b\x7ba".toList, "\\x41\x7d\x7d".toList] ∧
      t.read.expr.recordedText? = some "\x7baA\x7d" := by
    decide +kernel
  obtain ⟨t, ht, hstring, hletters, hsegments, hrecorded⟩ := hexists
  have format : 'f' ∈ Reading.lettersOf t.read.children := by
    rw [hletters]
    exact List.mem_singleton_self _
  have hraw : (Reading.lettersOf t.read.children).contains 'r' = false := by
    rw [hletters]
    rfl
  have unbroken : Escape.Unbroken t.segments := by
    rw [hsegments]
    exact ⟨Escape.not_runsOn_of_not_mem (by decide), Escape.not_runsOn_nil _, trivial⟩
  have hclash : ¬ Braces.Clash (t.segments.flatMap (Braces.glyphs false)) := by
    rw [hsegments, ← Braces.single_text_eq_iff]
    decide +kernel
  obtain ⟨text, htext, hiff⟩ := segments_recorded_iff hstring format
  rw [hraw] at hiff
  refine ⟨Formatted.isModule_sound, t, ht, hstring, format, unbroken, text, htext,
    (hiff (.inr unbroken)).mpr hclash, ?_⟩
  exact Option.some.inj (htext.symm.trans hrecorded)

/-- An escape that begins before a hole and ends after it, and two braces that escapes stand for. -/
theorem Tree.segments_run_together :
    Formatted.octal.IsModule ∧ Formatted.braces.IsModule ∧
      (∃ t ∈ Formatted.octal.subtrees, t.is .string ∧ Reading.lettersOf t.read.children = ['f'] ∧
        t.segments = ["\\1".toList, "23".toList] ∧
        t.segments.flatMap (segmentText false) = "\x0123".toList ∧
        t.read.expr.recordedText? = some "S") ∧
      ∃ t ∈ Formatted.braces.subtrees, t.is .string ∧ Reading.lettersOf t.read.children = ['f'] ∧
        t.segments = ["\\x7b\\x7b".toList] ∧
        t.segments.flatMap (segmentText false) = "\x7b\x7b".toList ∧
        t.read.expr.recordedText? = some "\x7b" := by
  refine ⟨Formatted.isModule_octal, Formatted.isModule_braces, ?_, ?_⟩
  · decide +kernel
  · decide +kernel

end CodeAudit
