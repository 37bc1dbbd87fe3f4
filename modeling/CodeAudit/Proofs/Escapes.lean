import CodeAudit.Proofs.Digits

/-!
# What escapes stand for

A character can be written in several ways, and lines can be continued anywhere. Whichever ways are
chosen, the text is read back.

Every text at all is a row of pieces: characters that stand for themselves, escapes, continued lines, and
what only looks like an escape. Pieces are read one after the other, each before the rest of the text,
since it depends on the next character how far an escape goes. What is no escape stays as it is written.
-/

namespace CodeAudit.Escape

/-! ### Pieces of text -/

/-- The characters after a backslash that stand for one character. -/
def named : List (Char × Char) :=
  [('\\', '\\'), ('\x27', '\x27'), ('\x22', '\x22'), ('a', '\x07'), ('b', '\x08'), ('f', '\x0c'),
    ('n', '\n'), ('r', '\x0d'), ('t', '\t'), ('v', '\x0b')]

/-- The letters before hexadecimal digits, and how many digits follow. -/
def widths : List (Char × Nat) := [('x', 2), ('u', 4), ('U', 8)]

/-- The ways to write a character. -/
inductive Writes : Char → List Char → Prop
  | itself {c : Char} (plain : c ≠ '\\') : Writes c [c]
  | named {c e : Char} (mem : (e, c) ∈ named) : Writes c ['\\', e]
  | hexadecimal {c letter : Char} {digits : List Char} (mem : (letter, digits.length) ∈ widths)
      (value : Denotes 16 digits c.toNat) : Writes c ('\\' :: letter :: digits)
  | octal {c : Char} {digits : List Char} (length : digits.length = 3)
      (value : Denotes 8 digits c.toNat) : Writes c ('\\' :: digits)

/-- The ways to write a text, with continued lines between the characters. -/
inductive Spells : List Char → List Char → Prop
  | nil : Spells [] []
  | continued {s text : List Char} (rest : Spells s text) : Spells s ('\\' :: '\n' :: text)
  | cons {c : Char} {w s text : List Char} (first : Writes c w) (rest : Spells s text) :
      Spells (c :: s) (w ++ text)

/-- Whether an escape can begin with a backslash and a character. -/
def Begins (e : Char) : Prop :=
  e = '\n' ∨ (∃ c, (e, c) ∈ named) ∨ (∃ width, (e, width) ∈ widths) ∨ ∃ v, IsDigit 8 e v

/-- What begins like an escape but is none, before the rest of a text. -/
inductive Malformed (rest : List Char) : List Char → Prop
  | unknown {e : Char} (unknown : ¬ Begins e) : Malformed rest ['\\', e]
  | short {letter : Char} {width : Nat} {digits : List Char} (mem : (letter, width) ∈ widths)
      (hex : ∀ d ∈ digits, ∃ v, IsDigit 16 d v) (length : digits.length < width)
      (ends : NoDigit 16 rest) : Malformed rest ('\\' :: letter :: digits)
  | outOfRange {letter : Char} {digits : List Char} {n : Nat} (mem : (letter, digits.length) ∈ widths)
      (value : Denotes 16 digits n) (invalid : ¬ n.isValidChar) :
      Malformed rest ('\\' :: letter :: digits)
  | lone (ends : rest = []) : Malformed rest ['\\']

/-- A piece of a text as it is written, and what it stands for. -/
structure Piece where
  written : List Char
  meaning : List Char

/-- The pieces that can stand before the rest of a text. -/
inductive Piece.Before (rest : List Char) : Piece → Prop
  | char {c : Char} {w : List Char} (writes : Writes c w) : Before rest ⟨w, [c]⟩
  | shortOctal {c : Char} {digits : List Char} (nonempty : digits ≠ []) (length : digits.length < 3)
      (value : Denotes 8 digits c.toNat) (ends : NoDigit 8 rest) : Before rest ⟨'\\' :: digits, [c]⟩
  | continued : Before rest ⟨['\\', '\n'], []⟩
  | verbatim {w : List Char} (malformed : Malformed rest w) : Before rest ⟨w, w⟩

/-- How a text is taken apart, before some other text. -/
inductive Reads (after : List Char) : List Char → List Piece → Prop
  | nil : Reads after [] []
  | cons {p : Piece} {text : List Char} {pieces : List Piece} (first : p.Before (text ++ after))
      (rest : Reads after text pieces) : Reads after (p.written ++ text) (p :: pieces)

/-! ### Characters that escapes are made of -/

theorem simple?_eq_some_iff {e c : Char} : simple? e = some c ↔ (e, c) ∈ named := by
  constructor
  · intro h
    unfold simple? at h
    split at h <;> cases h <;> decide
  · intro h
    have hall : ∀ p ∈ named, simple? p.1 = some p.2 := by decide
    exact hall _ h

theorem hexWidth?_eq_some_iff {e : Char} {width : Nat} : hexWidth? e = some width ↔ (e, width) ∈ widths := by
  constructor
  · intro h
    unfold hexWidth? at h
    split at h <;> cases h <;> decide
  · intro h
    have hall : ∀ p ∈ widths, hexWidth? p.1 = some p.2 := by decide
    exact hall _ h

theorem isSome_hexDigit?_iff {c : Char} : (CharSet.hexDigit? c).isSome ↔ ∃ v, IsDigit 16 c v := by
  simp only [Option.isSome_iff_exists, hexDigit?_eq_some_iff]

theorem isOctalDigit_iff {c : Char} : isOctalDigit c ↔ ∃ v, IsDigit 8 c v := by
  constructor
  · intro h
    simp only [isOctalDigit, Bool.and_eq_true, decide_eq_true_eq, Char.le_def,
      UInt32.le_iff_toNat_le] at h
    obtain ⟨hlo, hhi⟩ : 48 ≤ c.toNat ∧ c.toNat ≤ 55 := h
    have hdigit : CharSet.hexDigit? c = some (c.toNat - 48) := by
      unfold CharSet.hexDigit?
      rw [if_pos]
      simp only [Char.le_def, UInt32.le_iff_toNat_le]
      exact ⟨hlo, Nat.le_trans hhi (by decide)⟩
    exact ⟨c.toNat - 48, by omega, (hexDigit?_eq_some_iff.mp hdigit).2⟩
  · have hlower : ∀ v < 8, isOctalDigit v.digitChar := by decide
    have hupper : ∀ v < 8, isOctalDigit v.digitChar.toUpper := by decide
    rintro ⟨v, hlt, rfl | rfl⟩
    · exact hlower v hlt
    · exact hupper v hlt

theorem char?_toNat (c : Char) : char? c.toNat = some c := by
  have hvalid : c.toNat.isValidChar := c.valid
  rw [char?, dif_pos hvalid]
  rfl

theorem char?_eq_none {n : Nat} (h : ¬ n.isValidChar) : char? n = none := dif_neg h

theorem exists_toNat_eq {n : Nat} (h : n.isValidChar) : ∃ c : Char, c.toNat = n :=
  ⟨.ofNatAux n h, rfl⟩

/-! ### Digits are taken up to a limit -/

section SplitUpTo

variable {p : Char → Bool} {n : Nat}

theorem splitUpTo_append {front rest : List Char} (hall : ∀ c ∈ front, p c)
    (hend : front.length = n ∨ front.length < n ∧ ∀ c ∈ rest.head?, p c = false) :
    splitUpTo p n (front ++ rest) = (front, rest) := by
  induction front generalizing n with
  | nil =>
    cases n with
    | zero => rfl
    | succ n =>
      cases rest with
      | nil => rfl
      | cons c rest =>
        have hc : p c = false := by simpa using hend
        simp [splitUpTo, hc]
  | cons c front ih =>
    rw [List.forall_mem_cons] at hall
    rw [List.length_cons] at hend
    obtain ⟨n, rfl⟩ : ∃ m, n = m + 1 := ⟨n - 1, by omega⟩
    have hrest : front.length = n ∨ front.length < n ∧ ∀ c ∈ rest.head?, p c = false := by
      simpa using hend
    simp [splitUpTo, hall.1, ih hall.2 hrest]

theorem exists_splitUpTo (p : Char → Bool) (n : Nat) (cs : List Char) :
    ∃ front rest, cs = front ++ rest ∧ (∀ c ∈ front, p c) ∧
      (front.length = n ∨ front.length < n ∧ ∀ c ∈ rest.head?, p c = false) := by
  induction n generalizing cs with
  | zero => exact ⟨[], cs, rfl, by simp, .inl rfl⟩
  | succ n ih =>
    cases cs with
    | nil => exact ⟨[], [], rfl, by simp, .inr ⟨Nat.succ_pos n, by simp⟩⟩
    | cons c cs =>
      by_cases hc : p c
      · obtain ⟨front, rest, rfl, hall, hend⟩ := ih cs
        exact ⟨c :: front, rest, rfl, List.forall_mem_cons.mpr ⟨hc, hall⟩, by simpa using hend⟩
      · exact ⟨[], c :: cs, rfl, by simp, .inr ⟨Nat.succ_pos n, by simpa using hc⟩⟩

end SplitUpTo

/-! ### One escape -/

section One

variable {e letter : Char} {width n : Nat} {digits : List Char}

theorem one_named {c : Char} (h : (e, c) ∈ named) (rest : List Char) : one e rest = ([c], rest) := by
  have hline : ∀ p ∈ named, p.1 ≠ '\n' := by decide
  rw [one, if_neg (hline _ h), simple?_eq_some_iff.mpr h]

theorem one_newline (rest : List Char) : one '\n' rest = ([], rest) := rfl

theorem one_letter (h : (letter, width) ∈ widths) (cs : List Char) :
    one letter cs = hexadecimal letter width cs := by
  have hother : ∀ p ∈ widths, p.1 ≠ '\n' ∧ simple? p.1 = none := by decide
  rw [one, if_neg (hother _ h).1, (hother _ h).2, hexWidth?_eq_some_iff.mpr h]

theorem one_digit {v : Nat} (h : IsDigit 8 e v) (cs : List Char) : one e cs = octal e cs := by
  have hlower : ∀ v < 8, v.digitChar ≠ '\n' ∧ simple? v.digitChar = none ∧ hexWidth? v.digitChar = none := by
    decide
  have hupper : ∀ v < 8, v.digitChar.toUpper = v.digitChar := by decide
  have hother : e ≠ '\n' ∧ simple? e = none ∧ hexWidth? e = none := by
    obtain ⟨hlt, rfl | rfl⟩ := h
    · exact hlower v hlt
    · rw [hupper v hlt]
      exact hlower v hlt
  have hdigit : isOctalDigit e := isOctalDigit_iff.mpr ⟨v, h⟩
  rw [one, if_neg hother.1, hother.2.1, hother.2.2]
  exact if_pos hdigit

theorem one_unknown (h : ¬ Begins e) (cs : List Char) : one e cs = (['\\', e], cs) := by
  simp only [Begins, not_or, not_exists, ← simple?_eq_some_iff, ← hexWidth?_eq_some_iff] at h
  obtain ⟨hline, hsimple, hwidth, hdigit⟩ := h
  have hoctal : ¬ isOctalDigit e := fun h => by
    obtain ⟨v, hv⟩ := isOctalDigit_iff.mp h
    exact hdigit v hv
  rw [one, if_neg hline, Option.eq_none_iff_forall_ne_some.mpr hsimple,
    Option.eq_none_iff_forall_ne_some.mpr hwidth]
  exact if_neg hoctal

/-- Hexadecimal digits are taken to the number that is wanted, or to the first other character. -/
theorem splitUpTo_hex {rest : List Char} (hdigits : ∀ d ∈ digits, ∃ v, IsDigit 16 d v)
    (hend : digits.length = width ∨ digits.length < width ∧ NoDigit 16 rest) :
    splitUpTo (fun c => (CharSet.hexDigit? c).isSome) width (digits ++ rest) = (digits, rest) := by
  apply splitUpTo_append
  · exact fun d hd => isSome_hexDigit?_iff.mpr (hdigits d hd)
  · refine hend.imp_right fun hshort => ⟨hshort.1, fun c hc => ?_⟩
    rw [← Bool.not_eq_true, isSome_hexDigit?_iff, not_exists]
    exact hshort.2 c hc

theorem hexadecimal_valid {c : Char} (hvalue : Denotes 16 digits c.toNat) (rest : List Char) :
    hexadecimal letter digits.length (digits ++ rest) = ([c], rest) := by
  rw [hexadecimal, splitUpTo_hex hvalue.isDigit (.inl rfl)]
  simp only [if_pos, valueOf_of_denotes (Nat.le_refl 16) hvalue, char?_toNat]

theorem hexadecimal_outOfRange (hvalue : Denotes 16 digits n) (hinvalid : ¬ n.isValidChar)
    (rest : List Char) :
    hexadecimal letter digits.length (digits ++ rest) = ('\\' :: letter :: digits, rest) := by
  rw [hexadecimal, splitUpTo_hex hvalue.isDigit (.inl rfl)]
  simp only [if_pos, valueOf_of_denotes (Nat.le_refl 16) hvalue, char?_eq_none hinvalid]

theorem hexadecimal_short {rest : List Char} (hdigits : ∀ d ∈ digits, ∃ v, IsDigit 16 d v)
    (hlength : digits.length < width) (hend : NoDigit 16 rest) :
    hexadecimal letter width (digits ++ rest) = ('\\' :: letter :: digits, rest) := by
  rw [hexadecimal, splitUpTo_hex hdigits (.inr ⟨hlength, hend⟩)]
  simp only [if_neg (Nat.ne_of_lt hlength)]

theorem octal_valid {c : Char} (hvalue : Denotes 8 (e :: digits) c.toNat) (rest : List Char)
    (hend : digits.length = 2 ∨ digits.length < 2 ∧ NoDigit 8 rest) :
    octal e (digits ++ rest) = ([c], rest) := by
  have hsplit : splitUpTo isOctalDigit 2 (digits ++ rest) = (digits, rest) := by
    apply splitUpTo_append
    · exact fun d hd => isOctalDigit_iff.mpr (hvalue.isDigit d (List.mem_cons_of_mem e hd))
    · refine hend.imp_right fun hshort => ⟨hshort.1, fun c hc => ?_⟩
      rw [← Bool.not_eq_true, isOctalDigit_iff, not_exists]
      exact hshort.2 c hc
  rw [octal, hsplit]
  simp only [valueOf_of_denotes (by decide) hvalue, char?_toNat]

end One

/-! ### Pieces are read one after the other -/

theorem decode_nil : decode [] = [] := by rw [decode]

theorem decode_cons {c : Char} (h : c ≠ '\\') (cs : List Char) : decode (c :: cs) = c :: decode cs := by
  rw [decode.eq_def]
  exact if_neg h

theorem decode_backslash {e : Char} {cs meaning rest : List Char} (h : one e cs = (meaning, rest)) :
    decode ('\\' :: e :: cs) = meaning ++ decode rest := by
  rw [decode.eq_def]
  simp only [if_pos, h]

theorem decode_lone : decode ['\\'] = ['\\'] := by
  rw [decode.eq_def]
  exact if_pos rfl

theorem Malformed.decode_append {rest w : List Char} (h : Malformed rest w) :
    decode (w ++ rest) = w ++ decode rest := by
  cases h with
  | unknown hunknown => exact decode_backslash (one_unknown hunknown rest)
  | short hmem hhex hlength hend =>
    have hone := (one_letter hmem _).trans (hexadecimal_short hhex hlength hend)
    exact decode_backslash hone
  | outOfRange hmem hvalue hinvalid =>
    have hone := (one_letter hmem _).trans (hexadecimal_outOfRange hvalue hinvalid rest)
    exact decode_backslash hone
  | lone hend =>
    rw [hend, List.append_nil, decode_lone, decode_nil, List.append_nil]

theorem Writes.decode_append {c : Char} {w : List Char} (h : Writes c w) (rest : List Char) :
    decode (w ++ rest) = c :: decode rest := by
  cases h with
  | itself hplain => exact decode_cons hplain rest
  | named hmem => exact decode_backslash (one_named hmem rest)
  | hexadecimal hmem hvalue =>
    have hone := (one_letter hmem _).trans (hexadecimal_valid hvalue rest)
    exact decode_backslash hone
  | octal hlength hvalue =>
    obtain ⟨e, digits, rfl⟩ := List.exists_cons_of_length_eq_add_one hlength
    obtain ⟨v, hv⟩ := hvalue.isDigit e List.mem_cons_self
    have hone := (one_digit hv _).trans (octal_valid hvalue rest (.inl (by simpa using hlength)))
    exact decode_backslash hone

/-- A piece stands for its meaning, whatever comes after it. -/
theorem Piece.Before.decode_append {rest : List Char} {p : Piece} (h : p.Before rest) :
    decode (p.written ++ rest) = p.meaning ++ decode rest := by
  cases h with
  | char hwrites => exact hwrites.decode_append rest
  | @shortOctal c digits hne hlength hvalue hend =>
    obtain ⟨e, digits, rfl⟩ := List.exists_cons_of_ne_nil hne
    obtain ⟨v, hv⟩ := hvalue.isDigit e List.mem_cons_self
    rw [List.length_cons] at hlength
    have hone := (one_digit hv _).trans (octal_valid hvalue rest (.inr ⟨by omega, hend⟩))
    exact decode_backslash hone
  | continued => exact decode_backslash (one_newline rest)
  | verbatim hmalformed => exact hmalformed.decode_append

/-- A row of pieces stands for the meanings of the pieces. -/
theorem Reads.decode_append {after text : List Char} {pieces : List Piece} (h : Reads after text pieces) :
    decode (text ++ after) = pieces.flatMap Piece.meaning ++ decode after := by
  induction h with
  | nil => rfl
  | cons hfirst _ ih =>
    rw [List.append_assoc, hfirst.decode_append, ih, List.flatMap_cons, List.append_assoc]

theorem Reads.written {after text : List Char} {pieces : List Piece} (h : Reads after text pieces) :
    pieces.flatMap Piece.written = text := by
  induction h with
  | nil => rfl
  | cons _ _ ih => rw [List.flatMap_cons, ih]

/-! ### Every text is a row of pieces -/

theorem isValidChar_of_octal {digits : List Char} {n : Nat} (h : Denotes 8 digits n)
    (hlength : digits.length ≤ 3) : n.isValidChar := by
  have hlt : n < 8 ^ digits.length := h.lt (by decide)
  have hpow : 8 ^ digits.length ≤ 8 ^ 3 := Nat.pow_le_pow_right (by decide) hlength
  exact .inl (by omega)

/-- After a backslash, a letter for hexadecimal digits begins a piece. -/
theorem exists_before_of_letter {letter : Char} {width : Nat} (h : (letter, width) ∈ widths)
    (cs : List Char) :
    ∃ (p : Piece) (rest : List Char), '\\' :: letter :: cs = p.written ++ rest ∧ p.Before rest := by
  obtain ⟨digits, rest, rfl, hall, hend⟩ :=
    exists_splitUpTo (fun c => (CharSet.hexDigit? c).isSome) width cs
  have hdigits : ∀ d ∈ digits, ∃ v, IsDigit 16 d v := fun d hd => isSome_hexDigit?_iff.mp (hall d hd)
  rcases hend with rfl | ⟨hshort, hother⟩
  · obtain ⟨n, hn⟩ := exists_denotes hdigits
    by_cases hvalid : n.isValidChar
    · obtain ⟨c, rfl⟩ := exists_toNat_eq hvalid
      exact ⟨⟨'\\' :: letter :: digits, _⟩, rest, rfl, .char (.hexadecimal h hn)⟩
    · exact ⟨⟨'\\' :: letter :: digits, _⟩, rest, rfl, .verbatim (.outOfRange h hn hvalid)⟩
  · have hnone : NoDigit 16 rest := by
      intro c hc v hv
      have hsome := isSome_hexDigit?_iff.mpr ⟨v, hv⟩
      rw [hother c hc] at hsome
      cases hsome
    exact ⟨⟨'\\' :: letter :: digits, _⟩, rest, rfl, .verbatim (.short h hdigits hshort hnone)⟩

/-- After a backslash, an octal digit begins a piece. -/
theorem exists_before_of_digit {e : Char} {v : Nat} (h : IsDigit 8 e v) (cs : List Char) :
    ∃ (p : Piece) (rest : List Char), '\\' :: e :: cs = p.written ++ rest ∧ p.Before rest := by
  obtain ⟨digits, rest, rfl, hall, hend⟩ := exists_splitUpTo isOctalDigit 2 cs
  have hdigits : ∀ d ∈ e :: digits, ∃ v, IsDigit 8 d v :=
    List.forall_mem_cons.mpr ⟨⟨v, h⟩, fun d hd => isOctalDigit_iff.mp (hall d hd)⟩
  have hlength : (e :: digits).length ≤ 3 := by
    rw [List.length_cons]
    omega
  obtain ⟨n, hn⟩ := exists_denotes hdigits
  obtain ⟨c, rfl⟩ := exists_toNat_eq (isValidChar_of_octal hn hlength)
  rcases hend with hthree | ⟨hshort, hother⟩
  · exact ⟨⟨'\\' :: e :: digits, _⟩, rest, rfl, .char (.octal (by rw [List.length_cons, hthree]) hn)⟩
  · have hnone : NoDigit 8 rest := by
      intro c hc v hv
      have hsome := isOctalDigit_iff.mpr ⟨v, hv⟩
      rw [hother c hc] at hsome
      cases hsome
    have hfew : (e :: digits).length < 3 := by
      rw [List.length_cons]
      omega
    exact ⟨⟨'\\' :: e :: digits, _⟩, rest, rfl, .shortOctal (List.cons_ne_nil _ _) hfew hn hnone⟩

/-- Every text begins with a piece. -/
theorem exists_before (c : Char) (cs : List Char) :
    ∃ (p : Piece) (rest : List Char), c :: cs = p.written ++ rest ∧ p.Before rest := by
  by_cases hc : c = '\\'
  · subst hc
    cases cs with
    | nil => exact ⟨⟨['\\'], _⟩, [], rfl, .verbatim (.lone rfl)⟩
    | cons e cs =>
      by_cases hbegins : Begins e
      · rcases hbegins with rfl | ⟨c, hnamed⟩ | ⟨width, hwidth⟩ | ⟨v, hdigit⟩
        · exact ⟨⟨['\\', '\n'], _⟩, cs, rfl, .continued⟩
        · exact ⟨⟨['\\', e], _⟩, cs, rfl, .char (.named hnamed)⟩
        · exact exists_before_of_letter hwidth cs
        · exact exists_before_of_digit hdigit cs
      · exact ⟨⟨['\\', e], _⟩, cs, rfl, .verbatim (.unknown hbegins)⟩
  · exact ⟨⟨[c], _⟩, cs, rfl, .char (.itself hc)⟩

theorem Piece.Before.written_ne_nil {rest : List Char} {p : Piece} (h : p.Before rest) :
    p.written ≠ [] := by
  cases h with
  | char hwrites => cases hwrites <;> exact List.cons_ne_nil _ _
  | shortOctal | continued => exact List.cons_ne_nil _ _
  | verbatim hmalformed => cases hmalformed <;> exact List.cons_ne_nil _ _

/-- Every text is a row of pieces. -/
theorem exists_reads (text : List Char) : ∃ pieces, Reads [] text pieces := by
  induction hn : text.length using Nat.strongRecOn generalizing text with
  | ind n ih =>
    cases text with
    | nil => exact ⟨[], .nil⟩
    | cons c cs =>
      obtain ⟨p, rest, hsplit, hp⟩ := exists_before c cs
      have hpos := List.length_pos_iff.mpr hp.written_ne_nil
      have hlength : rest.length < n := by
        rw [← hn, hsplit, List.length_append]
        omega
      obtain ⟨pieces, hpieces⟩ := ih _ hlength rest rfl
      rw [hsplit]
      exact ⟨p :: pieces, .cons (by rwa [List.append_nil]) hpieces⟩

/-- Whichever way a text is written, it is read back. -/
theorem Spells.decode_eq {s text : List Char} (h : Spells s text) : decode text = s := by
  induction h with
  | nil => exact decode_nil
  | continued _ ih => rw [decode_backslash (one_newline _), ih, List.nil_append]
  | cons hfirst _ ih => rw [hfirst.decode_append, ih]

/-- However the characters of a text are written, with any number of continued lines between them, the text
is read back. And every text at all is a row of pieces that are read one after the other, of which those
that are no escapes stay as they are written. -/
theorem decode_reads_what_is_written :
    (∀ s text, Spells s text → decode text = s) ∧
    (∀ text, ∃ pieces, Reads [] text pieces ∧ text = pieces.flatMap Piece.written ∧
      decode text = pieces.flatMap Piece.meaning) ∧
    ∀ before pieces w rest, Reads (w ++ rest) before pieces → Malformed rest w →
      decode (before ++ (w ++ rest)) = pieces.flatMap Piece.meaning ++ (w ++ decode rest) := by
  refine ⟨fun s text h => h.decode_eq, fun text => ?_, fun before pieces w rest hreads hmalformed => ?_⟩
  · obtain ⟨pieces, hpieces⟩ := exists_reads text
    have hmeaning := hpieces.decode_append
    rw [List.append_nil, decode_nil, List.append_nil] at hmeaning
    exact ⟨pieces, hpieces, hpieces.written.symm, hmeaning⟩
  · rw [hreads.decode_append, hmalformed.decode_append]

/-- A letter, a backslash, a continued line, an accented letter and a digit, and a short escape between an
octal one and a letter. -/
theorem decode_reads_what_is_written_mixed :
    let text := "\\x41\\\\\\\n\\u00E97".toList
    let octal : Piece := ⟨['\\', '1', '0', '1'], ['A']⟩
    let short := ['\\', 'x', '4']
    Spells "A\\é7".toList text ∧ decode text = "A\\é7".toList ∧
      Reads (short ++ ['g']) octal.written [octal] ∧ Malformed ['g'] short ∧
      decode (octal.written ++ (short ++ ['g'])) = 'A' :: (short ++ ['g']) := by
  intro text octal short
  have hx : Writes 'A' ['\\', 'x', '4', '1'] :=
    .hexadecimal (by decide) ⟨[4, 1], .cons (by decide) (.cons (by decide) .nil), rfl⟩
  have hu : Writes 'é' ['\\', 'u', '0', '0', 'E', '9'] :=
    .hexadecimal (by decide) ⟨[0, 0, 14, 9],
      .cons (by decide) (.cons (by decide) (.cons (by decide) (.cons (by decide) .nil))), rfl⟩
  have hspells : Spells "A\\é7".toList text :=
    .cons hx (.cons (.named (by decide)) (.continued (.cons hu (.cons (.itself (by decide)) .nil))))
  have hoctal : Writes 'A' octal.written :=
    .octal rfl ⟨[1, 0, 1], .cons (by decide) (.cons (by decide) (.cons (by decide) .nil)), rfl⟩
  have hreads : Reads (short ++ ['g']) octal.written [octal] := .cons (.char hoctal) .nil
  have hend : NoDigit 16 ['g'] := by
    intro c hc v hv
    cases hc
    have hnone : CharSet.hexDigit? 'g' = none := by decide
    rw [hv.hexDigit?] at hnone
    cases hnone
  have hmalformed : Malformed ['g'] short :=
    .short (show ('x', 2) ∈ widths by decide) (List.forall_mem_singleton.mpr ⟨4, by decide⟩) (by decide) hend
  have hverbatim := decode_reads_what_is_written.2.2 _ _ _ _ hreads hmalformed
  refine ⟨hspells, decode_reads_what_is_written.1 _ _ hspells, hreads, hmalformed, hverbatim.trans ?_⟩
  rw [decode_cons (by decide), decode_nil]
  rfl

end CodeAudit.Escape
