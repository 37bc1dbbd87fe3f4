import CodeAudit.Proofs.Escapes
import CodeAudit.Text.Search

/-!
# Braces that are written twice

In a literal that can have holes, two equal braces stand for one. Escapes can stand for braces as well, and
such a brace is written once only.

When pairs are looked for after escapes have been decoded, a brace that is written once makes a pair with
the next one of its kind. A brace that is written twice only passes this on: in a row of equal braces, one
that is written once does no harm, and a second one is lost.
-/

namespace CodeAudit.Braces

open Escape

def isBrace (c : Char) : Bool := c == '\x7b' || c == '\x7d'

theorem isBrace_iff {c : Char} : isBrace c ↔ c = '\x7b' ∨ c = '\x7d' := by
  simp [isBrace]

/-- A text with one brace for each pair of equal ones, from left to right. -/
def single : List Char → List Char
  | c :: d :: cs => if c = d ∧ isBrace c then c :: single cs else c :: single (d :: cs)
  | cs => cs

section Single

variable {c d : Char} {cs : List Char}

theorem single_pair (h : isBrace c) : single (c :: c :: cs) = c :: single cs := by
  rw [single, if_pos ⟨rfl, h⟩]

theorem single_cons (h : isBrace c → cs.head? ≠ some c) : single (c :: cs) = c :: single cs := by
  cases cs with
  | nil => rfl
  | cons d cs =>
    rw [single, if_neg]
    rintro ⟨rfl, hc⟩
    exact h hc rfl

theorem single_cons_of_not_isBrace (h : ¬ isBrace c) : single (c :: cs) = c :: single cs :=
  single_cons fun hc => absurd hc h

theorem head?_single (cs : List Char) : (single cs).head? = cs.head? := by
  fun_cases single cs <;> rfl

end Single

/-! ### Pairs are replaced by two searches -/

section Replace

variable {b c : Char} {cs : List Char}

theorem replace_pair : Search.replace [b, b] [b] (b :: b :: cs) = b :: Search.replace [b, b] [b] cs := by
  simp [Search.replace, Search.replaceFrom, Search.beginsWith, Search.after?]

theorem replace_cons (h : c = b → cs.head? ≠ some b) :
    Search.replace [b, b] [b] (c :: cs) = c :: Search.replace [b, b] [b] cs := by
  have hbegins : Search.beginsWith [b, b] (c :: cs) = false := by
    cases cs with
    | nil => simp [Search.beginsWith, Search.after?]
    | cons d cs =>
      by_cases hc : b = c
      · have hd : b ≠ d := fun hd => h hc.symm (by rw [hd, List.head?_cons])
        simp [Search.beginsWith, Search.after?, hd]
      · simp [Search.beginsWith, Search.after?, hc]
  rw [Search.replace, Search.replaceFrom, hbegins]
  rfl

theorem head?_replace (b : Char) (cs : List Char) :
    (Search.replace [b, b] [b] cs).head? = cs.head? := by
  cases cs with
  | nil => rfl
  | cons c cs =>
    by_cases h : c = b → cs.head? ≠ some b
    · rw [replace_cons h]
      rfl
    · rw [Classical.not_imp, not_not] at h
      obtain ⟨rfl, hb⟩ := h
      obtain ⟨cs, rfl⟩ := List.head?_eq_some_iff.mp hb
      rw [replace_pair]
      rfl

/-- To look for pairs of one brace and then for pairs of the other is to look for both at once. -/
theorem replace_replace (cs : List Char) :
    Search.replace ['\x7d', '\x7d'] ['\x7d'] (Search.replace ['\x7b', '\x7b'] ['\x7b'] cs) =
      single cs := by
  fun_induction single cs with
  | case1 c d cs h ih =>
    obtain ⟨rfl, hc⟩ := h
    rcases isBrace_iff.mp hc with rfl | rfl
    · have hother (text : List Char) :
          Search.replace ['\x7d', '\x7d'] ['\x7d'] ('\x7b' :: text) = '\x7b' :: _ :=
        replace_cons fun h => absurd h (by decide)
      rw [replace_pair, hother, ih]
    · have hother (text : List Char) :
          Search.replace ['\x7b', '\x7b'] ['\x7b'] ('\x7d' :: text) = '\x7d' :: _ :=
        replace_cons fun h => absurd h (by decide)
      rw [hother, hother, replace_pair, ih]
  | case2 c d cs h ih =>
    -- Neither search finds a pair here, since the first one leaves the next character in its place.
    have hopen : c = '\x7b' → (d :: cs).head? ≠ some '\x7b' := by
      rintro rfl hd
      exact h ⟨(Option.some.inj hd).symm, rfl⟩
    have hclose : c = '\x7d' →
        (Search.replace ['\x7b', '\x7b'] ['\x7b'] (d :: cs)).head? ≠ some '\x7d' := by
      rw [head?_replace]
      rintro rfl hd
      exact h ⟨(Option.some.inj hd).symm, rfl⟩
    rw [replace_cons hopen, replace_cons hclose, ih]
  | case3 cs h =>
    cases cs with
    | nil => rfl
    | cons c cs =>
      cases cs with
      | nil =>
        rw [replace_cons (by simp), replace_cons (by simp [Search.replace, Search.replaceFrom])]
        rfl
      | cons d cs => exact absurd rfl (h c d cs)

end Replace

/-! ### Glyphs -/

/-- A character that a text stands for: most are written once, and braces can be written twice. -/
inductive Glyph where
  | once (c : Char)
  | twice (b : Char) (brace : isBrace b)

namespace Glyph

def char : Glyph → Char
  | once c => c
  | twice b _ => b

/-- A glyph when escapes have been decoded. -/
def written : Glyph → List Char
  | once c => [c]
  | twice b _ => [b, b]

end Glyph

/-- The text of some glyphs when escapes have been decoded. -/
def text (gs : List Glyph) : List Char := gs.flatMap Glyph.written

theorem head?_text (gs : List Glyph) : (text gs).head? = gs.head?.map Glyph.char := by
  rcases gs with _ | ⟨_ | _, gs⟩ <;> rfl

/-- There is a brace that is written once, behind none or more that are written twice. -/
inductive Meets (b : Char) : List Glyph → Prop
  | here (gs : List Glyph) : Meets b (.once b :: gs)
  | pass (brace : isBrace b) {gs : List Glyph} (rest : Meets b gs) : Meets b (.twice b brace :: gs)

/-- Two equal braces are written once, with nothing but braces that are written twice between them. -/
inductive Clash : List Glyph → Prop
  | here {b : Char} {gs : List Glyph} (brace : isBrace b) (meets : Meets b gs) : Clash (.once b :: gs)
  | later (g : Glyph) {gs : List Glyph} (rest : Clash gs) : Clash (g :: gs)

/-- Every row of glyphs is built from its end: by a brace that is written twice, by a character that makes no
pair with the next one, by two braces that make a pair, or by a brace that is written twice and comes between
one that is written once and the rest. -/
theorem glyph_induction {P : List Glyph → Prop} (nil : P [])
    (twice : ∀ b brace gs, P gs → P (.twice b brace :: gs))
    (once : ∀ c gs, (isBrace c → gs.head?.map Glyph.char ≠ some c) → P gs → P (.once c :: gs))
    (meet : ∀ b gs, isBrace b → P gs → P (.once b :: .once b :: gs))
    (pass : ∀ b brace gs, P (.once b :: gs) → P (.once b :: .twice b brace :: gs))
    (gs : List Glyph) : P gs := by
  induction hn : gs.length using Nat.strongRecOn generalizing gs with
  | ind n ih =>
    subst hn
    rcases gs with _ | ⟨c | ⟨b, brace⟩, gs⟩
    · exact nil
    · by_cases hpair : isBrace c → gs.head?.map Glyph.char ≠ some c
      · exact once c gs hpair (ih _ (Nat.lt_add_one _) gs rfl)
      · rw [Classical.not_imp, not_not] at hpair
        obtain ⟨hc, hhead⟩ := hpair
        rcases gs with _ | ⟨d | ⟨d, brace⟩, gs⟩
        · cases hhead
        · obtain rfl : d = c := Option.some.inj hhead
          exact meet d gs hc (ih _ (Nat.lt_succ_of_lt (Nat.lt_add_one _)) gs rfl)
        · obtain rfl : d = c := Option.some.inj hhead
          exact pass d brace gs (ih _ (Nat.lt_add_one _) (.once d :: gs) rfl)
    · exact twice b brace gs (ih _ (Nat.lt_add_one _) gs rfl)

section Clash

variable {b c : Char} {gs : List Glyph}

theorem Meets.head? (h : Meets b gs) : gs.head?.map Glyph.char = some b := by
  cases h <;> rfl

theorem clash_twice_iff {brace : isBrace b} : Clash (.twice b brace :: gs) ↔ Clash gs := by
  constructor
  · intro h
    cases h with
    | later _ rest => exact rest
  · exact .later _

theorem clash_once_iff (h : isBrace c → gs.head?.map Glyph.char ≠ some c) :
    Clash (.once c :: gs) ↔ Clash gs := by
  constructor
  · intro hclash
    cases hclash with
    | here brace meets => exact absurd meets.head? (h brace)
    | later _ rest => exact rest
  · exact .later _

/-- A brace that is written twice passes on what comes before it. -/
theorem clash_pass_iff {brace : isBrace b} :
    Clash (.once b :: .twice b brace :: gs) ↔ Clash (.once b :: gs) := by
  constructor
  · intro h
    cases h with
    | here brace meets =>
      cases meets with
      | pass _ rest => exact .here brace rest
    | later _ rest => exact .later _ (clash_twice_iff.mp rest)
  · intro h
    cases h with
    | here brace meets => exact .here brace (.pass brace meets)
    | later _ rest => exact .later _ (.later _ rest)

end Clash

section Single

variable {b c : Char} {gs : List Glyph}

theorem single_text_twice (brace : isBrace b) :
    single (text (.twice b brace :: gs)) = b :: single (text gs) := single_pair brace

theorem single_text_once (h : isBrace c → gs.head?.map Glyph.char ≠ some c) :
    single (text (.once c :: gs)) = c :: single (text gs) := by
  rw [← head?_text] at h
  exact single_cons h

theorem single_text_meet (brace : isBrace b) :
    single (text (.once b :: .once b :: gs)) = b :: single (text gs) := single_pair brace

theorem single_text_pass (brace : isBrace b) :
    single (text (.once b :: .twice b brace :: gs)) = b :: single (text (.once b :: gs)) :=
  single_pair brace

/-- Without a clash, the replacement of pairs leaves all characters. -/
theorem single_text_of_not_clash (h : ¬ Clash gs) : single (text gs) = gs.map Glyph.char := by
  induction gs using glyph_induction with
  | nil => rfl
  | twice b brace gs ih =>
    rw [single_text_twice, ih (mt clash_twice_iff.mpr h)]
    rfl
  | once c gs hpair ih =>
    rw [single_text_once hpair, ih (mt (clash_once_iff hpair).mpr h)]
    rfl
  | meet b gs brace ih => exact absurd (.here brace (.here gs)) h
  | pass b brace gs ih =>
    rw [single_text_pass, ih (mt clash_pass_iff.mpr h)]
    rfl

theorem length_single_text_le (gs : List Glyph) : (single (text gs)).length ≤ gs.length := by
  induction gs using glyph_induction with
  | nil => exact Nat.le_refl 0
  | twice b brace gs ih =>
    rw [single_text_twice]
    exact Nat.succ_le_succ ih
  | once c gs hpair ih =>
    rw [single_text_once hpair]
    exact Nat.succ_le_succ ih
  | meet b gs brace ih =>
    rw [single_text_meet brace]
    exact Nat.succ_le_succ (Nat.le_succ_of_le ih)
  | pass b brace gs ih =>
    rw [single_text_pass]
    exact Nat.succ_le_succ ih

/-- With a clash, a brace is lost. -/
theorem length_single_text_lt (h : Clash gs) : (single (text gs)).length < gs.length := by
  induction gs using glyph_induction with
  | nil => cases h
  | twice b brace gs ih =>
    rw [single_text_twice]
    exact Nat.succ_lt_succ (ih (clash_twice_iff.mp h))
  | once c gs hpair ih =>
    rw [single_text_once hpair]
    exact Nat.succ_lt_succ (ih ((clash_once_iff hpair).mp h))
  | meet b gs brace ih =>
    rw [single_text_meet brace]
    exact Nat.succ_lt_succ (Nat.lt_succ_of_le (length_single_text_le gs))
  | pass b brace gs ih =>
    rw [single_text_pass]
    exact Nat.succ_lt_succ (ih (clash_pass_iff.mp h))

end Single

/-- Braces are lost exactly where two that are written once clash. -/
theorem single_text_eq_iff {gs : List Glyph} : single (text gs) = gs.map Glyph.char ↔ ¬ Clash gs := by
  refine ⟨fun heq hclash => ?_, single_text_of_not_clash⟩
  have hlt := length_single_text_lt hclash
  rw [heq, List.length_map] at hlt
  exact Nat.lt_irrefl _ hlt

/-! ### The glyphs of a text -/

/-- What a text stands for, apart from braces. Escapes are as they are written in a raw text. -/
def meaning (raw : Bool) (s : List Char) : List Char := if raw then s else decode s

/-- The characters that a text stands for. Braces make pairs as they are written. -/
def glyphs (raw : Bool) : List Char → List Glyph
  | [] => []
  | c :: cs =>
    if c = '\\' ∧ raw = false then
      match cs with
      | [] => [.once c]
      | e :: cs =>
        if isBrace e then .once c :: glyphs raw (e :: cs)
        else (one e cs).1.map .once ++ glyphs raw (one e cs).2
    else
      match cs with
      | [] => [.once c]
      | d :: cs =>
        if h : c = d ∧ isBrace c then .twice c h.2 :: glyphs raw cs
        else .once c :: glyphs raw (d :: cs)
termination_by s => s.length
decreasing_by
  · simp
  · have := length_one_le e cs
    simp only [List.length_cons]
    omega
  · exact Nat.lt_succ_of_lt (Nat.lt_add_one _)
  · simp

section Escapes

variable {c e : Char} {cs : List Char}

theorem hexDigit?_of_isBrace (h : isBrace c) : CharSet.hexDigit? c = none := by
  rcases isBrace_iff.mp h with rfl | rfl <;> decide

/-- No escape begins with a brace. -/
theorem not_begins_of_isBrace (h : isBrace e) : ¬ Begins e := by
  have hdigit : ∀ v, ¬ IsDigit 8 e v := by
    intro v hv
    have hnone := hexDigit?_of_isBrace h
    rw [(hv.mono (by decide)).hexDigit?] at hnone
    cases hnone
  rintro (rfl | ⟨c, hc⟩ | ⟨width, hwidth⟩ | ⟨v, hv⟩)
  · cases h
  · rw [← simple?_eq_some_iff] at hc
    rcases isBrace_iff.mp h with rfl | rfl <;> cases hc
  · rw [← hexWidth?_eq_some_iff] at hwidth
    rcases isBrace_iff.mp h with rfl | rfl <;> cases hwidth
  · exact hdigit v hv

theorem decode_backslash_brace (h : isBrace e) :
    decode ('\\' :: e :: cs) = '\\' :: decode (e :: cs) := by
  have hplain : e ≠ '\\' := by
    rintro rfl
    cases h
  rw [decode_backslash (one_unknown (not_begins_of_isBrace h) cs), decode_cons hplain]
  rfl

theorem splitUpTo_single {p : Char → Bool} (hp : ∀ c, isBrace c → p c = false) (n : Nat)
    (cs : List Char) :
    splitUpTo p n (single cs) = ((splitUpTo p n cs).1, single (splitUpTo p n cs).2) := by
  induction n generalizing cs with
  | zero => simp [splitUpTo]
  | succ n ih =>
    cases cs with
    | nil => rfl
    | cons c cs =>
      cases hc : p c with
      | true =>
        have hbrace : ¬ isBrace c := fun h => by rw [hp c h] at hc; cases hc
        rw [single_cons_of_not_isBrace hbrace]
        simp [splitUpTo, hc, ih]
      | false =>
        obtain ⟨tail, htail⟩ := List.head?_eq_some_iff.mp (head?_single (c :: cs))
        simp [splitUpTo, hc, htail]

/-- Escapes end before any brace, so pairs of braces make no difference to them. -/
theorem one_single (e : Char) (cs : List Char) : one e (single cs) = ((one e cs).1, single (one e cs).2) := by
  have hhex : ∀ c, isBrace c → (CharSet.hexDigit? c).isSome = false := by
    intro c hc
    rw [hexDigit?_of_isBrace hc]
    rfl
  have hoctal : ∀ c, isBrace c → isOctalDigit c = false := by
    intro c hc
    rcases isBrace_iff.mp hc with rfl | rfl <;> rfl
  unfold one
  split
  · rfl
  · split
    · rfl
    · unfold hexadecimal
      rw [splitUpTo_single hhex]
      dsimp only
      split <;> rfl
    · split
      · unfold octal
        rw [splitUpTo_single hoctal]
        dsimp only
        split <;> rfl
      · rfl

theorem meaning_nil (raw : Bool) : meaning raw [] = [] := by
  cases raw with
  | true => rfl
  | false => exact decode_nil

theorem meaning_cons {raw : Bool} (h : ¬ (c = '\\' ∧ raw = false)) :
    meaning raw (c :: cs) = c :: meaning raw cs := by
  cases raw with
  | true => rfl
  | false => exact decode_cons (fun hc => h ⟨hc, rfl⟩) cs

theorem text_map_once (cs : List Char) : text (cs.map .once) = cs := by
  induction cs with
  | nil => rfl
  | cons c cs ih => exact congrArg (c :: ·) ih

end Escapes

/-- The text of the glyphs is the text itself with its escapes decoded. -/
theorem text_glyphs (raw : Bool) (s : List Char) : text (glyphs raw s) = meaning raw s := by
  fun_induction glyphs raw s with
  | case1 => exact (meaning_nil raw).symm
  | case2 c h =>
    obtain ⟨rfl, rfl⟩ := h
    exact decode_lone.symm
  | case3 c h e cs hbrace ih =>
    obtain ⟨rfl, rfl⟩ := h
    exact (congrArg ('\\' :: ·) ih).trans (decode_backslash_brace hbrace).symm
  | case4 c h e cs hbrace ih =>
    obtain ⟨rfl, rfl⟩ := h
    rw [text, List.flatMap_append, ← text, ← text, text_map_once, ih]
    exact (decode_backslash rfl).symm
  | case5 c h =>
    rw [meaning_cons h, meaning_nil]
    rfl
  | case6 c h d cs hpair ih =>
    obtain ⟨rfl, hbrace⟩ := hpair
    rw [meaning_cons h, meaning_cons h, ← ih]
    rfl
  | case7 c h d cs hpair ih =>
    rw [meaning_cons h, ← ih]
    rfl

/-- The characters of the glyphs are what a text stands for once its own pairs of braces are replaced. -/
theorem map_char_glyphs (raw : Bool) (s : List Char) :
    (glyphs raw s).map Glyph.char = meaning raw (single s) := by
  have hbackslash : ¬ isBrace '\\' := by decide
  fun_induction glyphs raw s with
  | case1 => exact (meaning_nil raw).symm
  | case2 c h =>
    obtain ⟨rfl, rfl⟩ := h
    exact decode_lone.symm
  | case3 c h e cs hbrace ih =>
    obtain ⟨rfl, rfl⟩ := h
    obtain ⟨tail, htail⟩ := List.head?_eq_some_iff.mp (head?_single (e :: cs))
    rw [single_cons_of_not_isBrace hbackslash, List.map_cons, ih, htail]
    exact (decode_backslash_brace hbrace).symm
  | case4 c h e cs hbrace ih =>
    obtain ⟨rfl, rfl⟩ := h
    have hid : Glyph.char ∘ Glyph.once = id := rfl
    rw [single_cons_of_not_isBrace hbackslash, single_cons_of_not_isBrace hbrace, List.map_append, ih,
      List.map_map, hid, List.map_id]
    exact (decode_backslash (one_single e cs)).symm
  | case5 c h =>
    have hsingle : single [c] = [c] := rfl
    rw [hsingle, meaning_cons h, meaning_nil]
    rfl
  | case6 c h d cs hpair ih =>
    obtain ⟨rfl, hbrace⟩ := hpair
    rw [single_pair hbrace, meaning_cons h, ← ih]
    rfl
  | case7 c h d cs hpair ih =>
    rw [single, if_neg hpair, meaning_cons h, ← ih]
    rfl

end CodeAudit.Braces
