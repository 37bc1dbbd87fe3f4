import CodeAudit.Text.CharSet

/-!
# Escapes in string literals

A backslash and the characters after it stand for one character, or for none at the end of a line. What
is not a known escape stays as it is written, with its backslash.
-/

namespace CodeAudit.Escape

/-- The longest beginning of at most `n` characters that all satisfy `p`, and the rest. -/
def splitUpTo (p : Char → Bool) : Nat → List Char → List Char × List Char
  | n + 1, c :: cs =>
    if p c then ((splitUpTo p n cs).map (c :: ·) id) else ([], c :: cs)
  | _, cs => ([], cs)

theorem length_splitUpTo_le (p : Char → Bool) (n : Nat) (cs : List Char) :
    (splitUpTo p n cs).2.length ≤ cs.length := by
  induction n generalizing cs with
  | zero => simp [splitUpTo]
  | succ n ih =>
    cases cs with
    | nil => simp [splitUpTo]
    | cons c cs =>
      simp only [splitUpTo]
      split
      · exact Nat.le_succ_of_le (ih cs)
      · exact Nat.le_refl _

/-- The number that some digits of a base stand for. -/
def valueOf (base : Nat) (digits : List Char) : Nat :=
  digits.foldl (fun n c => n * base + (CharSet.hexDigit? c).getD 0) 0

/-- The character with a number, if there is one. -/
def char? (n : Nat) : Option Char := if h : n.isValidChar then some (Char.ofNatAux n h) else none

/-- The number of hexadecimal digits after a letter. -/
def hexWidth? : Char → Option Nat
  | 'x' => some 2
  | 'u' => some 4
  | 'U' => some 8
  | _ => none

/-- Characters that stand for another one, or for themselves, after a backslash. -/
def simple? : Char → Option Char
  | '\\' => some '\\'
  | '\x27' => some '\x27'
  | '\x22' => some '\x22'
  | 'a' => some '\x07'
  | 'b' => some '\x08'
  | 'f' => some '\x0c'
  | 'n' => some '\n'
  | 'r' => some '\x0d'
  | 't' => some '\t'
  | 'v' => some '\x0b'
  | _ => none

def isOctalDigit (c : Char) : Bool := '0' ≤ c && c ≤ '7'

/-- What a hexadecimal escape with some letter stands for, and the rest of the text after it. -/
def hexadecimal (letter : Char) (width : Nat) (cs : List Char) : List Char × List Char :=
  let (digits, rest) := splitUpTo (fun c => (CharSet.hexDigit? c).isSome) width cs
  match if digits.length = width then char? (valueOf 16 digits) else none with
  | some c => ([c], rest)
  | none => ('\\' :: letter :: digits, rest)

/-- What an octal escape stands for, and the rest of the text after it. -/
def octal (first : Char) (cs : List Char) : List Char × List Char :=
  let (digits, rest) := splitUpTo isOctalDigit 2 cs
  match char? (valueOf 8 (first :: digits)) with
  | some c => ([c], rest)
  | none => (first :: digits, rest)

/-- What a backslash and the character `e` stand for before the text `cs`, and the rest of it. -/
def one (e : Char) (cs : List Char) : List Char × List Char :=
  if e = '\n' then ([], cs)
  else match simple? e, hexWidth? e with
    | some c, _ => ([c], cs)
    | none, some width => hexadecimal e width cs
    | none, none => if isOctalDigit e then octal e cs else (['\\', e], cs)

theorem length_one_le (e : Char) (cs : List Char) : (one e cs).2.length ≤ cs.length := by
  unfold one
  split
  · exact Nat.le_refl _
  · split
    · exact Nat.le_refl _
    · unfold hexadecimal
      dsimp only
      split <;> exact length_splitUpTo_le _ _ _
    · split
      · unfold octal
        dsimp only
        split <;> exact length_splitUpTo_le _ _ _
      · exact Nat.le_refl _

/-- The text that a literal stands for. -/
def decode : List Char → List Char
  | [] => []
  | c :: cs =>
    if c = '\\' then
      match cs with
      | [] => ['\\']
      | e :: cs => (one e cs).1 ++ decode (one e cs).2
    else c :: decode cs
termination_by cs => cs.length
decreasing_by
  · have := length_one_le e cs
    simp only [List.length_cons]
    omega
  · simp

end CodeAudit.Escape
