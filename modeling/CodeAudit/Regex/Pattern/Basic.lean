import CodeAudit.Regex.Basic
import CodeAudit.Regex.Class

/-!
# The pieces of a pattern

A pattern is read from left to right by a `Reader`, which holds what is left of it and the flags that
are in force. This module reads single characters and escapes, and says what they stand for under
the flags.
-/

namespace CodeAudit

namespace Pattern

/-- The options that a pattern can switch on and off. -/
structure Flags where
  caseInsensitive : Bool := false
  multiLine : Bool := false
  dotAll : Bool := false
  swapGreed : Bool := false
  unicode : Bool := true
  crlf : Bool := false
  verbose : Bool := false

/-- What is left to read, the flags in force and the group names in use. -/
structure State where
  rest : List Char
  flags : Flags
  names : List (List Char)

/-- Reading, which may fail. -/
abbrev Reader := StateT State Option

/-- Gives up. -/
def fail {α : Type} : Reader α := fun _ => none

/-- The next character, which stays. -/
def peek : Reader (Option Char) := return (← get).rest.head?

/-- The character after the next one. -/
def peekSecond : Reader (Option Char) := return ((← get).rest.drop 1).head?

/-- Passes over a character. -/
def advance : Reader Unit := modify fun s => { s with rest := s.rest.drop 1 }

/-- Passes over blanks and comments, if the flags say that they do not count. -/
def skipSpace : Reader Unit := modify fun s =>
  if s.flags.verbose then { s with rest := skip false s.rest } else s
where
  /-- What follows blanks and comments; `comment` tells whether the text begins inside a comment. -/
  skip (comment : Bool) : List Char → List Char
    | [] => []
    | c :: cs =>
      if comment then skip (c != '\n') cs
      else if Blank.isBlank c then skip false cs
      else if c == '#' then skip true cs
      else c :: cs

/-- Passes over a character and what does not count after it. -/
def advanceSpace : Reader Unit := do
  advance
  skipSpace

/-- Passes over a piece of text if it comes next. -/
def accept (piece : String) : Reader Bool := fun s =>
  let cs := piece.toList
  if cs.isPrefixOf s.rest then some (true, { s with rest := s.rest.drop cs.length })
  else some (false, s)

/-- The next character; fails at the end. -/
def demand : Reader Char := do
  match ← peek with
  | some c => return c
  | none => fail

/-- Passes over the longest run of characters with a property, and gives it. -/
def takeWhile (p : Char → Bool) : Reader (List Char) := fun s =>
  some (s.rest.takeWhile p, { s with rest := s.rest.dropWhile p })

/-- A set with everything that the flags put on the same level as a member. -/
def foldCase (f : Flags) (s : CharSet) : CharSet :=
  if !f.caseInsensitive then s
  else if f.unicode then CaseOrbit.close s
  else CharClass.closeAscii s

/-- The complement of a set, among bytes or among characters. -/
def negate (f : Flags) (s : CharSet) : CharSet :=
  if f.unicode then s.compl else s.compl.inter ⟨[(0, CharClass.byteTop)]⟩

/-- A set as the flags allow it: without Unicode, only ASCII can be part of a text. -/
def permit (f : Flags) (s : CharSet) : Reader CharSet :=
  if f.unicode || s.ranges.all fun r => r.2 < 128 then pure s else fail

/-- Case, then negation. -/
def foldAndNegate (negated : Bool) (s : CharSet) : Reader CharSet := do
  let f := (← get).flags
  let s := foldCase f s
  permit f (if negated then negate f s else s)

/-- What an escape or a plain character stands for. -/
inductive Primitive where
  | literal (c : Char)
  /-- A byte given by two hexadecimal digits. -/
  | byte (n : Nat)
  | set (s : CharSet)
  | look (l : Look)

/-- Reads `n` hexadecimal digits. -/
def hexDigits : Nat → Nat → Reader Nat
  | 0, acc => pure acc
  | n + 1, acc => do
    skipSpace
    match CharSet.hexDigit? (← demand) with
    | some d =>
      advance
      hexDigits n (acc * 16 + d)
    | none => fail

/-- The character with a code point; fails when there is none. -/
def scalar (n : Nat) : Reader Char :=
  if n < 0xD800 || (0xE000 ≤ n && n ≤ CharSet.top) then pure (Char.ofNat n) else fail

/-- Reads the code point of an escape such as `\x41` or `\x{41}`. -/
def hexEscape (kind : Char) : Reader Primitive := do
  advanceSpace
  if (← demand) == '\x7b' then
    advanceSpace
    let digits ← takeWhile (· != '\x7d')
    let _ ← demand
    advance
    let verbose := (← get).flags.verbose
    let digits := if verbose then digits.filter fun c => !Blank.isBlank c else digits
    if digits.isEmpty then fail
    else
      match digits.mapM CharSet.hexDigit? with
      | some ds => return .literal (← scalar (ds.foldl (fun acc d => acc * 16 + d) 0))
      | none => fail
  else
    match kind with
    | 'x' => return .byte (← hexDigits 2 0)
    | 'u' => return .literal (← scalar (← hexDigits 4 0))
    | _ => return .literal (← scalar (← hexDigits 8 0))

/-- The part before and the part after the first occurrence of a mark. -/
def splitMark (mark : List Char) : List Char → Option (List Char × List Char)
  | [] => none
  | c :: cs =>
    if mark.isPrefixOf (c :: cs) then some ([], (c :: cs).drop mark.length)
    else (splitMark mark cs).map fun p => (c :: p.1, p.2)

/-- Reads the name of a property and gives its characters. -/
def propertyEscape (negated : Bool) : Reader Primitive := do
  if !(← get).flags.unicode then fail
  advanceSpace
  let c ← demand
  let (found, negated) ←
    if c == '\x7b' then do
      advance
      let name ← takeWhile (· != '\x7d')
      let _ ← demand
      advance
      if let some (n, v) := splitMark ['!', '='] name then
        pure (CharClass.valued? n v, !negated)
      else if let some (n, v) := splitMark [':'] name then pure (CharClass.valued? n v, negated)
      else if let some (n, v) := splitMark ['='] name then pure (CharClass.valued? n v, negated)
      else pure (CharClass.property? name, negated)
    else if c == '\\' then fail
    else do
      advanceSpace
      pure (CharClass.property? [c], negated)
  match found with
  | some s => return .set (← foldAndNegate negated s)
  | none => fail

/-- Reads one of the classes that are named by a letter; a capital stands for the complement. -/
def letterClass (c : Char) : Reader Primitive := do
  advance
  let f := (← get).flags
  let s := match c.toLower with
    | 'd' => Words.digit f.unicode
    | 's' => Words.blank f.unicode
    | _ => Words.word f.unicode
  return .set (← permit f (if c.isUpper then negate f s else s))

/-- Reads the name of a special word boundary in braces. A brace that is not followed by a letter or
a dash is left to be read as a number of rounds. -/
def boundaryName : Reader (Option (List Char)) := do
  let s ← get
  let valid (c : Char) := c.isAlpha || c == '-'
  advanceSpace
  if valid (← demand) then
    let name ← takeWhile fun c => valid c || (s.flags.verbose && Blank.isBlank c)
    if (← demand) != '\x7d' then fail
    advance
    return some (name.filter valid)
  else
    set s
    return none

/-- Reads a word boundary, after its letter. -/
def boundary : Reader Primitive := do
  let u := (← get).flags.unicode
  if (← peek) != some '\x7b' then return .look (.wordBoundary u)
  match ← boundaryName with
  | none => return .look (.wordBoundary u)
  | some name =>
    match String.ofList name with
    | "start" => return .look (.wordStart u)
    | "end" => return .look (.wordStop u)
    | "start-half" => return .look (.wordStartHalf u)
    | "end-half" => return .look (.wordStopHalf u)
    | _ => fail

/-- Whether an escape of a character stands for the character itself: any ASCII character that is
neither a letter nor a digit, except the angle brackets. -/
def isEscapable (c : Char) : Bool := c.toNat < 128 && !c.isAlphanum && c != '<' && c != '>'

/-- Reads an escape. -/
def escape : Reader Primitive := do
  advance
  let c ← demand
  let u := (← get).flags.unicode
  if c == 'x' || c == 'u' || c == 'U' then hexEscape c
  else if c == 'p' || c == 'P' then propertyEscape (c == 'P')
  else if ['d', 's', 'w', 'D', 'S', 'W'].contains c then letterClass c
  else do
    advance
    if isEscapable c then return .literal c
    match c with
    | 'a' => return .literal '\x07'
    | 'f' => return .literal '\x0c'
    | 't' => return .literal '\t'
    | 'n' => return .literal '\n'
    | 'r' => return .literal '\r'
    | 'v' => return .literal '\x0b'
    | 'A' => return .look .start
    | 'z' => return .look .stop
    | 'b' => boundary
    | 'B' => return .look (.notWordBoundary u)
    | '<' => return .look (.wordStart u)
    | '>' => return .look (.wordStop u)
    | _ => fail

/-- The character a primitive stands for. A byte beyond ASCII is a character only with Unicode. -/
def Primitive.char? (f : Flags) : Primitive → Option Char
  | .literal c => some c
  | .byte n => if f.unicode || n < 128 then some (Char.ofNat n) else none
  | _ => none

/-- The expression of a primitive outside of a class. -/
def Primitive.regex (p : Primitive) : Reader Regex := do
  let f := (← get).flags
  match p with
  | .set s => return .set s
  | .look l => return .look l
  | p =>
    match p.char? f with
    | none => fail
    | some c =>
      if !f.unicode && 128 ≤ c.toNat then return .set (.single c)
      return .set (foldCase f (.single c))

/-- The members of a primitive inside of a class. -/
def Primitive.members (p : Primitive) : Reader CharSet := do
  let f := (← get).flags
  match p with
  | .set s => return s
  | .look _ => fail
  | p =>
    match p.char? f with
    | none => fail
    | some c => if !f.unicode && 128 ≤ c.toNat then fail else return .single c

end Pattern

end CodeAudit
