import CodeAudit.Regex.Pattern.Brackets
import CodeAudit.Text.Property.Category

/-!
# Reading patterns

`Regex.ofPattern?` reads the written form of a regular expression; it gives `none` when the pattern
is malformed. There are no references to groups and no looks at more than one character, so a group
only sets apart what belongs together, or changes flags for its content.

A pattern nested deeper than `nestLimit` is refused.
-/

namespace CodeAudit

namespace Pattern

/-- How deep groups, repetitions, sequences and classes may be nested. -/
def nestLimit : Nat := 250

/-- A part of a pattern that has been read: the expression and how deep it is nested. -/
structure Part where
  regex : Regex
  depth : Nat
deriving Inhabited

/-- An element of a sequence: a part, or a change of flags, which cannot be repeated. -/
inductive Element where
  | part (p : Part)
  | flags

/-- A sequence of elements, the last one first, as one part. -/
def sequenceOf (elements : List Element) : Part :=
  let parts := elements.reverse.filterMap fun e =>
    match e with
    | .part p => some p
    | .flags => none
  let depth := parts.foldl (fun d p => max d p.depth) 0
  ⟨.seqs (parts.map Part.regex), if 2 ≤ elements.length then depth + 1 else depth⟩

/-- Branches to choose from, the last one first, as one part. -/
def choiceOf (branches : List Part) : Part :=
  let depth := branches.foldl (fun d p => max d p.depth) 0
  ⟨.alts (branches.reverse.map Part.regex), if 2 ≤ branches.length then depth + 1 else depth⟩

/-- Reads a decimal number, which may have blanks around it. -/
def decimal : Reader (Option Nat) := do
  let _ ← takeWhile Blank.isBlank
  let verbose := (← get).flags.verbose
  let digits ← takeWhile fun c => c.isDigit || (verbose && Blank.isBlank c)
  let digits := digits.filter Char.isDigit
  let _ ← takeWhile Blank.isBlank
  skipSpace
  if digits.isEmpty then return none
  let n := digits.foldl (fun acc d => acc * 10 + (d.toNat - 48)) 0
  if n < UInt32.size then return some n else fail

/-- The element that a repetition applies to. -/
def repeated : List Element → Reader (Part × List Element)
  | .part p :: rest => return (p, rest)
  | _ => fail

/-- A repetition as an element. -/
def repetition (min : Nat) (max : Option Nat) (greedy : Bool) (p : Part) : Reader Element := do
  let swap := (← get).flags.swapGreed
  return .part ⟨.rep min max (greedy != swap) p.regex, p.depth + 1⟩

/-- Reads a repetition that is written as one character. -/
def plainRepetition (min : Nat) (max : Option Nat) (elements : List Element) :
    Reader (List Element) := do
  let (p, rest) ← repeated elements
  advance
  let lazy ← accept "?"
  return (← repetition min max (!lazy) p) :: rest

/-- Reads a repetition with its number of rounds in braces. -/
def countedRepetition (elements : List Element) : Reader (List Element) := do
  let (p, rest) ← repeated elements
  advanceSpace
  let _ ← demand
  let first ← decimal
  let (min, max) ←
    if (← demand) == ',' then do
      advanceSpace
      if (← demand) == '\x7d' then
        match first with
        | some n => pure (n, none)
        | none => fail
      else
        match first, ← decimal with
        | some n, some m => pure (n, some m)
        | _, _ => fail
    else
      match first with
      | some n => pure (n, some n)
      | none => fail
  if (← demand) != '\x7d' then fail
  advanceSpace
  let lazy ← accept "?"
  if max.any (· < min) then fail
  return (← repetition min max (!lazy) p) :: rest

/-- Reads the name of a group up to its closing angle bracket. No name is used twice. -/
def groupName : Reader Unit := do
  let name ← takeWhile (· != '>')
  let _ ← demand
  advance
  let alphabetic := (BinaryProperty.find? "alphabetic").getD .empty
  let numeric := (Category.find? "n").getD .empty
  let isFirst (c : Char) := c == '_' || alphabetic.contains c
  let isNext (c : Char) := isFirst c || ['.', '[', ']'].contains c || numeric.contains c
  match name with
  | [] => fail
  | c :: cs =>
    if !isFirst c || !cs.all isNext || (← get).names.contains name then fail
    modify fun s => { s with names := name :: s.names }

/-- Sets a flag by its letter. -/
def Flags.set? (f : Flags) (letter : Char) (on : Bool) : Option Flags :=
  match letter with
  | 'i' => some { f with caseInsensitive := on }
  | 'm' => some { f with multiLine := on }
  | 's' => some { f with dotAll := on }
  | 'U' => some { f with swapGreed := on }
  | 'u' => some { f with unicode := on }
  | 'R' => some { f with crlf := on }
  | 'x' => some { f with verbose := on }
  | _ => none

/-- The flags after a list of letters, with a dash before those that are switched off. No letter
stands twice, there is at most one dash, and it is not the last character. -/
def Flags.change? (f : Flags) (seen : List Char) (on : Bool) : List Char → Option Flags
  | [] => if seen.head? == some '-' then none else some f
  | c :: cs =>
    if seen.contains c then none
    else if c == '-' then f.change? (c :: seen) false cs
    else (f.set? c on).bind fun f => f.change? (c :: seen) on cs

/-- Reads the flags of a group and the character that closes them. -/
def groupFlags : Reader (Flags × Bool × Char) := do
  let letters ← takeWhile fun c => c != ':' && c != ')'
  let close ← demand
  advance
  match (← get).flags.change? [] true letters with
  | some f => return (f, letters.isEmpty, close)
  | none => fail

/-- The expression for any character. -/
def dot : Reader Regex := do
  let f := (← get).flags
  if !f.unicode then fail
  if f.dotAll then return .set .any
  return .set (CharSet.ofList (if f.crlf then ['\n', '\r'] else ['\n'])).compl

/-- The look at the start of a line or of the text. -/
def caret (f : Flags) : Look :=
  if !f.multiLine then .start else if f.crlf then .startLineCrlf else .startLine

/-- The look at the end of a line or of the text. -/
def dollar (f : Flags) : Look :=
  if !f.multiLine then .stop else if f.crlf then .stopLineCrlf else .stopLine

/-- Reads the content of a group and its closing parenthesis; then the flags are as before. -/
def groupContent (inside : Reader Part) (flags : Flags) : Reader Element := do
  let p ← inside
  if (← demand) != ')' then fail
  advance
  modify fun s => { s with flags }
  return .part ⟨p.regex, p.depth + 1⟩

/-- Reads a group with the help of a reader for its content, or a change of flags for what follows. -/
def group (inside : Reader Part) : Reader Element := do
  advanceSpace
  let flags := (← get).flags
  let look (piece : String) : Reader Bool :=
    return piece.toList.isPrefixOf (← get).rest
  if (← look "?=") || (← look "?!") || (← look "?<=") || (← look "?<!") then fail
  if (← accept "?P<") || (← accept "?<") then
    groupName
    groupContent inside flags
  else if ← accept "?" then
    let (changed, bare, close) ← groupFlags
    modify fun s => { s with flags := changed }
    if close == ')' then
      if bare then fail
      return .flags
    else groupContent inside flags
  else groupContent inside flags

/-- Reads branches up to a closing parenthesis, which stays, or the end. -/
def branches : Nat → List Part → List Element → Reader Part
  | 0, _, _ => fail
  | fuel + 1, done, elements => do
    skipSpace
    match ← peek with
    | none | some ')' => return choiceOf (sequenceOf elements :: done)
    | some '|' =>
      advance
      branches fuel (sequenceOf elements :: done) []
    | some '(' => branches fuel done ((← group (branches fuel [] [])) :: elements)
    | some '[' =>
      let (s, depth) ← bracketClass fuel
      branches fuel done (.part ⟨.set s, depth + 1⟩ :: elements)
    | some '?' => branches fuel done (← plainRepetition 0 (some 1) elements)
    | some '*' => branches fuel done (← plainRepetition 0 none elements)
    | some '+' => branches fuel done (← plainRepetition 1 none elements)
    | some '\x7b' => branches fuel done (← countedRepetition elements)
    | some '\\' =>
      let r ← (← escape).regex
      branches fuel done (.part ⟨r, 0⟩ :: elements)
    | some c =>
      advance
      let f := (← get).flags
      let r ← match c with
        | '.' => dot
        | '^' => pure (.look (caret f))
        | '$' => pure (.look (dollar f))
        | c => Primitive.regex (.literal c)
      branches fuel done (.part ⟨r, 0⟩ :: elements)

end Pattern

/-- The expression with a written form, or `none` when the pattern is malformed. -/
def Regex.ofPattern? (pattern : String) : Option Regex :=
  let cs := pattern.toList
  match Pattern.branches (cs.length + 2) [] [] ⟨cs, {}, []⟩ with
  | some (p, s) => if s.rest.isEmpty && p.depth ≤ Pattern.nestLimit then some p.regex else none
  | none => none

end CodeAudit
