import CodeAudit.Regex.Pattern.Basic

/-!
# Classes in brackets

A class in brackets is a union of characters, ranges, named classes and further classes in brackets.
Two unions can be joined by `&&`, `--` and `~~`, for the common members, the difference and what is
in exactly one of them; these associate to the left.
-/

namespace CodeAudit

namespace Pattern

/-- Reads a class such as `[:alpha:]`; gives `none`, and reads nothing, when there is none. -/
def asciiClass : Reader (Option CharSet) := do
  let s ← get
  let undo : Reader (Option CharSet) := do
    set s
    return none
  if !(← accept "[:") then return none
  let negated ← accept "^"
  let name ← takeWhile (· != ':')
  if !(← accept ":]") then undo
  else
    match CharClass.ascii? (String.ofList name) with
    | none => undo
    | some set => return some (← foldAndNegate negated set)

/-- An operation between two sides of a class. -/
inductive SetOp where
  | inter
  | diff
  | symmDiff

/-- The result of an operation. -/
def SetOp.apply : SetOp → CharSet → CharSet → CharSet
  | .inter, a, b => a.inter b
  | .diff, a, b => a.diff b
  | .symmDiff, a, b => a.symmDiff b

/-- The side of a class that is being read: the members, the number of items and how deep they are
nested; and the side before it with the operation between them. -/
structure Side where
  members : CharSet := .empty
  items : Nat := 0
  depth : Nat := 0
  left : Option (SetOp × CharSet × Nat) := none

namespace Side

/-- Adds an item. -/
def add (s : Side) (members : CharSet) (depth : Nat) : Side :=
  { s with members := s.members.union members, items := s.items + 1, depth := max s.depth depth }

/-- How deep the items of a side are nested; several items are a level of their own. -/
def nesting (s : Side) : Nat := if 2 ≤ s.items then s.depth + 1 else s.depth

/-- Both sides as one set. The sides are brought to the same case before the operation. -/
def close (f : Flags) (s : Side) : CharSet × Nat :=
  match s.left with
  | none => (s.members, s.nesting)
  | some (op, left, depth) =>
    (op.apply (foldCase f left) (foldCase f s.members), max depth s.nesting + 1)

end Side

/-- Reads a character or an escape. -/
def classItem : Reader Primitive := do
  let c ← demand
  if c == '\\' then escape
  else
    advance
    return .literal c

/-- The character after a dash and what does not count behind it; the dash stays. -/
def peekBehindDash : Reader (Option Char) := do
  let s ← get
  advanceSpace
  let c ← peek
  set s
  return c

/-- Reads dashes at the start of a class, which stand for themselves. -/
def leadingDashes : Nat → Side → Reader Side
  | 0, side => pure side
  | n + 1, side => do
    if (← demand) == '-' then
      advanceSpace
      leadingDashes n (side.add (.single '-') 0)
    else return side

/-- Reads a class in brackets with the help of a reader for its items: its members, and how deep they
are nested. -/
def bracketed (items : Side → Reader (CharSet × Nat)) (fuel : Nat) : Reader (CharSet × Nat) := do
  advanceSpace
  let negated := (← demand) == '^'
  if negated then advanceSpace
  let side ← leadingDashes fuel {}
  let side ←
    if side.items == 0 && (← demand) == ']' then do
      advanceSpace
      let _ ← demand
      pure (side.add (.single ']') 0)
    else pure side
  let (members, depth) ← items side
  return (← foldAndNegate negated members, depth)

/-- Reads the items of a class up to its closing bracket. -/
def classItems : Nat → Side → Reader (CharSet × Nat)
  | 0, _ => fail
  | fuel + 1, side => do
    skipSpace
    let c ← demand
    let second ← peekSecond
    let operator? : Option SetOp :=
      if c == '&' && second == some '&' then some .inter
      else if c == '-' && second == some '-' then some .diff
      else if c == '~' && second == some '~' then some .symmDiff
      else none
    if c == '[' then
      match ← asciiClass with
      | some members => classItems fuel (side.add members 0)
      | none =>
        let (members, depth) ← bracketed (fun side => classItems fuel side) fuel
        classItems fuel (side.add members (depth + 1))
    else if c == ']' then
      advance
      return side.close (← get).flags
    else if let some op := operator? then
      advance
      advance
      let (left, depth) := side.close (← get).flags
      classItems fuel { left := some (op, left, depth) }
    else
      let first ← classItem
      skipSpace
      let dash ← demand
      let behind ← peekBehindDash
      if dash != '-' || behind == some ']' || behind == some '-' then
        classItems fuel (side.add (← first.members) 0)
      else
        advanceSpace
        let _ ← demand
        let last ← classItem
        let f := (← get).flags
        match first.char? f, last.char? f with
        | some a, some b =>
          if b < a || (!f.unicode && 128 ≤ b.toNat) then fail
          else classItems fuel (side.add (.between a b) 0)
        | _, _ => fail

/-- Reads a class in brackets: its members, and how deep they are nested. -/
def bracketClass (fuel : Nat) : Reader (CharSet × Nat) := bracketed (classItems fuel) fuel

end Pattern

end CodeAudit
