/-!
# Sets of characters

A `CharSet` is a list of closed intervals of code points, in increasing order and with gaps between
them. Sets with thousands of members, such as the letters of all scripts, are written down as a text
of hexadecimal intervals and read by `CharSet.ofTable`.
-/

namespace CodeAudit

/-- A set of characters, as closed intervals of code points in increasing order. -/
structure CharSet where
  ranges : List (Nat × Nat)
deriving DecidableEq, Inhabited

namespace CharSet

/-- The greatest code point. -/
def top : Nat := 0x10FFFF

/-- Whether a code point lies in one of some intervals. -/
def memberOf (c : Nat) : List (Nat × Nat) → Bool
  | [] => false
  | (lo, hi) :: rest => if c < lo then false else c ≤ hi || memberOf c rest

/-- Membership of a character. The intervals are in order, so the search stops at the first one that
starts beyond the character. -/
def contains (s : CharSet) (c : Char) : Bool := memberOf c.toNat s.ranges

/-- The set without members. -/
def empty : CharSet := ⟨[]⟩

/-- The set of all characters. -/
def any : CharSet := ⟨[(0, top)]⟩

private def coalesce (lo hi : Nat) : List (Nat × Nat) → List (Nat × Nat)
  | [] => [(lo, hi)]
  | (lo', hi') :: rest =>
    if lo' ≤ hi + 1 then coalesce lo (max hi hi') rest else (lo, hi) :: coalesce lo' hi' rest

/-- Puts an interval before the first one that does not start before it. -/
def insertRange (r : Nat × Nat) : List (Nat × Nat) → List (Nat × Nat)
  | [] => [r]
  | r' :: rest => if r.1 ≤ r'.1 then r :: r' :: rest else r' :: insertRange r rest

/-- The set of the members of some intervals, given in any order. -/
def ofRanges (rs : List (Nat × Nat)) : CharSet :=
  match rs.foldr insertRange [] with
  | [] => empty
  | (lo, hi) :: rest => ⟨coalesce lo hi rest⟩

/-- The set of one character. -/
def single (c : Char) : CharSet := ⟨[(c.toNat, c.toNat)]⟩

/-- The characters from `a` to `b`, both included. -/
def between (a b : Char) : CharSet := if a ≤ b then ⟨[(a.toNat, b.toNat)]⟩ else empty

/-- The characters of a list. -/
def ofList (cs : List Char) : CharSet := ofRanges (cs.map fun c => (c.toNat, c.toNat))

/-- The union of two sets. -/
def union (s t : CharSet) : CharSet := ofRanges (s.ranges ++ t.ranges)

/-- The union of any number of sets. -/
def unions (ss : List CharSet) : CharSet := ofRanges (ss.flatMap ranges)

private def gaps (start : Nat) : List (Nat × Nat) → List (Nat × Nat)
  | [] => if start ≤ top then [(start, top)] else []
  | (lo, hi) :: rest =>
    if start < lo then (start, lo - 1) :: gaps (hi + 1) rest else gaps (hi + 1) rest

/-- The characters that are not in a set. -/
def compl (s : CharSet) : CharSet := ⟨gaps 0 s.ranges⟩

/-- The common members of two sets. -/
def inter (s t : CharSet) : CharSet := (s.compl.union t.compl).compl

/-- The members of the first set that are not in the second. -/
def diff (s t : CharSet) : CharSet := s.inter t.compl

/-- The characters that are in exactly one of two sets. -/
def symmDiff (s t : CharSet) : CharSet := (s.diff t).union (t.diff s)

/-- The value of a hexadecimal digit. -/
def hexDigit? (c : Char) : Option Nat :=
  if '0' ≤ c ∧ c ≤ '9' then some (c.toNat - 48)
  else if 'A' ≤ c ∧ c ≤ 'F' then some (c.toNat - 55)
  else if 'a' ≤ c ∧ c ≤ 'f' then some (c.toNat - 87)
  else none

/-- Reads the intervals of a table, where `lo` and `hi` are the ends of the present one that are read
already. -/
private def readRanges (lo hi : Option Nat) : List Char → List (Nat × Nat)
  | [] => hi.toList.map fun n => (lo.getD n, n)
  | c :: rest =>
    match hexDigit? c with
    | some d => readRanges lo (some (hi.getD 0 * 16 + d)) rest
    | none =>
      if c == '-' then readRanges hi none rest
      else (hi.toList.map fun n => (lo.getD n, n)) ++ readRanges none none rest

/-- Reads a table: hexadecimal code points, or two of them with a dash for an interval, in order and
separated by blanks and line ends. -/
def ofTable (table : String) : CharSet := ⟨readRanges none none table.toList⟩

end CharSet

end CodeAudit
