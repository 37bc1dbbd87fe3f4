import CodeAudit.Text.CharSet

/-!
# Regular expressions

A `Regex` describes pieces of a text. Besides characters there are looks, which hold between two
characters and take up nothing. Both alternatives and repetitions are ordered: of two ways to match,
the one that comes first wins, and a repetition that is not greedy prefers fewer rounds.
-/

namespace CodeAudit

/-- A condition on the place between two characters. -/
inductive Look where
  | start
  | stop
  | startLine
  | stopLine
  | startLineCrlf
  | stopLineCrlf
  | wordBoundary (unicode : Bool)
  | notWordBoundary (unicode : Bool)
  | wordStart (unicode : Bool)
  | wordStop (unicode : Bool)
  | wordStartHalf (unicode : Bool)
  | wordStopHalf (unicode : Bool)
deriving DecidableEq

/-- A regular expression. -/
inductive Regex where
  | empty
  | set (s : CharSet)
  | look (l : Look)
  | seq (a b : Regex)
  | alt (a b : Regex)
  /-- At least `min` rounds, and at most `max` where that is given. -/
  | rep (min : Nat) (max : Option Nat) (greedy : Bool) (body : Regex)
deriving DecidableEq, Inhabited

namespace Regex

/-- Several expressions one after another. -/
def seqs : List Regex → Regex
  | [] => empty
  | [r] => r
  | r :: rs => seq r (seqs rs)

/-- Several expressions to choose from, the earlier ones first. -/
def alts : List Regex → Regex
  | [] => empty
  | [r] => r
  | r :: rs => alt r (alts rs)

end Regex

end CodeAudit
