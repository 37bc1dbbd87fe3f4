import CodeAudit.Regex.Basic
import CodeAudit.Regex.Words

/-!
# Searching a text

`Regex.ends` lists where the pieces that start at a given place may end, in the order of preference
and each place once. A search tries the places of the text from left to right; the first that has an
end gives the match, and the most preferred end is taken.

Rounds of a repetition are explored depth first. No round starts twice at the same place, which is
what keeps a body that matches nothing from going round forever.
-/

namespace CodeAudit

namespace Look

/-- Whether a look holds before the character at place `i`. -/
def holds (text : Array Char) (i : Nat) (l : Look) : Bool :=
  let before : Option Char := if i = 0 then none else text[i - 1]?
  let behind : Option Char := text[i]?
  let wordBefore (u : Bool) := before.any (Words.isWord u)
  let wordBehind (u : Bool) := behind.any (Words.isWord u)
  match l with
  | start => before.isNone
  | stop => behind.isNone
  | startLine => before.all (· == '\n')
  | stopLine => behind.all (· == '\n')
  | startLineCrlf =>
    before.all fun c => c == '\n' || (c == '\r' && behind != some '\n')
  | stopLineCrlf =>
    behind.all fun c => c == '\r' || (c == '\n' && before != some '\r')
  | wordBoundary u => wordBefore u != wordBehind u
  | notWordBoundary u => wordBefore u == wordBehind u
  | wordStart u => !wordBefore u && wordBehind u
  | wordStop u => wordBefore u && !wordBehind u
  | wordStartHalf u => !wordBefore u
  | wordStopHalf u => !wordBehind u

end Look

namespace Regex

/-- Places in the order they were found, the latest first, with a bit for each place. -/
structure Places where
  found : List Nat
  bits : Nat

namespace Places

/-- No places. -/
def empty : Places := ⟨[], 0⟩

/-- Adds a place unless it is there already. -/
def add (p : Places) (i : Nat) : Places :=
  if p.bits.testBit i then p else ⟨i :: p.found, p.bits ||| (1 <<< i)⟩

/-- The places in the order they were found. -/
def toList (p : Places) : List Nat := p.found.reverse

end Places

/-- The places of a list, each one once. -/
def distinct (is : List Nat) : List Nat := (is.foldl Places.add .empty).toList

/-- The state of exploring a repetition without an upper bound: where rounds have started, where
they have ended, and the ends that are settled. -/
structure Rounds where
  started : Nat
  ended : Nat
  ends : Places

/-- Explores the rounds that start at `i`, unless that has been done. Each end of a round is an end
of the repetition too: after all that further rounds give if the repetition is greedy, and before it
otherwise. Every nested round starts at a place of its own, so `fuel` need only exceed the number of
places. -/
def explore (step : Nat → List Nat) (greedy : Bool) : Nat → Nat → Rounds → Rounds
  | 0, _, s => s
  | fuel + 1, i, s =>
    if s.started.testBit i then s
    else
      (step i).foldl (fun s j =>
        if s.ended.testBit j then s
        else
          let s := { s with ended := s.ended ||| (1 <<< j) }
          if greedy then
            let s := explore step greedy fuel j s
            { s with ends := s.ends.add j }
          else explore step greedy fuel j { s with ends := s.ends.add j })
        { s with started := s.started ||| (1 <<< i) }

/-- The ends of one or more rounds from `i` in a text of `size` characters. -/
def oneOrMore (step : Nat → List Nat) (greedy : Bool) (size i : Nat) : List Nat :=
  (explore step greedy (size + 2) i ⟨0, 0, .empty⟩).ends.toList

/-- The ends of exactly `n` rounds. Once a further round changes nothing, none does. -/
def exactly (step : Nat → List Nat) : Nat → List Nat → List Nat
  | 0, is => is
  | n + 1, is =>
    let next := distinct (is.flatMap step)
    if next == is then is else exactly step n next

/-- The state of exploring a repetition with an upper bound: a bit for each number of rounds left at
each place that has been looked at, and the ends that are settled. -/
structure Tries where
  looked : Nat
  ends : Places

/-- Explores up to `n` rounds from `i`, unless that has been done. -/
def exploreUpTo (step : Nat → List Nat) (greedy : Bool) (width : Nat) : Nat → Nat → Tries → Tries
  | 0, i, s => { s with ends := s.ends.add i }
  | n + 1, i, s =>
    let mark := (n + 1) * width + i
    if s.looked.testBit mark then s
    else
      let s := { s with looked := s.looked ||| (1 <<< mark) }
      if greedy then
        let s := (step i).foldl (fun s j => exploreUpTo step greedy width n j s) s
        { s with ends := s.ends.add i }
      else
        (step i).foldl (fun s j => exploreUpTo step greedy width n j s)
          { s with ends := s.ends.add i }

/-- The ends of at most `n` rounds from `i` in a text of `size` characters. -/
def atMost (step : Nat → List Nat) (greedy : Bool) (size n i : Nat) : List Nat :=
  (exploreUpTo step greedy (size + 1) n i ⟨0, .empty⟩).ends.toList

/-- Where the pieces that start at a place may end, in the order of preference. -/
def ends (text : Array Char) : Regex → Nat → List Nat
  | empty, i => [i]
  | set s, i =>
    match text[i]? with
    | some c => if s.contains c then [i + 1] else []
    | none => []
  | look l, i => if l.holds text i then [i] else []
  | seq a b, i => distinct ((ends text a i).flatMap (ends text b))
  | alt a b, i => distinct (ends text a i ++ ends text b i)
  | rep min max greedy body, i =>
    let step := ends text body
    match max with
    | some m => distinct ((exactly step min [i]).flatMap (atMost step greedy text.size (m - min)))
    | none =>
      match min with
      | 0 =>
        let more := oneOrMore step greedy text.size i
        distinct (if greedy then more ++ [i] else i :: more)
      | n + 1 => distinct ((exactly step n [i]).flatMap (oneOrMore step greedy text.size))

/-- The first match that starts at a place or at one of the places after it. -/
def findFrom (text : Array Char) (r : Regex) : Nat → Nat → Option (Nat × Nat)
  | 0, _ => none
  | fuel + 1, i =>
    match ends text r i with
    | j :: _ => some (i, j)
    | [] => findFrom text r fuel (i + 1)

/-- The first match in a text: where it starts and where it ends. -/
def find? (r : Regex) (text : Array Char) : Option (Nat × Nat) := findFrom text r (text.size + 1) 0

/-- The text of the first match in a string. -/
def findIn? (r : Regex) (s : String) : Option String :=
  let text := s.toList.toArray
  (r.find? text).map fun m => String.ofList (text.extract m.1 m.2).toList

/-- Whether a string has a match. -/
def isMatch (r : Regex) (s : String) : Bool := (r.find? s.toList.toArray).isSome

end Regex

end CodeAudit
