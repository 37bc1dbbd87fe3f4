import CodeAudit.Grammar.Expressions

/-!
# What can begin a construct

Everything a parser has to know about the grammar beforehand: the productions, the tokens with which a
symbol can begin, and the corners of a construct, which are the constructs with which it can begin
and what can follow them there.

Symbols are numbered: tokens first, then constructs, then loops.
-/

namespace CodeAudit.Grammar

namespace Symbol

/-- The number of the first construct. No token has a number as large as this. -/
def firstPhrase : Nat := 128

/-- The number of a symbol. -/
def code : Symbol → Nat
  | token t => t.index
  | phrase p => firstPhrase + p.index
  | loop i => firstPhrase + Phrase.all.length + i

end Symbol

/-- A form of a construct, with the numbers of its symbols. -/
structure Production where
  head : Symbol
  steps : Array Step
  codes : Array Nat
  dynamic : Int
deriving Inhabited

namespace Production

/-- A production of a construct. -/
def ofForm (head : Symbol) (f : Form) : Production where
  head := head
  steps := f.steps.toArray
  codes := (f.steps.map fun s => s.symbol.code).toArray
  dynamic := f.dynamic

/-- The marks of the symbol before a position. -/
def marksBefore (p : Production) (dot : Nat) : Marks :=
  match p.steps[dot - 1]? with
  | some step => if dot = 0 then {} else step.marks
  | none => {}

end Production

/-- The rules of all constructs and of all loops, in order. -/
def allRules : List (Symbol × Rule) :=
  let (rules, loops) := Rule.unrollAll [] (Phrase.all.map ruleOf)
  (Phrase.all.map Symbol.phrase).zip rules ++
    loops.mapIdx fun i body => (.loop i, .ofLoop i body)

/-- The forms of the constructs, each one once. -/
def allProductions : List Production :=
  allRules.flatMap fun entry =>
    ((entry.2.forms {} true).eraseDups).map (Production.ofForm entry.1)

/-- Repeats a step until nothing changes, but not more often than a given number of times. -/
def fixpoint {α : Type} [BEq α] (step : α → α) : Nat → α → α
  | 0, a => a
  | n + 1, a =>
    let b := step a
    if b == a then a else fixpoint step n b

/-- How a construct can stand at the beginning of another one: which tokens can follow it there, and
whether whatever follows the larger construct can follow it too. -/
structure Corner where
  follow : TokenSet := .empty
  inherits : Bool := false
deriving DecidableEq, Inhabited

namespace Corner

/-- There is no such way. -/
def none : Corner := {}

def union (a b : Corner) : Corner := ⟨a.follow.union b.follow, a.inherits || b.inherits⟩

/-- What can follow, if `outer` can follow the larger construct. -/
def apply (c : Corner) (outer : TokenSet) : TokenSet :=
  if c.inherits then c.follow.union outer else c.follow

/-- A way that goes on with another one. -/
def andThen (c d : Corner) : Corner := ⟨d.apply c.follow, c.inherits && d.inherits⟩

end Corner

/-- What a parser knows about the grammar. -/
structure Tables where
  /-- The productions of all constructs. -/
  productions : Array Production
  /-- The tokens with which a symbol can begin. -/
  first : Array TokenSet
  /-- For each symbol, the constructs that can begin with it and the productions in question. -/
  starting : Array (List (Nat × List Nat))
  /-- For each construct, the ways in which another one can stand at its beginning. -/
  corners : Array (Array Corner)

namespace Tables

/-- The number of symbols, not counting loops. -/
def phraseEnd : Nat := Symbol.firstPhrase + Phrase.all.length

/-- The tokens with which each symbol can begin. -/
def firstSets (size : Nat) (productions : Array Production) : Array TokenSet :=
  let start := Array.ofFn (n := size) fun c =>
    if c.val < Symbol.firstPhrase then TokenSet.single c.val else .empty
  let step (first : Array TokenSet) := productions.foldl (fun first p =>
    match p.codes[0]? with
    | some c => first.modify p.head.code fun s => s.union (first.getD c .empty)
    | none => first) first
  fixpoint step size start

/-- The constructs that stand at the beginning of the forms of a construct, and how. -/
def directCorners (first : Array TokenSet) (productions : List Production) : List (Nat × Corner) :=
  (productions.filterMap fun p =>
    match p.codes[0]?, p.codes[1]? with
    | some c, some next =>
      if c < Symbol.firstPhrase then none else some (c, ⟨first.getD next .empty, false⟩)
    | some c, none => if c < Symbol.firstPhrase then none else some (c, ⟨.empty, true⟩)
    | none, _ => none).eraseDups

/-- Goes one step further down from every corner that is known. -/
def extendCorners (direct : Array (List (Nat × Corner))) (known : Array Corner) : Array Corner :=
  (List.range known.size).foldl (fun acc i =>
    let corner := acc.getD i .none
    if corner = .none then acc
    else (direct.getD i []).foldl (fun acc entry =>
      acc.modify (entry.1 - Symbol.firstPhrase) fun old =>
        old.union (corner.andThen entry.2)) acc) known

/-- The corners of the construct with a number. -/
def cornersOf (direct : Array (List (Nat × Corner))) (n : Nat) : Array Corner :=
  let start := (Array.replicate direct.size Corner.none).set! n ⟨.empty, true⟩
  fixpoint (extendCorners direct) direct.size start

/-- Productions with their numbers, grouped by the construct. -/
def groupByHead (entries : List (Nat × Nat)) : List (Nat × List Nat) :=
  entries.foldr (fun entry groups =>
    match groups with
    | (head, members) :: rest =>
      if head = entry.1 then (head, entry.2 :: members) :: rest
      else (entry.1, [entry.2]) :: groups
    | [] => [(entry.1, [entry.2])]) []

/-- Enters a production and its number under the symbol that it begins with. -/
def enter (entry : Production × Nat) (table : Array (List (Nat × Nat))) :
    Array (List (Nat × Nat)) :=
  match entry.1.codes[0]? with
  | some c => table.modify c (List.cons (entry.1.head.code - Symbol.firstPhrase, entry.2))
  | none => table

/-- For each symbol, the productions that begin with it. -/
def startingWith (size : Nat) (productions : Array Production) : Array (List (Nat × List Nat)) :=
  (productions.toList.zipIdx.foldr enter (Array.replicate size [])).map groupByHead

/-- Works out the tables of the grammar. -/
def build (productions : List Production) : Tables :=
  let all := productions.toArray
  let size := productions.foldl (fun n p => max n (p.head.code + 1)) 0
  let first := firstSets size all
  let direct := Array.ofFn (n := size - Symbol.firstPhrase) fun i =>
    directCorners first (productions.filter fun p => p.head.code == i.val + Symbol.firstPhrase)
  { productions := all
    first := first
    starting := startingWith size all
    corners := Array.ofFn (n := direct.size) fun i => cornersOf direct i.val }

end Tables

/-- The tables of the grammar. -/
def tables : Tables := Tables.build allProductions

end CodeAudit.Grammar
