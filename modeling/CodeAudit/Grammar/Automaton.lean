import CodeAudit.Grammar.Tables

/-!
# What a parser expects

A parser that has read the beginning of a text is in a `State`: the productions it may be in the middle
of, each with the tokens that can follow it there. From a state one can read off which tokens can come
next, what to do with one, and which state follows a symbol. States are worked out when they are
needed; what could begin next is not part of a state, because the tables know it.

Where a token allows more than one thing to be done, the strengths of the competing productions decide,
and in case of a tie their leaning. What is still undecided then stays undecided: such states have
several actions, and all of them are followed up.
-/

namespace CodeAudit.Grammar

/-- A production that has been read up to some position. -/
structure Item where
  production : Nat
  dot : Nat
  /-- The tokens that can come after the whole production. -/
  follow : TokenSet

/-- The productions that a parser may be in the middle of. -/
abbrev State := List Item

/-- What can be done with a token. -/
inductive Action where
  /-- Takes the token. -/
  | shift
  /-- Puts the symbols of a production together. -/
  | reduce (production : Nat)
  /-- Ends a text that is a whole module. -/
  | accept
deriving DecidableEq

namespace Tables

variable (g : Tables)

/-- The number that stands for a whole text with a module in it. -/
def goal : Nat := g.productions.size

/-- The number that stands for a text without any statement. -/
def emptyGoal : Nat := g.productions.size + 1

/-- The numbers of the symbols of a production. -/
def codesOf (production : Nat) : Array Nat :=
  if production = g.goal then #[(Symbol.phrase .module).code]
  else match g.productions[production]? with
    | some p => p.codes
    | none => #[]

/-- The symbol that an item expects next. -/
def next? (it : Item) : Option Nat := (g.codesOf it.production)[it.dot]?

/-- The tokens with which a symbol can begin. -/
def firstOf (code : Nat) : TokenSet := g.first.getD code .empty

/-- The marks of the symbol that an item has read last. -/
def marksOf (it : Item) : Marks :=
  match g.productions[it.production]? with
  | some p => p.marksBefore it.dot
  | none => {}

/-- The strength of an item. -/
def levelOf (it : Item) : Int := (g.marksOf it).level.getD 0

/-- The state before anything has been read. -/
def initial : State :=
  let atEnd := TokenSet.single Terminal.endOfFile.index
  [⟨g.goal, 0, atEnd⟩, ⟨g.emptyGoal, 0, atEnd⟩]

/-- The tokens that can come next. -/
def expected (s : State) : TokenSet :=
  s.foldl (fun acc it =>
    acc.union (match g.next? it with
      | some code => g.firstOf code
      | none => it.follow)) .empty

/-- The items that are read to the end and can be followed by a token. -/
def completed (s : State) (token : Nat) : List Item :=
  s.filter fun it => (g.next? it).isNone && it.follow.contains token

/-- The items that go on with a token. -/
def continued (s : State) (token : Nat) : List Item :=
  s.filter fun it =>
    match g.next? it with
    | some code => (g.firstOf code).contains token
    | none => false

/-- The strongest items. -/
def strongest (items : List Item) : List Item :=
  items.filter fun it => items.all fun other => g.levelOf other ≤ g.levelOf it

/-- Ends an item that is read to the end. -/
def finish (it : Item) : Action :=
  if it.production < g.productions.size then .reduce it.production else .accept

/-- The production that an action puts together. -/
def reduction? : Action → Option Production
  | .reduce n => g.productions[n]?
  | _ => none

/-- Whether to go on, and whether to end an item, where both are possible. -/
def compete (ending going : List Item) : Bool × Bool :=
  let level := (ending.head?.map g.levelOf).getD 0
  let stronger := going.any fun it => level < g.levelOf it
  let weaker := going.any fun it => g.levelOf it < level
  match stronger, weaker with
  | true, false => (true, false)
  | false, true => (false, true)
  | true, true => (true, true)
  | false, false =>
    if ending.all fun it => (g.marksOf it).assoc == some .left then (false, true)
    else if ending.all fun it => (g.marksOf it).assoc == some .right then (true, false)
    else (true, true)

/-- What can be done with a token, the preferred reading first: going on comes before ending an item,
and later productions come before earlier ones. -/
def actions (s : State) (token : Nat) : List Action :=
  let ending := g.strongest (g.completed s token)
  let going := g.continued s token
  let (mayGo, mayEnd) :=
    if ending.isEmpty then (!going.isEmpty, false)
    else if going.isEmpty then (false, true)
    else g.compete ending going
  (if mayGo then [.shift] else []) ++
    (if mayEnd then
      (ending.mergeSort fun a b => b.production ≤ a.production).map g.finish
    else [])

/-- The constructs that an item expects next, by number, with the tokens that can follow. -/
def expectation? (it : Item) : Option (Nat × TokenSet) :=
  match g.next? it with
  | some code =>
    if code < Symbol.firstPhrase then none
    else
      let follow := match (g.codesOf it.production)[it.dot + 1]? with
        | some later => g.firstOf later
        | none => it.follow
      some (code - Symbol.firstPhrase, follow)
  | none => none

/-- What can follow a construct that begins one of the expected ones. -/
def followOf (expectations : List (Nat × TokenSet)) (head : Nat) : TokenSet :=
  expectations.foldl (fun acc e =>
    acc.union (((g.corners.getD e.1 #[]).getD head .none).apply e.2)) .empty

/-- The state after a symbol. -/
def goto (s : State) (code : Nat) : State :=
  let advanced := s.filterMap fun it =>
    if g.next? it = some code then some { it with dot := it.dot + 1 } else none
  let expectations := s.filterMap g.expectation?
  let begun := (g.starting.getD code []).flatMap fun group =>
    let follow := g.followOf expectations group.1
    if follow.isEmpty then [] else group.2.map fun p => ⟨p, 1, follow⟩
  advanced ++ begun

end Tables

end CodeAudit.Grammar
