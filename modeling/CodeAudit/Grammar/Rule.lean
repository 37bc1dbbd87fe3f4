import CodeAudit.Source.Tree

/-!
# Grammar rules and their productions

A `Rule` describes the forms of a construct: sequences, choices and repetitions of tokens and of other
constructs. Marks on its parts say what an ambiguity is decided by and how the parts appear in trees.

The forms are spelled out as `Production`s, which are plain sequences of symbols. A repetition becomes a
symbol of its own, a `loop`, which is either its body or two loops in a row. Every step of a
production keeps the marks that were in force where it stood.
-/

namespace CodeAudit.Grammar

/-- To which side equally strong forms lean. -/
inductive Assoc where
  | left
  | right
deriving DecidableEq

/-- What a production is made of. -/
inductive Symbol where
  | token (t : Terminal)
  | phrase (p : Phrase)
  /-- The repetition with a number. -/
  | loop (i : Nat)
deriving DecidableEq, Inhabited

/-- The forms of a construct. -/
inductive Rule where
  | blank
  | symbol (s : Symbol)
  | seq (parts : List Rule)
  | choice (forms : List Rule)
  /-- One or more times. -/
  | many1 (body : Rule)
  /-- How strongly the parts hold together where two forms compete, and to which side they lean. -/
  | prec (level : Int) (assoc : Option Assoc) (body : Rule)
  /-- Which of two complete readings is taken. -/
  | dynamic (level : Int) (body : Rule)
  /-- The role of a part. -/
  | role (r : Role) (body : Rule)
  /-- The name under which a part appears. -/
  | relabel (l : Label) (body : Rule)
  /-- Forms that are put in the place where they are used, with their own marks. -/
  | splice (body : Rule)

namespace Rule

mutual

/-- Whether two rules are written in the same way. -/
def same : Rule → Rule → Bool
  | blank, blank => true
  | symbol s, symbol t => s = t
  | seq parts, seq parts' => sameAll parts parts'
  | choice forms, choice forms' => sameAll forms forms'
  | many1 body, many1 body' => same body body'
  | prec level assoc body, prec level' assoc' body' =>
    level = level' && assoc = assoc' && same body body'
  | dynamic level body, dynamic level' body' => level = level' && same body body'
  | role r body, role r' body' => r = r' && same body body'
  | relabel l body, relabel l' body' => l = l' && same body body'
  | splice body, splice body' => same body body'
  | _, _ => false

/-- Whether two lists of rules are written in the same way. -/
def sameAll : List Rule → List Rule → Bool
  | [], [] => true
  | r :: rs, r' :: rs' => same r r' && sameAll rs rs'
  | _, _ => false

end

/-- A token. -/
def token (t : Terminal) : Rule := symbol (.token t)

instance : Coe String Rule := ⟨fun spelling => token (.literal spelling)⟩

instance : Coe Phrase Rule := ⟨fun p => symbol (.phrase p)⟩

/-- At most once. -/
def opt (body : Rule) : Rule := choice [body, blank]

/-- Any number of times. -/
def many (body : Rule) : Rule := opt (many1 body)

/-- One or more times with a separator in between. -/
def sepBy1 (separator : String) (body : Rule) : Rule :=
  seq [body, many (seq [separator, body])]

/-- One or more times with commas in between. -/
def commas (body : Rule) : Rule := sepBy1 "," body

/-- Holds together with some strength. -/
def strength (level : Int) (body : Rule) : Rule := prec level none body

/-- Leans to the left. -/
def leaning (level : Int) (body : Rule) : Rule := prec level (some .left) body

/-- Leans to the right. -/
def leaningRight (level : Int) (body : Rule) : Rule := prec level (some .right) body

mutual

/-- Replaces every repetition by a loop. The bodies of the loops are collected; equal bodies are one
loop. -/
def unroll (loops : List Rule) : Rule → Rule × List Rule
  | blank => (blank, loops)
  | symbol s => (symbol s, loops)
  | seq parts => let (parts, loops) := unrollAll loops parts; (seq parts, loops)
  | choice forms => let (forms, loops) := unrollAll loops forms; (choice forms, loops)
  | many1 body =>
    let (body, loops) := unroll loops body
    match loops.findIdx? (same body) with
    | some i => (symbol (.loop i), loops)
    | none => (symbol (.loop loops.length), loops ++ [body])
  | prec level assoc body => let (body, loops) := unroll loops body; (prec level assoc body, loops)
  | dynamic level body => let (body, loops) := unroll loops body; (dynamic level body, loops)
  | role r body => let (body, loops) := unroll loops body; (role r body, loops)
  | relabel l body => let (body, loops) := unroll loops body; (relabel l body, loops)
  | splice body => let (body, loops) := unroll loops body; (splice body, loops)

/-- Replaces the repetitions of some rules, one rule after the other. -/
def unrollAll (loops : List Rule) : List Rule → List Rule × List Rule
  | [] => ([], loops)
  | r :: rs =>
    let (r, loops) := unroll loops r
    let (rs, loops) := unrollAll loops rs
    (r :: rs, loops)

end

/-- The rule of a loop: its body, or two loops in a row that lean to the left. -/
def ofLoop (i : Nat) (body : Rule) : Rule :=
  choice [leaning 0 (seq [symbol (.loop i), symbol (.loop i)]), body]

end Rule

/-- The marks in force at a place of a rule. -/
structure Marks where
  level : Option Int := none
  assoc : Option Assoc := none
  label : Option Label := none
  role : Option Role := none
deriving DecidableEq

/-- A symbol of a production with its marks. -/
structure Step where
  symbol : Symbol
  marks : Marks
deriving DecidableEq

/-- One form of a construct, spelled out. -/
structure Form where
  steps : List Step := []
  dynamic : Int := 0
deriving DecidableEq

namespace Form

/-- The more pronounced of two levels, the first one in case of doubt. -/
def strongest (a b : Int) : Int := if a.natAbs < b.natAbs then b else a

/-- One form after the other. -/
def append (f g : Form) : Form := ⟨f.steps ++ g.steps, strongest f.dynamic g.dynamic⟩

/-- Changes the marks of the last step. -/
def changeLast (change : Marks → Marks) (f : Form) : Form :=
  match f.steps.getLast? with
  | some last => { f with steps := f.steps.dropLast ++ [{ last with marks := change last.marks }] }
  | none => f

/-- The marks that a spliced form takes over: a name and a role go to all its steps, while strength
and leaning only fill a gap in the last one. -/
def takeOver (outer : Marks) (f : Form) : Form :=
  let steps := f.steps.map fun s =>
    { s with marks.label := outer.label.or s.marks.label, marks.role := outer.role.or s.marks.role }
  { f with steps }.changeLast fun m =>
    { m with level := m.level.or outer.level, assoc := m.assoc.or outer.assoc }

end Form

namespace Rule

mutual

/-- The forms of a rule, where `marks` are in force and `final` tells whether the rule ends its
production. The strength and leaning of a part that is not at the end do not reach beyond it. -/
def forms (marks : Marks) (final : Bool) : Rule → List Form
  | blank => [{}]
  | symbol s => [{ steps := [⟨s, marks⟩] }]
  | seq parts => sequences marks final parts
  | choice alternatives => formsOfAll marks final alternatives
  | many1 body => forms marks final body
  | prec level assoc body =>
    let inner := forms { marks with level := some level, assoc := assoc.or marks.assoc } final body
    if final then inner
    else inner.map (Form.changeLast fun m =>
      { m with level := marks.level, assoc := if assoc.isSome then marks.assoc else m.assoc })
  | dynamic level body =>
    (forms marks final body).map fun f => { f with dynamic := Form.strongest level f.dynamic }
  | role r body => forms { marks with role := some r } final body
  | relabel l body => forms { marks with label := some l } final body
  | splice body => (forms {} true body).map (Form.takeOver marks)

/-- The forms of a choice, in order. -/
def formsOfAll (marks : Marks) (final : Bool) : List Rule → List Form
  | [] => []
  | r :: rs => forms marks final r ++ formsOfAll marks final rs

/-- The forms of a sequence; the choices of later parts vary faster. -/
def sequences (marks : Marks) (final : Bool) : List Rule → List Form
  | [] => [{}]
  | [r] => forms marks final r
  | r :: rs =>
    let later := sequences marks final rs
    (forms marks false r).flatMap fun f => later.map f.append

end

end Rule

end CodeAudit.Grammar
