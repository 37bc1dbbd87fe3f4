import CodeAudit.Grammar.Automaton
import CodeAudit.Source.Lexer

/-!
# From source text to concrete trees

A parser reads tokens from left to right and keeps a stack of what it has read so far. Where the
grammar leaves open how to go on, the parser follows every possibility in a `Run` of its own: the run
itself goes on in the preferred way, and for every other way a new run parts from it and is queued
behind those that are there. Runs that get stuck are dropped. Runs that have read the same symbols up
to the same place differ only in how they understand some of them, and the more pronounced
understanding is kept for each symbol, that of the earlier run in case of doubt.

Comments and continued lines are no symbols of the grammar. They are kept with the token that follows
them, and show up in the smallest construct that has something on both sides of them.
-/

namespace CodeAudit

open Grammar

/-- A symbol that has been read. -/
structure Fragment where
  symbol : Symbol
  /-- The comments and continued lines before its first token. -/
  lead : List Tree
  /-- The token, or the parts of the construct. -/
  trees : List Tree
  /-- How much this understanding is preferred to others. -/
  dynamic : Int

namespace Fragment

/-- The trees that a fragment contributes to the construct around it, where `marks` are in force. -/
def shown (f : Fragment) (marks : Marks) : List Tree :=
  let trees : List Tree :=
    match marks.label, f.symbol with
    | some label, .token _ =>
      f.trees.map fun
        | .leaf _ role lexeme => .leaf label role lexeme
        | t => t
    | some label, _ => [.node label none f.trees]
    | none, .phrase p => if p.isHidden then f.trees else [.node (.phrase p) none f.trees]
    | none, _ => f.trees
  trees.map (Tree.assign marks.role)

/-- Puts the symbols of a production together. -/
def ofProduction (p : Production) (parts : List Fragment) : Fragment :=
  let marked := parts.zip (p.steps.toList.map Step.marks)
  let trees := match marked with
    | [] => []
    | (first, marks) :: rest =>
      first.shown marks ++ rest.flatMap fun (part, marks) => part.lead ++ part.shown marks
  { symbol := p.head
    lead := (parts.head?.map lead).getD []
    trees := trees
    dynamic := parts.foldl (fun sum part => sum + part.dynamic) p.dynamic }

/-- The preferred one of two ways to understand the same symbol. -/
def prefer (f g : Fragment) : Fragment := if f.dynamic < g.dynamic then g else f

/-- Where the text of a symbol begins, with the comments before it. -/
def start? (f : Fragment) : Option Location :=
  (Tree.firstLexemeOf? (f.lead ++ f.trees)).map Lexeme.loc

end Fragment

/-- A symbol that has been read, and the state after it. -/
structure Entry where
  state : State
  fragment : Fragment

/-- A possible way to read a text up to some position. -/
structure Run where
  /-- What has been read, the last symbol first. -/
  stack : List Entry
  pos : Nat
  nesting : Nesting
  /-- The comments and continued lines since the last token. -/
  lead : List Tree

namespace Run

/-- The run that has not read anything. -/
def start : Run := ⟨[], 0, {}, []⟩

/-- The state of a run. -/
def state (g : Tables) (r : Run) : State :=
  match r.stack with
  | [] => g.initial
  | top :: _ => top.state

/-- Puts a symbol on the stack. -/
def push (g : Tables) (r : Run) (f : Fragment) : Run :=
  { r with stack := ⟨g.goto (r.state g) f.symbol.code, f⟩ :: r.stack }

/-- Where the text of each symbol begins, the last one first, and before them where the comments since
the last token begin. -/
def starts (r : Run) : List (Option Location) :=
  (Tree.firstLexemeOf? r.lead).map Lexeme.loc :: r.stack.map fun e => e.fragment.start?

/-- Whether two runs have read the same symbols at the same places. -/
def isLike (r s : Run) : Bool :=
  r.pos == s.pos && r.nesting == s.nesting && r.lead.length == s.lead.length &&
    r.stack.map (fun e => e.fragment.symbol) == s.stack.map (fun e => e.fragment.symbol) &&
    r.starts == s.starts

/-- The preferred understanding of every symbol of two runs that have read the same. -/
def prefer (r s : Run) : Run :=
  { r with stack := r.stack.zipWith (fun a b => ⟨a.state, a.fragment.prefer b.fragment⟩) s.stack }

/-- Adds a run to others, unless one of them has read the same. -/
def addTo (s : Run) : List Run → List Run
  | [] => [s]
  | r :: rs => if r.isLike s then r.prefer s :: rs else r :: addTo s rs

/-- Takes the symbols of a production off the stack and puts its construct there instead. -/
def reduce (g : Tables) (r : Run) (p : Production) : Run :=
  let size := p.steps.size
  let parts := (r.stack.take size).reverse.map Entry.fragment
  { r with stack := r.stack.drop size }.push g (.ofProduction p parts)

end Run

/-- Where a run gets with a token. -/
inductive Outcome where
  | goesOn (r : Run)
  /-- The text is read to the end: its tree, and how much it is preferred. -/
  | ends (t : Tree) (dynamic : Int)
  /-- The token fits nowhere. -/
  | isStuck

/-- Where a run gets with a token, and the runs that part from it on the way, which have not taken the
token yet. -/
structure Advance where
  outcome : Outcome
  parting : List Run := []

namespace Parse

/-- A token as it stands in the source, after a position. -/
def leaf (src : SourceText) (pos : Nat) (token : Token) (terminal : Terminal) : Tree :=
  .leaf (.token terminal) none
    ⟨src.slice pos token.start, src.locAt token.start, src.slice token.start token.stop⟩

/-- The tree of a whole text. -/
def root (r : Run) (last : Tree) : Tree :=
  let statements := r.stack.flatMap fun e => e.fragment.lead ++ e.fragment.trees
  .node (.phrase .module) none (statements ++ r.lead ++ [last])

/-- Takes a token, after putting together what has to be put together before it. A word that leads
nowhere is tried as a name. -/
def take (g : Tables) (src : SourceText) (token : Token) : Nat → Terminal → Run → Advance
  | 0, _, _ => ⟨.isStuck, []⟩
  | fuel + 1, terminal, r =>
    let state := r.state g
    match g.actions state terminal.index with
    | [] =>
      if terminal.isWord && (g.expected state).has .identifier then
        take g src token fuel .identifier r
      else ⟨.isStuck, []⟩
    | action :: others =>
      let parting := others.reverse.filterMap fun other => (g.reduction? other).map (r.reduce g)
      match action with
      | .shift =>
        let tree := leaf src r.pos token terminal
        let r := r.push g ⟨.token terminal, r.lead, [tree], 0⟩
        ⟨.goesOn { r with pos := token.stop, nesting := token.nesting, lead := [] }, parting⟩
      | .accept =>
        let dynamic := r.stack.foldl (fun sum e => sum + e.fragment.dynamic) 0
        ⟨.ends (root r (leaf src r.pos token terminal)) dynamic, parting⟩
      | .reduce n =>
        match g.productions[n]? with
        | some p =>
          let advance := take g src token fuel terminal (r.reduce g p)
          ⟨advance.outcome, parting ++ advance.parting⟩
        | none => ⟨.isStuck, parting⟩

/-- Reads the next token of a run. -/
def advance (g : Tables) (src : SourceText) (r : Run) : Advance :=
  match Lexer.token? src (g.expected (r.state g)) r.nesting r.pos with
  | none => ⟨.isStuck, []⟩
  | some token =>
    if token.terminal.isExtra then
      let tree := leaf src r.pos token token.terminal
      ⟨.goesOn { r with pos := token.stop, nesting := token.nesting, lead := r.lead ++ [tree] }, []⟩
    else take g src token (256 * (r.stack.length + 1)) token.terminal r

/-- Reads on with the runs that are furthest behind. Those that part from others come last. -/
def advanceAll (g : Tables) (src : SourceText) (runs : List Run) : List Outcome :=
  let behind := runs.foldl (fun least r => min least r.pos) src.size
  let advances := runs.map fun r => if r.pos ≤ behind then advance g src r else ⟨.goesOn r, []⟩
  advances.map Advance.outcome ++ advances.flatMap fun a => a.parting.map .goesOn

/-- The preferred tree so far. -/
def preferTree (best : Option (Tree × Int)) (t : Tree) (dynamic : Int) : Option (Tree × Int) :=
  match best with
  | some (_, old) => if old < dynamic then some (t, dynamic) else best
  | none => some (t, dynamic)

/-- Follows all runs to their ends. -/
def follow (g : Tables) (src : SourceText) :
    Nat → List Run → Option (Tree × Int) → Option (Tree × Int)
  | 0, _, best => best
  | _, [], best => best
  | fuel + 1, runs, best =>
    let outcomes := advanceAll g src runs
    let runs := outcomes.foldl (fun runs o =>
      match o with
      | .goesOn r => r.addTo runs
      | _ => runs) []
    let best := outcomes.foldl (fun best o =>
      match o with
      | .ends t dynamic => preferTree best t dynamic
      | _ => best) best
    follow g src fuel runs best

end Parse

/-- The tree of a source text, if it follows the grammar. -/
def Tree.ofSource? (src : SourceText) : Option Tree :=
  (Parse.follow tables src (64 * (src.size + 16)) [.start] none).map Prod.fst

end CodeAudit
