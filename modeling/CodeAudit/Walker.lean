import CodeAudit.Node.Descendants

/-!
# Walking a tree

A walk visits the nodes of a tree in pre-order, one at a time. What it hands out is a `Visit`: the
node together with the `Path` that leads to it from the root. A path remembers through which child
each ancestor was left, so that two equal statements in different branches are told apart by where
they stand.

The walk is lazy. The children of a node are looked up only when the following node is asked for,
which leaves the caller room to say `skipChildren` first. A request to skip stands until a node has
been handed out and the next one is asked for.

A walk keeps one stack of ancestors for all nodes that are waiting. Each of these knows how deep it
stands, and what is left of the stack when it is cut down to that depth are its ancestors.
-/

namespace CodeAudit

namespace Node

theorem descendants_eq (n : Node) : n.descendants = n :: n.children.flatMap descendants := by
  rw [descendants]
  congr 1
  simp [List.flatMap]

end Node

/-- One level of the way down a tree: the ancestor, and the position of the child taken. -/
structure Step where
  parent : Node
  index : Nat

/-- The way from the root to a node, its last step first. -/
abbrev Path := List Step

namespace Path

/-- The ancestors, innermost first. -/
def ancestors (p : Path) : List Node := p.map Step.parent

/-- The number of ancestors. -/
def depth (p : Path) : Nat := p.length

/-- The node one level up. -/
def parent? (p : Path) : Option Node := p.head?.map Step.parent

/-- The nearest ancestor of a kind. -/
def innermost? (p : Path) (k : Kind) : Option Node := p.ancestors.find? fun n => n.kind == k

/-- Whether there is an ancestor of a kind. -/
def within (p : Path) (k : Kind) : Bool := (p.innermost? k).isSome

/-- The nearest enclosing function definition. -/
def enclosingFunction? (p : Path) : Option Node := p.innermost? .functionDef

/-- The function a finding on `n` belongs to: `n` itself when it is a definition, and otherwise the
nearest enclosing one. -/
def functionNameFor? (p : Path) (n : Node) : Option String :=
  n.functionName?.or (p.enclosingFunction?.bind Node.functionName?)

end Path

/-- A node in its place. -/
structure Visit where
  node : Node
  path : Path

/-- A node that a walk has come across. -/
structure Stop where
  node : Node
  /-- The position of the node among the children of its parent. -/
  index : Nat
  /-- The number of its ancestors. -/
  depth : Nat

namespace Stop

/-- The children, first child first. -/
def children (s : Stop) : List Stop :=
  s.node.children.mapIdx fun i c => ⟨c, i, s.depth + 1⟩

theorem flatMap_descendants_children (s : Stop) :
    s.children.flatMap (fun c => c.node.descendants) =
      s.node.children.flatMap Node.descendants := by
  have h : s.children.map Stop.node = s.node.children := by
    apply List.ext_getElem <;> simp [children]
  rw [← h, List.flatMap_map]

/-- The way down to the child with an index, along some ancestors, the innermost of which comes
first. -/
def pathTo : Nat → List Stop → Path
  | _, [] => []
  | index, s :: outer => ⟨s.node, index⟩ :: pathTo s.index outer

end Stop

/-- A walk in progress. -/
structure Walker where
  root : Node
  /-- What waits for its turn, the next one first. -/
  pending : List Stop
  /-- The ancestors of the node handed out last, and perhaps more, innermost first. -/
  ancestors : List Stop
  /-- The node handed out last, whose children are not looked up yet. -/
  last : Option Stop
  /-- Whether those children are to be left out. -/
  skip : Bool

namespace Walker

/-- A walk that has not handed out anything yet. -/
def ofRoot (root : Node) : Walker := ⟨root, [⟨root, 0, 0⟩], [], none, false⟩

/-- Begins again at the root. -/
def restart (w : Walker) : Walker := ofRoot w.root

/-- Asks not to descend into the node handed out last. -/
def skipChildren (w : Walker) : Walker := { w with skip := true }

/-- Leaves only the outermost ancestors, as many as a depth says. -/
def truncate (depth : Nat) (ancestors : List Stop) : List Stop :=
  ancestors.drop (ancestors.length - depth)

/-- Goes on to the children of the node handed out last, unless they are to be left out. -/
def descend (w : Walker) : Walker :=
  match w.last with
  | none => w
  | some s =>
    if w.skip then { w with last := none, skip := false }
    else
      { w with
        pending := s.children ++ w.pending
        ancestors := s :: truncate s.depth w.ancestors
        last := none }

/-- The next node in pre-order, and the rest of the walk. A request to skip is used up by the first
call after a node has been handed out. -/
def next (w : Walker) : Option Visit × Walker :=
  let w := w.descend
  match w.pending with
  | [] => (none, w)
  | s :: pending =>
    let ancestors := truncate s.depth w.ancestors
    (some ⟨s.node, Stop.pathTo s.index ancestors⟩, { w with pending, ancestors, last := some s })

/-- The nodes that are still to come, if nothing is skipped from now on. -/
def remaining (w : Walker) : List Node :=
  w.descend.pending.flatMap fun s => s.node.descendants

theorem remaining_next_lt {w : Walker} {v : Visit} {w' : Walker} (h : w.next = (some v, w')) :
    w'.remaining.length < w.remaining.length := by
  unfold next at h
  cases hd : w.descend.pending with
  | nil => simp [hd] at h
  | cons s pending =>
    simp only [hd, Prod.mk.injEq] at h
    obtain ⟨-, rfl⟩ := h
    have hw : w.remaining =
        s.node :: (s.children.flatMap (fun c => c.node.descendants) ++
          pending.flatMap fun c => c.node.descendants) := by
      rw [remaining, hd, List.flatMap_cons, Node.descendants_eq, List.cons_append,
        Stop.flatMap_descendants_children]
    rw [hw, remaining, descend]
    simp only
    split <;> simp only [List.flatMap_append, List.length_append, List.length_cons] <;> omega

/-- Everything that is left of a walk, and the walk after its end. -/
def drain (w : Walker) : List Visit × Walker :=
  match _h : w.next with
  | (none, w') => ([], w')
  | (some v, w') =>
    let (vs, done) := drain w'
    (v :: vs, done)
termination_by w.remaining.length
decreasing_by exact remaining_next_lt _h

end Walker

/-- Every node of a tree in its place, in pre-order. -/
def Node.visits (root : Node) : List Visit := (Walker.ofRoot root).drain.1

end CodeAudit
