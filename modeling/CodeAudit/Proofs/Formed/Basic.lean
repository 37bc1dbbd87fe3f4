import CodeAudit.Proofs.Complete
import CodeAudit.Proofs.Origins
import CodeAudit.Proofs.Places

/-!
# Nodes in good shape

A node is formed if its own shape makes sense and its parts are of the right kinds. Most of this has to
do with numbers of parts: a connective joins two operands at least, an import has a name. For
comparisons it is left open here how many operands there are; a predicate `Q` tells what is to hold of
their nodes.

A tree reads well if the nodes that it stands for are formed, in whichever way the construct around it
makes use of it. `Tree.Composed` is the step towards that: a construct that is complete and whose parts
read well.
-/

namespace CodeAudit

open Grammar

/-- Whether nodes of a kind are statements or expressions. Neither a module nor a handler is. -/
def Kind.isInner : Kind → Bool
  | .module | .handler => false
  | _ => true

/-- Whether nodes of a kind have statements and expressions for parts, and are no comparisons. -/
def Kind.isSimple : Kind → Bool
  | .module | .handler | .tryBlock | .compare => false
  | _ => true

namespace Shape

/-- What a construct is like apart from the nodes below it. -/
def Holds : Shape Node → Prop
  | compare _ ops _ => 1 ≤ ops.length
  | boolOp _ values => 2 ≤ values.length
  | dict keys values => keys.length = values.length
  | assign targets _ => 1 ≤ targets.length
  | importNames names => 1 ≤ names.length
  | importFrom _ names => 1 ≤ names.length
  | num (.int value) => 0 ≤ value
  | functionDef _ _ _ body docstring => ∀ text, docstring = some text ↔
      ∃ loc inner rest, body = ⟨loc, .expr ⟨inner, .str text false⟩⟩ :: rest
  | other label children => label ≠ "missing" ∧
      (label = Reading.interpolated → ∃ first more, children = first :: more ∧ first.kind = .str ∧ more ≠ [])
  | _ => True

/-- Handlers stand in a `try` and nowhere else, and a module does not stand in anything. -/
def Nests : Shape Node → Prop
  | tryBlock body handlers orelse finalbody =>
    (∀ n ∈ handlers, n.kind = .handler) ∧ ∀ n ∈ body ++ (orelse ++ finalbody), n.kind.isInner
  | s => ∀ n ∈ s.children, n.kind.isInner

theorem nests_of_ne_tryBlock {s : Shape Node} (hs : s.kind ≠ .tryBlock)
    (h : ∀ n ∈ s.children, n.kind.isInner) : s.Nests := by
  cases s with
  | tryBlock => exact absurd rfl hs
  | _ => exact h

end Shape

namespace Node

/-- The number of signs of a comparison. -/
def operators (n : Node) : Nat :=
  match n.shape with
  | .compare _ ops _ => ops.length
  | _ => 0

/-- The number of operands of a comparison after the first one. -/
def operands (n : Node) : Nat :=
  match n.shape with
  | .compare _ _ comparators => comparators.length
  | _ => 0

/-- A node in good shape, where `Q` is asked of comparisons. -/
structure Formed (Q : Node → Prop) (n : Node) : Prop where
  loc : n.loc.FromOne
  shape : n.shape.Holds
  nests : n.shape.Nests
  comparison : n.kind = .compare → Q n

/-- A module all of whose nodes are in good shape. -/
def WellFormed (Q : Node → Prop) (root : Node) : Prop :=
  root.kind = .module ∧ ∀ n ∈ root.descendants, n.Formed Q

/-- A statement or an expression all of whose nodes are in good shape. -/
structure Proper (Q : Node → Prop) (n : Node) : Prop where
  inner : n.kind.isInner
  formed : ∀ m ∈ n.descendants, m.Formed Q

/-- Statements and expressions all of whose nodes are in good shape. -/
def AllProper (Q : Node → Prop) (ns : List Node) : Prop := ∀ n ∈ ns, n.Proper Q

variable {Q : Node → Prop}

theorem Formed.mono {Q' : Node → Prop} {n : Node} (h : n.Formed Q)
    (hQ : n.kind = .compare → Q n → Q' n) : n.Formed Q' :=
  ⟨h.loc, h.shape, h.nests, fun hkind => hQ hkind (h.comparison hkind)⟩

/-- All nodes are in good shape if the topmost one is and those below its children are. -/
theorem Formed.descendants {n : Node} (h : n.Formed Q)
    (hchildren : ∀ c ∈ n.children, ∀ m ∈ c.descendants, m.Formed Q) :
    ∀ m ∈ n.descendants, m.Formed Q := by
  intro m hm
  rw [descendants_eq] at hm
  rcases List.mem_cons.mp hm with rfl | hm
  · exact h
  · obtain ⟨c, hc, hm⟩ := List.mem_flatMap.mp hm
    exact hchildren c hc m hm

namespace AllProper

variable {n : Node} {ns ms : List Node}

theorem nil : AllProper Q [] := fun _ hn => absurd hn List.not_mem_nil

theorem cons (hn : n.Proper Q) (hns : AllProper Q ns) : AllProper Q (n :: ns) :=
  List.forall_mem_cons.mpr ⟨hn, hns⟩

theorem single (hn : n.Proper Q) : AllProper Q [n] := cons hn nil

theorem append (hns : AllProper Q ns) (hms : AllProper Q ms) : AllProper Q (ns ++ ms) := by
  intro n hn
  rcases List.mem_append.mp hn with hn | hn
  · exact hns n hn
  · exact hms n hn

theorem of_append (h : AllProper Q (ns ++ ms)) : AllProper Q ns ∧ AllProper Q ms :=
  ⟨fun n hn => h n (List.mem_append_left ms hn), fun n hn => h n (List.mem_append_right ns hn)⟩

end AllProper

namespace Proper

variable {loc : Location} {shape : Shape Node}

/-- A node whose parts are in good shape is so itself if its own shape is. -/
theorem of_children (hkind : shape.kind.isSimple) (hloc : loc.FromOne) (hshape : shape.Holds)
    (hchildren : AllProper Q shape.children) : Proper Q ⟨loc, shape⟩ := by
  have hinner : shape.kind.isInner := by
    revert hkind
    cases shape.kind <;> decide
  have htry : shape.kind ≠ .tryBlock := by
    intro heq
    rw [heq] at hkind
    cases hkind
  have hcompare : shape.kind ≠ .compare := by
    intro heq
    rw [heq] at hkind
    cases hkind
  have hnests := Shape.nests_of_ne_tryBlock htry fun n hn => (hchildren n hn).inner
  have hformed : Formed Q ⟨loc, shape⟩ := ⟨hloc, hshape, hnests, fun heq => absurd heq hcompare⟩
  exact ⟨hinner, hformed.descendants fun c hc => (hchildren c hc).formed⟩

theorem formed_self {n : Node} (h : n.Proper Q) : n.Formed Q := h.formed n (mem_descendants_self n)

/-- The children of a node in good shape are so, except in a `try`. -/
theorem children {n : Node} (h : n.Proper Q) (hkind : n.kind.isSimple) : AllProper Q n.children := by
  intro c hc
  refine ⟨?_, fun m hm => h.formed m (mem_descendants_trans hm (mem_descendants_of_mem_children hc))⟩
  have hnests := h.formed_self.nests
  obtain ⟨loc, shape⟩ := n
  cases shape with
  | tryBlock => cases hkind
  | _ => exact hnests c hc

end Proper

end Node

open Node

namespace Tree

variable {Q : Node → Prop}

/-- A tree that is in good shape wherever it is made use of. -/
structure Reads (Q : Node → Prop) (t : Tree) : Prop where
  complete : t.Complete
  placed : t.loc.FromOne
  expr : t.read.expr.Proper Q
  stmt : t.read.stmt.Proper Q
  nodes : AllProper Q t.read.nodes

/-- A complete construct whose parts are in good shape. -/
structure Composed (Q : Node → Prop) (t : Tree) : Prop where
  complete : t.Complete
  placed : t.loc.FromOne
  parts : ∀ c ∈ t.children, c.Everywhere (Reads Q)

theorem Everywhere.composed {t : Tree} (h : t.Everywhere (Reads Q)) : t.Composed Q :=
  ⟨h.self.complete, h.self.placed, fun _ hc => h.child hc⟩

namespace Complete

variable {t : Tree} {p : Phrase} {r : Role} {slots : List Slot}

/-- A part that the layout of a construct asks for is found. -/
theorem exists_find? (h : t.Complete) (hlabel : t.label = .phrase p) (hlayout : p.layout? = some slots)
    (hensures : slots.any (Slot.ensures (Allowed.having r))) :
    ∃ c ∈ t.children, Reading.find? (t.children.map read) r = some c.read := by
  obtain ⟨c, hc, hadmitted⟩ := (h.layout (by rw [hlabel]; exact hlayout)).exists_of_ensures hensures
  have hsome : (t.part? r).isSome := by
    rw [part?, List.find?_isSome]
    exact ⟨c, List.mem_of_mem_filter hc, beq_iff_eq.mpr (admitted_having.mp hadmitted)⟩
  obtain ⟨d, hd⟩ := Option.isSome_iff_exists.mp hsome
  refine ⟨d, List.mem_of_find?_eq_some hd, ?_⟩
  rw [find?_read, hd]
  rfl

theorem named_ne_nil {c : Tree} (hc : c ∈ marked t.children) (hplain : admitted Allowed.plain c) :
    Reading.named (t.children.map read) ≠ [] := by
  obtain ⟨hc, hmarked⟩ := List.mem_filter.mp hc
  rw [named_read]
  exact List.ne_nil_of_mem (List.mem_map_of_mem (mem_parts_of_isPart hc (isPart_of_plain hmarked hplain)))

/-- A construct for which the layout asks for a part without a role has one. -/
theorem named_ne_nil_of_layout (h : t.Complete) (hlabel : t.label = .phrase p)
    (hlayout : p.layout? = some slots) (hensures : slots.any (Slot.ensures Allowed.plain)) :
    Reading.named (t.children.map read) ≠ [] := by
  obtain ⟨c, hc, hadmitted⟩ := (h.layout (by rw [hlabel]; exact hlayout)).exists_of_ensures hensures
  exact named_ne_nil hc hadmitted

end Complete

namespace Composed

variable {t c : Tree} {p : Phrase} {r : Role} {slots : List Slot}

theorem part (h : t.Composed Q) (hc : c ∈ t.children) : c.Composed Q := (h.parts c hc).composed

theorem reads (h : t.Composed Q) (hc : c ∈ t.children) : c.Reads Q := (h.parts c hc).self

/-- The nodes of all parts are in good shape. -/
theorem contents (h : t.Composed Q) : AllProper Q (Reading.contents (t.children.map read)) := by
  intro n hn
  obtain ⟨c, hc, hn⟩ := exists_of_mem_contents hn
  exact (h.reads hc).nodes n hn

/-- A node with the name of its label is in good shape if its children are. -/
theorem labelled (h : t.Composed Q) {ns : List Node} (hns : AllProper Q ns) :
    Proper Q ⟨t.loc, .other t.label.text ns⟩ := by
  obtain ⟨hmissing, hinterpolated⟩ := Bool.and_eq_true_iff.mp h.complete.ordinary
  refine .of_children rfl h.placed ⟨bne_iff_ne.mp hmissing, fun heq => ?_⟩ hns
  exact absurd heq (bne_iff_ne.mp hinterpolated)

/-- A construct without a shape of its own is in good shape. -/
theorem other (h : t.Composed Q) : (Reading.other t (t.children.map read)).Proper Q :=
  h.labelled h.contents

/-- The expressions of the parts with a role are in good shape. -/
theorem expr_find? (h : t.Composed Q) (r : Role) :
    AllProper Q ((Reading.find? (t.children.map read) r).map Reading.expr).toList := by
  intro n hn
  obtain ⟨c, hc, rfl⟩ := exists_of_mem_expr_find? hn
  exact (h.reads hc).expr

/-- A part that the layout asks for is in good shape. -/
theorem exprOf (h : t.Composed Q) (hlabel : t.label = .phrase p) (hlayout : p.layout? = some slots)
    (hensures : slots.any (Slot.ensures (Allowed.having r))) :
    (Reading.exprOf t (Reading.find? (t.children.map read) r)).Proper Q := by
  obtain ⟨c, hc, hfind⟩ := h.complete.exists_find? hlabel hlayout hensures
  rw [hfind]
  exact (h.reads hc).expr

/-- The expressions of all parts are in good shape. -/
theorem expr_named (h : t.Composed Q) :
    AllProper Q ((Reading.named (t.children.map read)).map Reading.expr) := by
  intro n hn
  obtain ⟨c, hc, rfl⟩ := exists_of_mem_expr_named hn
  exact (h.reads hc).expr

theorem expr_head? (h : t.Composed Q) :
    AllProper Q ((Reading.named (t.children.map read)).head?.map Reading.expr).toList := by
  intro n hn
  obtain ⟨c, hc, rfl⟩ := exists_of_mem_expr_head? hn
  exact (h.reads hc).expr

/-- The first part is in good shape if there is one. -/
theorem exprOf_head? (h : t.Composed Q) (hne : Reading.named (t.children.map read) ≠ []) :
    (Reading.exprOf t (Reading.named (t.children.map read)).head?).Proper Q := by
  obtain ⟨x, rest, hnamed⟩ := List.exists_cons_of_ne_nil hne
  have hexpr := h.expr_named
  rw [hnamed] at hexpr ⊢
  exact hexpr x.expr List.mem_cons_self

/-- The statements of a block that is found by its role are in good shape. -/
theorem blockOf (h : t.Composed Q) (r : Role) :
    AllProper Q (Reading.blockOf (t.children.map read) r) := by
  unfold Reading.blockOf
  split
  · rename_i x hx
    obtain ⟨c, hc, -, rfl⟩ := exists_of_find? hx
    rw [children_read]
    exact (h.part hc).contents
  · exact .nil

/-- The statements of a clause are in good shape. -/
theorem clauseBody (h : t.Composed Q) : AllProper Q (Reading.clauseBody t.read) := by
  unfold Reading.clauseBody
  rw [children_read]
  split
  · rename_i x hx
    obtain ⟨c, hc, -, rfl⟩ := exists_of_find? hx
    rw [children_read]
    exact (h.part hc).contents
  · intro n hn
    obtain ⟨x, hx, hn⟩ := List.mem_flatMap.mp hn
    obtain ⟨c, hc, rfl⟩ := exists_of_mem_named (List.mem_of_mem_filter hx)
    rw [children_read] at hn
    exact (h.part hc).contents n hn

end Composed

end Tree

end CodeAudit
