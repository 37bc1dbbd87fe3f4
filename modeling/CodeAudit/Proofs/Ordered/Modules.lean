import CodeAudit.Proofs.Formed.Modules
import CodeAudit.Proofs.Ordered.Statements

/-!
# Modules in source order

The children of a node come in the order in which they are written. There is one exception, and it is
exact: a call comes with its unnamed arguments before its named ones, so its children are out of order
if a named argument is written before an unnamed one. A continued line between the arguments counts as
an unnamed one. Whatever is called still comes first, and the unnamed arguments are in order among
themselves, as are the named ones.
-/

namespace CodeAudit

open Grammar

namespace Node

/-- The node of a call: what is called comes first, the arguments of each kind come in order, and all
children do if and only if the arguments are in order. -/
structure IsCallOf (n : Node) (s : Tree) : Prop where
  call : s.is .call
  read : n = s.read.expr
  order : ∃ func args keywords, n.shape = .call func args keywords ∧ Successive (func :: args) ∧
    Successive (func :: keywords.map Keyword.value)
  all : Successive n.children ↔ s.ArgumentsInOrder

/-- All children of all nodes are in order, but for the calls of a text. -/
def InSourceOrder (root : Node) (t : Tree) : Prop :=
  ∀ n ∈ root.descendants, n.Ordered fun n => ∃ s ∈ t.subtrees, n.IsCallOf s

end Node

namespace Tree

variable {t s : Tree}

theorem InOrder.everywhere (h : t.InOrder) : t.Everywhere InOrder := by
  induction t using induct with
  | step t ih => exact .intro h fun c hc => ih c hc (h.child hc)

theorem Joined.isCallOf {Q : Node → Prop} (h : s.Joined Q) (hs : s.is .call) : s.read.expr.IsCallOf s := by
  obtain ⟨func, args, keywords, hexpr, hargs, hkeywords, hiff⟩ := h.call_order (label_eq hs)
  refine ⟨hs, rfl, ⟨func, args, keywords, ?_, hargs.successive, hkeywords.successive⟩, hiff⟩
  rw [hexpr]

/-- Whatever stands in a text is in order, but for its calls. -/
theorem IsModule.arranged (h : t.IsModule) (horder : t.InOrder) :
    ∀ c ∈ t.parts, c.Everywhere (Arranged fun n => ∃ s ∈ t.subtrees, n.IsCallOf s) := by
  intro c hc
  have hchild : c ∈ t.children := List.mem_of_mem_filter hc
  have hsubtree : c ∈ t.subtrees := mem_subtrees.mpr (.inr ⟨c, hchild, mem_subtrees.mpr (.inl rfl)⟩)
  have hgrown : c.Everywhere fun s => s.Grows ∧ s.InOrder ∧ s ∈ t.subtrees :=
    fun s hs => ⟨h.grows c hc s hs, (horder.child hchild).everywhere s hs, subset_subtrees hsubtree s hs⟩
  refine hgrown.of_step fun s hs inside => ?_
  have hjoined : s.Joined _ := ⟨hs.1, hs.2.1, inside⟩
  exact hjoined.toArranged fun hcall => ⟨s, hs.2.2, hjoined.isCallOf hcall⟩

end Tree

namespace Node

variable {t : Tree}

theorem inSourceOrder_ofTree (ht : t.IsModule) (horder : t.InOrder) : (ofTree t).InSourceOrder t := by
  have hchildren : Spread (fun n => ∃ s ∈ t.subtrees, n.IsCallOf s) (Tree.lexemesOf t.parts)
      (ofTree t).children := by
    show Spread _ _ (Reading.contents t.read.children)
    rw [Reading.contents, Tree.children_read, Tree.named_read, List.flatMap_map]
    exact .flatMap (horder.children.of_sublist List.filter_sublist) fun c hc =>
      (ht.arranged horder c hc).self.nodes
  intro n hn
  rw [descendants_eq] at hn
  rcases List.mem_cons.mp hn with rfl | hn
  · exact (.of_children rfl hchildren.successive)
  · obtain ⟨c, hc, hn⟩ := List.mem_flatMap.mp hn
    exact (hchildren.within c hc n hn).1

/-- The children of the nodes that are made from a source are in order, but for the arguments of calls.
The same holds for all trees that follow the grammar and whose tokens stand one after the other, by
whatever parser they are found. -/
theorem children_in_source_order (root : Node) :
    (∀ bytes, ofSource bytes = .ok root →
      ∃ chars t, Utf8.decode bytes = .ok chars ∧ Tree.ofSource? (.ofChars chars) = some t ∧
        root.InSourceOrder t) ∧
    ∀ t : Tree, t.IsModule → t.InOrder → root = ofTree t → root.InSourceOrder t := by
  constructor
  · intro bytes h
    obtain ⟨chars, t, hdecode, htree, rfl⟩ := exists_tree_of_ofSource h
    have horder := inSourceOrder_ofTree (Tree.isModule_of_ofSource? htree) (Tree.inOrder_of_ofSource? htree)
    exact ⟨chars, t, hdecode, htree, horder⟩
  · rintro t ht horder rfl
    exact inSourceOrder_ofTree ht horder

end Node

/-! ### Arguments in both orders

A call with two arguments, one of them named, in both orders. -/

namespace Interleaved

open Sample

/-- `k=a()` -/
def keyword (gap : String) (col : Nat) : Outline :=
  .form (.phrase .keywordArgument) { steps :=
      [having .name (.token .identifier), ⟨literal "=", {}⟩, having .value (.phrase .expression)] }
    [name 1 gap col "k", word 1 "" (col + 1) "=", call 1 "" (col + 2) "a"]

/-- `*b()` -/
def splat (gap : String) (col : Nat) : Outline :=
  .form (.phrase .listSplat) (plain [literal "*", .phrase .expression])
    [word 1 gap col "*", call 1 "" (col + 1) "b"]

/-- A call of `f` with two arguments, as the only statement of a text. -/
def outline (first second : Phrase) (o o' : Outline) (comma : Nat) : Outline :=
  chain (.phrase .module) (.loop 0) <| statement .simpleStatements <|
    simple .expressionStatement
      (chain (.phrase .expressionStatement) (.phrase .expression) <|
        chain (.phrase .expression) (.phrase .primaryExpression) <|
          chain (.phrase .primaryExpression) (.phrase .call) <|
            .form (.phrase .call) { steps :=
                [⟨.phrase .primaryExpression, { level := some 22, role := some .function }⟩,
                  ⟨.phrase .argumentList, { level := some 22, role := some .arguments }⟩] }
              [chain (.phrase .primaryExpression) (.token .identifier) (name 1 "" 1 "f"),
                .form (.phrase .argumentList)
                  (plain [literal "(", .phrase first, .loop 15, literal ")"])
                  [word 1 "" 2 "(", o,
                    .form (.loop 15) (plain [literal ",", .phrase second]) [word 1 "" comma ",", o'],
                    word 1 "" 14 ")"]])
      1 15

/-- The tree of a text in one line. -/
def module (o : Outline) : Tree :=
  .node (.phrase .module) none
    (o.fragment.lead ++ o.fragment.trees ++ [] ++ [.leaf (.token .endOfFile) none ⟨"", ⟨1, 15⟩, ""⟩])

theorem isModule_module {o : Outline} (h : o.isValid Symbol.hasForm)
    (hsymbol : o.fragment.symbol = .phrase .module) : (module o).IsModule :=
  .statements o.fragment [] .endOfFile _ (o.derived_fragment Symbol.ofForm_mem_allProductions h) hsymbol
    fun _ ht => absurd ht List.not_mem_nil

/-- `f(*b(), k=a())` -/
def unnamedFirst : Tree := module (outline .listSplat .keywordArgument (splat "" 3) (keyword " " 9) 7)

/-- `f(k=a(), *b())` -/
def namedFirst : Tree := module (outline .keywordArgument .listSplat (keyword "" 3) (splat " " 10) 8)

theorem isModule_unnamedFirst : unnamedFirst.IsModule := isModule_module (by decide +kernel) rfl

theorem isModule_namedFirst : namedFirst.IsModule := isModule_module (by decide +kernel) rfl

end Interleaved

/-- With the unnamed argument first, the children of all nodes are in order. -/
theorem Node.children_in_source_order_unnamed_first :
    Interleaved.unnamedFirst.IsModule ∧ Interleaved.unnamedFirst.InOrder ∧
      ∀ n ∈ (ofTree Interleaved.unnamedFirst).descendants, Successive n.children := by
  have horder : Interleaved.unnamedFirst.InOrder := by decide +kernel
  have harguments : ∀ s ∈ Interleaved.unnamedFirst.subtrees, s.is .call → s.ArgumentsInOrder := by
    decide +kernel
  refine ⟨Interleaved.isModule_unnamedFirst, horder, fun n hn => ?_⟩
  have hordered := (children_in_source_order _).2 Interleaved.unnamedFirst
    Interleaved.isModule_unnamedFirst horder rfl n hn
  by_cases hkind : n.kind = .call
  · obtain ⟨s, hs, hcall⟩ := hordered.call hkind
    exact hcall.all.mpr (harguments s hs hcall.call)
  · exact hordered.children hkind

/-- With the named argument first, the children of the call are out of order. -/
theorem Node.named_argument_after_unnamed :
    Interleaved.namedFirst.IsModule ∧ Interleaved.namedFirst.InOrder ∧
      ∃ n ∈ (ofTree Interleaved.namedFirst).descendants, n.kind = .call ∧
        n.children.map Node.loc = [⟨1, 1⟩, ⟨1, 10⟩, ⟨1, 5⟩] ∧ ¬ Successive n.children := by
  refine ⟨Interleaved.isModule_namedFirst, by decide +kernel, ?_⟩
  decide +kernel

end CodeAudit
