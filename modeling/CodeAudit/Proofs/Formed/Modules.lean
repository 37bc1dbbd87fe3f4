import CodeAudit.Proofs.Calls
import CodeAudit.Proofs.Formed.Statements

/-!
# Modules in good shape

All constructs of a text are complete, so the module that a text stands for is in good shape. There is
one exception, and it is exact: a comparison that has a continued line between its parts takes the
continued line for an operand, and then has more operands than signs call for. Nothing else can be
wrong with the module of a text, and without such a comparison nothing is.
-/

namespace CodeAudit

open Grammar

namespace Tree

theorem IsPlaced.everywhere {t : Tree} (h : t.IsPlaced) : t.Everywhere IsPlaced := by
  induction t using induct with
  | step t ih => exact .intro h fun c hc => ih c hc (h.child hc)

namespace IsModule

variable {t s : Tree}

/-- The comparisons of a text are complete. -/
theorem complete (h : t.IsModule) (hs : s ∈ t.subtrees) (hcomparison : s.is .comparisonOperator) :
    s.Complete :=
  (h.grows_of_mem hs (label_eq hcomparison) nofun).self.complete

/-- Whatever stands in a text is in good shape, and its comparisons are nodes for comparisons of the
text. -/
theorem reads (h : t.IsModule) (hplaced : t.IsPlaced) : ∀ c ∈ t.parts,
    c.Everywhere (Reads fun n => ∃ s ∈ t.subtrees, s.is .comparisonOperator ∧ n = s.read.expr) := by
  intro c hc
  have hchild : c ∈ t.children := List.mem_of_mem_filter hc
  have hsubtree : c ∈ t.subtrees := mem_subtrees.mpr (.inr ⟨c, hchild, mem_subtrees.mpr (.inl rfl)⟩)
  have hgrown : c.Everywhere fun s => s.Grows ∧ s.IsPlaced ∧ s ∈ t.subtrees :=
    fun s hs => ⟨h.grows c hc s hs, (hplaced.child hchild).everywhere s hs, subset_subtrees hsubtree s hs⟩
  refine hgrown.of_step fun s hs inside => ?_
  have hcomposed : s.Composed _ := ⟨hs.1.complete, hs.2.1.loc, inside⟩
  exact hcomposed.toReads fun hcomparison => ⟨s, hs.2.2, hcomparison, rfl⟩

end IsModule

end Tree

namespace Node

theorem WellFormed.mono {Q Q' : Node → Prop} {root : Node} (h : root.WellFormed Q)
    (hQ : ∀ n ∈ root.descendants, n.kind = .compare → Q n → Q' n) : root.WellFormed Q' :=
  ⟨h.1, fun n hn => (h.2 n hn).mono (hQ n hn)⟩

variable {t : Tree}

/-- The module of a text is in good shape, and its comparisons are nodes for comparisons of the text. -/
theorem wellFormed_ofTree (ht : t.IsModule) (hplaced : t.IsPlaced) :
    (ofTree t).WellFormed fun n => ∃ s ∈ t.subtrees, s.is .comparisonOperator ∧ n = s.read.expr := by
  have hchildren : AllProper (fun n => ∃ s ∈ t.subtrees, s.is .comparisonOperator ∧ n = s.read.expr)
      (ofTree t).children := by
    intro n hn
    obtain ⟨x, hx, hn⟩ := List.mem_flatMap.mp hn
    rw [Tree.children_read, Tree.named_read] at hx
    obtain ⟨c, hc, rfl⟩ := List.mem_map.mp hx
    exact (ht.reads hplaced c hc).self.nodes n hn
  refine ⟨rfl, Formed.descendants ⟨hplaced.loc, trivial, fun n hn => (hchildren n hn).inner, nofun⟩ ?_⟩
  exact fun c hc => (hchildren c hc).formed

/-- A module in good shape, but for the continued lines that a comparison takes for operands. It is in
good shape altogether if and only if there are none in the comparisons that it has nodes for. -/
def IsFormedFrom (root : Node) (t : Tree) : Prop :=
  root.WellFormed (fun n => n.operators ≤ n.operands) ∧
    (root.WellFormed (fun n => n.operators = n.operands) ↔
      ∀ s ∈ t.subtrees, s.is .comparisonOperator → s.read.expr ∈ root.descendants →
        s.continuedLines = 0)

theorem isFormedFrom_ofTree (ht : t.IsModule) (hplaced : t.IsPlaced) : (ofTree t).IsFormedFrom t := by
  have hformed := wellFormed_ofTree ht hplaced
  have hcount {s : Tree} (hs : s ∈ t.subtrees) (hcomparison : s.is .comparisonOperator) :
      s.read.expr.operands = s.read.expr.operators + s.continuedLines :=
    (ht.complete hs hcomparison).operands_expr hcomparison
  refine ⟨hformed.mono ?_, ?_, ?_⟩
  · rintro n - - ⟨s, hs, hcomparison, rfl⟩
    rw [hcount hs hcomparison]
    exact Nat.le_add_right _ _
  · intro hbalanced s hs hcomparison hmem
    obtain ⟨left, ops, comparators, hexpr, -⟩ := (ht.complete hs hcomparison).exists_comparison hcomparison
    have hkind : s.read.expr.kind = .compare := by
      rw [hexpr]
      rfl
    have heq := (hbalanced.2 _ hmem).comparison hkind
    have hcount := hcount hs hcomparison
    omega
  · intro hclear
    refine hformed.mono ?_
    rintro n hn - ⟨s, hs, hcomparison, rfl⟩
    rw [hcount hs hcomparison, hclear s hs hcomparison hn]
    rfl

/-- The module that is made from a source is in good shape, but for the continued lines that a comparison
takes for operands. The same holds for all trees that follow the grammar and whose tokens stand at
locations that count from one, by whatever parser they are found. -/
theorem formed_but_for_continued_lines (root : Node) :
    (∀ bytes, ofSource bytes = .ok root →
      ∃ chars t, Utf8.decode bytes = .ok chars ∧ Tree.ofSource? (.ofChars chars) = some t ∧
        root.IsFormedFrom t) ∧
    ∀ t : Tree, t.IsModule → t.IsPlaced → root = ofTree t → root.IsFormedFrom t := by
  constructor
  · intro bytes h
    obtain ⟨chars, t, hdecode, htree, rfl⟩ := exists_tree_of_ofSource h
    have hformed := isFormedFrom_ofTree (Tree.isModule_of_ofSource? htree) (Tree.isPlaced_of_ofSource? htree)
    exact ⟨chars, t, hdecode, htree, hformed⟩
  · rintro t ht hplaced rfl
    exact isFormedFrom_ofTree ht hplaced

end Node

/-! ### A continued comparison

The comparison of two names, in one line and in two. -/

namespace Continued

open Sample

/-- `x < y`, where `extras` come before the second name. -/
def comparison (extras : List (Terminal × Lexeme)) (loc : Location) : Outline :=
  .form (.phrase .comparisonOperator) { steps := [.phrase .primaryExpression, .loop 22].map fun s =>
      ⟨s, { level := some 13, assoc := some .left }⟩ }
    [chain (.phrase .primaryExpression) (.token .identifier) (name 1 "" 1 "x"),
      .form (.loop 22) { steps := [having .operators (literal "<"), ⟨.phrase .primaryExpression, {}⟩] }
        [word 1 " " 3 "<",
          chain (.phrase .primaryExpression) (.token .identifier) (.token extras .identifier ⟨" ", loc, "y"⟩)]]

/-- The comparison as the only statement of a text. -/
def outline (extras : List (Terminal × Lexeme)) (loc : Location) : Outline :=
  chain (.phrase .module) (.loop 0) <| statement .simpleStatements <|
    simple .expressionStatement
      (chain (.phrase .expressionStatement) (.phrase .expression) <|
        chain (.phrase .expression) (.phrase .comparisonOperator) (comparison extras loc))
      loc.line (loc.col + 1)

/-- The tree of the text. -/
def module (extras : List (Terminal × Lexeme)) (loc : Location) : Tree :=
  .node (.phrase .module) none
    ((outline extras loc).fragment.lead ++ (outline extras loc).fragment.trees ++ [] ++
      [.leaf (.token .endOfFile) none ⟨"", ⟨loc.line, loc.col + 1⟩, ""⟩])

theorem isModule_module {extras : List (Terminal × Lexeme)} {loc : Location}
    (h : (outline extras loc).isValid Symbol.hasForm) : (module extras loc).IsModule :=
  .statements (outline extras loc).fragment [] .endOfFile _
    ((outline extras loc).derived_fragment Symbol.ofForm_mem_allProductions h) rfl
    fun _ ht => absurd ht List.not_mem_nil

/-- The comparison in one line. -/
def short : Tree := module [] ⟨1, 5⟩

/-- The comparison in two lines. -/
def long : Tree := module [(.lineContinuation, ⟨" ", ⟨1, 5⟩, "\\\n"⟩)] ⟨2, 2⟩

theorem isModule_short : short.IsModule := isModule_module (by decide +kernel)

theorem isModule_long : long.IsModule := isModule_module (by decide +kernel)

end Continued

/-- A comparison in one line is in good shape. In two lines it may have too many operands, but nothing
else is wrong with it. -/
theorem Node.formed_but_for_continued_lines_short :
    (Continued.short.IsModule ∧ Continued.short.IsPlaced ∧
      (ofTree Continued.short).WellFormed fun n => n.operators = n.operands) ∧
    Continued.long.IsModule ∧ Continued.long.IsPlaced ∧
      (ofTree Continued.long).WellFormed fun n => n.operators ≤ n.operands := by
  have hshort : Continued.short.IsPlaced := by decide +kernel
  have hlong : Continued.long.IsPlaced := by decide +kernel
  have hclear : ∀ s ∈ Continued.short.subtrees, s.is .comparisonOperator → s.continuedLines = 0 := by
    decide +kernel
  obtain ⟨-, hiff⟩ := (formed_but_for_continued_lines (ofTree Continued.short)).2 Continued.short
    Continued.isModule_short hshort rfl
  obtain ⟨hle, -⟩ := (formed_but_for_continued_lines (ofTree Continued.long)).2 Continued.long
    Continued.isModule_long hlong rfl
  refine ⟨⟨Continued.isModule_short, hshort, hiff.mpr ?_⟩, Continued.isModule_long, hlong, hle⟩
  exact fun s hs hcomparison _ => hclear s hs hcomparison

/-- A comparison in two lines has one sign, but two operands after the first one. -/
theorem Node.continued_line_taken_for_operand :
    Continued.long.IsModule ∧ Continued.long.IsPlaced ∧
      ¬ (ofTree Continued.long).WellFormed fun n => n.operators = n.operands := by
  refine ⟨Continued.isModule_long, by decide +kernel, fun h => ?_⟩
  have hexceeds : ∃ n ∈ (ofTree Continued.long).descendants,
      n.kind = .compare ∧ n.operators = 1 ∧ n.operands = 2 := by
    decide +kernel
  obtain ⟨n, hn, hkind, hoperators, hoperands⟩ := hexceeds
  have heq := (h.2 n hn).comparison hkind
  omega

end CodeAudit
