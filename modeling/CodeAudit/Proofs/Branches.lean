import CodeAudit.Proofs.Calls
import CodeAudit.Proofs.Complete

/-!
# Branches of an `if`

An `if` with several branches is read as one node in the alternative of another. A `BranchedIf` tells how
such an `if` is written: which conditions and blocks it has, clause by clause, and nothing else. Its nodes
are compared with it in three ways: they are nested as they should be, a walk comes to all conditions and
statements in the order in which they are written, and running them is trying one condition after the
other until one is true.
-/

namespace CodeAudit

open Grammar

/-- The nodes for the statements of a block. A continued line between two statements has a node, too. -/
def Tree.statements (t : Tree) : List Node := t.parts.flatMap fun c => c.read.nodes

/-- A clause with a condition, and with a block for what is done if it is true. -/
structure Branch where
  clause : Tree
  condition : Tree
  block : Tree
  more : List Tree
  parts : marked clause.children = condition :: block :: more
  isCondition : condition.role = some .condition
  isBlock : block.role = some .consequence

/-- A clause for what is done if no condition is true. -/
structure Otherwise where
  clause : Tree
  block : Tree
  parts : marked clause.children = [block]
  isBlock : block.role = some .body

namespace Branch

/-- The condition that decides about a branch. -/
def test (b : Branch) : Node := b.condition.read.expr

/-- The statements of a branch. -/
def body (b : Branch) : List Node := b.block.statements

/-- Branches as nodes, each in the alternative of the one before. -/
def nest (branches : List Branch) (otherwise : List Node) : List Node :=
  branches.foldr (fun b later => [⟨b.clause.loc, .conditional b.test b.body later⟩]) otherwise

end Branch

/-- An `if` with all its branches. -/
structure BranchedIf where
  first : Branch
  others : List Branch
  last : Option Otherwise
  isIf : first.clause.is .ifStatement
  isElif : ∀ b ∈ others, b.clause.is .elifClause ∧ b.more = []
  isElse : ∀ o ∈ last, o.clause.is .elseClause
  alternatives : first.more = others.map Branch.clause ++ last.toList.map Otherwise.clause
  isAlternative : ∀ c ∈ first.more, c.role = some .alternative

namespace BranchedIf

/-- The `if` itself. -/
def tree (w : BranchedIf) : Tree := w.first.clause

/-- All branches with a condition. -/
def branches (w : BranchedIf) : List Branch := w.first :: w.others

/-- What is done if no condition is true. -/
def otherwise (w : BranchedIf) : List Node := (w.last.map fun o => o.block.statements).getD []

end BranchedIf

namespace Node

variable {m : Type → Type u} [Monad m] (eval : Node → m Bool) (exec : Node → m Unit)

/-- Runs a statement. An `if` goes on with its body or with its alternative; what other statements do is
up to `exec`, and whether a test is true is up to `eval`. -/
def run : Node → m Unit
  | ⟨_, .conditional test body orelse⟩ => do
    if ← eval test then body.attach.foldr (fun c rest => do run c.1; rest) (pure ())
    else orelse.attach.foldr (fun c rest => do run c.1; rest) (pure ())
  | n => exec n
termination_by n => sizeOf n
decreasing_by
  · exact sizeOf_lt_of_mem_children (List.mem_cons_of_mem test (List.mem_append_left orelse c.2))
  · exact sizeOf_lt_of_mem_children (List.mem_cons_of_mem test (List.mem_append_right body c.2))

/-- Runs statements one after the other. -/
def runAll (ns : List Node) : m Unit := ns.foldr (fun n rest => do run eval exec n; rest) (pure ())

theorem run_conditional (loc : Location) (test : Node) (body orelse : List Node) :
    run eval exec ⟨loc, .conditional test body orelse⟩ =
      eval test >>= fun holds => if holds then runAll eval exec body else runAll eval exec orelse := by
  rw [run]
  simp only [runAll, List.foldr_attach (f := fun n (rest : m Unit) => run eval exec n >>= fun _ => rest)]

theorem runAll_singleton [LawfulMonad m] (n : Node) : runAll eval exec [n] = run eval exec n := by
  rw [runAll, List.foldr_cons, List.foldr_nil, bind_pure_unit]

end Node

/-! ### Nested nodes -/

namespace Branch

variable {m : Type → Type u} [Monad m] [LawfulMonad m] (eval : Node → m Bool) (exec : Node → m Unit)

/-- Running nested nodes is looking for the first branch whose condition is true. -/
theorem runAll_nest (branches : List Branch) (otherwise : List Node) :
    Node.runAll eval exec (nest branches otherwise) =
      branches.findM? (fun b => eval b.test) >>= fun chosen =>
        Node.runAll eval exec ((chosen.map body).getD otherwise) := by
  induction branches with
  | nil =>
    have hfind : [].findM? (fun b : Branch => eval b.test) = (pure none : m (Option Branch)) := rfl
    rw [hfind, pure_bind]
    rfl
  | cons b branches ih =>
    have hfind : (b :: branches).findM? (fun b => eval b.test) =
        eval b.test >>= fun holds =>
          if holds then pure (some b) else branches.findM? fun b => eval b.test := by
      refine bind_congr fun holds => ?_
      cases holds <;> rfl
    have hnest : nest (b :: branches) otherwise =
        [⟨b.clause.loc, .conditional b.test b.body (nest branches otherwise)⟩] := rfl
    rw [hfind, hnest, Node.runAll_singleton, Node.run_conditional, bind_assoc]
    refine bind_congr fun holds => ?_
    cases holds with
    | true => rw [if_pos rfl, if_pos rfl, pure_bind]; rfl
    | false => exact ih

/-- A walk comes to the branches one after the other. -/
theorem descendants_nest (branches : List Branch) (otherwise : List Node) :
    ((nest branches otherwise).flatMap Node.descendants).map (fun n => (n.loc, n.kind)) =
      branches.flatMap (fun b => (b.clause.loc, .conditional) ::
        ((b.test :: b.body).flatMap Node.descendants).map fun n => (n.loc, n.kind)) ++
      (otherwise.flatMap Node.descendants).map fun n => (n.loc, n.kind) := by
  induction branches with
  | nil => rfl
  | cons b branches ih =>
    have hnest : nest (b :: branches) otherwise =
        [⟨b.clause.loc, .conditional b.test b.body (nest branches otherwise)⟩] := rfl
    have hchildren : Node.children ⟨b.clause.loc, .conditional b.test b.body (nest branches otherwise)⟩ =
        (b.test :: b.body) ++ nest branches otherwise := rfl
    rw [hnest, List.flatMap_singleton, Node.descendants_eq, hchildren, List.flatMap_append, List.map_cons,
      List.map_append, ih]
    simp only [List.flatMap_cons, List.append_assoc, List.cons_append, List.map_append]
    rfl

end Branch

/-! ### Reading branches -/

namespace Tree

theorem contents_read (t : Tree) : Reading.contents (t.children.map read) = t.statements := by
  rw [Reading.contents, named_read, List.flatMap_map, statements]

end Tree

namespace Branch

variable (b : Branch)

theorem exprOf_condition (t : Tree) :
    Reading.exprOf t (Reading.find? (b.clause.children.map Tree.read) .condition) = b.test := by
  rw [Tree.find?_read, Tree.part?_eq_find?, b.parts, List.find?_cons, b.isCondition]
  rfl

theorem blockOf_consequence :
    Reading.blockOf (b.clause.children.map Tree.read) .consequence = b.body := by
  have hfind : b.clause.part? .consequence = some b.block := by
    rw [Tree.part?_eq_find?, b.parts, List.find?_cons, List.find?_cons, b.isCondition, b.isBlock]
    rfl
  rw [Reading.blockOf, Tree.find?_read, hfind]
  simp only [Option.map_some, Tree.children_read, Tree.contents_read]
  rfl

theorem findAll_alternative (h : ∀ c ∈ b.more, c.role = some .alternative) :
    Reading.findAll (b.clause.children.map Tree.read) .alternative = b.more.map Tree.read := by
  have hmore : b.more.filter (fun c => c.role == some .alternative) = b.more :=
    List.filter_eq_self.mpr fun c hc => beq_iff_eq.mpr (h c hc)
  rw [Tree.findAll_read, Tree.partsWith_eq_filter, b.parts, List.filter_cons, List.filter_cons, b.isCondition,
    b.isBlock, hmore]
  rfl

/-- A further clause is a node in the alternative. -/
theorem alternative_elif (helif : b.clause.is .elifClause) (later : List Node) :
    Reading.alternative b.clause.read later = [⟨b.clause.loc, .conditional b.test b.body later⟩] := by
  have helse : ¬ b.clause.is .elseClause = true := by
    rw [Tree.is, Tree.label_eq helif]
    decide
  rw [Reading.alternative, Tree.is_read, Tree.is_read, if_neg helse, if_pos helif, Tree.children_read,
    exprOf_condition, blockOf_consequence, Reading.loc, Tree.tree_read]

end Branch

theorem Otherwise.alternative_else (o : Otherwise) (helse : o.clause.is .elseClause) (later : List Node) :
    Reading.alternative o.clause.read later = o.block.statements := by
  have hfind : o.clause.part? .body = some o.block := by
    rw [Tree.part?_eq_find?, o.parts, List.find?_cons, o.isBlock]
    rfl
  rw [Reading.alternative, Tree.is_read, if_pos helse, Reading.clauseBody, Tree.children_read, Tree.find?_read,
    hfind]
  simp only [Option.map_some, Tree.children_read, Tree.contents_read]

namespace BranchedIf

variable (w : BranchedIf)

theorem foldr_alternative : (w.first.more.map Tree.read).foldr Reading.alternative [] =
    Branch.nest w.others w.otherwise := by
  have hlast : ((w.last.toList.map Otherwise.clause).map Tree.read).foldr Reading.alternative [] =
      w.otherwise := by
    cases hlast : w.last with
    | none => rw [otherwise, hlast]; rfl
    | some o =>
      rw [otherwise, hlast]
      exact o.alternative_else (w.isElse o hlast) []
  rw [w.alternatives, List.map_append, List.foldr_append, hlast]
  generalize w.others = others, w.isElif = helif
  induction others with
  | nil => rfl
  | cons b others ih =>
    obtain ⟨hb, hothers⟩ := List.forall_mem_cons.mp helif
    rw [List.map_cons, List.map_cons, List.foldr_cons, ih hothers, b.alternative_elif hb.1]
    rfl

/-- An `if` is read as nested nodes. -/
theorem nodes_read : w.tree.read.nodes = Branch.nest w.branches w.otherwise := by
  have hlabel := Tree.label_eq w.isIf
  have hstmt : w.first.clause.read.stmt = Reading.conditional w.first.clause (w.first.clause.children.map Tree.read) :=
    Tree.Passes.stmt_read hlabel
  rw [tree, Tree.nodes_read hlabel, hstmt, Reading.conditional, w.first.exprOf_condition,
    w.first.blockOf_consequence, w.first.findAll_alternative w.isAlternative, w.foldr_alternative]
  rfl

end BranchedIf

/-! ### Every `if` of a text -/

namespace Tree

variable {s : Tree}

/-- A clause with a condition and a block. -/
theorem Complete.exists_branch (h : s.Complete) (slots : List Slot)
    (hlayout : s.label.layout? = some (.one (Allowed.having .condition) ::
      .one (Allowed.phrasesAs .consequence [.block]) :: slots)) :
    ∃ b : Branch, b.clause = s ∧ Follows slots b.more := by
  obtain ⟨condition, rest, hparts, hcondition, block, more, rfl, hblock, hmore⟩ := h.layout hlayout
  exact ⟨⟨s, condition, block, more, hparts, admitted_having.mp hcondition, (is_of_admittedAs hblock).2⟩, rfl,
    hmore⟩

theorem Complete.exists_otherwise (h : s.Complete) (hs : s.is .elseClause) : ∃ o : Otherwise, o.clause = s := by
  have hlayout : s.label.layout? = some [.one (Allowed.phrasesAs .body [.block])] := by
    rw [label_eq hs]
    rfl
  obtain ⟨block, rest, hparts, hblock, hrest⟩ := h.layout hlayout
  obtain rfl : rest = [] := hrest
  exact ⟨⟨s, block, hparts, (is_of_admittedAs hblock).2⟩, rfl⟩

/-- All clauses that follow the first branch of an `if` are branches themselves. -/
theorem exists_branches {clauses : List Tree} (h : ∀ c ∈ clauses, c.Complete ∧ c.is .elifClause) :
    ∃ others : List Branch, others.map Branch.clause = clauses ∧
      ∀ b ∈ others, b.clause.is .elifClause ∧ b.more = [] := by
  induction clauses with
  | nil => exact ⟨[], rfl, fun _ hb => absurd hb List.not_mem_nil⟩
  | cons c clauses ih =>
    obtain ⟨⟨hcomplete, helif⟩, hclauses⟩ := List.forall_mem_cons.mp h
    obtain ⟨b, rfl, hmore⟩ := hcomplete.exists_branch [] (by rw [label_eq helif]; rfl)
    obtain ⟨others, rfl, hothers⟩ := ih hclauses
    exact ⟨b :: others, rfl, List.forall_mem_cons.mpr ⟨⟨helif, hmore⟩, hothers⟩⟩

/-- Every `if` that comes from productions is written with branches. -/
theorem exists_branchedIf (h : s.Everywhere Grows) (hs : s.is .ifStatement) : ∃ w : BranchedIf, w.tree = s := by
  obtain ⟨first, rfl, hmore⟩ := h.self.complete.exists_branch [.many _, .opt _]
    (by rw [label_eq hs]; rfl)
  obtain ⟨clauses, rest, hsplit, hclauses, hrest⟩ := hmore
  have hmem {c : Tree} (hc : c ∈ first.more) : c.Complete := by
    have hmarked : c ∈ marked first.clause.children := by
      rw [first.parts]
      exact List.mem_cons_of_mem _ (List.mem_cons_of_mem _ hc)
    exact (h.child (List.mem_of_mem_filter hmarked)).self.complete
  have helif (c : Tree) (hc : c ∈ clauses) : c.Complete ∧ c.is .elifClause :=
    ⟨hmem (by rw [hsplit]; exact List.mem_append_left _ hc), (is_of_admittedAs (hclauses c hc)).1⟩
  obtain ⟨others, rfl, hothers⟩ := exists_branches helif
  have hroles (c : Tree) (hc : c ∈ others.map Branch.clause) : c.role = some .alternative :=
    (is_of_admittedAs (hclauses c hc)).2
  rcases hrest with hrest | ⟨clause, rest, rfl, hclause, hrest⟩
  · obtain rfl : rest = [] := hrest
    exact ⟨⟨first, others, none, hs, hothers, nofun, hsplit, by rw [hsplit, List.append_nil]; exact hroles⟩, rfl⟩
  · obtain rfl : rest = [] := hrest
    obtain ⟨helse, hrole⟩ := is_of_admittedAs hclause
    obtain ⟨o, rfl⟩ := (hmem (by simp [hsplit])).exists_otherwise helse
    refine ⟨⟨first, others, some o, hs, hothers, ?_, hsplit, ?_⟩, rfl⟩
    · intro o' ho
      obtain rfl := Option.some.inj ho
      exact helse
    · rw [hsplit]
      exact List.forall_mem_append.mpr ⟨hroles, List.forall_mem_singleton.mpr hrole⟩

end Tree

namespace BranchedIf

/-- An `if` whose nodes are those of its branches, are met in their order, and do what the first branch does
whose condition is true. -/
structure IsRead.{u} (w : BranchedIf) : Prop where
  nodes : w.tree.read.nodes = Branch.nest w.branches w.otherwise
  walk : (w.tree.read.nodes.flatMap Node.descendants).map (fun n => (n.loc, n.kind)) =
    w.branches.flatMap (fun b => (b.clause.loc, .conditional) ::
      ((b.test :: b.body).flatMap Node.descendants).map fun n => (n.loc, n.kind)) ++
    (w.otherwise.flatMap Node.descendants).map fun n => (n.loc, n.kind)
  runs : ∀ {m : Type → Type u} [Monad m] [LawfulMonad m] (eval : Node → m Bool) (exec : Node → m Unit),
    Node.runAll eval exec w.tree.read.nodes =
      w.branches.findM? (fun b => eval b.test) >>= fun chosen =>
        Node.runAll eval exec ((chosen.map Branch.body).getD w.otherwise)

theorem isRead.{u} (w : BranchedIf) : w.IsRead.{u} where
  nodes := w.nodes_read
  walk := by rw [w.nodes_read, Branch.descendants_nest]
  runs eval exec := by rw [w.nodes_read, Branch.runAll_nest]

end BranchedIf

/-- Every `if` of a source is read branch by branch: whatever its conditions are, what is run are the statements
of the first branch whose condition is true, or those after `else`, or none. The same holds for all trees that
follow the grammar, by whatever parser they are found. -/
theorem Tree.first_true_branch_is_run.{u} (t : Tree) :
    (∀ src, Tree.ofSource? src = some t → ∀ s ∈ t.subtrees, s.is .ifStatement →
      ∃ w : BranchedIf, w.tree = s ∧ w.IsRead.{u}) ∧
    (t.IsModule → ∀ s ∈ t.subtrees, s.is .ifStatement → ∃ w : BranchedIf, w.tree = s ∧ w.IsRead.{u}) := by
  have hmodule {s : Tree} (ht : t.IsModule) (hs : s ∈ t.subtrees) (hif : s.is .ifStatement) :
      ∃ w : BranchedIf, w.tree = s ∧ w.IsRead.{u} := by
    obtain ⟨w, hw⟩ := exists_branchedIf (ht.grows_of_mem hs (label_eq hif) nofun) hif
    exact ⟨w, hw, w.isRead⟩
  constructor
  · intro src h s hs hif
    exact hmodule (isModule_of_ofSource? h) hs hif
  · intro ht s hs hif
    exact hmodule ht hs hif

namespace Alternatives

open Sample

/-- A name as the body of another statement. -/
def body (line col : Nat) (text : String) : Outline :=
  simple .expressionStatement
    (chain (.phrase .expressionStatement) (.phrase .expression) (nameExpression line " " col text)) line (col + 1)

/-- `elif b: y` -/
def further : Outline :=
  .form (.phrase .elifClause) { steps :=
      [⟨literal "elif", {}⟩, having .condition (.phrase .expression), ⟨literal ":", {}⟩,
        suite (some .consequence)] }
    [word 2 "\n" 1 "elif", nameExpression 2 " " 6 "b", word 2 "" 7 ":", body 2 9 "y"]

/-- `else: z` -/
def final : Outline :=
  .form (.phrase .elseClause) { steps := [⟨literal "else", {}⟩, ⟨literal ":", {}⟩, suite (some .body)] }
    [word 3 "\n" 1 "else", word 3 "" 5 ":", body 3 7 "z"]

/-- `if a: x`, with the two clauses, as the only statement of a text -/
def outline : Outline :=
  chain (.phrase .module) (.loop 0) <| statement .ifStatement <|
    .form (.phrase .ifStatement) { steps :=
        [⟨literal "if", {}⟩, having .condition (.phrase .expression), ⟨literal ":", {}⟩,
          suite (some .consequence), ⟨.loop 6, {}⟩, having .alternative (.phrase .elseClause)] }
      [word 1 "" 1 "if", nameExpression 1 " " 4 "a", word 1 "" 5 ":", body 1 7 "x",
        .form (.loop 6) { steps := [having .alternative (.phrase .elifClause)] } [further], final]

/-- The tree of the text. -/
def module : Tree := outline.text ⟨"", ⟨3, 8⟩, ""⟩

theorem isModule_module : module.IsModule := Outline.isModule_text (by decide +kernel) rfl _

end Alternatives

/-- An `if` with two more clauses. -/
theorem Tree.first_true_branch_is_run_alternatives :
    Alternatives.module.IsModule ∧ ∃ s ∈ Alternatives.module.subtrees, s.is .ifStatement ∧
      ∃ w : BranchedIf, w.tree = s ∧ w.IsRead.{0} ∧ w.first.more.length = 2 := by
  have hexists : ∃ s ∈ Alternatives.module.subtrees, s.is .ifStatement ∧ (marked s.children).length = 4 := by
    decide +kernel
  obtain ⟨s, hs, hif, hlength⟩ := hexists
  obtain ⟨w, rfl, hread⟩ := (first_true_branch_is_run _).2 Alternatives.isModule_module s hs hif
  refine ⟨Alternatives.isModule_module, w.tree, hs, hif, w, rfl, hread, ?_⟩
  rw [BranchedIf.tree, w.first.parts, List.length_cons, List.length_cons] at hlength
  omega

end CodeAudit
