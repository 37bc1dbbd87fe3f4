import CodeAudit.Proofs.Formed.Expressions

/-!
# Statements in good shape

Statements are looked at in the same way as expressions. A handler is the one node that is not in good
shape by itself, since it belongs to a `try`; everything below it is. That an assignment has a value or
a type, that an assertion has a condition and that an import has names is not visible from their
layouts, but the grammar demands it.
-/

namespace CodeAudit

open Grammar Node

/-- The text of a statement is there if the statement is a string literal and nothing else. -/
theorem Reading.documentation?_eq_some_iff {stmt : Node} {text : String} :
    documentation? stmt = some text ↔ ∃ loc inner, stmt = ⟨loc, .expr ⟨inner, .str text false⟩⟩ := by
  constructor
  · intro h
    obtain ⟨loc, shape⟩ := stmt
    cases shape with
    | expr value =>
      obtain ⟨inner, shape⟩ := value
      cases shape with
      | str written bytes =>
        cases bytes with
        | false =>
          obtain rfl := Option.some.inj h
          exact ⟨loc, inner, rfl⟩
        | true => cases h
      | _ => cases h
    | _ => cases h
  · rintro ⟨loc, inner, rfl⟩
    rfl

/-- The documentation of a function is its first statement. -/
theorem Reading.holds_function (name : String) (params : List String) (decorators body : List Node) :
    Shape.Holds (.functionDef name params decorators body (body.head?.bind documentation?)) := by
  intro text
  cases body with
  | nil => simp
  | cons first rest =>
    rw [List.head?_cons, Option.bind_some, documentation?_eq_some_iff]
    constructor
    · rintro ⟨loc, inner, rfl⟩
      exact ⟨loc, inner, rest, rfl⟩
    · rintro ⟨loc, inner, rest', heq⟩
      exact ⟨loc, inner, (List.cons.inj heq).1⟩

namespace Tree.Composed

variable {Q : Node → Prop} {t c : Tree} {p : Phrase}

theorem stmt_function (h : t.Composed Q) : (Reading.function t (t.children.map read)).Proper Q :=
  .of_children rfl h.placed (Reading.holds_function _ _ _ _) (h.blockOf .body)

/-- Decorators in good shape do not change the shape of a function. -/
theorem decorate {ds : List Node} {f : Node} (hds : AllProper Q ds) (hf : f.Proper Q) :
    (Reading.decorate ds f).Proper Q := by
  obtain ⟨loc, shape⟩ := f
  cases shape with
  | functionDef name params old body docstring =>
    have hbody := (hf.children rfl).of_append.2
    exact .of_children rfl hf.formed_self.loc hf.formed_self.shape (hds.append hbody)
  | _ => exact hf

theorem decorators (h : t.Composed Q) : AllProper Q (Passes.decorators (t.children.map read)) := by
  intro n hn
  obtain ⟨x, hx, hn⟩ := List.mem_filterMap.mp hn
  obtain ⟨c, hc, rfl⟩ := exists_of_mem_named (List.mem_of_mem_filter hx)
  rw [children_read] at hn
  exact (h.part hc).expr_head? n (Option.mem_toList.mpr hn)

theorem stmt_decorated (h : t.Composed Q) : (Reading.decorated t (t.children.map read)).Proper Q := by
  unfold Reading.decorated
  dsimp only
  split
  · rename_i x hx
    obtain ⟨c, hc, -, rfl⟩ := exists_of_find? hx
    split
    · exact decorate h.decorators (h.reads hc).stmt
    · exact h.labelled (h.decorators.append (h.reads hc).nodes)
  · exact h.other

/-- An assignment has a type or a value. -/
theorem isSome_of_assignment (h : t.Complete) (hlabel : t.label = .phrase .assignment)
    (htype : Reading.find? (t.children.map read) .type = none) :
    Reading.find? (t.children.map read) .right ≠ none := by
  obtain ⟨c, hc, hadmitted⟩ := h.demand (by rw [hlabel]; rfl)
  have hc := List.mem_of_mem_filter hc
  have found {r : Role} (hr : c.role = some r) : Reading.find? (t.children.map read) r ≠ none := by
    intro hnone
    rw [find?_read, Option.map_eq_none_iff, part?, List.find?_eq_none] at hnone
    exact hnone c hc (beq_iff_eq.mpr hr)
  rcases admitted_append.mp hadmitted with hadmitted | hadmitted
  · exact absurd htype (found (admitted_having.mp hadmitted))
  · exact found (admitted_having.mp hadmitted)

theorem stmt_assignment (h : t.Composed Q) (hlabel : t.label = .phrase .assignment) :
    (Reading.assignment t (t.children.map read)).Proper Q := by
  have htarget := h.exprOf (r := .left) hlabel rfl rfl
  rcases t.assignment_cases with ⟨c, hc, -, heq⟩ | ⟨c, hc, -, heq | ⟨targets, value, hshape, heq⟩⟩ |
    ⟨htype, hright, -⟩
  · rw [heq]
    exact .of_children rfl h.placed trivial (.cons htarget (.cons (h.reads hc).expr (h.expr_find? .right)))
  · rw [heq]
    exact .of_children rfl h.placed (Nat.le_refl 1) (.cons htarget (.single (h.reads hc).expr))
  · have hkind : c.read.stmt.kind.isSimple := by
      rw [Node.kind, hshape]
      rfl
    have hchildren := (h.reads hc).stmt.children hkind
    rw [Node.children, hshape] at hchildren
    rw [heq]
    exact .of_children rfl h.placed (Nat.le_add_left 1 _) (.cons htarget hchildren)
  · exact absurd hright (isSome_of_assignment h.complete hlabel htype)

theorem stmt_expressionStatement (h : t.Composed Q) :
    (Reading.expressionStatement t (t.children.map read)).Proper Q := by
  rcases t.expressionStatement_cases with ⟨c, hc, heq | heq⟩ | heq
  · rw [heq]
    exact (h.reads hc).stmt
  · rw [heq]
    exact .of_children rfl h.placed trivial (.single (h.reads hc).expr)
  · rw [heq]
    refine .of_children rfl h.placed trivial (.single ?_)
    exact .of_children rfl h.placed ⟨by decide, fun heq => absurd heq (by decide)⟩ h.expr_named

theorem loc_read (h : t.Composed Q) : t.read.loc.FromOne := by
  rw [Reading.loc, tree_read]
  exact h.placed

/-- A branch of an `if` is in good shape if what comes after it is. -/
theorem alternative (h : t.Composed Q) {later : List Node} (hlater : AllProper Q later) :
    AllProper Q (Reading.alternative t.read later) := by
  rw [Reading.alternative, is_read, is_read, tree_read, children_read]
  split
  · exact h.clauseBody
  · split
    · rename_i helif
      have hcondition := h.exprOf (r := .condition) (label_eq helif) rfl rfl
      exact .single (.of_children rfl h.loc_read trivial
        (.cons hcondition ((h.blockOf .consequence).append hlater)))
    · exact hlater

theorem stmt_conditional (h : t.Composed Q) (hlabel : t.label = .phrase .ifStatement) :
    (Reading.conditional t (t.children.map read)).Proper Q := by
  have hcondition := h.exprOf (r := .condition) hlabel rfl rfl
  have halternatives : AllProper Q ((Reading.findAll (t.children.map read) .alternative).foldr
      Reading.alternative []) := by
    rw [findAll_read]
    have hclauses : ∀ c ∈ t.partsWith .alternative, c.Composed Q :=
      fun c hc => h.part (List.mem_of_mem_filter hc)
    generalize t.partsWith .alternative = clauses at hclauses ⊢
    induction clauses with
    | nil => exact .nil
    | cons c clauses ih =>
      obtain ⟨hc, hclauses⟩ := List.forall_mem_cons.mp hclauses
      exact hc.alternative (ih hclauses)
  exact .of_children rfl h.placed trivial (.cons hcondition ((h.blockOf .consequence).append halternatives))

theorem loopElse (h : t.Composed Q) : AllProper Q (Reading.loopElse (t.children.map read)) := by
  unfold Reading.loopElse
  split
  · rename_i x hx
    obtain ⟨c, hc, -, rfl⟩ := exists_of_find? hx
    exact (h.part hc).clauseBody
  · exact .nil

/-- A handler, which is no statement, has statements and at most one expression below it. -/
theorem handler (h : t.Composed Q) : (Reading.handler t.read).kind = .handler ∧
    ∀ m ∈ (Reading.handler t.read).descendants, m.Formed Q := by
  have hcaught : AllProper Q (Reading.caught ((Reading.named t.read.children).filter
      fun c => !c.is .block)).1.toList := by
    rw [children_read]
    intro n hn
    obtain ⟨c, hc, -, rfl | ⟨d, hd, rfl⟩⟩ := exists_of_mem_caught hn
    · exact (h.reads hc).expr
    · exact ((h.part hc).reads hd).expr
  have hchildren : AllProper Q (Reading.handler t.read).children := by
    rw [Passes.children_handler]
    exact hcaught.append h.clauseBody
  have hformed : (Reading.handler t.read).Formed Q :=
    ⟨h.loc_read, trivial, fun n hn => (hchildren n hn).inner, nofun⟩
  exact ⟨rfl, hformed.descendants fun c hc => (hchildren c hc).formed⟩

theorem lastClause (h : t.Composed Q) (p : Phrase) :
    AllProper Q (Reading.lastClause (t.children.map read) p) := by
  unfold Reading.lastClause
  split
  · rename_i x hx
    obtain ⟨c, hc, rfl⟩ := exists_of_mem_named (List.mem_of_mem_filter (List.mem_of_getLast? hx))
    exact (h.part hc).clauseBody
  · exact .nil

theorem stmt_tryBlock (h : t.Composed Q) : (Reading.tryBlock t (t.children.map read)).Proper Q := by
  have hhandlers : ∀ n ∈ ((Reading.named (t.children.map read)).filter fun c =>
      c.is .exceptClause || c.is .exceptGroupClause).map Reading.handler,
      n.kind = .handler ∧ ∀ m ∈ n.descendants, m.Formed Q := by
    intro n hn
    obtain ⟨x, hx, rfl⟩ := List.mem_map.mp hn
    obtain ⟨c, hc, rfl⟩ := exists_of_mem_named (List.mem_of_mem_filter hx)
    exact (h.part hc).handler
  have hbody := h.blockOf .body
  have hothers := (h.lastClause .elseClause).append (h.lastClause .finallyClause)
  have hnests : (Reading.tryBlock t (t.children.map read)).shape.Nests :=
    ⟨fun n hn => (hhandlers n hn).1, fun n hn => (hbody.append hothers n hn).inner⟩
  have hformed : (Reading.tryBlock t (t.children.map read)).Formed Q := ⟨h.placed, trivial, hnests, nofun⟩
  refine ⟨rfl, hformed.descendants fun c hc => ?_⟩
  rcases List.mem_append.mp hc with hc | hc
  · exact (hbody c hc).formed
  rcases List.mem_append.mp hc with hc | hc
  · exact (hhandlers c hc).2
  · exact (hothers c hc).formed

theorem stmt_assertion (h : t.Composed Q) (hlabel : t.label = .phrase .assertStatement) :
    (Reading.assertion t (t.children.map read)).Proper Q := by
  obtain ⟨c, hc, hadmitted⟩ := h.complete.demand (by rw [hlabel]; rfl)
  have hcondition := h.exprOf_head? (Complete.named_ne_nil hc hadmitted)
  refine .of_children rfl h.placed trivial (.cons hcondition fun n hn => ?_)
  refine h.expr_named n ?_
  obtain ⟨x, hx, rfl⟩ := Option.map_eq_some_iff.mp (Option.mem_toList.mp hn)
  exact List.mem_map_of_mem (List.mem_of_mem_drop (List.mem_of_head? hx))

/-- An import has a name. -/
theorem length_importedNames (h : t.Complete)
    (hdemand : t.label.demand? = some (Allowed.having .name ++ Allowed.phrases [.wildcardImport])) :
    1 ≤ (Reading.importedNames (t.children.map read)).length := by
  obtain ⟨c, hc, hadmitted⟩ := h.demand hdemand
  have hc := List.mem_of_mem_filter hc
  rw [Reading.importedNames, List.length_append, List.length_map]
  rcases admitted_append.mp hadmitted with hadmitted | hadmitted
  · have hmem : c ∈ t.partsWith .name :=
      List.mem_filter.mpr ⟨hc, beq_iff_eq.mpr (admitted_having.mp hadmitted)⟩
    have hpos := List.length_pos_of_mem hmem
    rw [findAll_read, List.length_map]
    omega
  · have his := is_of_admitted hadmitted
    have hmem : c ∈ t.parts := by
      refine List.mem_filter.mpr ⟨hc, ?_⟩
      rw [isToken, label_eq his]
      rfl
    have hany : (Reading.named (t.children.map read)).any fun x => x.is .wildcardImport := by
      rw [named_read]
      exact List.any_eq_true.mpr ⟨c.read, List.mem_map_of_mem hmem, by rw [is_read, his]⟩
    rw [if_pos hany]
    exact Nat.le_add_left 1 _

/-- A composed construct is in good shape where a statement is wanted. -/
theorem stmt (h : t.Composed Q) (hexpr : t.read.expr.Proper Q) : t.read.stmt.Proper Q := by
  cases hlabel : t.label with
  | token terminal =>
    rw [stmt_read_of_token hlabel]
    exact hexpr
  | phrase p =>
    rw [Passes.stmt_read hlabel]
    have hother := h.other
    cases p with
    | functionDefinition => exact h.stmt_function
    | decoratedDefinition => exact h.stmt_decorated
    | assignment => exact h.stmt_assignment hlabel
    | expressionStatement => exact h.stmt_expressionStatement
    | returnStatement => exact .of_children rfl h.placed trivial h.expr_head?
    | ifStatement => exact h.stmt_conditional hlabel
    | forStatement =>
      have htarget := h.exprOf (r := .left) hlabel rfl rfl
      have hiter := h.exprOf (r := .right) hlabel rfl rfl
      exact .of_children rfl h.placed trivial
        (.cons htarget (.cons hiter ((h.blockOf .body).append h.loopElse)))
    | whileStatement =>
      have htest := h.exprOf (r := .condition) hlabel rfl rfl
      exact .of_children rfl h.placed trivial (.cons htest ((h.blockOf .body).append h.loopElse))
    | tryStatement => exact h.stmt_tryBlock
    | assertStatement => exact h.stmt_assertion hlabel
    | importStatement | importFromStatement | futureImportStatement =>
      have hnames := length_importedNames h.complete (by rw [hlabel]; rfl)
      exact .of_children rfl h.placed hnames .nil
    | _ => exact hother

/-- What a composed construct contributes to a list of nodes is in good shape. -/
theorem nodes (h : t.Composed Q) (hexpr : t.read.expr.Proper Q) : AllProper Q t.read.nodes := by
  cases hlabel : t.label with
  | token terminal =>
    exact fun n hn => AllProper.single hexpr n ((nodes_read_sublist hlabel).subset hn)
  | phrase p =>
    rw [nodes_read hlabel]
    split
    · exact h.contents
    · split
      · exact .single (h.stmt hexpr)
      · exact .single hexpr

/-- A construct that is composed is in good shape wherever it is made use of. -/
theorem toReads (h : t.Composed Q) (hQ : t.is .comparisonOperator → Q t.read.expr) : t.Reads Q := by
  have hexpr := h.expr hQ
  exact ⟨h.complete, h.placed, hexpr, h.stmt hexpr, h.nodes hexpr⟩

end Tree.Composed

end CodeAudit
