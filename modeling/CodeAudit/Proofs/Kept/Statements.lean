import CodeAudit.Proofs.Kept.Expressions

/-!
# Expressions in statements

Statements pass on what is reached in their parts, except where `Tree.omits` says that a
part has no use. Clauses are looked at together with the statements that they belong to; what has to
be known about a clause is stated first. Of several alternatives of an `if`, each is found because only
the last one can be an `else`.
-/

namespace CodeAudit.Tree.Passes

open Grammar Reading

variable {s : Tree} {outer : Option Label} {t : Tree} {pre : List Tree} {c : Tree} {post : List Tree}
variable {p : Phrase} {slots : List Slot} {r : Role}

theorem contents_block (h : Passes s outer t pre c post) (hblock : c.is .block) :
    Found s (Reading.contents c.read.children) :=
  h.reached.contents (.inl hblock)

/-- The statements of a block that is found by its role. -/
theorem blockOf (h : Passes s outer t pre c post) (hlabel : t.label = .phrase p)
    (hlayout : p.layout? = some slots) (hplace : admitted (Allowed.phrasesAs r [.block]) c)
    (honce : Slot.once (Allowed.mayHave r) slots) :
    Found s (Reading.blockOf (t.children.map read) r) := by
  obtain ⟨his, hrole⟩ := is_of_admittedAs hplace
  rw [Reading.blockOf, h.part?_eq hlabel hlayout hrole honce]
  exact h.contents_block his

/-- The statements of a clause whose block has no role. -/
theorem clauseBody_of_block (h : Passes s outer t pre c post) (hlabel : t.label = .phrase p)
    (hlayout : p.layout? = some slots) (hblock : c.is .block)
    (hnever : Slot.never (Allowed.mayHave .body) slots) : Found s (clauseBody t.read) := by
  have hnone : find? (t.children.map read) .body = none := by
    rw [find?_read, h.formed.part?_eq_none h.mem_children (by rw [hlabel]; exact hlayout) hnever]
    rfl
  rw [clauseBody, children_read, hnone]
  refine (h.contents_block hblock).mono fun n hn => List.mem_flatMap.mpr ⟨c.read, ?_, hn⟩
  exact List.mem_filter.mpr ⟨h.mem_named, by rw [is_read, hblock]⟩

theorem clauseBody_elseClause (h : Passes s outer t pre c post)
    (hlabel : t.label = .phrase .elseClause) : Found s (clauseBody t.read) := by
  have hplace := h.place hlabel rfl (a := Allowed.phrasesAs .body [.block]) rfl
  obtain ⟨his, hrole⟩ := is_of_admittedAs hplace
  rw [clauseBody, children_read, h.part?_eq hlabel rfl hrole rfl]
  exact h.contents_block his

theorem clause (h : Passes s outer t pre c post) (ht : t.is .elseClause ∨ t.is .finallyClause) :
    Found s (clauseBody t.read) := by
  rcases ht with ht | ht
  · exact h.clauseBody_elseClause (label_eq ht)
  · have hlabel := label_eq ht
    have his := is_of_admitted (h.place hlabel rfl (a := Allowed.phrases [.block]) rfl)
    exact h.clauseBody_of_block hlabel rfl his rfl

/-- A branch of an `if` has what is reached in it, whatever comes after it. -/
theorem alternative (h : Passes s outer t pre c post) (ht : t.is .elifClause ∨ t.is .elseClause)
    (later : List Node) : Found s (Reading.alternative t.read later) := by
  rw [Reading.alternative, is_read, is_read, tree_read, children_read]
  rcases ht with ht | ht
  · have hlabel := label_eq ht
    have helse : ¬ t.is .elseClause := by
      rw [is, hlabel]
      decide
    rw [if_neg helse, if_pos ht]
    rcases admitted_append.mp (h.place hlabel rfl (a := Allowed.having .condition ++
      Allowed.phrasesAs .consequence [.block]) rfl) with hplace | hplace
    · have hrole := admitted_having.mp hplace
      exact (h.exprOf hlabel rfl hrole rfl).of_child List.mem_cons_self
    · refine Found.up ((h.blockOf hlabel rfl hplace rfl).mono fun n hn => ?_)
      exact List.mem_cons_of_mem _ (List.mem_append_left _ hn)
  · rw [if_pos ht]
    exact h.clauseBody_elseClause (label_eq ht)

theorem firstExpr_of_head? (h : Passes s outer t pre c post)
    (hhead : (named (t.children.map read)).head? = some c.read) : Found s t.read.firstExpr := by
  rw [firstExpr, children_read, hhead]
  exact h.reached.expr

/-- The expression of a decorator, and the one that a handler catches under a name. -/
theorem first (h : Passes s outer t pre c post)
    (ht : t.is .decorator ∨ t.is .asPattern ∧ outer.any Label.isHandler) :
    Found s t.read.firstExpr := by
  rcases ht with ht | ⟨ht, houter⟩
  · have hlabel := label_eq ht
    have hclear := h.not_obscures
    rw [obscures, hlabel] at hclear
    exact h.firstExpr_of_head? (h.head?_named_of_single hlabel rfl (fun _ => Slot.noConfusion) hclear)
  · have hlabel := label_eq ht
    have htaken := h.not_omits
    rw [omits, hlabel] at htaken
    have hpart : ∀ x ∈ pre, ¬ x.label.isPart := by
      simpa [houter] using htaken
    obtain rfl := h.pre_eq_nil (by rw [hlabel]; rfl) hpart
    exact h.firstExpr_of_head? (h.head?_named hpart rfl)

theorem children_handler (clause : Reading) :
    (Reading.handler clause).children =
      (caught ((named clause.children).filter fun d => !d.is .block)).1.toList ++ clauseBody clause :=
  rfl

/-- What a handler catches. Of a pattern with a name only the expression before the name counts. -/
theorem found_caught (h : Passes s outer t pre c post) (ht : t.label.isHandler)
    {parts : List Reading} (hhead : parts.head? = some c.read) : Found s (caught parts).1.toList := by
  obtain ⟨rest, rfl⟩ := List.head?_eq_some_iff.mp hhead
  rw [caught, is_read]
  split
  · rename_i hpattern
    exact h.reached.first (.inr ⟨hpattern, ht⟩)
  · exact h.reached.expr

theorem isHandler_cases {label : Label} (h : label.isHandler) :
    label = .phrase .exceptClause ∨ label = .phrase .exceptGroupClause := by
  revert h
  rw [Label.isHandler.eq_def]
  split <;> simp_all

/-- A part that a handler catches is not the name that it binds, and no continued line is before it. -/
theorem taken_handler (h : Passes s outer t pre c post) (ht : t.label.isHandler)
    (hblock : c.is .block = false) :
    (∀ x ∈ pre, !x.is .block → ¬ x.label.isPart) ∧
      pre.any (·.isToken .lineContinuation) = false := by
  have htaken := h.taken
  rcases isHandler_cases ht with hlabel | hlabel <;>
    · simp only [leavesOut, omits, obscures, hlabel, hblock, Bool.not_false, Bool.true_and,
        Bool.or_eq_false_iff] at htaken
      refine ⟨fun x hx hnot hpart => ?_, htaken.2⟩
      have hx := List.any_eq_false.mp htaken.1 x hx
      rw [hpart, hnot] at hx
      exact hx rfl

/-- What is reached in a handler, apart from the name that it binds, is reached in its node. -/
theorem handler (h : Passes s outer t pre c post) (ht : t.label.isHandler) :
    Found s [Reading.handler t.read] := by
  refine Found.up ?_
  rw [children_handler]
  cases hblock : c.is .block with
  | true =>
    have hbody : Found s (clauseBody t.read) := by
      rcases isHandler_cases ht with hlabel | hlabel
      · exact h.clauseBody_of_block hlabel rfl hblock rfl
      · exact h.clauseBody_of_block hlabel rfl hblock rfl
    exact hbody.mono fun n hn => List.mem_append_right _ hn
  | false =>
    obtain ⟨hpart, hclear⟩ := h.taken_handler ht hblock
    have hhead := h.head?_filter_named (q := fun x => !x.is .block) (by rw [hblock]; rfl) hpart hclear
    rw [← children_read] at hhead
    exact (h.found_caught ht hhead).mono fun n hn => List.mem_append_left _ hn

theorem stmt_function (h : Passes s outer t pre c post)
    (hlabel : t.label = .phrase .functionDefinition) :
    Found s [function t (t.children.map read)] := by
  have htaken := h.not_omits
  rw [omits, hlabel] at htaken
  rcases admitted_append.mp (h.place hlabel rfl (a := (Allowed.having .typeParameters ++
      Allowed.having .parameters ++ Allowed.having .returnType) ++ Allowed.phrasesAs .body [.block])
    rfl) with hplace | hplace
  · have hrole : c.role = some .typeParameters ∨ c.role = some .parameters ∨
        c.role = some .returnType := by
      simpa [admitted_append, admitted_having, or_assoc] using hplace
    rcases hrole with hrole | hrole | hrole <;>
      · rw [hrole] at htaken
        cases htaken
  · exact Found.up (h.blockOf hlabel rfl hplace rfl)

theorem stmt_read {t : Tree} {p : Phrase} (hlabel : t.label = .phrase p) :
    t.read.stmt = statement t p (t.children.map read) := by
  rw [read_eq]
  simp only [Reading.ofParts, hlabel]

/-- The expressions of the decorators of a definition. -/
def decorators (cs : List Reading) : List Node :=
  ((named cs).filter fun d => d.is .decorator).filterMap fun d => (named d.children).head?.map Reading.expr

/-- The decorators of a definition are kept. -/
theorem children_decorated (t : Tree) {definition : Tree}
    (hfind : find? (t.children.map read) .definition = some definition.read) :
    (decorated t (t.children.map read)).children =
      decorators (t.children.map read) ++
        if definition.is .functionDefinition then definition.read.stmt.children
        else definition.read.nodes := by
  rw [decorated, hfind]
  simp only [is_read]
  split
  · rename_i hfunction
    rw [stmt_read (label_eq hfunction)]
    rfl
  · rfl

theorem mem_decorators (h : Passes s outer t pre c post) (hdecorator : c.is .decorator) :
    Found s (decorators (t.children.map read)) := by
  refine (h.reached.first (.inl hdecorator)).mono fun n hn => ?_
  refine List.mem_filterMap.mpr ⟨c.read, List.mem_filter.mpr ⟨h.mem_named, ?_⟩, Option.mem_toList.mp hn⟩
  rw [is_read, hdecorator]

theorem stmt_decorated (h : Passes s outer t pre c post)
    (hlabel : t.label = .phrase .decoratedDefinition) :
    Found s [decorated t (t.children.map read)] := by
  rcases admitted_append.mp (h.place hlabel rfl (a := Allowed.phrases [.decorator] ++
    Allowed.phrasesAs .definition [.classDefinition, .functionDefinition]) rfl) with hplace | hplace
  · have his := is_of_admitted hplace
    cases hfind : t.part? .definition with
    | none =>
      have hnone : find? (t.children.map read) .definition = none := by rw [find?_read, hfind]; rfl
      rw [decorated, hnone]
      exact h.other
    | some definition =>
      have hsome : find? (t.children.map read) .definition = some definition.read := by
        rw [find?_read, hfind]
        rfl
      refine Found.up ?_
      rw [children_decorated t hsome]
      exact (h.mem_decorators his).mono fun n hn => List.mem_append_left _ hn
  · have hrole := (admitted_phrasesAs hplace).2
    refine Found.up ?_
    rw [children_decorated t (h.part?_eq hlabel rfl hrole rfl)]
    split
    · rename_i hfunction
      have hstmt := h.reached.stmt (by rw [isStatement, label_eq hfunction]; rfl)
      have hkind : c.read.stmt.kind.isTakenApart := by
        rw [stmt_read (label_eq hfunction)]
        rfl
      exact (hstmt.down h.evaluated hkind).mono fun n hn => List.mem_append_right _ hn
    · exact h.reached.nodes.mono fun n hn => List.mem_append_right _ hn

/-- The target of an assignment is kept, whatever the assignment is like. -/
theorem target_mem_assignment (t : Tree) (cs : List Reading) :
    Reading.exprOf t (find? cs .left) ∈ (assignment t cs).children := by
  rw [assignment]
  split
  · exact List.mem_cons_self
  · dsimp only
    split
    · split <;> exact List.mem_cons_self
    · exact List.mem_cons_self
  · exact List.mem_cons_self

/-- The value of an assignment is kept. If it is an assignment itself, its targets join the others. -/
theorem found_value (h : Passes s outer t pre c post)
    (hright : find? (t.children.map read) .right = some c.read) :
    Found s [assignment t (t.children.map read)] := by
  rw [assignment, hright]
  split
  · exact h.reached.expr.of_child (List.mem_cons_of_mem _ (List.mem_cons_of_mem _ List.mem_cons_self))
  · rename_i right _ heq
    cases heq
    have hvalue : Found s [⟨t.loc, .assign [Reading.exprOf t (find? (t.children.map read) .left)]
        c.read.expr⟩] :=
      h.reached.expr.of_child (List.mem_cons_of_mem _ List.mem_cons_self)
    dsimp only
    split
    · rename_i targets value hshape
      split
      · rename_i hchained
        have his : c.is .assignment := by
          have his := (Bool.and_eq_true_iff.mp hchained).1
          rwa [is_read] at his
        have hstmt := h.reached.stmt (by rw [isStatement, label_eq his]; rfl)
        have hchildren := hstmt.down h.evaluated (by rw [Node.kind, hshape]; rfl)
        rw [Node.children, hshape] at hchildren
        exact Found.up (hchildren.mono fun n hn => List.mem_cons_of_mem _ hn)
      · exact hvalue
    · exact hvalue
  · rename_i heq
    cases heq

theorem stmt_assignment (h : Passes s outer t pre c post) (hlabel : t.label = .phrase .assignment) :
    Found s [assignment t (t.children.map read)] := by
  rcases admitted_append.mp (h.place hlabel rfl (a := Allowed.having .left ++
    (Allowed.having .type ++ Allowed.having .right)) rfl) with hplace | hplace
  · have hrole := admitted_having.mp hplace
    exact (h.exprOf hlabel rfl hrole rfl).of_child (target_mem_assignment t _)
  rcases admitted_append.mp hplace with hplace | hplace
  · have hrole := admitted_having.mp hplace
    rw [assignment, h.part?_eq hlabel rfl hrole rfl]
    exact h.reached.expr.of_child (List.mem_cons_of_mem _ List.mem_cons_self)
  · have hrole := admitted_having.mp hplace
    exact h.found_value (h.part?_eq hlabel rfl hrole rfl)

theorem stmt_expressionStatement (h : Passes s outer t pre c post) :
    Found s [expressionStatement t (t.children.map read)] := by
  have hmem := h.mem_named
  rw [expressionStatement]
  split
  · rename_i one hnamed
    rw [hnamed] at hmem
    obtain rfl := List.mem_singleton.mp hmem
    split
    · rename_i hassignment
      rw [is_read] at hassignment
      exact h.reached.stmt (by rw [isStatement, label_eq hassignment]; rfl)
    · exact h.reached.expr.of_child List.mem_cons_self
  · refine Found.of_child (n := ⟨t.loc, .other "expression_list" _⟩) ?_ List.mem_cons_self
    exact h.reached.expr.of_child (List.mem_map_of_mem hmem)

theorem stmt_returnStatement (h : Passes s outer t pre c post)
    (hlabel : t.label = .phrase .returnStatement) :
    Found s [statement t .returnStatement (t.children.map read)] := by
  have hclear := h.not_obscures
  rw [obscures, hlabel] at hclear
  rw [statement, h.head?_named_of_single hlabel rfl (fun _ => Slot.noConfusion) hclear]
  exact h.reached.expr.of_child List.mem_cons_self

/-- A branch of an `if` that comes before another one is no `else`. -/
theorem is_elifClause_before (h : Passes s outer t pre c post) (hlabel : t.label = .phrase .ifStatement)
    {x : Tree} (hx : x ∈ pre) (hrole : x.role = some .alternative) : x.is .elifClause := by
  have hlayout : Follows ([.one (Allowed.having .condition),
      .one (Allowed.phrasesAs .consequence [.block]),
      .many (Allowed.phrasesAs .alternative [.elifClause])] ++
      [.opt (Allowed.phrasesAs .alternative [.elseClause])]) (marked t.children) :=
    h.layout hlabel rfl
  have hmarked : c.isMarked := isMarked_of_isPart (isPart_of_isFertile h.reached.fertile)
  rw [h.split, marked_append, marked, marked, List.filter_cons_of_pos hmarked] at hlayout
  have hx : x ∈ pre.filter isMarked :=
    List.mem_filter.mpr ⟨hx, isMarked_of_role (beq_iff_eq.mpr hrole)⟩
  obtain ⟨slot, hslot, hadmitted⟩ := hlayout.exists_of_mem_before hx
  simp only [List.mem_cons, List.not_mem_nil, or_false] at hslot
  rcases hslot with rfl | rfl | rfl
  · have hother := admitted_having.mp hadmitted
    rw [hrole] at hother
    cases hother
  · have hother := (is_of_admittedAs hadmitted).2
    rw [hrole] at hother
    cases hother
  · exact (is_of_admittedAs hadmitted).1

/-- Branches before an alternative have it in their own alternatives. -/
theorem found_foldr_alternative {clauses : List Tree} (helif : ∀ x ∈ clauses, x.is .elifClause)
    {later : List Node} (hlater : Found s later) :
    Found s ((clauses.map read).foldr Reading.alternative later) := by
  induction clauses with
  | nil => exact hlater
  | cons x clauses ih =>
    obtain ⟨hx, helif⟩ := List.forall_mem_cons.mp helif
    have helse : ¬ x.is .elseClause := by
      rw [is, label_eq hx]
      decide
    rw [List.map_cons, List.foldr_cons, Reading.alternative, is_read, is_read, if_neg helse, if_pos hx]
    exact Found.up ((ih helif).mono fun n hn =>
      List.mem_cons_of_mem _ (List.mem_append_right _ hn))

/-- Every alternative of an `if` is kept. -/
theorem found_alternatives (h : Passes s outer t pre c post) (hlabel : t.label = .phrase .ifStatement)
    (hrole : c.role = some .alternative) (his : c.is .elifClause ∨ c.is .elseClause) :
    Found s ((findAll (t.children.map read) .alternative).foldr Reading.alternative []) := by
  have hc : (c.role == some .alternative) = true := beq_iff_eq.mpr hrole
  rw [findAll_read, partsWith, h.split, List.filter_append, List.filter_cons, if_pos hc, List.map_append,
    List.map_cons, List.foldr_append, List.foldr_cons]
  refine found_foldr_alternative (fun x hx => ?_) (h.reached.alternative his _)
  obtain ⟨hx, hr⟩ := List.mem_filter.mp hx
  exact h.is_elifClause_before hlabel hx (eq_of_beq hr)

theorem stmt_conditional (h : Passes s outer t pre c post) (hlabel : t.label = .phrase .ifStatement) :
    Found s [conditional t (t.children.map read)] := by
  rcases admitted_append.mp (h.place hlabel rfl (a := Allowed.having .condition ++
    (Allowed.phrasesAs .consequence [.block] ++ (Allowed.phrasesAs .alternative [.elifClause] ++
      Allowed.phrasesAs .alternative [.elseClause]))) rfl) with hplace | hplace
  · have hrole := admitted_having.mp hplace
    exact (h.exprOf hlabel rfl hrole rfl).of_child List.mem_cons_self
  rcases admitted_append.mp hplace with hplace | hplace
  · refine Found.up ((h.blockOf hlabel rfl hplace rfl).mono fun n hn => ?_)
    exact List.mem_cons_of_mem _ (List.mem_append_left _ hn)
  have hclause : c.role = some .alternative ∧ (c.is .elifClause ∨ c.is .elseClause) := by
    rcases admitted_append.mp hplace with hplace | hplace
    · obtain ⟨his, hrole⟩ := is_of_admittedAs hplace
      exact ⟨hrole, .inl his⟩
    · obtain ⟨his, hrole⟩ := is_of_admittedAs hplace
      exact ⟨hrole, .inr his⟩
  refine Found.up ((h.found_alternatives hlabel hclause.1 hclause.2).mono fun n hn => ?_)
  exact List.mem_cons_of_mem _ (List.mem_append_right _ hn)

/-- The statements after `else` of a loop are kept. -/
theorem found_loopElse (h : Passes s outer t pre c post) (hlabel : t.label = .phrase p)
    (hlayout : p.layout? = some slots)
    (hplace : admitted (Allowed.phrasesAs .alternative [.elseClause]) c)
    (honce : Slot.once (Allowed.mayHave .alternative) slots) :
    Found s (loopElse (t.children.map read)) := by
  obtain ⟨his, hrole⟩ := is_of_admittedAs hplace
  rw [loopElse, h.part?_eq hlabel hlayout hrole honce]
  exact h.reached.clause (.inl his)

theorem stmt_forStatement (h : Passes s outer t pre c post) (hlabel : t.label = .phrase .forStatement) :
    Found s [statement t .forStatement (t.children.map read)] := by
  rcases admitted_append.mp (h.place hlabel rfl (a := Allowed.having .left ++ (Allowed.having .right ++
    (Allowed.phrasesAs .body [.block] ++ Allowed.phrasesAs .alternative [.elseClause]))) rfl)
    with hplace | hplace
  · have hrole := admitted_having.mp hplace
    exact (h.exprOf hlabel rfl hrole rfl).of_child List.mem_cons_self
  rcases admitted_append.mp hplace with hplace | hplace
  · have hrole := admitted_having.mp hplace
    exact (h.exprOf hlabel rfl hrole rfl).of_child (List.mem_cons_of_mem _ List.mem_cons_self)
  rcases admitted_append.mp hplace with hplace | hplace
  · refine Found.up ((h.blockOf hlabel rfl hplace rfl).mono fun n hn => ?_)
    exact List.mem_cons_of_mem _ (List.mem_cons_of_mem _ (List.mem_append_left _ hn))
  · refine Found.up ((h.found_loopElse hlabel rfl hplace rfl).mono fun n hn => ?_)
    exact List.mem_cons_of_mem _ (List.mem_cons_of_mem _ (List.mem_append_right _ hn))

theorem stmt_whileStatement (h : Passes s outer t pre c post)
    (hlabel : t.label = .phrase .whileStatement) :
    Found s [statement t .whileStatement (t.children.map read)] := by
  rcases admitted_append.mp (h.place hlabel rfl (a := Allowed.having .condition ++
    (Allowed.phrasesAs .body [.block] ++ Allowed.phrasesAs .alternative [.elseClause])) rfl)
    with hplace | hplace
  · have hrole := admitted_having.mp hplace
    exact (h.exprOf hlabel rfl hrole rfl).of_child List.mem_cons_self
  rcases admitted_append.mp hplace with hplace | hplace
  · refine Found.up ((h.blockOf hlabel rfl hplace rfl).mono fun n hn => ?_)
    exact List.mem_cons_of_mem _ (List.mem_append_left _ hn)
  · refine Found.up ((h.found_loopElse hlabel rfl hplace rfl).mono fun n hn => ?_)
    exact List.mem_cons_of_mem _ (List.mem_append_right _ hn)

/-- The last clause of a kind is the one that there is. -/
theorem found_lastClause (h : Passes s outer t pre c post) (hlabel : t.label = .phrase p)
    (hlayout : p.layout? = some slots) {q : Phrase} (his : c.is q)
    (honce : Slot.once (Allowed.mayBe (.phrase q)) slots)
    (hclause : c.is .elseClause ∨ c.is .finallyClause) :
    Found s (lastClause (t.children.map read) q) := by
  have hfilter := h.formed.parts_filter_eq h.mem_children (by rw [hlabel]; exact hlayout) his honce
  rw [lastClause, named_read, List.filter_map]
  simp only [Function.comp_def, is_read, hfilter]
  exact h.reached.clause hclause

theorem stmt_tryBlock (h : Passes s outer t pre c post) (hlabel : t.label = .phrase .tryStatement) :
    Found s [tryBlock t (t.children.map read)] := by
  refine Found.up ?_
  rcases admitted_append.mp (h.place hlabel rfl (a := Allowed.phrasesAs .body [.block] ++
    (Allowed.phrases [.exceptClause, .exceptGroupClause] ++ (Allowed.phrases [.elseClause] ++
      Allowed.phrases [.finallyClause]))) rfl) with hplace | hplace
  · exact (h.blockOf hlabel rfl hplace rfl).mono fun n hn => List.mem_append_left _ hn
  rcases admitted_append.mp hplace with hplace | hplace
  · have hclause := is_or_is_of_admitted hplace
    have hhandler : c.label.isHandler := by
      rcases hclause with h | h <;> rw [label_eq h] <;> rfl
    refine (h.reached.handler hhandler).of_mem (List.mem_append_right _ (List.mem_append_left _ ?_))
    refine List.mem_map.mpr ⟨c.read, List.mem_filter.mpr ⟨h.mem_named, ?_⟩, rfl⟩
    rw [is_read, is_read, Bool.or_eq_true]
    exact hclause
  rcases admitted_append.mp hplace with hplace | hplace
  · have his := is_of_admitted hplace
    exact (h.found_lastClause hlabel rfl his rfl (.inl his)).mono fun n hn =>
      List.mem_append_right _ (List.mem_append_right _ (List.mem_append_left _ hn))
  · have his := is_of_admitted hplace
    exact (h.found_lastClause hlabel rfl his rfl (.inr his)).mono fun n hn =>
      List.mem_append_right _ (List.mem_append_right _ (List.mem_append_right _ hn))

/-- The condition and the message of an assertion are kept. -/
theorem stmt_assertion (h : Passes s outer t pre c post)
    (hlabel : t.label = .phrase .assertStatement) :
    Found s [assertion t (t.children.map read)] := by
  have hfew := h.not_obscures
  rw [obscures, hlabel] at hfew
  have hfew := of_decide_eq_false hfew
  obtain ⟨before, after, hparts, hlength⟩ := exists_parts_eq h.split h.reached.fertile
  rw [assertion, named_read, hparts]
  cases before with
  | nil => exact h.reached.expr.of_child List.mem_cons_self
  | cons x more =>
    cases more with
    | nil => exact h.reached.expr.of_child (List.mem_cons_of_mem _ List.mem_cons_self)
    | cons y more =>
      simp only [List.length_cons] at hlength
      omega

/-- What is reached in a part is reached where a statement is wanted. -/
theorem stmt (h : Passes s outer t pre c post) : Found s [t.read.stmt] := by
  obtain ⟨p, hlabel⟩ := exists_phrase_of_isFertile h.fertile
  rw [stmt_read hlabel]
  -- Nothing but names stands in an import.
  have hbarren (hlayout : p.layout? = some [.many Allowed.barren]) {ns : List Node} : Found s ns :=
    absurd (h.place hlabel hlayout (a := []) rfl) Bool.false_ne_true
  cases p with
  | functionDefinition => exact h.stmt_function hlabel
  | decoratedDefinition => exact h.stmt_decorated hlabel
  | assignment => exact h.stmt_assignment hlabel
  | expressionStatement => exact h.stmt_expressionStatement
  | returnStatement => exact h.stmt_returnStatement hlabel
  | ifStatement => exact h.stmt_conditional hlabel
  | forStatement => exact h.stmt_forStatement hlabel
  | whileStatement => exact h.stmt_whileStatement hlabel
  | tryStatement => exact h.stmt_tryBlock hlabel
  | assertStatement => exact h.stmt_assertion hlabel
  | importStatement | importFromStatement | futureImportStatement => exact hbarren rfl
  | _ => exact h.other

theorem nodes (h : Passes s outer t pre c post) : Found s t.read.nodes := by
  obtain ⟨p, hlabel⟩ := exists_phrase_of_isFertile h.fertile
  rw [nodes_read hlabel]
  split
  · exact h.contents
  · split
    · exact h.stmt
    · exact h.expr

/-- What is reached in a part of a construct is reached in the construct. -/
theorem reaches (h : Passes s outer t pre c post) : Reached s outer t where
  fertile := h.fertile
  expr := h.expr
  stmt _ := h.stmt
  nodes := h.nodes
  contents _ := by
    rw [children_read]
    exact h.contents
  passed := h.passed
  allPassed := h.allPassed
  entry := h.entry
  first := h.first
  hole := h.hole
  clause := h.clause
  alternative := h.alternative
  handler := h.handler

end CodeAudit.Tree.Passes
