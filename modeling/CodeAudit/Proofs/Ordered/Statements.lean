import CodeAudit.Proofs.Formed.Statements
import CodeAudit.Proofs.Ordered.Expressions

/-!
# Statements in source order

Statements are looked at in the same way as expressions. The branches of an `if` are nested in each
other, so that the node of a branch reaches to the end of the last one. A handler takes whatever comes
first for what it catches, be it a continued line; this comes before its statements because the
statements are the last thing in it, which layouts do not tell but productions do.
-/

namespace CodeAudit

open Grammar Node

namespace Tree

/-- No part is found by a role for which the layout has no place. -/
theorem Complete.find?_eq_none {t : Tree} {p : Phrase} {r : Role} {slots : List Slot} (h : t.Complete)
    (hlabel : t.label = .phrase p) (hlayout : p.layout? = some slots)
    (hnever : Slot.never (Allowed.mayHave r) slots) : Reading.find? (t.children.map read) r = none := by
  rw [find?_read, Option.map_eq_none_iff, part?, List.find?_eq_none]
  intro c hc hrole
  have hnone := (h.layout (by rw [hlabel]; exact hlayout)).filter_of_never Allowed.mayHave_of_admits hnever
  exact List.filter_eq_nil_iff.mp hnone c (List.mem_filter.mpr ⟨hc, isMarked_of_role hrole⟩) hrole

namespace Joined

variable {Q : Node → Prop} {t c : Tree} {p : Phrase} {r : Role}

/-- The expression of the first part. -/
theorem expr_head? (h : t.Joined Q) :
    Spread Q t.lexemes ((Reading.named (t.children.map read)).head?.map Reading.expr).toList := by
  refine h.expr_named.sublist ?_
  cases Reading.named (t.children.map read) with
  | nil => exact List.nil_sublist _
  | cons x xs => exact (List.nil_sublist _).cons_cons _

/-- What a handler catches is the first of its parts that is no block. -/
theorem caught (h : t.Joined Q) (front : List Tree) (hfront : ∀ c ∈ t.children, c.is .block = false → c ∈ front) :
    Spread Q (lexemesOf front) (Reading.caught ((Reading.named (t.children.map read)).filter
      fun c => !c.is .block)).1.toList := by
  generalize hcaught : (Reading.caught _).1 = caught?
  cases caught? with
  | none => exact .nil
  | some n =>
    obtain ⟨c, hc, hblock, horigin⟩ := exists_of_mem_caught (Option.mem_toList.mpr hcaught)
    have hsub : ∀ l ∈ c.lexemes, l ∈ lexemesOf front := fun l hl => mem_lexemesOf (hfront c hc hblock) hl
    rcases horigin with rfl | ⟨d, hd, rfl⟩
    · exact .single ((h.arranged hc).expr.mono hsub)
    · exact .single (((h.part hc).arranged hd).expr.mono fun l hl => hsub l (mem_lexemes_of_mem_children hd hl))

/-- The statements of a handler are those of its block. -/
theorem clauseBody_handler (h : t.Joined Q) (ht : t.label.isHandler) {front : List Tree} {b : Tree}
    (hchildren : t.children = front ++ [b]) (hb : b.is .block) (hfront : ∀ c ∈ front, c.is .block = false) :
    Reading.clauseBody t.read = Reading.contents (b.children.map read) := by
  have hbody : Reading.find? (t.children.map read) .body = none := by
    rcases Passes.isHandler_cases ht with hlabel | hlabel
    · exact h.grows.complete.find?_eq_none hlabel rfl rfl
    · exact h.grows.complete.find?_eq_none hlabel rfl rfl
  have hblocks : t.parts.filter (·.is .block) = [b] := by
    have hnone : front.filter (fun c => c.is .block && (c.label.isNamed && !c.isToken .comment)) = [] :=
      List.filter_eq_nil_iff.mpr fun c hc => by simp [hfront c hc]
    have hnamed : (b.is .block && (b.label.isNamed && !b.isToken .comment)) = true := by
      rw [hb, isToken, label_eq hb]
      rfl
    rw [Tree.parts, List.filter_filter, hchildren, List.filter_append, hnone, List.filter_singleton, hnamed]
    rfl
  have hread : (Reading.named (t.children.map read)).filter (fun c => c.is .block) = [b.read] := by
    simp only [named_read, List.filter_map, Function.comp_def, is_read, hblocks, List.map_singleton]
  rw [Reading.clauseBody, children_read, hbody]
  dsimp only
  rw [hread, List.flatMap_singleton, children_read]

/-- What a handler catches stands before its statements. -/
theorem handler (h : t.Joined Q) (ht : t.label.isHandler) :
    (Reading.handler t.read).Within Q t.lexemes := by
  obtain ⟨front, b, hchildren, hb, hfront⟩ := h.grows.exists_block ht
  have hcaught := h.caught front fun c hc hblock => by
    rw [hchildren] at hc
    refine (List.mem_append.mp hc).resolve_right fun hlast => ?_
    rw [List.mem_singleton.mp hlast, hb] at hblock
    cases hblock
  have hmem : b ∈ t.children := by simp [hchildren]
  have horder := h.inOrder.children
  rw [hchildren, lexemesOf_append] at horder
  have hbody : Spread Q (lexemesOf [b]) (Reading.clauseBody t.read) := by
    rw [h.clauseBody_handler ht hchildren hb hfront]
    exact (h.part hmem).contents.mono fun l hl => mem_lexemesOf (List.mem_singleton_self b) hl
  rw [← children_read] at hcaught
  have hboth := hcaught.append horder hbody
  rw [← lexemesOf_append, ← hchildren, ← Passes.children_handler] at hboth
  have hloc : t.read.loc = t.loc := by rw [Reading.loc, tree_read]
  have hnode : Within Q t.lexemes ⟨t.loc, (Reading.handler t.read).shape⟩ :=
    h.node rfl (hboth.mono t.lexemesOf_children_subset)
  rwa [← hloc] at hnode

theorem stmt_function (h : t.Joined Q) : (Reading.function t (t.children.map read)).Within Q t.lexemes :=
  h.node rfl ((h.blockOf .body).mono (t.region_subset _))

theorem decorators (h : t.Joined Q) :
    Spread Q (t.region (.phrases [.decorator])) (Passes.decorators (t.children.map read)) := by
  have hspread := h.filter_phrases [.decorator] fun c hc _ => (h.part hc).expr_head?
  simpa only [Passes.decorators, named_read, List.filter_map, List.filterMap_eq_flatMap_toList,
    List.flatMap_map, Function.comp_def, is_read, children_read, List.any_cons, List.any_nil,
    Bool.or_false] using hspread

theorem stmt_decorated (h : t.Joined Q) (hlabel : t.label = .phrase .decoratedDefinition) :
    (Reading.decorated t (t.children.map read)).Within Q t.lexemes := by
  have hboth {c : Tree} (hc : c ∈ t.children) (hrole : c.role = some .definition) {ns : List Node}
      (hns : Spread Q c.lexemes ns) :
      Spread Q t.lexemes (Passes.decorators (t.children.map read) ++ ns) :=
    h.slices hlabel rfl (.cons h.decorators (.one (spread_role hc hrole hns))) rfl
  unfold Reading.decorated
  dsimp only
  split
  · rename_i x hx
    obtain ⟨c, hc, hrole, rfl⟩ := exists_of_find? hx
    have hsub : ∀ l ∈ c.lexemes, l ∈ t.lexemes := fun _ => mem_lexemes_of_mem_children hc
    split
    · have hstmt := (h.arranged hc).stmt
      rw [Reading.decorate]
      split
      · rename_i name params old body docstring hshape
        have hbody := hstmt.children (by rw [Node.kind, hshape]; rfl)
        rw [Node.children, hshape] at hbody
        have hchildren := hboth hc hrole (hbody.sublist (List.sublist_append_right old body))
        obtain ⟨l, hl, hloc⟩ := hstmt.exists_loc
        exact .intro ⟨l, hsub l hl, hloc⟩ (.of_children rfl hchildren.successive) hchildren.within
      · exact hstmt.mono hsub
    · exact h.node rfl (hboth hc hrole (h.arranged hc).nodes)
  · exact h.other

theorem stmt_assignment (h : t.Joined Q) (hlabel : t.label = .phrase .assignment) :
    (Reading.assignment t (t.children.map read)).Within Q t.lexemes := by
  have htarget := h.exprOf (r := .left) hlabel rfl rfl
  have hboth {c : Tree} (hc : c ∈ t.children) (hrole : c.role = some .right) {ns : List Node}
      (hns : Spread Q c.lexemes ns) := h.slices hlabel rfl (.cons htarget (.one (spread_role hc hrole hns))) rfl
  rcases t.assignment_cases with ⟨c, hc, hfind, heq⟩ | ⟨c, hc, hrole, heq | ⟨targets, value, hshape, heq⟩⟩ |
    ⟨htype, hright, -⟩
  · have htype := h.expr_find? .type
    rw [hfind] at htype
    rw [heq]
    exact h.node rfl (h.slices hlabel rfl (.cons htarget (.cons htype (.one (h.expr_find? .right)))) rfl)
  · rw [heq]
    exact h.node rfl (hboth hc hrole (.single (h.arranged hc).expr))
  · have hchildren := (h.arranged hc).stmt.children (by rw [Node.kind, hshape]; rfl)
    rw [Node.children, hshape] at hchildren
    rw [heq]
    exact h.node rfl (hboth hc hrole hchildren)
  · exact absurd hright (Composed.isSome_of_assignment h.grows.complete hlabel htype)

theorem stmt_expressionStatement (h : t.Joined Q) :
    (Reading.expressionStatement t (t.children.map read)).Within Q t.lexemes := by
  rcases t.expressionStatement_cases with ⟨c, hc, heq | heq⟩ | heq
  · rw [heq]
    exact (h.arranged hc).stmt.mono fun _ => mem_lexemes_of_mem_children hc
  · rw [heq]
    exact h.node rfl (.single ((h.arranged hc).expr.mono fun _ => mem_lexemes_of_mem_children hc))
  · rw [heq]
    exact h.node rfl (.single (h.node rfl h.expr_named))

/-- The node of a branch reaches to the end of the branches after it. -/
theorem alternatives {clauses : List Tree} (h : ∀ c ∈ clauses, c.Joined Q)
    (horder : CodeAudit.InOrder (lexemesOf clauses)) :
    Spread Q (lexemesOf clauses) ((clauses.map read).foldr Reading.alternative []) := by
  induction clauses with
  | nil => exact .nil
  | cons c clauses ih =>
    obtain ⟨hc, hclauses⟩ := List.forall_mem_cons.mp h
    have hlater := ih hclauses (CodeAudit.InOrder.append_iff.mp horder).2.1
    rw [List.map_cons, List.foldr_cons, Reading.alternative, is_read, is_read, tree_read, children_read]
    split
    · exact hc.clauseBody.mono fun l hl => List.mem_append_left _ hl
    · split
      · rename_i helif
        have hbranch := hc.slices (label_eq helif) rfl
          (.cons (hc.exprOf (r := .condition) (label_eq helif) rfl rfl) (.one (hc.blockOf .consequence))) rfl
        have hchildren := hbranch.append horder hlater
        obtain ⟨l, hl, hloc⟩ := hc.exists_loc
        refine .single (.intro ⟨l, List.mem_append_left _ hl, ?_⟩ (.of_children rfl hchildren.successive)
          hchildren.within)
        rw [hloc, Reading.loc, tree_read]
      · exact hlater.mono fun l hl => List.mem_append_right _ hl

theorem stmt_conditional (h : t.Joined Q) (hlabel : t.label = .phrase .ifStatement) :
    (Reading.conditional t (t.children.map read)).Within Q t.lexemes := by
  have halternatives : Spread Q (t.region (.role .alternative))
      ((Reading.findAll (t.children.map read) .alternative).foldr Reading.alternative []) := by
    rw [findAll_read]
    exact alternatives (fun c hc => h.part (List.mem_of_mem_filter hc))
      (h.inOrder.children.of_sublist List.filter_sublist)
  exact h.node rfl (h.slices hlabel rfl (.cons (h.exprOf hlabel rfl rfl)
    (.cons (h.blockOf .consequence) (.one halternatives))) rfl)

theorem loopElse (h : t.Joined Q) :
    Spread Q (t.region (.role .alternative)) (Reading.loopElse (t.children.map read)) := by
  unfold Reading.loopElse
  split
  · rename_i x hx
    obtain ⟨c, hc, hrole, rfl⟩ := exists_of_find? hx
    exact spread_role hc hrole (h.part hc).clauseBody
  · exact .nil

theorem lastClause (h : t.Joined Q) (p : Phrase) :
    Spread Q (t.region (.phrases [p])) (Reading.lastClause (t.children.map read) p) := by
  unfold Reading.lastClause
  split
  · rename_i x hx
    obtain ⟨hx, hp⟩ := List.mem_filter.mp (List.mem_of_getLast? hx)
    obtain ⟨c, hc, rfl⟩ := exists_of_mem_named hx
    rw [is_read] at hp
    exact spread_region hc (by simp [Key.picks, hp]) (h.part hc).clauseBody
  · exact .nil

theorem stmt_tryBlock (h : t.Joined Q) (hlabel : t.label = .phrase .tryStatement) :
    (Reading.tryBlock t (t.children.map read)).Within Q t.lexemes := by
  have hhandlers : Spread Q (t.region (.phrases [.exceptClause, .exceptGroupClause]))
      (((Reading.named (t.children.map read)).filter fun c =>
        c.is .exceptClause || c.is .exceptGroupClause).map Reading.handler) := by
    have hspread := h.filter_phrases [.exceptClause, .exceptGroupClause]
      (f := fun c => [Reading.handler c.read]) fun c hc hany => by
        refine .single ((h.part hc).handler ?_)
        rcases Bool.or_eq_true_iff.mp hany with hclause | hclause
        · rw [label_eq hclause]
          rfl
        · rw [label_eq ((Bool.or_eq_true_iff.mp hclause).resolve_right Bool.false_ne_true)]
          rfl
    rw [named_read, List.filter_map, List.map_map, List.map_eq_flatMap]
    simpa only [Function.comp_def, is_read, List.any_cons, List.any_nil, Bool.or_false] using hspread
  exact h.node rfl (h.slices hlabel rfl (.cons (h.blockOf .body) (.cons hhandlers
    (.cons (h.lastClause .elseClause) (.one (h.lastClause .finallyClause))))) rfl)

theorem stmt_assertion (h : t.Joined Q) : (Reading.assertion t (t.children.map read)).Within Q t.lexemes := by
  have hparts := h.expr_named
  unfold Reading.assertion
  dsimp only
  refine h.node rfl ?_
  cases hnamed : Reading.named (t.children.map read) with
  | nil => exact .single (h.leaf rfl rfl)
  | cons x xs =>
    rw [hnamed] at hparts
    refine hparts.sublist (List.Sublist.cons_cons _ ?_)
    cases xs with
    | nil => exact List.nil_sublist _
    | cons y ys => exact (List.nil_sublist _).cons_cons _

/-- A construct of which the parts are in order is in order where a statement is wanted. -/
theorem stmt (h : t.Joined Q) (hexpr : t.read.expr.Within Q t.lexemes) : t.read.stmt.Within Q t.lexemes := by
  cases hlabel : t.label with
  | token terminal =>
    rw [stmt_read_of_token hlabel]
    exact hexpr
  | phrase p =>
    rw [Passes.stmt_read hlabel]
    have hother := h.other
    cases p with
    | functionDefinition => exact h.stmt_function
    | decoratedDefinition => exact h.stmt_decorated hlabel
    | assignment => exact h.stmt_assignment hlabel
    | expressionStatement => exact h.stmt_expressionStatement
    | returnStatement => exact h.node rfl h.expr_head?
    | ifStatement => exact h.stmt_conditional hlabel
    | forStatement =>
      exact h.node rfl (h.slices hlabel rfl (.cons (h.exprOf hlabel rfl rfl)
        (.cons (h.exprOf hlabel rfl rfl) (.cons (h.blockOf .body) (.one h.loopElse)))) rfl)
    | whileStatement =>
      exact h.node rfl (h.slices hlabel rfl (.cons (h.exprOf hlabel rfl rfl)
        (.cons (h.blockOf .body) (.one h.loopElse))) rfl)
    | tryStatement => exact h.stmt_tryBlock hlabel
    | assertStatement => exact h.stmt_assertion
    | importStatement | importFromStatement | futureImportStatement => exact h.leaf rfl rfl
    | _ => exact hother

/-- What such a construct contributes to a list of nodes is in order. -/
theorem nodes (h : t.Joined Q) (hexpr : t.read.expr.Within Q t.lexemes) : Spread Q t.lexemes t.read.nodes := by
  cases hlabel : t.label with
  | token terminal =>
    exact (Spread.single hexpr).sublist (nodes_read_sublist hlabel)
  | phrase p =>
    rw [nodes_read hlabel]
    split
    · exact h.contents
    · split
      · exact .single (h.stmt hexpr)
      · exact .single hexpr

/-- A construct of which the parts are in order is in order wherever it is made use of. -/
theorem toArranged (h : t.Joined Q) (hQ : t.is .call → Q t.read.expr) : t.Arranged Q := by
  have hexpr := h.expr hQ
  exact ⟨h.grows, h.inOrder, hexpr, h.stmt hexpr, h.nodes hexpr⟩

end Joined

end Tree

end CodeAudit
