import CodeAudit.Proofs.Calls
import CodeAudit.Proofs.Complete

/-!
# Operands joined by connectives

Operands that are joined by the same connective are values of one node, whichever way they are nested,
unless brackets keep them apart. A `Junction` tells how the operands are written. The node has the same
value and tries the same operands in the same order, provided that it is made from them. This can fail: if
a continued line comes first after an opening bracket, then it is taken for what the bracket encloses, and
all operands in there are lost. Nothing else can go wrong.
-/

namespace CodeAudit

open Grammar

/-! ### Trying operands -/

namespace Connective

/-- The value of an operand after which the next one has to be tried. -/
def neutral : Connective → Bool
  | and => true
  | or => false

variable {m : Type → Type u} [Monad m]

/-- Tries an operand, and then the other one if the first does not decide. -/
def both (op : Connective) (x y : m Bool) : m Bool := do
  let value ← x
  if value = op.neutral then y else pure value

/-- Tries operands one after the other, until one of them decides. -/
def tryAll (op : Connective) (xs : List (m Bool)) : m Bool := xs.foldr op.both (pure op.neutral)

variable [LawfulMonad m]

theorem pure_both (op : Connective) (y : m Bool) : op.both (pure op.neutral) y = y := by
  rw [both, pure_bind, if_pos rfl]

theorem both_pure (op : Connective) (x : m Bool) : op.both x (pure op.neutral) = x := by
  have hvalue (value : Bool) :
      (if value = op.neutral then pure op.neutral else pure value) = (pure value : m Bool) := by
    split
    · rename_i heq
      rw [heq]
    · rfl
  simp only [both, hvalue, bind_pure]

theorem both_assoc (op : Connective) (x y z : m Bool) : op.both (op.both x y) z = op.both x (op.both y z) := by
  simp only [both, bind_assoc]
  refine bind_congr fun value => ?_
  split
  · rfl
  · rename_i hne
    rw [pure_bind, if_neg hne]

theorem tryAll_singleton (op : Connective) (x : m Bool) : op.tryAll [x] = x := op.both_pure x

theorem tryAll_append (op : Connective) (xs ys : List (m Bool)) :
    op.tryAll (xs ++ ys) = op.both (op.tryAll xs) (op.tryAll ys) := by
  induction xs with
  | nil => exact (op.pure_both _).symm
  | cons x xs ih =>
    have hcons (zs : List (m Bool)) : op.tryAll (x :: zs) = op.both x (op.tryAll zs) := rfl
    rw [List.cons_append, hcons, hcons, ih, both_assoc]

end Connective

namespace Node

variable {m : Type → Type u} [Monad m] (eval : Node → m Bool)

/-- The value of a condition. What operands are worth is up to `eval`. -/
def evaluate : Node → m Bool
  | ⟨_, .boolOp op values⟩ => op.tryAll (values.attach.map fun c => evaluate c.1)
  | n => eval n
termination_by n => sizeOf n
decreasing_by exact sizeOf_lt_of_mem_children c.2

/-- The operands of a condition. -/
def leaves : Node → List Node
  | ⟨_, .boolOp _ values⟩ => values.attach.flatMap fun c => leaves c.1
  | n => [n]
termination_by n => sizeOf n
decreasing_by exact sizeOf_lt_of_mem_children c.2

/-- The connective between the values of a node. -/
def connective? (n : Node) : Option Connective :=
  match n.shape with
  | .boolOp op _ => some op
  | _ => none

/-- Whether a node is neither a connective nor made from a continued line. -/
def isOperand (n : Node) : Bool :=
  match n.shape with
  | .boolOp .. => false
  | .other label _ => label != Terminal.lineContinuation.label
  | _ => true

theorem eq_of_shape {n : Node} {shape : Shape Node} (h : n.shape = shape) : n = ⟨n.loc, shape⟩ := by
  cases n
  cases h
  rfl

theorem evaluate_boolOp (loc : Location) (op : Connective) (values : List Node) :
    evaluate eval ⟨loc, .boolOp op values⟩ = op.tryAll (values.map (evaluate eval)) := by
  rw [evaluate, List.attach_map_val]

theorem leaves_boolOp (loc : Location) (op : Connective) (values : List Node) :
    leaves ⟨loc, .boolOp op values⟩ = values.flatMap leaves := by
  rw [leaves, List.flatMap_def, List.attach_map_val, List.flatMap_def]

variable {n : Node}

theorem evaluate_of_connective?_eq_none (h : n.connective? = none) : evaluate eval n = eval n := by
  rw [evaluate]
  rintro loc op values rfl
  cases h

theorem leaves_of_connective?_eq_none (h : n.connective? = none) : leaves n = [n] := by
  rw [leaves]
  rintro loc op values rfl
  cases h

theorem connective?_of_isOperand (h : n.isOperand) : n.connective? = none := by
  unfold isOperand at h
  unfold connective?
  split at h
  · cases h
  · rename_i hshape
    rw [hshape]
  · rename_i hshape _
    split
    · rename_i hboolOp
      exact absurd hboolOp (hshape _ _)
    · rfl

end Node

namespace Reading

/-- The operands that a side contributes are the operands of the side. -/
theorem flatMap_leaves_operands (op : Connective) (side : Reading) :
    (operands op side).flatMap Node.leaves = side.expr.leaves := by
  unfold operands
  split
  · rename_i inner values hshape
    split
    · rw [Node.eq_of_shape hshape, Node.leaves_boolOp]
    · exact List.flatMap_singleton ..
  · exact List.flatMap_singleton ..

/-- Trying the operands that a side contributes is trying the side. -/
theorem tryAll_operands {m : Type → Type u} [Monad m] [LawfulMonad m] (eval : Node → m Bool)
    (op : Connective) (side : Reading) :
    op.tryAll ((operands op side).map (Node.evaluate eval)) = Node.evaluate eval side.expr := by
  unfold operands
  split
  · rename_i inner values hshape
    split
    · rename_i hsame
      obtain rfl : inner = op := of_decide_eq_true (Bool.and_eq_true_iff.mp hsame).2
      rw [Node.eq_of_shape hshape, Node.evaluate_boolOp]
    · exact op.tryAll_singleton _
  · exact op.tryAll_singleton _

theorem operands_of_other {side : Reading} (h : side.is .booleanOperator = false) (op : Connective) :
    operands op side = [side.expr] := by
  unfold operands
  split
  · rw [h, Bool.false_and]
    rfl
  · rfl

end Reading

/-! ### How operands are written -/

/-- An operand: a part that is neither joined nor in brackets. -/
structure Tree.IsBare (t : Tree) : Prop where
  isOperand : t.isOperand
  notJoin : t.is .booleanOperator = false
  notBracket : t.is .parenthesizedExpression = false
  notType : t.is .type = false

/-- A part in brackets. -/
structure Bracket where
  tree : Tree
  inside : Tree
  isBracket : tree.is .parenthesizedExpression
  parts : marked tree.children = [inside]
  isOperand : inside.isOperand

/-- A bracket in which no continued line comes first. -/
def Bracket.IsClear (b : Bracket) : Prop := b.tree.parts.head?.any (·.isToken .lineContinuation) = false

/-- How the operands of a condition are joined. -/
inductive Junction : Tree → Type
  | operand (t : Tree) (isBare : t.IsBare) : Junction t
  | joined (j : Join) (left : Junction j.left) (right : Junction j.right) : Junction j.tree
  | bracketed (b : Bracket) (content : Junction b.inside) : Junction b.tree

namespace Junction

variable {t : Tree}

/-- The operands from left to right. -/
def operands : {t : Tree} → Junction t → List Tree
  | _, operand t .. => [t]
  | _, joined _ left right => left.operands ++ right.operands
  | _, bracketed _ content => content.operands

/-- The outermost connective. -/
def op? : {t : Tree} → Junction t → Option Connective
  | _, operand .. => none
  | _, joined j .. => some j.op
  | _, bracketed .. => none

/-- What is joined by a connective, up to brackets and to the other connective. -/
def terms (op : Connective) : {t : Tree} → Junction t → List Tree
  | _, operand t .. => [t]
  | _, joined j left right => if j.op = op then left.terms op ++ right.terms op else [j.tree]
  | _, bracketed b _ => [b.tree]

/-- A condition without brackets in which a continued line comes first. -/
def IsClear : {t : Tree} → Junction t → Prop
  | _, operand .. => True
  | _, joined _ left right => left.IsClear ∧ right.IsClear
  | _, bracketed b content => b.IsClear ∧ content.IsClear

/-- The value of a condition as it is written. What operands are worth is up to `eval`. -/
def evaluate {m : Type → Type u} [Monad m] (eval : Node → m Bool) : {t : Tree} → Junction t → m Bool
  | _, operand t .. => eval t.read.expr
  | _, joined j left right => j.op.both (left.evaluate eval) (right.evaluate eval)
  | _, bracketed _ content => content.evaluate eval

end Junction

/-! ### Reading -/

namespace Join

variable (j : Join)

theorem expr_read : j.tree.read.expr = ⟨j.tree.loc, .boolOp j.op
    (Reading.operands j.op j.left.read ++ Reading.operands j.op j.right.read)⟩ := by
  have hleft : j.tree.part? .left = some j.left := by
    rw [Tree.part?_eq_find?, j.parts, List.find?_cons, j.isLeft.1]
    rfl
  have hsign : j.tree.part? .operator = some j.sign := by
    rw [Tree.part?_eq_find?, j.parts, List.find?_cons, List.find?_cons, j.isLeft.1, j.isSign.1]
    rfl
  have hright : j.tree.part? .right = some j.right := by
    rw [Tree.part?_eq_find?, j.parts, List.find?_cons, List.find?_cons, List.find?_cons, j.isLeft.1, j.isSign.1,
      j.isRight.1]
    rfl
  have hoperator : (Reading.operator? (j.tree.children.map Tree.read)).bind Connective.ofSpelling? = some j.op := by
    rw [Reading.operator?, Tree.find?_read, hsign, Option.map_some, Option.bind_some, Reading.spelling?,
      Tree.tree_read, j.isSign.2]
    exact Connective.ofSpelling?_eq_some_iff.mpr rfl
  have hexpr : j.tree.read.expr = Reading.connective j.tree (j.tree.children.map Tree.read) := by
    rw [Tree.expr_read, Reading.expression, Tree.label_eq j.isJoin]
    rfl
  rw [hexpr, Reading.connective, hoperator, Tree.find?_read, Tree.find?_read, hleft, hright]
  simp

theorem leaves_read : j.tree.read.expr.leaves = j.left.read.expr.leaves ++ j.right.read.expr.leaves := by
  rw [j.expr_read, Node.leaves_boolOp, List.flatMap_append, Reading.flatMap_leaves_operands,
    Reading.flatMap_leaves_operands]

theorem evaluate_read {m : Type → Type u} [Monad m] [LawfulMonad m] (eval : Node → m Bool) :
    Node.evaluate eval j.tree.read.expr =
      j.op.both (Node.evaluate eval j.left.read.expr) (Node.evaluate eval j.right.read.expr) := by
  rw [j.expr_read, Node.evaluate_boolOp, List.map_append, Connective.tryAll_append, Reading.tryAll_operands,
    Reading.tryAll_operands]

end Join

namespace Bracket

variable (b : Bracket)

/-- What comes first in a bracket is what it encloses or a continued line. -/
theorem exists_head : ∃ x rest, b.tree.parts = x :: rest ∧ (x = b.inside ∨ x.isToken .lineContinuation) := by
  have hmem {x : Tree} (hx : x ∈ b.tree.children) (hpart : x.label.isPart) : x = b.inside := by
    have hmarked : x ∈ marked b.tree.children := List.mem_filter.mpr ⟨hx, Tree.isMarked_of_isPart hpart⟩
    rw [b.parts] at hmarked
    exact List.mem_singleton.mp hmarked
  have hinside : b.inside ∈ b.tree.parts := by
    have hchild : b.inside ∈ marked b.tree.children := by
      rw [b.parts]
      exact List.mem_singleton_self _
    exact Tree.mem_parts_of_isPart (List.mem_of_mem_filter hchild) b.isOperand
  obtain ⟨x, rest, hparts⟩ := List.exists_cons_of_ne_nil (List.ne_nil_of_mem hinside)
  have hx : x ∈ b.tree.parts := by
    rw [hparts]
    exact List.mem_cons_self
  refine ⟨x, rest, hparts, ?_⟩
  exact (Tree.isPart_or_isToken_of_mem_parts hx).imp_left (hmem (List.mem_of_mem_filter hx))

/-- A bracket is read as what comes first in it. -/
theorem expr_read {x : Tree} {rest : List Tree} (h : b.tree.parts = x :: rest) : b.tree.read.expr = x.read.expr := by
  have hnamed := b.tree.named_read
  rw [h] at hnamed
  rw [Tree.expr_read, Reading.expression, Tree.label_eq b.isBracket]
  simp only [Reading.phrase, hnamed, List.map_cons]

theorem expr_read_of_isClear (h : b.IsClear) : b.tree.read.expr = b.inside.read.expr := by
  obtain ⟨x, rest, hparts, hx⟩ := b.exists_head
  rw [IsClear, hparts] at h
  rw [b.expr_read hparts]
  rcases hx with rfl | hx
  · rfl
  · rw [List.head?_cons, Option.any_some, hx] at h
    cases h

/-- A bracket that is not clear is read as a continued line. -/
theorem expr_read_of_not_isClear (h : ¬ b.IsClear) :
    b.tree.read.expr.shape = .other Terminal.lineContinuation.label [] := by
  obtain ⟨x, rest, hparts, -⟩ := b.exists_head
  rw [IsClear, hparts, List.head?_cons, Option.any_some, Bool.not_eq_false] at h
  have hlabel : x.label = .token .lineContinuation := eq_of_beq h
  rw [b.expr_read hparts, Tree.expr_read, Reading.expression, hlabel]
  show (Reading.other x []).shape = _
  rw [Reading.other, hlabel]
  rfl

end Bracket

/-! ### Operands -/

theorem Phrase.label_ne_lineContinuation (p : Phrase) : p.label ≠ Terminal.lineContinuation.label := by
  have hall : (Phrase.all.all fun p => p.label ≠ Terminal.lineContinuation.label) = true := by
    decide +kernel
  exact of_decide_eq_true (List.all_eq_true.mp hall p (mem_all p))

namespace Reading

variable {t : Tree} {cs : List Reading}

theorem isOperand_other {p : Phrase} (hlabel : t.label = .phrase p) (ns : List Node) :
    Node.isOperand ⟨t.loc, .other t.label.text ns⟩ := by
  rw [hlabel]
  exact bne_iff_ne.mpr p.label_ne_lineContinuation

theorem isOperand_string : (string t cs).isOperand := by
  unfold string
  split <;> rfl

theorem isOperand_concatenated {p : Phrase} (hlabel : t.label = .phrase p) : (concatenated t cs).isOperand := by
  rw [concatenated]
  split
  · rfl
  · exact isOperand_other hlabel _

theorem isOperand_comparison : (comparison t cs).isOperand := by
  unfold comparison
  split <;> rfl

theorem isOperand_token {terminal : Terminal} (hlabel : t.label = .token terminal) (hpart : t.isOperand) :
    (token t terminal).isOperand := by
  have hother : (other t []).isOperand := by
    rw [Tree.isOperand, hlabel] at hpart
    rw [other, hlabel]
    cases terminal <;> first | rfl | cases hpart
  unfold token
  split
  · rfl
  · rfl
  · rfl
  · rfl
  · split
    · rfl
    · exact hother

theorem isOperand_phrase {p : Phrase} (hlabel : t.label = .phrase p) (h : t.IsBare) : (phrase t p cs).isOperand := by
  have hne {q : Phrase} (hq : t.is q = false) : p ≠ q := by
    rintro rfl
    rw [Tree.is, hlabel, beq_self_eq_true] at hq
    cases hq
  have hother := isOperand_other hlabel (contents cs)
  unfold phrase
  split
  · rfl
  · rfl
  · exact isOperand_string
  · exact isOperand_concatenated hlabel
  · split
    · rfl
    · exact hother
  · exact isOperand_comparison
  · exact absurd rfl (hne h.notJoin)
  · rfl
  · split
    · rfl
    · exact hother
  · rfl
  · exact absurd rfl (hne h.notBracket)
  · exact absurd rfl (hne h.notType)
  · exact hother

end Reading

/-- An operand is read as one. -/
theorem Tree.IsBare.isOperand_expr {t : Tree} (h : t.IsBare) : t.read.expr.isOperand := by
  rw [expr_read, Reading.expression]
  cases hlabel : t.label with
  | token terminal => exact Reading.isOperand_token hlabel h.isOperand
  | phrase p => exact Reading.isOperand_phrase hlabel h

/-! ### Conditions -/

namespace Junction

variable {t : Tree}

/-- The operands that a side contributes are its terms. -/
theorem operands_read (j : Junction t) (op : Connective) :
    Reading.operands op t.read = (j.terms op).map fun x => x.read.expr := by
  induction j with
  | operand t isBare =>
    refine Reading.operands_of_other ?_ op
    rw [Tree.is_read]
    exact isBare.notJoin
  | bracketed b content =>
    refine Reading.operands_of_other ?_ op
    rw [Tree.is_read, Tree.is, Tree.label_eq b.isBracket]
    rfl
  | joined j left right ihl ihr =>
    have hoperands : Reading.operands op j.tree.read = if j.op = op then
        Reading.operands j.op j.left.read ++ Reading.operands j.op j.right.read else [j.tree.read.expr] := by
      rw [Reading.operands, Tree.is_read, j.isJoin, j.expr_read]
      simp
    rw [hoperands, terms]
    split
    · rename_i hop
      rw [hop, ihl, ihr, List.map_append]
    · rfl

/-- The values of the node of a condition are its terms. -/
theorem expr_read (j : Junction t) {op : Connective} (h : j.op? = some op) :
    t.read.expr = ⟨t.loc, .boolOp op ((j.terms op).map fun x => x.read.expr)⟩ := by
  cases j with
  | operand => cases h
  | bracketed => cases h
  | joined j left right =>
    obtain rfl := Option.some.inj h
    rw [j.expr_read, left.operands_read, right.operands_read, terms, if_pos rfl, List.map_append]

/-- A term with the same connective is in brackets. -/
theorem isBracket_of_mem_terms (j : Junction t) {op : Connective} {x : Tree} (hx : x ∈ j.terms op)
    (hop : x.read.expr.connective? = some op) : x.is .parenthesizedExpression := by
  induction j with
  | operand t isBare =>
    obtain rfl := List.mem_singleton.mp hx
    rw [Node.connective?_of_isOperand isBare.isOperand_expr] at hop
    cases hop
  | bracketed b content =>
    obtain rfl := List.mem_singleton.mp hx
    exact b.isBracket
  | joined j left right ihl ihr =>
    rw [terms] at hx
    split at hx
    · rcases List.mem_append.mp hx with hx | hx
      · exact ihl hx
      · exact ihr hx
    · rename_i hne
      obtain rfl := List.mem_singleton.mp hx
      rw [j.expr_read] at hop
      exact absurd (Option.some.inj hop) hne

theorem isOperand_of_mem_operands (j : Junction t) {x : Tree} (hx : x ∈ j.operands) :
    x.read.expr.isOperand := by
  induction j with
  | operand t isBare =>
    obtain rfl := List.mem_singleton.mp hx
    exact isBare.isOperand_expr
  | bracketed b content ih => exact ih hx
  | joined j left right ihl ihr =>
    rcases List.mem_append.mp hx with hx | hx
    · exact ihl hx
    · exact ihr hx

/-- A clear condition keeps its operands. -/
theorem leaves_read (j : Junction t) (h : j.IsClear) :
    t.read.expr.leaves = j.operands.map fun x => x.read.expr := by
  induction j with
  | operand t isBare =>
    exact Node.leaves_of_connective?_eq_none (Node.connective?_of_isOperand isBare.isOperand_expr)
  | bracketed b content ih =>
    rw [b.expr_read_of_isClear h.1]
    exact ih h.2
  | joined j left right ihl ihr => rw [j.leaves_read, ihl h.1, ihr h.2, operands, List.map_append]

/-- A condition that is not clear has a continued line for an operand. -/
theorem exists_leaf_of_not_isClear (j : Junction t) (h : ¬ j.IsClear) :
    ∃ n ∈ t.read.expr.leaves, n.isOperand = false := by
  induction j with
  | operand => exact absurd trivial h
  | bracketed b content ih =>
    by_cases hclear : b.IsClear
    · rw [b.expr_read_of_isClear hclear]
      exact ih fun hcontent => h ⟨hclear, hcontent⟩
    · have hshape := b.expr_read_of_not_isClear hclear
      have hleaves : b.tree.read.expr.leaves = [b.tree.read.expr] := by
        refine Node.leaves_of_connective?_eq_none ?_
        rw [Node.connective?, hshape]
      refine ⟨_, by rw [hleaves]; exact List.mem_singleton_self _, ?_⟩
      rw [Node.isOperand, hshape]
      rfl
  | joined j left right ihl ihr =>
    rw [j.leaves_read]
    by_cases hleft : left.IsClear
    · obtain ⟨n, hn, hline⟩ := ihr fun hright => h ⟨hleft, hright⟩
      exact ⟨n, List.mem_append_right _ hn, hline⟩
    · obtain ⟨n, hn, hline⟩ := ihl hleft
      exact ⟨n, List.mem_append_left _ hn, hline⟩

theorem leaves_read_iff (j : Junction t) :
    t.read.expr.leaves = j.operands.map (fun x => x.read.expr) ↔ j.IsClear := by
  refine ⟨fun heq => ?_, j.leaves_read⟩
  by_contra hclear
  obtain ⟨n, hn, hline⟩ := j.exists_leaf_of_not_isClear hclear
  rw [heq] at hn
  obtain ⟨x, hx, rfl⟩ := List.mem_map.mp hn
  rw [j.isOperand_of_mem_operands hx] at hline
  cases hline

/-- A clear condition keeps its value, and the order in which its operands are tried. -/
theorem evaluate_read {m : Type → Type u} [Monad m] [LawfulMonad m] (eval : Node → m Bool) (j : Junction t)
    (h : j.IsClear) : Node.evaluate eval t.read.expr = j.evaluate eval := by
  induction j with
  | operand t isBare =>
    exact Node.evaluate_of_connective?_eq_none eval (Node.connective?_of_isOperand isBare.isOperand_expr)
  | bracketed b content ih =>
    rw [b.expr_read_of_isClear h.1]
    exact ih h.2
  | joined j left right ihl ihr => rw [j.evaluate_read, ihl h.1, ihr h.2, evaluate]

end Junction

/-! ### All conditions of a text -/

/-- Whether the operands of a condition can stand directly in a construct. -/
def Label.holdsOperands : Label → Bool
  | .phrase .booleanOperator | .phrase .parenthesizedExpression => true
  | _ => false

namespace Grammar

/-- Whether no type stands where operands can stand. -/
def Production.isUntyped (ps : List Production) (p : Production) : Bool :=
  match p.head with
  | .phrase q => !q.appearances.any Label.holdsOperands || p.steps.toList.all (Step.avoids ps .type 3)
  | _ => true

theorem isUntyped_forms : allForms.all (Production.isUntyped allForms) = true := by
  decide +kernel

theorem Production.avoids_type {p : Production} {q : Phrase} {label : Label} (hp : p ∈ allProductions)
    (hhead : p.head = .phrase q) (hlabel : label ∈ q.appearances) (holds : label.holdsOperands) :
    p.steps.toList.all (Step.avoids allProductions .type 3) := by
  have huntyped := List.all_eq_true.mp isUntyped_forms p (allProductions_subset hp)
  simp only [Production.isUntyped, hhead, Bool.or_eq_true, Bool.not_eq_true'] at huntyped
  have hany : q.appearances.any Label.holdsOperands := List.any_eq_true.mpr ⟨label, hlabel, holds⟩
  have hsteps := List.all_eq_true.mp (huntyped.resolve_left (by simp [hany]))
  exact List.all_eq_true.mpr fun s hs => Step.avoids_of_subset allProductions_subset (hsteps s hs)

end Grammar

namespace Tree

variable {t : Tree}

theorem Grows.notType_of_mem (h : t.Grows) (holds : t.label.holdsOperands) :
    ∀ c ∈ t.children, c.is .type = false := by
  cases h with
  | leaf known role lexeme => exact fun _ hc => absurd hc List.not_mem_nil
  | node derives head appears role =>
    exact derives.is_eq_false (Production.avoids_type derives.known head appears holds)

theorem Complete.exists_bracket (h : t.Complete) (hbracket : t.is .parenthesizedExpression) :
    ∃ b : Bracket, b.tree = t := by
  have hlayout : t.label.layout? = some [.one Allowed.plain] := by
    rw [label_eq hbracket]
    rfl
  obtain ⟨c, rest, hparts, hplain, hrest⟩ := h.layout hlayout
  obtain rfl : rest = [] := hrest
  have hmarked : c.isMarked := (List.mem_filter.mp (hparts ▸ List.mem_singleton_self c)).2
  exact ⟨⟨t, c, hbracket, hparts, isPart_of_plain hmarked hplain⟩, rfl⟩

/-- Every part of a text is a condition, if only one with a single operand. -/
theorem nonempty_junction (h : t.Everywhere Grows) (hoperand : t.isOperand) (htype : t.is .type = false) :
    Nonempty (Junction t) := by
  induction t using induct with
  | step t ih =>
    have child {c : Tree} (holds : t.label.holdsOperands) (hc : c ∈ marked t.children) (hoperand : c.isOperand) :
        Nonempty (Junction c) :=
      have hc := List.mem_of_mem_filter hc
      ih c hc (h.child hc) hoperand (h.self.notType_of_mem holds c hc)
    by_cases hjoin : t.is .booleanOperator
    · have holds : t.label.holdsOperands := by
        rw [label_eq hjoin]
        rfl
      obtain ⟨j, rfl⟩ := h.self.complete.join hjoin
      obtain ⟨left⟩ := child holds (by simp [j.parts]) j.isLeft.2
      obtain ⟨right⟩ := child holds (by simp [j.parts]) j.isRight.2
      exact ⟨.joined j left right⟩
    · by_cases hbracket : t.is .parenthesizedExpression
      · have holds : t.label.holdsOperands := by
          rw [label_eq hbracket]
          rfl
        obtain ⟨b, rfl⟩ := h.self.complete.exists_bracket hbracket
        obtain ⟨content⟩ := child holds (by simp [b.parts]) b.isOperand
        exact ⟨.bracketed b content⟩
      · exact ⟨.operand t ⟨hoperand, Bool.eq_false_iff.mpr hjoin, Bool.eq_false_iff.mpr hbracket, htype⟩⟩

end Tree

namespace Junction

/-- Joined operands have an outermost connective. -/
theorem exists_op {t : Tree} (j : Junction t) (h : t.is .booleanOperator) : ∃ op, j.op? = some op := by
  cases j with
  | operand t isBare =>
    rw [isBare.notJoin] at h
    cases h
  | bracketed b content =>
    have hbracket := b.isBracket
    rw [Tree.is, Tree.label_eq h] at hbracket
    cases hbracket
  | joined j left right => exact ⟨j.op, rfl⟩

/-- A condition whose node has its terms for values, so that the same connective comes again in brackets
only. The node has the operands of the condition if and only if the condition is clear, and then it has its
value as well, whatever it takes to find out about operands. -/
structure IsRead.{u} {t : Tree} (j : Junction t) (op : Connective) : Prop where
  outermost : j.op? = some op
  node : t.read.expr = ⟨t.loc, .boolOp op ((j.terms op).map fun x => x.read.expr)⟩
  again : ∀ x ∈ j.terms op, x.read.expr.connective? = some op → x.is .parenthesizedExpression
  operands : t.read.expr.leaves = j.operands.map (fun x => x.read.expr) ↔ j.IsClear
  value : j.IsClear → ∀ {m : Type → Type u} [Monad m] [LawfulMonad m] (eval : Node → m Bool),
    Node.evaluate eval t.read.expr = j.evaluate eval

end Junction

theorem Tree.IsModule.exists_junction.{u} {t s : Tree} (h : t.IsModule) (hs : s ∈ t.subtrees)
    (hjoin : s.is .booleanOperator) : ∃ (j : Junction s) (op : Connective), j.IsRead.{u} op := by
  have hgrows := h.grows_of_mem hs (label_eq hjoin) nofun
  have hoperand : s.isOperand := by
    rw [isOperand, label_eq hjoin]
    rfl
  have htype : s.is .type = false := by
    rw [is, label_eq hjoin]
    rfl
  obtain ⟨j⟩ := nonempty_junction hgrows hoperand htype
  obtain ⟨op, hop⟩ := j.exists_op hjoin
  exact ⟨j, op, hop, j.expr_read hop, fun x hx => j.isBracket_of_mem_terms hx, j.leaves_read_iff,
    fun hclear _ _ _ eval => j.evaluate_read eval hclear⟩

/-- The conditions of a source keep their operands and their values, but for those in which a continued line
comes first after an opening bracket. The same holds for all trees that follow the grammar, by whatever parser
they are found. -/
theorem Tree.conditions_keep_operands_if_clear.{u} (t : Tree) :
    (∀ src, Tree.ofSource? src = some t → ∀ s ∈ t.subtrees, s.is .booleanOperator →
      ∃ (j : Junction s) (op : Connective), j.IsRead.{u} op) ∧
    (t.IsModule → ∀ s ∈ t.subtrees, s.is .booleanOperator →
      ∃ (j : Junction s) (op : Connective), j.IsRead.{u} op) := by
  constructor
  · intro src h s hs hjoin
    exact (isModule_of_ofSource? h).exists_junction hs hjoin
  · intro ht s hs hjoin
    exact ht.exists_junction hs hjoin

/-! ### A bracket in two lines

A condition in brackets, in one line and in two. -/

namespace Bracketed

open Sample

/-- Two operands with a connective between them. -/
def join (op : String) (level : Int) (left sign right : Outline) : Outline :=
  let marks (r : Role) : Marks := { level := some level, assoc := some .left, role := some r }
  chain (.phrase .expression) (.phrase .booleanOperator) <|
    .form (.phrase .booleanOperator) { steps :=
        [⟨.phrase .expression, marks .left⟩, ⟨literal op, marks .operator⟩, ⟨.phrase .expression, marks .right⟩] }
      [left, sign, right]

/-- `(a and b) or c` as the only statement of a text, where `extras` come before the first name -/
def outline (extras : List (Terminal × Lexeme)) (line col : Nat) : Outline :=
  let first := chain (.phrase .expression) (.phrase .primaryExpression) (operand line "" col "a" extras)
  let both := join "and" 11 first (word line " " (col + 2) "and") (nameExpression line " " (col + 6) "b")
  chain (.phrase .module) (.loop 0) <| statement .simpleStatements <|
    simple .expressionStatement
      (chain (.phrase .expressionStatement) (.phrase .expression) <|
        join "or" 10 (bracketed (word 1 "" 1 "(") both (word line "" (col + 7) ")")) (word line " " (col + 9) "or")
          (nameExpression line " " (col + 12) "c"))
      line (col + 13)

/-- The condition in one line. -/
def short : Tree := (outline [] 1 2).text ⟨"", ⟨1, 15⟩, ""⟩

/-- The condition in two lines. -/
def long : Tree := (outline [(.lineContinuation, ⟨"", ⟨1, 2⟩, "\\\n"⟩)] 2 1).text ⟨"", ⟨2, 14⟩, ""⟩

theorem isModule_short : short.IsModule := Outline.isModule_text (by decide +kernel) rfl _

theorem isModule_long : long.IsModule := Outline.isModule_text (by decide +kernel) rfl _

end Bracketed

/-- In one line, all operands are kept. -/
theorem Tree.conditions_keep_operands_if_clear_short :
    Bracketed.short.IsModule ∧ ∃ s ∈ Bracketed.short.subtrees, s.is .booleanOperator ∧
      ∃ (j : Junction s) (op : Connective), j.IsRead.{0} op ∧ j.IsClear ∧
        s.read.expr.leaves = j.operands.map (fun x => x.read.expr) ∧
        s.read.expr.leaves.map Node.loc = [⟨1, 2⟩, ⟨1, 8⟩, ⟨1, 14⟩] := by
  have hexists : ∃ s ∈ Bracketed.short.subtrees, s.is .booleanOperator ∧
      (∀ n ∈ s.read.expr.leaves, n.isOperand) ∧
      s.read.expr.leaves.map Node.loc = [⟨1, 2⟩, ⟨1, 8⟩, ⟨1, 14⟩] := by
    decide +kernel
  obtain ⟨s, hs, hjoin, hleaves, hlocs⟩ := hexists
  obtain ⟨j, op, hread⟩ := (conditions_keep_operands_if_clear _).2 Bracketed.isModule_short s hs hjoin
  have hclear : j.IsClear := by
    by_contra hclear
    obtain ⟨n, hn, hline⟩ := j.exists_leaf_of_not_isClear hclear
    rw [hleaves n hn] at hline
    cases hline
  exact ⟨Bracketed.isModule_short, s, hs, hjoin, j, op, hread, hclear, hread.operands.mpr hclear, hlocs⟩

/-- In two lines, the operands in the bracket are lost. -/
theorem Tree.bracketed_operands_lost :
    Bracketed.long.IsModule ∧ ∃ s ∈ Bracketed.long.subtrees, s.is .booleanOperator ∧
      (∃ x ∈ s.subtrees, x.isToken .identifier ∧ x.loc = ⟨2, 1⟩) ∧
      s.read.expr.leaves.map (fun n => (n.loc, n.kind)) = [(⟨1, 2⟩, .other), (⟨2, 13⟩, .name)] := by
  refine ⟨Bracketed.isModule_long, ?_⟩
  decide +kernel

end CodeAudit
