import CodeAudit.Proofs.Comparisons
import CodeAudit.Proofs.Formed.Basic

/-!
# Expressions in good shape

One lemma for each construct that has a shape of its own where an expression is wanted. The parts that
a shape needs are there because the construct is complete; that they are in good shape is known from
the construct being composed. A comparison has as many operands after the first one as it has signs,
and one more for every continued line among its parts.
-/

namespace CodeAudit

open Grammar Node

theorem Numeral.nonneg_of_integer? {text : String} {v : Int64} (h : integer? text = some v) : 0 ≤ v := by
  obtain ⟨n, -, hn⟩ := Option.bind_eq_some_iff.mp h
  rw [Option.ite_none_right_eq_some] at hn
  obtain ⟨hlt, hv⟩ := hn
  obtain rfl := Option.some.inj hv
  have hlt : n < 2 ^ 63 := by simpa using hlt
  rw [Int64.le_iff_toInt_le, Int64.toInt_ofNat_of_lt hlt]
  simp

/-- Integers that are read from a text are not negative. -/
theorem Reading.holds_number? {terminal : Terminal} {text : String} {n : Number}
    (h : number? terminal text = some n) : Shape.Holds (.num n) := by
  cases n with
  | float value => trivial
  | int value =>
    unfold number? at h
    split at h
    · rcases Option.or_eq_some_iff.mp h with h | ⟨-, h⟩
      · obtain ⟨v, hv, heq⟩ := Option.map_eq_some_iff.mp h
        obtain rfl := Number.int.inj heq
        exact Numeral.nonneg_of_integer? hv
      · obtain ⟨v, -, heq⟩ := Option.map_eq_some_iff.mp h
        cases heq
    · obtain ⟨v, -, heq⟩ := Option.map_eq_some_iff.mp h
      cases heq
    · cases h

namespace Tree

namespace Complete

variable {t : Tree}

/-- A comparison has a sign, and its operands after the first one are as many as the signs and the
continued lines together. -/
theorem exists_comparison (h : t.Complete) (ht : t.is .comparisonOperator) :
    ∃ left ops comparators, t.read.expr = ⟨t.loc, .compare left ops comparators⟩ ∧
      left :: comparators = (Reading.named (t.children.map read)).map Reading.expr ∧
      1 ≤ ops.length ∧ comparators.length = ops.length + t.continuedLines := by
  obtain ⟨c, rfl⟩ := h.chain ht
  obtain ⟨left, comparators, hexpr, hparts⟩ := c.exists_expr_read ht
  have hlength := congrArg List.length hparts
  rw [List.length_cons, List.length_map, c.length_parts] at hlength
  refine ⟨left, c.links.map Link.op, comparators, hexpr, ?_, ?_, ?_⟩
  · rw [named_read, List.map_map]
    exact hparts
  · rw [List.length_map]
    exact List.length_pos_of_ne_nil c.nonempty
  · rw [List.length_map]
    omega

/-- The operands of a comparison are counted by its signs and the continued lines. -/
theorem operands_expr (h : t.Complete) (ht : t.is .comparisonOperator) :
    t.read.expr.operands = t.read.expr.operators + t.continuedLines := by
  obtain ⟨left, ops, comparators, hexpr, -, -, hlength⟩ := h.exists_comparison ht
  rw [hexpr]
  exact hlength

end Complete

namespace Composed

variable {Q : Node → Prop} {t c : Tree} {p : Phrase}

/-- A token is in good shape. -/
theorem token (h : t.Composed Q) (terminal : Terminal) : (Reading.token t terminal).Proper Q := by
  have hother : (Reading.other t []).Proper Q := h.labelled .nil
  unfold Reading.token
  split
  · exact .of_children rfl h.placed trivial .nil
  · exact .of_children rfl h.placed trivial .nil
  · exact .of_children rfl h.placed trivial .nil
  · exact .of_children rfl h.placed trivial .nil
  · split
    · rename_i n hn
      exact .of_children rfl h.placed (Reading.holds_number? hn) .nil
    · exact hother

/-- What a call is given for an argument is in good shape. -/
theorem passed (h : t.Composed Q) (hexpr : t.read.expr.Proper Q) : t.read.passed.Proper Q := by
  rw [Reading.passed, is_read, is_read, tree_read, children_read]
  split
  · rename_i hkeyword
    exact h.exprOf (label_eq hkeyword) rfl rfl
  · split
    · rename_i hsplat
      exact h.exprOf_head? (h.complete.named_ne_nil_of_layout (label_eq hsplat) rfl rfl)
    · exact hexpr

theorem expr_call (h : t.Composed Q) (hlabel : t.label = .phrase .call) :
    (Reading.call t (t.children.map read)).Proper Q := by
  have hchildren : AllProper Q (Reading.call t (t.children.map read)).children := by
    intro n hn
    rcases exists_of_mem_call hn with rfl | ⟨c, hc, rfl | ⟨a, ha, rfl⟩⟩
    · exact h.exprOf hlabel rfl rfl
    · exact (h.reads hc).expr
    · exact ((h.part hc).part ha).passed ((h.part hc).reads ha).expr
  exact .of_children rfl h.placed trivial hchildren

theorem expr_comparison (h : t.Composed Q) (ht : t.is .comparisonOperator) (hQ : Q t.read.expr) :
    t.read.expr.Proper Q := by
  obtain ⟨left, ops, comparators, hexpr, hparts, hops, -⟩ := h.complete.exists_comparison ht
  have hchildren : AllProper Q (left :: comparators) := by
    rw [hparts]
    exact h.expr_named
  rw [hexpr] at hQ ⊢
  have hformed : Formed Q ⟨t.loc, .compare left ops comparators⟩ :=
    ⟨h.placed, hops, fun n hn => (hchildren n hn).inner, fun _ => hQ⟩
  exact ⟨rfl, hformed.descendants fun c hc => (hchildren c hc).formed⟩

/-- An operand of a connective contributes at least one operand, and all of them are in good shape. -/
theorem operands {side : Reading} (hside : side.expr.Proper Q) (op : Connective) :
    1 ≤ (Reading.operands op side).length ∧ AllProper Q (Reading.operands op side) := by
  rcases Reading.operands_cases op side with heq | ⟨inner, values, hshape, heq⟩
  · rw [heq]
    exact ⟨Nat.le_refl 1, .single hside⟩
  · have hkind : side.expr.kind.isSimple := by
      rw [Node.kind, hshape]
      rfl
    have hlength := hside.formed_self.shape
    have hvalues := hside.children hkind
    rw [hshape] at hlength
    rw [Node.children, hshape] at hvalues
    rw [heq]
    exact ⟨Nat.le_of_succ_le hlength, hvalues⟩

theorem expr_connective (h : t.Composed Q) (hlabel : t.label = .phrase .booleanOperator) :
    (Reading.connective t (t.children.map read)).Proper Q := by
  unfold Reading.connective
  split
  · rename_i op _
    obtain ⟨left, hleft, hfind⟩ := h.complete.exists_find? (r := .left) hlabel rfl rfl
    obtain ⟨right, hright, hfind'⟩ := h.complete.exists_find? (r := .right) hlabel rfl rfl
    obtain ⟨hlength, hvalues⟩ := operands (h.reads hleft).expr op
    obtain ⟨hlength', hvalues'⟩ := operands (h.reads hright).expr op
    rw [hfind, hfind']
    simp only [Option.toList_some, List.cons_append, List.nil_append, List.flatMap_cons, List.flatMap_nil,
      List.append_nil]
    refine .of_children rfl h.placed ?_ (hvalues.append hvalues')
    rw [Shape.Holds, List.length_append]
    omega
  · exact h.other

/-- A string literal is in good shape if the expressions in its holes are. -/
theorem string {cs : List Reading} (hloc : t.loc.FromOne) (hholes : AllProper Q (Reading.holes cs)) :
    (Reading.string t cs).Proper Q := by
  have literal (text : String) (bytes : Bool) : Proper Q ⟨t.loc, .str text bytes⟩ :=
    .of_children rfl hloc trivial .nil
  unfold Reading.string
  split
  · exact literal _ _
  · rename_i hne
    refine .of_children rfl hloc ⟨by decide, fun _ => ?_⟩ (.cons (literal _ _) hholes)
    exact ⟨_, _, rfl, rfl, hne⟩

/-- The expressions in the holes of a string literal are in good shape. -/
theorem holes (h : t.Composed Q) : AllProper Q (Reading.holes (t.children.map read)) := by
  intro n hn
  obtain ⟨c, hc, d, hd, rfl⟩ := exists_of_mem_holes hn
  exact ((h.part hc).reads hd).expr

theorem expr_concatenated (h : t.Composed Q) :
    (Reading.concatenated t (t.children.map read)).Proper Q := by
  have hparts : AllProper Q ((Reading.named (t.children.map read)).map
      fun c => Reading.string c.tree c.children) := by
    intro n hn
    obtain ⟨x, hx, rfl⟩ := List.mem_map.mp hn
    obtain ⟨c, hc, rfl⟩ := exists_of_mem_named hx
    rw [tree_read, children_read]
    exact string (h.part hc).placed (h.part hc).holes
  rw [Reading.concatenated]
  split
  · exact .of_children rfl h.placed trivial .nil
  · exact h.labelled hparts

/-- The nodes of an entry of a dictionary are in good shape. -/
theorem entry (h : t.Composed Q) {entry : Option Node × Node} (hentry : Reading.entry? t.read = some entry) :
    AllProper Q (entry.1.toList ++ [entry.2]) := by
  rcases entry?_cases hentry with ⟨hpair, rfl⟩ | ⟨hsplat, rfl⟩
  · have hkey := h.exprOf (r := .key) (label_eq hpair) rfl rfl
    exact .cons hkey (.single (h.exprOf (label_eq hpair) rfl rfl))
  · exact .single (h.exprOf_head? (h.complete.named_ne_nil_of_layout (label_eq hsplat) rfl rfl))

theorem expr_dictionary (h : t.Composed Q) : (Reading.dictionary t (t.children.map read)).Proper Q := by
  have hchildren : AllProper Q (Reading.dictionary t (t.children.map read)).children := by
    intro n hn
    obtain ⟨c, hc, entry, hentry, hn⟩ := exists_of_mem_dictionary hn
    exact (h.part hc).entry hentry n hn
  refine .of_children rfl h.placed ?_ hchildren
  rw [Shape.Holds, List.length_map, List.length_map]

/-- A composed construct is in good shape where an expression is wanted. -/
theorem expr (h : t.Composed Q) (hQ : t.is .comparisonOperator → Q t.read.expr) :
    t.read.expr.Proper Q := by
  cases hlabel : t.label with
  | token terminal =>
    rw [expr_read, Reading.expression, hlabel]
    exact h.token terminal
  | phrase p =>
    have hother := h.other
    have hexpr : t.read.expr = Reading.phrase t p (t.children.map read) := by
      rw [expr_read, Reading.expression, hlabel]
    cases p with
    | comparisonOperator =>
      have ht : t.is .comparisonOperator := beq_iff_eq.mpr hlabel
      exact h.expr_comparison ht (hQ ht)
    | attributeAccess =>
      rw [hexpr]
      exact .of_children rfl h.placed trivial (.single (h.exprOf hlabel rfl rfl))
    | call =>
      rw [hexpr]
      exact h.expr_call hlabel
    | string =>
      rw [hexpr]
      exact string h.placed h.holes
    | concatenatedString =>
      rw [hexpr]
      exact h.expr_concatenated
    | binaryOperator =>
      rw [hexpr, Reading.phrase]
      split
      · have hleft := h.exprOf (r := .left) hlabel rfl rfl
        exact .of_children rfl h.placed trivial (.cons hleft (.single (h.exprOf hlabel rfl rfl)))
      · exact hother
    | booleanOperator =>
      rw [hexpr]
      exact h.expr_connective hlabel
    | notOperator =>
      rw [hexpr]
      exact .of_children rfl h.placed trivial (.single (h.exprOf hlabel rfl rfl))
    | unaryOperator =>
      rw [hexpr, Reading.phrase]
      split
      · exact .of_children rfl h.placed trivial (.single (h.exprOf hlabel rfl rfl))
      · exact hother
    | dictionary =>
      rw [hexpr]
      exact h.expr_dictionary
    | parenthesizedExpression | type =>
      rw [hexpr, Reading.phrase]
      split
      · rename_i inner rest hnamed
        have hparts := h.expr_named
        rw [hnamed] at hparts
        exact hparts inner.expr List.mem_cons_self
      · exact hother
    | _ =>
      rw [hexpr]
      exact hother

end Composed

end Tree

end CodeAudit
