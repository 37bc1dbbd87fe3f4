import CodeAudit.Proofs.Conditions
import CodeAudit.Proofs.Formed.Modules
import Mathlib.Algebra.Ring.Commute
import Mathlib.Algebra.Ring.Int.Defs

/-!
# Integers behind signs

An integer literal is seen through any number of signs. Each minus turns the sign around, and the least
number is the only one for which that is not possible. Where it stands behind a minus there is no value, also
if another minus would lead back to it; everywhere else the value is that of the literal, times minus one for
each minus. A literal of a text is not negative, so that nothing in a text is without a value.
-/

namespace CodeAudit

namespace Node

/-- An integer literal behind any number of signs: how many of them are minuses, and the literal. -/
inductive SignChain : Node → Nat → Int64 → Prop
  | literal (loc : Location) (k : Int64) : SignChain ⟨loc, .num (.int k)⟩ 0 k
  | plus (loc : Location) {operand : Node} {minuses : Nat} {k : Int64}
      (chain : SignChain operand minuses k) : SignChain ⟨loc, .unaryOp .pos operand⟩ minuses k
  | minus (loc : Location) {operand : Node} {minuses : Nat} {k : Int64}
      (chain : SignChain operand minuses k) : SignChain ⟨loc, .unaryOp .neg operand⟩ (minuses + 1) k

/-- A minus has no value if its operand has none or is the least number. -/
theorem bind_negate?_eq_none_iff {o : Option Int64} :
    o.bind negate? = none ↔ o = none ∨ o = some Int64.minValue := by
  cases o with
  | none => simp
  | some v => simp [negate?]

theorem exists_signChain_of_asInt? {n : Node} {v : Int64} (h : n.asInt? = some v) :
    ∃ minuses k, n.SignChain minuses k := by
  fun_induction asInt? n generalizing v with
  | case1 loc k => exact ⟨0, k, .literal loc k⟩
  | case2 loc operand ih =>
    obtain ⟨u, hu, -⟩ := Option.bind_eq_some_iff.mp h
    obtain ⟨minuses, k, chain⟩ := ih hu
    exact ⟨minuses + 1, k, .minus loc chain⟩
  | case3 loc operand ih =>
    obtain ⟨minuses, k, chain⟩ := ih h
    exact ⟨minuses, k, .plus loc chain⟩
  | case4 => cases h

namespace SignChain

variable {n : Node} {minuses : Nat} {k : Int64}

/-- A value is that of the literal, with the sign turned around as often as there are minuses. -/
theorem toInt_eq (chain : n.SignChain minuses k) {v : Int64} (h : n.asInt? = some v) :
    v.toInt = (-1) ^ minuses * k.toInt := by
  induction chain generalizing v with
  | literal loc k =>
    rw [asInt?] at h
    rw [← Option.some.inj h, pow_zero, one_mul]
  | plus loc _ ih =>
    rw [asInt?] at h
    exact ih h
  | minus loc _ ih =>
    rw [asInt?] at h
    obtain ⟨u, hu, hv⟩ := Option.bind_eq_some_iff.mp h
    rw [toInt_of_negate? hv, ih hu, pow_succ', neg_one_mul, neg_mul]

/-- The least number can only come from itself. -/
theorem eq_minValue (chain : n.SignChain minuses k) (h : n.asInt? = some Int64.minValue) :
    k = Int64.minValue := by
  have hvalue := chain.toInt_eq h
  have hlt := k.toInt_lt
  rw [Int64.toInt_minValue] at hvalue
  rw [← Int64.toInt_inj, Int64.toInt_minValue]
  rcases neg_one_pow_eq_or ℤ minuses with hsign | hsign
  · rw [hsign] at hvalue
    omega
  · rw [hsign] at hvalue
    omega

/-- There is no value exactly if the least number stands behind a minus. -/
theorem asInt?_eq_none_iff (chain : n.SignChain minuses k) :
    n.asInt? = none ↔ k = Int64.minValue ∧ 1 ≤ minuses := by
  induction chain with
  | literal loc k => simp [asInt?]
  | plus loc _ ih => rwa [asInt?]
  | @minus loc operand minuses k chain ih =>
    rw [asInt?, bind_negate?_eq_none_iff]
    constructor
    · rintro (hnone | hleast)
      · exact ⟨(ih.mp hnone).1, Nat.le_add_left 1 minuses⟩
      · exact ⟨chain.eq_minValue hleast, Nat.le_add_left 1 minuses⟩
    · -- Only the innermost minus is given the least number. Those around it are given nothing.
      rintro ⟨rfl, -⟩
      cases hoperand : operand.asInt? with
      | none => exact .inl rfl
      | some u =>
        have hzero : minuses = 0 := by
          by_contra hne
          rw [ih.mpr ⟨rfl, Nat.one_le_iff_ne_zero.mpr hne⟩] at hoperand
          cases hoperand
        have hvalue := chain.toInt_eq hoperand
        rw [hzero, pow_zero, one_mul, Int64.toInt_inj] at hvalue
        exact .inr (congrArg some hvalue)

theorem literal_mem_descendants (chain : n.SignChain minuses k) :
    ∃ loc, ⟨loc, .num (.int k)⟩ ∈ n.descendants := by
  have hbelow {loc : Location} {op : UnaryOperator} {operand m : Node} (hm : m ∈ operand.descendants) :
      m ∈ descendants ⟨loc, .unaryOp op operand⟩ :=
    mem_descendants_trans hm (mem_descendants_of_mem_children (List.mem_singleton_self operand))
  induction chain with
  | literal loc k => exact ⟨loc, mem_descendants_self _⟩
  | plus loc _ ih =>
    obtain ⟨place, hmem⟩ := ih
    exact ⟨place, hbelow hmem⟩
  | minus loc _ ih =>
    obtain ⟨place, hmem⟩ := ih
    exact ⟨place, hbelow hmem⟩

end SignChain

/-- In a module in good shape, literals are not negative and all chains of signs have a value. -/
theorem WellFormed.exists_asInt? {Q : Node → Prop} {root n : Node} (h : root.WellFormed Q)
    (hn : n ∈ root.descendants) {minuses : Nat} {k : Int64} (chain : n.SignChain minuses k) :
    0 ≤ k ∧ ∃ v, n.asInt? = some v ∧ v.toInt = (-1) ^ minuses * k.toInt := by
  obtain ⟨loc, hliteral⟩ := chain.literal_mem_descendants
  have hnonneg : 0 ≤ k := (h.2 _ (mem_descendants_trans hliteral hn)).shape
  refine ⟨hnonneg, ?_⟩
  cases hvalue : n.asInt? with
  | some v => exact ⟨v, rfl, chain.toInt_eq hvalue⟩
  | none =>
    obtain ⟨rfl, -⟩ := chain.asInt?_eq_none_iff.mp hvalue
    exact absurd hnonneg (by decide)

/-- A node has a value only if it is an integer literal behind signs, and the value is the literal times minus one
for each minus. Among these nodes exactly those have none in which the least number stands behind a minus.
In what is made from a source, or from any tree that follows the grammar and whose tokens stand at locations
that count from one, literals are not negative and all such nodes have a value. -/
theorem integers_are_seen_through_signs (n : Node) :
    (∀ v, n.asInt? = some v →
      ∃ minuses k, n.SignChain minuses k ∧ v.toInt = (-1) ^ minuses * k.toInt) ∧
    (∀ minuses k, n.SignChain minuses k → (n.asInt? = none ↔ k = Int64.minValue ∧ 1 ≤ minuses)) ∧
    ∀ root, ((∃ bytes, ofSource bytes = .ok root) ∨ ∃ t : Tree, t.IsModule ∧ t.IsPlaced ∧ root = ofTree t) →
      n ∈ root.descendants → ∀ minuses k, n.SignChain minuses k →
        0 ≤ k ∧ ∃ v, n.asInt? = some v ∧ v.toInt = (-1) ^ minuses * k.toInt := by
  refine ⟨fun v hv => ?_, fun minuses k chain => chain.asInt?_eq_none_iff, ?_⟩
  · obtain ⟨minuses, k, chain⟩ := exists_signChain_of_asInt? hv
    exact ⟨minuses, k, chain, chain.toInt_eq hv⟩
  · rintro root (⟨bytes, hroot⟩ | ⟨t, ht, hplaced, rfl⟩) hn minuses k chain
    · obtain ⟨chars, t, -, htree, rfl⟩ := exists_tree_of_ofSource hroot
      have hformed := wellFormed_ofTree (Tree.isModule_of_ofSource? htree) (Tree.isPlaced_of_ofSource? htree)
      exact hformed.exists_asInt? hn chain
    · exact (wellFormed_ofTree ht hplaced).exists_asInt? hn chain

end Node

/-! ### Signs in a text -/

namespace Signed

open Sample

/-- An operand with a sign before it. -/
def sign (text : String) (col : Nat) (operand : Outline) : Outline :=
  chain (.phrase .primaryExpression) (.phrase .unaryOperator) <|
    .form (.phrase .unaryOperator) { steps :=
        [⟨literal text, { level := some 20, role := some .operator }⟩,
          ⟨.phrase .primaryExpression, { level := some 20, role := some .argument }⟩] }
      [word 1 "" col text, operand]

/-- `-+-7` as the only statement of a text -/
def outline : Outline :=
  let seven := chain (.phrase .primaryExpression) (.token .integer) (.token [] .integer ⟨"", ⟨1, 4⟩, "7"⟩)
  chain (.phrase .module) (.loop 0) <| statement .simpleStatements <|
    simple .expressionStatement
      (chain (.phrase .expressionStatement) (.phrase .expression) <|
        chain (.phrase .expression) (.phrase .primaryExpression) (sign "-" 1 (sign "+" 2 (sign "-" 3 seven))))
      1 5

/-- The tree of the text. -/
def module : Tree := outline.text ⟨"", ⟨1, 5⟩, ""⟩

theorem isModule_module : module.IsModule := Outline.isModule_text (by decide +kernel) rfl _

/-- The node of the expression. -/
def node : Node :=
  ⟨⟨1, 1⟩, .unaryOp .neg ⟨⟨1, 2⟩, .unaryOp .pos ⟨⟨1, 3⟩, .unaryOp .neg ⟨⟨1, 4⟩, .num (.int 7)⟩⟩⟩⟩

theorem ofTree_module : Node.ofTree module = ⟨⟨1, 1⟩, .module [⟨⟨1, 1⟩, .expr node⟩]⟩ := rfl

end Signed

/-- Two minuses and a plus before a literal of a text, and two minuses before the least number. -/
theorem Node.integers_are_seen_through_signs_in_text :
    let minus (n : Node) : Node := ⟨⟨1, 1⟩, .unaryOp .neg n⟩
    let least : Node := ⟨⟨1, 1⟩, .num (.int Int64.minValue)⟩
    (Signed.module.IsModule ∧ Signed.module.IsPlaced ∧ Signed.node ∈ (ofTree Signed.module).descendants ∧
      Signed.node.SignChain 2 7 ∧ ∃ v, Signed.node.asInt? = some v ∧ v.toInt = 7) ∧
    (minus (minus least)).SignChain 2 Int64.minValue ∧ (minus (minus least)).asInt? = none := by
  intro minus least
  have hplaced : Signed.module.IsPlaced := by decide +kernel
  have hmem : Signed.node ∈ (ofTree Signed.module).descendants := by
    rw [Signed.ofTree_module]
    exact mem_descendants_trans (mem_descendants_of_mem_children (List.mem_singleton_self _))
      (mem_descendants_of_mem_children (List.mem_singleton_self _))
  have hseven : Signed.node.SignChain 2 7 := .minus _ (.plus _ (.minus _ (.literal _ 7)))
  have hleast : (minus (minus least)).SignChain 2 Int64.minValue := .minus _ (.minus _ (.literal _ _))
  obtain ⟨-, -, hparsed⟩ := integers_are_seen_through_signs Signed.node
  obtain ⟨-, v, hv, hvalue⟩ :=
    hparsed _ (.inr ⟨Signed.module, Signed.isModule_module, hplaced, rfl⟩) hmem 2 7 hseven
  obtain ⟨-, hnone, -⟩ := integers_are_seen_through_signs (minus (minus least))
  exact ⟨⟨Signed.isModule_module, hplaced, hmem, hseven, v, hv, hvalue.trans (by decide)⟩, hleast,
    (hnone 2 _ hleast).mpr ⟨rfl, by decide⟩⟩

end CodeAudit
