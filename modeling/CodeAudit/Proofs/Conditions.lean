import CodeAudit.Proofs.Relocation

/-!
# Conditions that are made of literals

A condition is accepted if it says nothing about the state of a program. A `ClosedCondition` is one that
compares integers and joins comparisons by `and` and `not`. Both are the same, for conditions of any depth
and also for trees that no text has, such as conjunctions of nothing.

The integers can have any number of signs. They have a value as long as it fits at every sign; the one
number that has no negative counterpart may stand in a condition, but not behind a minus.
-/

namespace CodeAudit.Node

/-- The sign is turned around in every value but the least one. -/
theorem toInt_neg {v : Int64} (h : v ≠ Int64.minValue) : (-v).toInt = -v.toInt := by
  have hne : v.toInt ≠ -2 ^ 63 := by
    rw [← Int64.toInt_minValue]
    exact mt Int64.toInt_inj.mp h
  have hlower := v.le_toInt
  have hupper := v.toInt_lt
  rw [Int64.toInt_neg, Int.bmod_eq_of_le] <;> omega

theorem toInt_of_negate? {u v : Int64} (h : negate? u = some v) : v.toInt = -u.toInt := by
  rw [negate?, Option.ite_none_left_eq_some] at h
  obtain ⟨hne, hv⟩ := h
  rw [← Option.some.inj hv, toInt_neg hne]

/-- An integer literal behind any number of signs, and its value. The value fits into sixty-four bits at
every sign. -/
inductive SignedInteger : Node → Int → Prop
  | literal (loc : Location) (v : Int64) : SignedInteger ⟨loc, .num (.int v)⟩ v.toInt
  | plus (loc : Location) {operand : Node} {v : Int} (signed : SignedInteger operand v) :
      SignedInteger ⟨loc, .unaryOp .pos operand⟩ v
  | minus (loc : Location) {operand : Node} {v : Int} (signed : SignedInteger operand v)
      (fits : -v ≤ Int64.maxValue.toInt) : SignedInteger ⟨loc, .unaryOp .neg operand⟩ (-v)

theorem signedInteger_of_asInt? {n : Node} {v : Int64} (h : n.asInt? = some v) :
    SignedInteger n v.toInt := by
  fun_induction asInt? n generalizing v with
  | case1 loc v' =>
    obtain rfl := Option.some.inj h
    exact .literal loc v'
  | case2 loc operand ih =>
    obtain ⟨u, hu, hv⟩ := Option.bind_eq_some_iff.mp h
    have hfits := v.toInt_lt
    rw [toInt_of_negate? hv] at hfits ⊢
    exact .minus loc (ih hu) (by rw [Int64.toInt_maxValue]; omega)
  | case3 loc operand ih => exact .plus loc (ih h)
  | case4 => cases h

theorem SignedInteger.exists_asInt? {n : Node} {z : Int} (h : SignedInteger n z) :
    ∃ v, n.asInt? = some v ∧ v.toInt = z := by
  induction h with
  | literal loc v => exact ⟨v, by rw [asInt?], rfl⟩
  | plus loc _ ih =>
    obtain ⟨v, hv, rfl⟩ := ih
    exact ⟨v, by rw [asInt?, hv], rfl⟩
  | minus loc _ fits ih =>
    obtain ⟨v, hv, rfl⟩ := ih
    have hne : v ≠ Int64.minValue := by
      rintro rfl
      rw [Int64.toInt_minValue, Int64.toInt_maxValue] at fits
      omega
    exact ⟨-v, by rw [asInt?, hv, Option.bind_some, negate?, if_neg hne], toInt_neg hne⟩

/-- The nodes with a value are the literals behind signs. -/
theorem isSome_asInt?_iff {n : Node} : n.asInt?.isSome ↔ ∃ v, SignedInteger n v := by
  constructor
  · intro h
    obtain ⟨v, hv⟩ := Option.isSome_iff_exists.mp h
    exact ⟨_, signedInteger_of_asInt? hv⟩
  · rintro ⟨z, hz⟩
    obtain ⟨v, hv, -⟩ := hz.exists_asInt?
    exact Option.isSome_iff_exists.mpr ⟨v, hv⟩

/-- The two signs that a condition may compare with. -/
def IsBound (op : Comparison) : Prop := op = .ltE ∨ op = .gtE

/-- A condition that is made of single comparisons of integers by `and` and `not`. -/
inductive ClosedCondition : Node → Prop
  | comparison (loc : Location) {left right : Node} {a b : Int} {op : Comparison} (isBound : IsBound op)
      (isLeft : SignedInteger left a) (isRight : SignedInteger right b) :
      ClosedCondition ⟨loc, .compare left [op] [right]⟩
  | conjunction (loc : Location) {values : List Node} (closed : ∀ c ∈ values, ClosedCondition c) :
      ClosedCondition ⟨loc, .boolOp .and values⟩
  | negation (loc : Location) {operand : Node} (closed : ClosedCondition operand) :
      ClosedCondition ⟨loc, .unaryOp .not operand⟩

theorem isInvalidCondition_comparison_iff {loc : Location} {left : Node} {ops : List Comparison}
    {comparators : List Node} :
    isInvalidCondition ⟨loc, .compare left ops comparators⟩ = false ↔
      ∃ op right, ops = [op] ∧ comparators = [right] ∧ IsBound op ∧ left.asInt?.isSome ∧
        right.asInt?.isSome := by
  rcases ops with _ | ⟨op, _ | ⟨_, _⟩⟩
  · simp [isInvalidCondition]
  · rcases comparators with _ | ⟨right, _ | ⟨_, _⟩⟩
    · cases op <;> simp [isInvalidCondition]
    · cases op <;> simp [isInvalidCondition, IsBound, Option.isSome_iff_ne_none]
    · cases op <;> simp [isInvalidCondition]
  · cases op <;> simp [isInvalidCondition]

/-- The accepted conditions are the closed ones. -/
theorem isInvalidCondition_eq_false_iff (c : Node) : c.isInvalidCondition = false ↔ c.ClosedCondition := by
  constructor
  · intro h
    obtain ⟨loc, shape⟩ := c
    cases shape with
    | compare left ops comparators =>
      obtain ⟨op, right, rfl, rfl, hop, hleft, hright⟩ := isInvalidCondition_comparison_iff.mp h
      obtain ⟨a, ha⟩ := isSome_asInt?_iff.mp hleft
      obtain ⟨b, hb⟩ := isSome_asInt?_iff.mp hright
      exact .comparison loc hop ha hb
    | boolOp op values =>
      cases op with
      | or => cases h
      | and =>
        rw [isInvalidCondition, anyInvalidCondition_eq_any, List.any_eq_false] at h
        refine .conjunction loc fun c hc => ?_
        exact (isInvalidCondition_eq_false_iff c).mp (Bool.eq_false_iff.mpr (h c hc))
    | unaryOp op operand =>
      cases op with
      | not => exact .negation loc ((isInvalidCondition_eq_false_iff operand).mp h)
      | _ => cases h
    | _ => cases h
  · intro h
    induction h with
    | comparison loc hop hleft hright =>
      exact isInvalidCondition_comparison_iff.mpr ⟨_, _, rfl, rfl, hop, isSome_asInt?_iff.mpr ⟨_, hleft⟩,
        isSome_asInt?_iff.mpr ⟨_, hright⟩⟩
    | conjunction loc _ ih =>
      rw [isInvalidCondition, anyInvalidCondition_eq_any, List.any_eq_false]
      exact fun c hc => Bool.eq_false_iff.mp (ih c hc)
    | negation loc _ ih => rwa [isInvalidCondition]
termination_by sizeOf c

/-! ### What stands in a closed condition -/

/-- The nodes that a closed condition is made of. Names, texts, calls and attributes are not among them. -/
inductive ClosedPart : Node → Prop
  | comparison (loc : Location) (left : Node) (ops : List Comparison) (comparators : List Node) :
      ClosedPart ⟨loc, .compare left ops comparators⟩
  | conjunction (loc : Location) (values : List Node) : ClosedPart ⟨loc, .boolOp .and values⟩
  | unary (loc : Location) (op : UnaryOperator) (operand : Node) : ClosedPart ⟨loc, .unaryOp op operand⟩
  | integer (loc : Location) (v : Int64) : ClosedPart ⟨loc, .num (.int v)⟩

theorem forall_mem_descendants {P : Node → Prop} {n : Node} (here : P n)
    (below : ∀ c ∈ n.children, ∀ d ∈ c.descendants, P d) : ∀ d ∈ n.descendants, P d := by
  intro d hd
  rw [descendants_eq] at hd
  rcases List.mem_cons.mp hd with rfl | hd
  · exact here
  · obtain ⟨c, hc, hd⟩ := List.mem_flatMap.mp hd
    exact below c hc d hd

theorem SignedInteger.closedPart {n : Node} {v : Int} (h : SignedInteger n v) :
    ∀ d ∈ n.descendants, d.ClosedPart := by
  induction h with
  | literal loc v => exact forall_mem_descendants (.integer loc v) fun _ hc => absurd hc List.not_mem_nil
  | plus loc _ ih => exact forall_mem_descendants (.unary loc ..) (List.forall_mem_singleton.mpr ih)
  | minus loc _ _ ih => exact forall_mem_descendants (.unary loc ..) (List.forall_mem_singleton.mpr ih)

theorem ClosedCondition.closedPart {c : Node} (h : c.ClosedCondition) :
    ∀ d ∈ c.descendants, d.ClosedPart := by
  induction h with
  | comparison loc _ hleft hright =>
    refine forall_mem_descendants (.comparison loc ..) (List.forall_mem_cons.mpr ⟨hleft.closedPart, ?_⟩)
    exact List.forall_mem_singleton.mpr hright.closedPart
  | conjunction loc _ ih => exact forall_mem_descendants (.conjunction loc _) ih
  | negation loc _ ih => exact forall_mem_descendants (.unary loc ..) (List.forall_mem_singleton.mpr ih)

/-- A condition is accepted exactly if it is closed, and then nothing in it says anything about the state of
a program. -/
theorem accepted_conditions_are_closed (c : Node) :
    (c.isInvalidCondition = false ↔ c.ClosedCondition) ∧
    (c.isInvalidCondition = false → ∀ d ∈ c.descendants, d.ClosedPart) := by
  have hiff := isInvalidCondition_eq_false_iff c
  exact ⟨hiff, fun h => (hiff.mp h).closedPart⟩

/-- `not (--1 <= least and ())`, where `least` is the least number and `()` is a conjunction of nothing. -/
theorem accepted_conditions_are_closed_nested :
    let node (shape : Shape Node) : Node := ⟨⟨1, 1⟩, shape⟩
    let one := node (.unaryOp .neg (node (.unaryOp .neg (node (.num (.int 1))))))
    let least := node (.num (.int Int64.minValue))
    let c := node (.unaryOp .not (node (.boolOp .and
      [node (.compare one [.ltE] [least]), node (.boolOp .and [])])))
    c.ClosedCondition ∧ c.isInvalidCondition = false ∧ (∀ d ∈ c.descendants, d.ClosedPart) ∧
      isInvalidCondition (node (.compare (node (.unaryOp .neg least)) [.ltE] [one])) = true := by
  intro node one least c
  have hone : one.SignedInteger 1 := .minus _ (.minus _ (.literal _ 1) (by decide)) (by decide)
  have hclosed : c.ClosedCondition := by
    refine .negation _ (.conjunction _ (List.forall_mem_cons.mpr ⟨?_, List.forall_mem_singleton.mpr ?_⟩))
    · exact .comparison _ (.inl rfl) hone (.literal _ _)
    · exact .conjunction _ fun _ hc => absurd hc List.not_mem_nil
  obtain ⟨hiff, hparts⟩ := accepted_conditions_are_closed c
  exact ⟨hclosed, hiff.mpr hclosed, hparts (hiff.mpr hclosed), by decide⟩

end CodeAudit.Node
