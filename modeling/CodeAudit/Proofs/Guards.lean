import CodeAudit.Catalog.Requests
import CodeAudit.Proofs.Walk

/-!
# Reads behind a comparison

A read is silenced by an `if` around it that compares something with a text, provided that the read
stands in the test or in the body. Which part of the `if` it stands in is a matter of positions: the
steps of a path are the ways to cut the position of a visit in two, and the number after the cut
tells the test and the body from the branch for everything else. Statements are not compared, so a
read in that other branch is not silenced by an equal one in the body.
-/

namespace CodeAudit

namespace Visit

variable {root : Node} {v : Visit}

/-- Every step of a path leaves the node at the position to which the outer steps lead. -/
theorem at?_of_path_eq (hv : v ∈ root.preorder) {inner outer : Path} {s : Step}
    (hpath : v.path = inner ++ s :: outer) :
    root.at? (outer.map Step.index).reverse = some s.parent := by
  have hall : v.IsAt root ∧ ∀ inner s outer, v.path = inner ++ s :: outer →
      root.at? (outer.map Step.index).reverse = some s.parent := by
    refine subtree_induction (P := fun v => v.IsAt root ∧ ∀ inner s outer,
      v.path = inner ++ s :: outer → root.at? (outer.map Step.index).reverse = some s.parent)
      ⟨.root root, by simp⟩ ?_ v hv
    rintro u c ⟨hu, steps⟩ hc
    refine ⟨hu.child hc, fun inner s outer hpath => ?_⟩
    obtain ⟨i, m, -, rfl⟩ := mem_children.mp hc
    cases inner with
    | nil =>
      obtain ⟨rfl, rfl⟩ := List.cons.inj hpath
      exact hu.node
    | cons _ inner => exact steps inner s outer (List.cons.inj hpath).2
  exact hall.2 inner s outer hpath

/-- The steps of a path are the ways to cut a position: into the position of the node that is left,
the number of the child that is taken, and the rest. -/
theorem exists_mem_path_iff (hv : v ∈ root.preorder) {n : Node} {i : Nat} :
    ⟨n, i⟩ ∈ v.path ↔
      ∃ above below, v.position = above ++ i :: below ∧ root.at? above = some n := by
  constructor
  · intro h
    obtain ⟨inner, outer, hpath⟩ := List.append_of_mem h
    refine ⟨(outer.map Step.index).reverse, (inner.map Step.index).reverse, ?_,
      at?_of_path_eq hv hpath⟩
    simp [position, hpath]
  · rintro ⟨above, below, hpos, hat⟩
    have hindex : v.path.map Step.index = below.reverse ++ i :: above.reverse := by
      rw [← List.reverse_reverse (v.path.map Step.index), ← position, hpos]
      simp
    obtain ⟨inner, rest, hpath, -, hrest⟩ := List.map_eq_append_iff.mp hindex
    obtain ⟨s, outer, rfl, hs, houter⟩ := List.map_eq_cons_iff.mp hrest
    have hparent := at?_of_path_eq hv hpath
    rw [houter, List.reverse_reverse, hat] at hparent
    obtain rfl : n = s.parent := Option.some.inj hparent
    subst hs
    rw [hpath]
    exact List.mem_append_right _ List.mem_cons_self

end Visit

/-- A comparison whose first operator is `==`, with a text on its left or as its first comparator. -/
inductive Node.IsTextEquality : Node → Prop
  | left (loc place : Location) (text : String) (ops : List Comparison) (comparators : List Node) :
      IsTextEquality ⟨loc, .compare ⟨place, .str text false⟩ (.eq :: ops) comparators⟩
  | first (loc place : Location) (left : Node) (text : String) (ops : List Comparison)
      (comparators : List Node) :
      IsTextEquality ⟨loc, .compare left (.eq :: ops) (⟨place, .str text false⟩ :: comparators)⟩

/-- There is an `if` at a position that compares something with a text, and the child with a given
number is its test or one of the statements in its body. -/
def Node.GuardsAt (root : Node) (above : List Nat) (i : Nat) : Prop :=
  ∃ loc test body orelse, root.at? above = some ⟨loc, .conditional test body orelse⟩ ∧
    test.IsTextEquality ∧ (i = 0 ∨ ∃ j < body.length, i = j + 1)

/-- The texts are the literals that are not byte strings. -/
theorem Node.isSome_asStr?_iff {n : Node} :
    n.asStr?.isSome ↔ ∃ loc text, n = ⟨loc, .str text false⟩ := by
  constructor
  · intro h
    obtain ⟨loc, shape⟩ := n
    rw [asStr?] at h
    split at h
    · rename_i text hshape
      exact ⟨loc, text, congrArg (Node.mk loc) hshape⟩
    · cases h
  · rintro ⟨loc, text, rfl⟩
    rfl

namespace Requests

theorem isLiteralEquality_iff {test : Node} : isLiteralEquality test ↔ test.IsTextEquality := by
  constructor
  · intro h
    obtain ⟨loc, shape⟩ := test
    cases shape with
    | compare left ops comparators =>
      simp only [isLiteralEquality, Bool.and_eq_true, Bool.or_eq_true, beq_iff_eq,
        Option.any_eq_true] at h
      obtain ⟨heq, htext⟩ := h
      obtain ⟨ops, rfl⟩ := List.head?_eq_some_iff.mp heq
      rcases htext with htext | ⟨c, hc, htext⟩
      · obtain ⟨place, text, rfl⟩ := Node.isSome_asStr?_iff.mp htext
        exact .left loc place text ops comparators
      · obtain ⟨comparators, rfl⟩ := List.head?_eq_some_iff.mp hc
        obtain ⟨place, text, rfl⟩ := Node.isSome_asStr?_iff.mp htext
        exact .first loc place left text ops comparators
    | _ => cases h
  · intro h
    cases h with
    | left => rfl
    | first => simp [isLiteralEquality, Node.asStr?]

/-- The steps that guard are those into the test or the body of an `if` that compares something with
a text. -/
theorem isGuardingStep_iff {s : Step} :
    isGuardingStep s ↔ ∃ loc test body orelse, s.parent = ⟨loc, .conditional test body orelse⟩ ∧
      test.IsTextEquality ∧ (s.index = 0 ∨ ∃ j < body.length, s.index = j + 1) := by
  constructor
  · intro h
    obtain ⟨⟨loc, shape⟩, i⟩ := s
    cases shape with
    | conditional test body orelse =>
      simp only [isGuardingStep, Bool.and_eq_true, decide_eq_true_eq] at h
      obtain ⟨hi, htest⟩ := h
      refine ⟨loc, test, body, orelse, rfl, isLiteralEquality_iff.mp htest, ?_⟩
      cases i with
      | zero => exact .inl rfl
      | succ j => exact .inr ⟨j, hi, rfl⟩
    | _ => cases h
  · rintro ⟨loc, test, body, orelse, hparent, htest, hi⟩
    have hle : s.index ≤ body.length := by
      rcases hi with hi | ⟨j, hj, hi⟩ <;> omega
    simp [isGuardingStep, hparent, hle, isLiteralEquality_iff.mpr htest]

/-- A place is guarded if its position can be cut at an `if` that guards. -/
theorem isGuarded_iff {root : Node} {v : Visit} (hv : v ∈ root.preorder) :
    isGuarded v.path ↔ ∃ above i below, v.position = above ++ i :: below ∧ root.GuardsAt above i := by
  rw [isGuarded, List.any_eq_true]
  constructor
  · rintro ⟨s, hs, hguard⟩
    obtain ⟨loc, test, body, orelse, hparent, htest, hi⟩ := isGuardingStep_iff.mp hguard
    obtain ⟨above, below, hpos, hat⟩ := (Visit.exists_mem_path_iff hv).mp hs
    rw [hparent] at hat
    exact ⟨above, s.index, below, hpos, loc, test, body, orelse, hat, htest, hi⟩
  · rintro ⟨above, i, below, hpos, loc, test, body, orelse, hat, htest, hi⟩
    have hs := (Visit.exists_mem_path_iff hv).mpr ⟨above, below, hpos, hat⟩
    exact ⟨_, hs, isGuardingStep_iff.mpr ⟨loc, test, body, orelse, rfl, htest, hi⟩⟩

/-- Whether keys are read without a check matters only outside of guards. -/
theorem check_unvalidatedKeyRule (info : RuleInfo) (keys : Regex) (accessor : String) (n : Node)
    (p : Path) :
    (unvalidatedKeyRule info keys accessor).check n p =
      if isGuarded p then [] else (unvalidatedKeyRule info keys accessor).check n [] := by
  have htop : isGuarded [] = false := rfl
  simp only [unvalidatedKeyRule, htop]
  cases isGuarded p with
  | true =>
    split
    · split <;> rfl
    · rfl
  | false => rfl

/-- Whether query parameters are read without a check matters only outside of guards. -/
theorem check_unvalidatedQueryRule (info : RuleInfo) (source : Regex) (accessor : String) (n : Node)
    (p : Path) :
    (unvalidatedQueryRule info source accessor).check n p =
      if isGuarded p then [] else (unvalidatedQueryRule info source accessor).check n [] := by
  have htop : isGuarded [] = false := rfl
  simp only [unvalidatedQueryRule, htop]
  cases isGuarded p <;> simp

end Requests

/-- Wherever a scan comes to, the place is guarded exactly if its position goes through an `if` that
compares something with a text, and leaves it through the test or through one of the statements in
the body. The two rules about reads say nothing about a guarded place, and about any other one what
they say about a place with nothing around it. An `if` that is left through its other branch does not
count: the place is guarded exactly if a different `if` guards it. -/
theorem Requests.guarded_iff_position {root : Node} {v : Visit} (visited : v ∈ root.visits) :
    (isGuarded v.path ↔
      ∃ above i below, v.position = above ++ i :: below ∧ root.GuardsAt above i) ∧
    (∀ info keys accessor, (unvalidatedKeyRule info keys accessor).check v.node v.path =
      if isGuarded v.path then [] else (unvalidatedKeyRule info keys accessor).check v.node []) ∧
    (∀ info source accessor, (unvalidatedQueryRule info source accessor).check v.node v.path =
      if isGuarded v.path then []
      else (unvalidatedQueryRule info source accessor).check v.node []) ∧
    ∀ above i below loc test body orelse, v.position = above ++ i :: below →
      root.at? above = some ⟨loc, .conditional test body orelse⟩ → body.length < i →
      (isGuarded v.path ↔ ∃ above' i' below', above' ≠ above ∧
        v.position = above' ++ i' :: below' ∧ root.GuardsAt above' i') := by
  rw [Node.visits_eq_preorder] at visited
  refine ⟨isGuarded_iff visited, fun info keys accessor => check_unvalidatedKeyRule ..,
    fun info source accessor => check_unvalidatedQueryRule .., ?_⟩
  intro above i below loc test body orelse hpos hat hi
  rw [isGuarded_iff visited]
  constructor
  · rintro ⟨above', i', below', hpos', hguard⟩
    refine ⟨above', i', below', ?_, hpos', hguard⟩
    -- At the same position there is the same `if`, and it is left through the same child.
    rintro rfl
    obtain ⟨rfl, -⟩ : i' = i ∧ below' = below := by simpa [hpos] using hpos'.symm
    obtain ⟨loc', test', body', orelse', hat', -, hi'⟩ := hguard
    rw [hat] at hat'
    obtain ⟨-, -, rfl, -⟩ : loc = loc' ∧ test = test' ∧ body = body' ∧ orelse = orelse' := by
      simpa using hat'
    rcases hi' with hi' | ⟨j, hj, hi'⟩ <;> omega
  · rintro ⟨above', i', below', -, hpos', hguard⟩
    exact ⟨above', i', below', hpos', hguard⟩

/-- The same statement at the same place in both branches of a comparison: the read in the body is
guarded and the one in the other branch is not. -/
theorem Requests.guarded_iff_position_twins :
    let get : Node := ⟨⟨2, 5⟩, .member ⟨⟨2, 5⟩, .name "headers"⟩ "get"⟩
    let read : Node := ⟨⟨2, 5⟩, .call get [⟨⟨2, 17⟩, .str "key" false⟩] []⟩
    let stmt : Node := ⟨⟨2, 5⟩, .expr read⟩
    let test : Node := ⟨⟨1, 4⟩, .compare ⟨⟨1, 4⟩, .name "x"⟩ [.eq] [⟨⟨1, 9⟩, .str "a" false⟩]⟩
    let branch : Node := ⟨⟨1, 1⟩, .conditional test [stmt] [stmt]⟩
    let root : Node := ⟨⟨1, 1⟩, .module [branch]⟩
    ∃ u ∈ root.visits, ∃ w ∈ root.visits, u.position = [0, 1, 0] ∧ w.position = [0, 2, 0] ∧
      u.node = read ∧ w.node = read ∧ isGuarded u.path ∧ ¬ isGuarded w.path := by
  intro get read stmt test branch root
  have visit : ∀ pos, root.at? pos = some read →
      ∃ v ∈ root.visits, v.position = pos ∧ v.node = read := by
    intro pos hpos
    have hmem : pos ∈ root.preorder.map Visit.position := by
      rw [Node.mem_position_preorder, hpos]
      rfl
    obtain ⟨v, hv, rfl⟩ := List.mem_map.mp hmem
    rw [(Node.isAt_of_mem_preorder hv).node] at hpos
    exact ⟨v, by rwa [Node.visits_eq_preorder], rfl, Option.some.inj hpos⟩
  obtain ⟨u, hu, hupos, hunode⟩ := visit [0, 1, 0] rfl
  obtain ⟨w, hw, hwpos, hwnode⟩ := visit [0, 2, 0] rfl
  refine ⟨u, hu, w, hw, hupos, hwpos, hunode, hwnode, ?_, ?_⟩
  · exact (guarded_iff_position hu).1.mpr ⟨[0], 1, [0], hupos, ⟨1, 1⟩, test, [stmt], [stmt], rfl,
      .first .., .inr ⟨0, by simp, rfl⟩⟩
  · rw [(guarded_iff_position hw).2.2.2 [0] 2 [0] ⟨1, 1⟩ test [stmt] [stmt] hwpos rfl (by simp), hwpos]
    rintro ⟨above, i, below, hne, hpos, loc, test', body, orelse, hat, -⟩
    have hkind := congrArg (Option.map Node.kind) hat
    -- Neither the module nor the statement in the branch is an `if`.
    rcases above with _ | ⟨a, _ | ⟨b, _ | ⟨c, above⟩⟩⟩
    · cases hkind
    · simp_all
    · simp only [List.cons_append, List.nil_append, List.cons.injEq] at hpos
      obtain ⟨rfl, rfl, -⟩ := hpos
      cases hkind
    · simp at hpos

end CodeAudit
