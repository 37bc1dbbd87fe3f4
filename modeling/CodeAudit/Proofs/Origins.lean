import CodeAudit.Proofs.Kept.Statements

/-!
# Where nodes come from

This is the converse of what a reading keeps: the nodes that a construct makes use of are those of its
parts, or of the parts of a part. A reading that picks among parts has a lemma here about what it may
pick, and one that has several outcomes has a lemma with a case for each. Whatever is to hold of all
nodes of a text is proved along these cases.
-/

namespace CodeAudit

namespace Reading

/-- What a call is given comes from the arguments. -/
theorem exists_of_mem_allPassed {list : Reading} {n : Node} (h : n ∈ allPassed list) :
    n = list.expr ∨ ∃ a ∈ named list.children, n = a.passed := by
  unfold allPassed arguments at h
  split at h
  · right
    generalize named list.children = as at h ⊢
    induction as with
    | nil => cases h
    | cons a as ih =>
      rw [List.foldr_cons] at h
      generalize List.foldr _ ([], []) as = rest at h ih
      obtain ⟨args, keywords⟩ := rest
      -- An argument comes first in one of the two lists and leaves the other one as it is.
      have hnew : n = a.passed ∨ n ∈ args ++ keywords.map Keyword.value := by
        rw [passed]
        dsimp only at h
        split at h
        · rename_i hkeyword
          rw [if_pos hkeyword]
          simp only [List.map_cons, List.mem_append, List.mem_cons] at h ⊢
          grind
        · rename_i hkeyword
          rw [if_neg hkeyword]
          split at h
          · rename_i hsplat
            rw [if_pos hsplat]
            simp only [List.map_cons, List.mem_append, List.mem_cons] at h ⊢
            grind
          · rename_i hsplat
            rw [if_neg hsplat]
            exact List.mem_cons.mp h
      rcases hnew with rfl | hold
      · exact ⟨a, List.mem_cons_self, rfl⟩
      · obtain ⟨b, hb, rfl⟩ := ih hold
        exact ⟨b, List.mem_cons_of_mem a hb, rfl⟩
  · exact .inl (List.mem_singleton.mp h)

end Reading

namespace Tree

variable {t : Tree} {n : Node} {r : Role}

theorem exists_of_find? {x : Reading} (h : Reading.find? (t.children.map read) r = some x) :
    ∃ c ∈ t.children, c.role = some r ∧ x = c.read := by
  rw [find?_read] at h
  obtain ⟨c, hc, rfl⟩ := Option.map_eq_some_iff.mp h
  rw [part?] at hc
  have hrole := List.find?_some hc
  exact ⟨c, List.mem_of_find?_eq_some hc, eq_of_beq hrole, rfl⟩

theorem exists_of_mem_named {x : Reading} (h : x ∈ Reading.named (t.children.map read)) :
    ∃ c ∈ t.children, x = c.read := by
  rw [named_read] at h
  obtain ⟨c, hc, rfl⟩ := List.mem_map.mp h
  exact ⟨c, List.mem_of_mem_filter hc, rfl⟩

/-! ### Nodes of parts -/

theorem exists_of_mem_contents (h : n ∈ Reading.contents (t.children.map read)) :
    ∃ c ∈ t.children, n ∈ c.read.nodes := by
  obtain ⟨x, hx, hn⟩ := List.mem_flatMap.mp h
  obtain ⟨c, hc, rfl⟩ := exists_of_mem_named hx
  exact ⟨c, hc, hn⟩

theorem exists_of_mem_expr_find?
    (h : n ∈ ((Reading.find? (t.children.map read) r).map Reading.expr).toList) :
    ∃ c ∈ t.children, n = c.read.expr := by
  obtain ⟨x, hx, rfl⟩ := Option.map_eq_some_iff.mp (Option.mem_toList.mp h)
  obtain ⟨c, hc, -, rfl⟩ := exists_of_find? hx
  exact ⟨c, hc, rfl⟩

theorem exists_of_mem_expr_named (h : n ∈ (Reading.named (t.children.map read)).map Reading.expr) :
    ∃ c ∈ t.children, n = c.read.expr := by
  obtain ⟨x, hx, rfl⟩ := List.mem_map.mp h
  obtain ⟨c, hc, rfl⟩ := exists_of_mem_named hx
  exact ⟨c, hc, rfl⟩

theorem exists_of_mem_expr_head?
    (h : n ∈ ((Reading.named (t.children.map read)).head?.map Reading.expr).toList) :
    ∃ c ∈ t.children, n = c.read.expr := by
  obtain ⟨x, hx, rfl⟩ := Option.map_eq_some_iff.mp (Option.mem_toList.mp h)
  obtain ⟨c, hc, rfl⟩ := exists_of_mem_named (List.mem_of_head? hx)
  exact ⟨c, hc, rfl⟩

/-- The expression of a hole is that of a part of the hole. -/
theorem exists_of_mem_holes (h : n ∈ Reading.holes (t.children.map read)) :
    ∃ c ∈ t.children, ∃ d ∈ c.children, n = d.read.expr := by
  obtain ⟨x, hx, hn⟩ := List.mem_filterMap.mp h
  obtain ⟨c, hc, rfl⟩ := List.mem_map.mp (List.mem_of_mem_filter hx)
  rw [children_read] at hn
  obtain ⟨y, hy, rfl⟩ := Option.map_eq_some_iff.mp hn
  refine ⟨c, hc, ?_⟩
  rcases Option.or_eq_some_iff.mp hy with hy | ⟨-, hy⟩
  · obtain ⟨d, hd, -, rfl⟩ := exists_of_find? hy
    exact ⟨d, hd, rfl⟩
  · obtain ⟨d, hd, rfl⟩ := exists_of_mem_named (List.mem_of_head? hy)
    exact ⟨d, hd, rfl⟩

/-- A call has what is called, and what it is given. -/
theorem exists_of_mem_call (h : n ∈ (Reading.call t (t.children.map read)).children) :
    n = Reading.exprOf t (Reading.find? (t.children.map read) .function) ∨
      ∃ c ∈ t.children, n = c.read.expr ∨ ∃ d ∈ c.children, n = d.read.passed := by
  rw [Passes.children_call] at h
  refine (List.mem_cons.mp h).imp_right fun h => ?_
  cases hfind : Reading.find? (t.children.map read) .arguments with
  | none =>
    rw [hfind] at h
    cases h
  | some list =>
    rw [hfind] at h
    obtain ⟨c, hc, -, rfl⟩ := exists_of_find? hfind
    refine ⟨c, hc, (Reading.exists_of_mem_allPassed h).imp_right ?_⟩
    rintro ⟨a, ha, rfl⟩
    rw [children_read] at ha
    obtain ⟨d, hd, rfl⟩ := exists_of_mem_named ha
    exact ⟨d, hd, rfl⟩

/-- A dictionary has the nodes of its entries. -/
theorem exists_of_mem_dictionary (h : n ∈ (Reading.dictionary t (t.children.map read)).children) :
    ∃ c ∈ t.children, ∃ entry, Reading.entry? c.read = some entry ∧ n ∈ entry.1.toList ++ [entry.2] := by
  rw [Reading.dictionary, Passes.children_dict] at h
  obtain ⟨entry, hentry, hn⟩ := List.mem_flatMap.mp h
  obtain ⟨x, hx, hentry⟩ := List.mem_filterMap.mp hentry
  obtain ⟨c, hc, rfl⟩ := exists_of_mem_named hx
  exact ⟨c, hc, entry, hentry, hn⟩

/-- An entry of a dictionary is a key with its value, or a mapping that is spread out. -/
theorem entry?_cases {entry : Option Node × Node} (h : Reading.entry? t.read = some entry) :
    (t.is .pair ∧ entry = (some (Reading.exprOf t (Reading.find? (t.children.map read) .key)),
      Reading.exprOf t (Reading.find? (t.children.map read) .value))) ∨
    (t.is .dictionarySplat ∧
      entry = (none, Reading.exprOf t (Reading.named (t.children.map read)).head?)) := by
  rw [Reading.entry?, is_read, is_read, tree_read, children_read] at h
  split at h
  · rename_i hpair
    exact .inl ⟨hpair, (Option.some.inj h).symm⟩
  · split at h
    · rename_i hsplat
      exact .inr ⟨hsplat, (Option.some.inj h).symm⟩
    · cases h

/-- What a handler catches is a part of it that is no block, or the first part of one. -/
theorem exists_of_mem_caught (h : n ∈ (Reading.caught ((Reading.named (t.children.map read)).filter
      fun c => !c.is .block)).1.toList) :
    ∃ c ∈ t.children, c.is .block = false ∧ (n = c.read.expr ∨ ∃ d ∈ c.children, n = d.read.expr) := by
  unfold Reading.caught at h
  split at h
  · cases h
  · rename_i x rest hparts
    have hmem : x ∈ (Reading.named (t.children.map read)).filter fun c => !c.is .block := by
      rw [hparts]
      exact List.mem_cons_self
    obtain ⟨hx, hblock⟩ := List.mem_filter.mp hmem
    obtain ⟨c, hc, rfl⟩ := exists_of_mem_named hx
    rw [is_read, Bool.not_eq_true'] at hblock
    refine ⟨c, hc, hblock, ?_⟩
    split at h
    · rw [children_read] at h
      exact .inr (exists_of_mem_expr_head? h)
    · exact .inl (List.mem_singleton.mp h)

/-! ### Tokens and statements -/

theorem stmt_read_of_token {terminal : Terminal} (hlabel : t.label = .token terminal) :
    t.read.stmt = t.read.expr := by
  rw [read_eq]
  simp only [Reading.ofParts, hlabel]

theorem nodes_read_sublist {terminal : Terminal} (hlabel : t.label = .token terminal) :
    t.read.nodes.Sublist [t.read.expr] := by
  rw [read_eq]
  simp only [Reading.ofParts, hlabel]
  cases terminal <;> simp

/-- An assignment has a type, or it has a value only, which may be an assignment itself. -/
theorem assignment_cases (t : Tree) :
    let target := Reading.exprOf t (Reading.find? (t.children.map read) .left)
    let right := Reading.find? (t.children.map read) .right
    (∃ c ∈ t.children, Reading.find? (t.children.map read) .type = some c.read ∧
      Reading.assignment t (t.children.map read) =
        ⟨t.loc, .annAssign target c.read.expr (right.map Reading.expr)⟩) ∨
    (∃ c ∈ t.children, c.role = some .right ∧
      (Reading.assignment t (t.children.map read) = ⟨t.loc, .assign [target] c.read.expr⟩ ∨
        ∃ targets value, c.read.stmt.shape = .assign targets value ∧
          Reading.assignment t (t.children.map read) = ⟨t.loc, .assign (target :: targets) value⟩)) ∨
    (Reading.find? (t.children.map read) .type = none ∧ right = none ∧
      Reading.assignment t (t.children.map read) = ⟨t.loc, .assign [target] (Reading.exprOf t none)⟩) := by
  dsimp only
  cases htype : Reading.find? (t.children.map read) .type with
  | some x =>
    obtain ⟨c, hc, -, rfl⟩ := exists_of_find? htype
    refine .inl ⟨c, hc, rfl, ?_⟩
    rw [Reading.assignment, htype]
  | none =>
    right
    cases hright : Reading.find? (t.children.map read) .right with
    | none =>
      refine .inr ⟨rfl, rfl, ?_⟩
      rw [Reading.assignment, htype, hright]
    | some x =>
      obtain ⟨c, hc, hrole, rfl⟩ := exists_of_find? hright
      refine .inl ⟨c, hc, hrole, ?_⟩
      rw [Reading.assignment, htype, hright]
      dsimp only
      split
      · rename_i targets value hshape
        split
        · exact .inr ⟨targets, value, hshape, rfl⟩
        · exact .inl rfl
      · exact .inl rfl

/-- A statement without a word of its own is an assignment, an expression, or a list of expressions. -/
theorem expressionStatement_cases (t : Tree) :
    (∃ c ∈ t.children, Reading.expressionStatement t (t.children.map read) = c.read.stmt ∨
      Reading.expressionStatement t (t.children.map read) = ⟨t.loc, .expr c.read.expr⟩) ∨
    Reading.expressionStatement t (t.children.map read) = ⟨t.loc, .expr ⟨t.loc,
      .other "expression_list" ((Reading.named (t.children.map read)).map Reading.expr)⟩⟩ := by
  unfold Reading.expressionStatement
  split
  · rename_i x hnamed
    have hmem : x ∈ Reading.named (t.children.map read) := by
      rw [hnamed]
      exact List.mem_singleton_self x
    obtain ⟨c, hc, rfl⟩ := exists_of_mem_named hmem
    refine .inl ⟨c, hc, ?_⟩
    split
    · exact .inl rfl
    · exact .inr rfl
  · exact .inr rfl

end Tree

end CodeAudit
