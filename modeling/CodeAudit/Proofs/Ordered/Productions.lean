import CodeAudit.Proofs.Complete
import CodeAudit.Proofs.Kept.Basic
import CodeAudit.Proofs.Ordered.Tokens

/-!
# How constructs begin and end

Layouts tell which parts a construct has, but not that it has a token at all, nor what stands at its
end. Productions do. Every production has steps, so every construct begins with a token; and the
productions for handlers end with a block, which is the only one in them.
-/

namespace CodeAudit

open Grammar

namespace Grammar

/-- Whether the trees of a production end with a given construct, which does not occur before. -/
def Production.endsWith (ps : List Production) (p : Phrase) (q : Production) : Bool :=
  match q.steps.toList.reverse with
  | [] => false
  | last :: before => last.label? = some (.phrase p) && before.all (Step.avoids ps p 3)

/-- Whether a production has steps, and ends with a block if it makes a handler. -/
def Production.isOrderly (ps : List Production) (p : Production) : Bool :=
  !p.steps.toList.isEmpty &&
    match p.head with
    | .phrase q => !q.appearances.any Label.isHandler || p.endsWith ps .block
    | _ => true

theorem Production.endsWith_of_subset {ps qs : List Production} {p : Phrase} (hps : ps ⊆ qs) {q : Production}
    (h : q.endsWith qs p) : q.endsWith ps p := by
  unfold Production.endsWith at h ⊢
  split
  · rename_i hsteps
    rw [hsteps] at h
    exact h
  · rename_i last before hsteps
    rw [hsteps] at h
    obtain ⟨hlast, hbefore⟩ := Bool.and_eq_true_iff.mp h
    refine Bool.and_eq_true_iff.mpr ⟨hlast, List.all_eq_true.mpr fun s hs => ?_⟩
    exact Step.avoids_of_subset hps (List.all_eq_true.mp hbefore s hs)

theorem isOrderly_forms : allForms.all (Production.isOrderly allForms) = true := by
  decide +kernel

theorem Production.steps_ne_nil {p : Production} (hp : p ∈ allProductions) : p.steps.toList ≠ [] := by
  have horderly := List.all_eq_true.mp isOrderly_forms p (allProductions_subset hp)
  rw [Production.isOrderly, Bool.and_eq_true, Bool.not_eq_true', List.isEmpty_eq_false_iff] at horderly
  exact horderly.1

/-- A handler is made by productions that end with a block. -/
theorem Production.endsWith_block {p : Production} {q : Phrase} {label : Label} (hp : p ∈ allProductions)
    (hhead : p.head = .phrase q) (hlabel : label ∈ q.appearances) (hhandler : label.isHandler) :
    p.endsWith allProductions .block := by
  have horderly := List.all_eq_true.mp isOrderly_forms p (allProductions_subset hp)
  replace horderly := (Bool.and_eq_true_iff.mp horderly).2
  simp only [hhead, Bool.or_eq_true, Bool.not_eq_true'] at horderly
  have hany : q.appearances.any Label.isHandler := List.any_eq_true.mpr ⟨label, hlabel, hhandler⟩
  exact endsWith_of_subset allProductions_subset (horderly.resolve_left (by simp [hany]))

end Grammar

/-! ### Constructs have tokens -/

/-- A fragment that follows the grammar has tokens. -/
theorem Fragment.Derived.lexemesOf_ne_nil {f : Fragment} (h : f.Derived) : Tree.lexemesOf f.trees ≠ [] := by
  induction h with
  | token terminal lead lexeme ordinary extras => exact List.cons_ne_nil _ _
  | production p parts known symbols derived ih =>
    obtain ⟨s, steps, hsteps⟩ := List.exists_cons_of_ne_nil (Production.steps_ne_nil known)
    rw [hsteps] at symbols
    obtain ⟨f, parts, rfl, -, -⟩ := List.map_eq_cons_iff.mp symbols
    rw [trees_ofProduction, hsteps, List.zip_cons_cons, Tree.lexemesOf_append, lexemesOf_shown]
    exact List.append_ne_nil_of_left_ne_nil (ih f List.mem_cons_self) _

/-- Every construct has a token. -/
theorem Tree.Grows.lexemes_ne_nil {t : Tree} (h : t.Grows) : t.lexemes ≠ [] := by
  cases h with
  | leaf known role lexeme => exact List.cons_ne_nil _ _
  | node derives head appears role =>
    exact (Fragment.Derived.production _ _ derives.known derives.symbols derives.derived).lexemesOf_ne_nil

/-! ### Clauses that end with a block -/

namespace Fragment

/-- What the last step shows comes last. Before it there are the trees of the other steps. -/
theorem exists_trees_eq {q : Production} {fs : List Fragment} {g : Fragment} {before : List Grammar.Step}
    {last : Grammar.Step} (hsteps : q.steps.toList = before ++ [last]) (hlength : fs.length = before.length) :
    ∃ front, (ofProduction q (fs ++ [g])).trees = front ++ g.shown last.marks ∧ ∀ c ∈ front,
      c ∈ g.lead ∨ ∃ x ∈ fs.zip before, c ∈ x.1.lead ∨ c ∈ x.1.shown x.2.marks := by
  rw [trees_ofProduction, hsteps, List.zip_append hlength]
  cases fs.zip before with
  | nil => exact ⟨[], List.append_nil _, fun _ hc => absurd hc List.not_mem_nil⟩
  | cons x xs =>
    refine ⟨x.1.shown x.2.marks ++ (xs.flatMap fun x => x.1.lead ++ x.1.shown x.2.marks) ++ g.lead, ?_,
      fun c hc => ?_⟩
    · simp
    · simp only [List.mem_append, List.mem_flatMap] at hc
      rcases hc with (hc | ⟨y, hy, hc⟩) | hc
      · exact .inr ⟨x, List.mem_cons_self, .inr hc⟩
      · exact .inr ⟨y, List.mem_cons_of_mem x hy, hc⟩
      · exact .inl hc

end Fragment

/-- A production that ends with a construct shows it last, and nowhere else. -/
theorem Grammar.Production.Derives.exists_last {q : Production} {parts : List Fragment} {p : Phrase}
    (h : q.Derives parts) (hends : q.endsWith allProductions p) :
    ∃ front b, (Fragment.ofProduction q parts).trees = front ++ [b] ∧ b.is p ∧
      ∀ c ∈ front, c.is p = false := by
  unfold Production.endsWith at hends
  split at hends
  · cases hends
  · rename_i last before hreverse
    obtain ⟨hlabel, hbefore⟩ := Bool.and_eq_true_iff.mp hends
    have hsteps : q.steps.toList = before.reverse ++ [last] := by
      simpa using congrArg List.reverse hreverse
    have hsymbols := h.symbols
    rw [hsteps, List.map_append] at hsymbols
    obtain ⟨fs, gs, rfl, hfs, hgs⟩ := List.map_eq_append_iff.mp hsymbols
    obtain ⟨g, rfl, hg⟩ := List.map_eq_singleton_iff.mp hgs
    have hlaid := h.filled.laidOut g (by simp)
    obtain ⟨b, hshown, hb, -⟩ := hlaid.exists_shown_of_label? hg (of_decide_eq_true hlabel)
    obtain ⟨front, htrees, hfront⟩ :=
      Fragment.exists_trees_eq (g := g) hsteps (by simpa using congrArg List.length hfs)
    refine ⟨front, b.assign last.marks.role, by rw [htrees, hshown], ?_, fun c hc => ?_⟩
    · rw [Tree.is, Tree.label_assign, hb]
      exact beq_self_eq_true _
    · rcases hfront c hc with hc | ⟨x, hx, hc⟩
      · exact (hlaid.lead c hc).is_eq_false p
      · obtain ⟨hf, hs⟩ := List.of_mem_zip hx
        have hf : x.1 ∈ fs ++ [g] := List.mem_append_left [g] hf
        rcases hc with hc | hc
        · exact ((h.filled.laidOut x.1 hf).lead c hc).is_eq_false p
        · exact (h.derived x.1 hf).is_eq_false (Fragment.symbol_eq_of_mem_zip hfs hx)
            (List.all_eq_true.mp hbefore x.2 (List.mem_reverse.mp hs)) c hc

namespace Tree

/-- A handler ends with a block, and has no other one. -/
theorem Grows.exists_block {t : Tree} (h : t.Grows) (ht : t.label.isHandler) :
    ∃ front b, t.children = front ++ [b] ∧ b.is .block ∧ ∀ c ∈ front, c.is .block = false := by
  cases h with
  | @leaf label known role lexeme =>
    cases label with
    | token terminal => cases ht
    | phrase p =>
      obtain rfl : p = .block := of_decide_eq_true known
      cases ht
  | @node p parts q label derives head appears role =>
    exact derives.exists_last (Production.endsWith_block derives.known head appears ht)

end Tree

end CodeAudit
