import CodeAudit.Proofs.WellFormed

/-!
# Where tokens stand

Lines and columns count from one. The locations of a source do, because they start there and only ever
grow or start again. A parser takes the place of every token from the source, and putting tokens
together into trees changes none of them.
-/

namespace CodeAudit

open Grammar

/-- A location that counts from one. -/
def Location.FromOne (l : Location) : Prop := 1 ≤ l.line ∧ 1 ≤ l.col

instance (l : Location) : Decidable l.FromOne := inferInstanceAs (Decidable (_ ∧ _))

namespace SourceText

theorem fromOne_advance {l : Location} (h : l.FromOne) (c : Char) : (advance l c).FromOne := by
  unfold advance
  split
  · exact ⟨Nat.le_add_left 1 l.line, Nat.le_refl 1⟩
  · exact ⟨h.1, Nat.le_trans h.2 (Nat.le_add_right l.col c.utf8Size)⟩

theorem fromOne_foldl (chars : Array Char) {x : Array Location × Location}
    (h : chars.foldl (fun x c => (x.1.push x.2, advance x.2 c)) (#[], ⟨1, 1⟩) = x) :
    (∀ l ∈ x.1, l.FromOne) ∧ x.2.FromOne := by
  subst h
  refine Array.foldl_induction
    (fun _ (x : Array Location × Location) => (∀ l ∈ x.1, l.FromOne) ∧ x.2.FromOne) ?_ ?_
  · exact ⟨fun l hl => absurd hl (Array.not_mem_empty l), by decide⟩
  · rintro i ⟨locs, last⟩ ⟨hlocs, hlast⟩
    refine ⟨fun l hl => ?_, fromOne_advance hlast _⟩
    rcases Array.mem_push.mp hl with hl | rfl
    · exact hlocs l hl
    · exact hlast

/-- All locations of a source count from one. -/
theorem fromOne_locAt (chars : Array Char) (i : Nat) : ((ofChars chars).locAt i).FromOne := by
  obtain ⟨hlocs, hlast⟩ := fromOne_foldl chars rfl
  have hall : ∀ l ∈ (ofChars chars).locs, l.FromOne := by
    intro l hl
    rcases Array.mem_push.mp hl with hl | rfl
    · exact hlocs l hl
    · exact hlast
  rw [locAt, Array.getD_eq_getD_getElem?]
  cases hloc : (ofChars chars).locs[i]? with
  | none => decide
  | some l => exact hall l (Array.mem_of_getElem? hloc)

end SourceText

namespace Tree

theorem lexemesOf_eq_flatMap (ts : List Tree) : lexemesOf ts = ts.flatMap lexemes := by
  induction ts with
  | nil => rfl
  | cons t ts ih => rw [lexemesOf, ih, List.flatMap_cons]

theorem lexemes_assign (r : Option Role) (t : Tree) : (t.assign r).lexemes = t.lexemes := by
  cases t with
  | leaf label role lexeme => cases role <;> rfl
  | node label role children => cases role <;> rfl

theorem lexemesOf_map {f : Tree → Tree} (hf : ∀ t, (f t).lexemes = t.lexemes) (ts : List Tree) :
    lexemesOf (ts.map f) = lexemesOf ts := by
  simp only [lexemesOf_eq_flatMap, List.flatMap_map, hf]

mutual

theorem head?_lexemes : (t : Tree) → t.lexemes.head? = t.firstLexeme?
  | leaf .. => rfl
  | node _ _ children => head?_lexemesOf children

theorem head?_lexemesOf : (ts : List Tree) → (lexemesOf ts).head? = firstLexemeOf? ts
  | [] => rfl
  | t :: ts => by
    rw [lexemesOf, firstLexemeOf?, List.head?_append, head?_lexemes t, head?_lexemesOf ts]

end

/-- All tokens of a tree stand at locations that count from one. -/
def IsPlaced (t : Tree) : Prop := ∀ l ∈ t.lexemes, l.loc.FromOne

instance (t : Tree) : Decidable t.IsPlaced := inferInstanceAs (Decidable (∀ l ∈ t.lexemes, l.loc.FromOne))

namespace IsPlaced

variable {t c : Tree}

theorem child (h : t.IsPlaced) (hc : c ∈ t.children) : c.IsPlaced := by
  intro l hl
  cases t with
  | leaf label role lexeme => cases hc
  | node label role children =>
    refine h l ?_
    rw [lexemes, lexemesOf_eq_flatMap]
    exact List.mem_flatMap.mpr ⟨c, hc, hl⟩

theorem loc (h : t.IsPlaced) : t.loc.FromOne := by
  unfold Tree.loc
  split
  · rename_i lexeme hfirst
    rw [← head?_lexemes] at hfirst
    exact h lexeme (List.mem_of_head? hfirst)
  · decide

theorem node {label : Label} {role : Option Role} {children : List Tree}
    (h : ∀ c ∈ children, c.IsPlaced) : (Tree.node label role children).IsPlaced := by
  intro l hl
  rw [lexemes, lexemesOf_eq_flatMap] at hl
  obtain ⟨c, hc, hl⟩ := List.mem_flatMap.mp hl
  exact h c hc l hl

end IsPlaced

end Tree

namespace Fragment

/-- What a step shows has the tokens of the fragment. -/
theorem lexemesOf_shown (f : Fragment) (marks : Marks) :
    Tree.lexemesOf (f.shown marks) = Tree.lexemesOf f.trees := by
  rw [shown, Tree.lexemesOf_map (Tree.lexemes_assign marks.role)]
  split
  · refine Tree.lexemesOf_map (fun t => ?_) f.trees
    cases t <;> rfl
  · exact List.append_nil _
  · split
    · rfl
    · exact List.append_nil _
  · rfl

/-- All tokens of a fragment stand at locations that count from one. -/
structure IsPlaced (f : Fragment) : Prop where
  lead : ∀ t ∈ f.lead, t.IsPlaced
  trees : ∀ t ∈ f.trees, t.IsPlaced

theorem IsPlaced.shown {f : Fragment} (h : f.IsPlaced) (marks : Marks) :
    ∀ t ∈ f.shown marks, t.IsPlaced := by
  intro t ht l hl
  have hmem : l ∈ Tree.lexemesOf (f.shown marks) := by
    rw [Tree.lexemesOf_eq_flatMap]
    exact List.mem_flatMap.mpr ⟨t, ht, hl⟩
  rw [lexemesOf_shown, Tree.lexemesOf_eq_flatMap] at hmem
  obtain ⟨u, hu, hl⟩ := List.mem_flatMap.mp hmem
  exact h.trees u hu l hl

theorem IsPlaced.ofProduction (p : Production) {parts : List Fragment} (h : ∀ f ∈ parts, f.IsPlaced) :
    (Fragment.ofProduction p parts).IsPlaced := by
  constructor
  · intro t ht
    cases parts with
    | nil => cases ht
    | cons f parts => exact (h f List.mem_cons_self).lead t ht
  · intro t ht
    obtain ⟨x, hx, ht⟩ := exists_of_mem_trees ht
    have hplaced := h x.1 (List.of_mem_zip hx).1
    rcases ht with ht | ht
    · exact hplaced.lead t ht
    · exact hplaced.shown _ t ht

end Fragment

/-- All tokens of a run stand at locations that count from one. -/
structure Run.IsPlaced (r : Run) : Prop where
  stack : ∀ e ∈ r.stack, e.fragment.IsPlaced
  lead : ∀ t ∈ r.lead, t.IsPlaced

namespace Parse

theorem isPlaced_leaf {src : SourceText} (hsrc : ∀ i, (src.locAt i).FromOne) (pos : Nat) (token : Token)
    (terminal : Terminal) : (leaf src pos token terminal).IsPlaced := by
  intro l hl
  rw [List.mem_singleton.mp hl]
  exact hsrc token.start

/-- Tokens stay where they are. -/
theorem invariant_isPlaced (g : Tables) {src : SourceText} (hsrc : ∀ i, (src.locAt i).FromOne) :
    Invariant g src Run.IsPlaced Tree.IsPlaced where
  shift {r terminal token} h _ _ _ := by
    refine ⟨fun e he => ?_, fun _ ht => (List.not_mem_nil ht).elim⟩
    rcases List.mem_cons.mp he with rfl | he
    · refine ⟨h.lead, fun t ht => ?_⟩
      rw [List.mem_singleton.mp ht]
      exact isPlaced_leaf hsrc _ _ _
    · exact h.stack e he
  reduce {r index n p} h _ _ := by
    refine ⟨fun e he => ?_, h.lead⟩
    rcases List.mem_cons.mp he with rfl | he
    · refine .ofProduction p fun f hf => ?_
      obtain ⟨e, he, rfl⟩ := List.mem_map.mp hf
      exact h.stack e (List.mem_of_mem_take (List.mem_reverse.mp he))
    · exact h.stack e (List.mem_of_mem_drop he)
  accept {r terminal token} h _ _ _ := by
    refine .node fun t ht => ?_
    simp only [List.mem_append, List.mem_flatMap, List.mem_singleton] at ht
    rcases ht with (⟨e, he, ht | ht⟩ | ht) | rfl
    · exact (h.stack e he).lead t ht
    · exact (h.stack e he).trees t ht
    · exact h.lead t ht
    · exact isPlaced_leaf hsrc _ _ _
  extra {r token} h _ _ := by
    refine ⟨h.stack, fun t ht => ?_⟩
    rcases List.mem_append.mp ht with ht | ht
    · exact h.lead t ht
    · rw [List.mem_singleton.mp ht]
      exact isPlaced_leaf hsrc _ _ _
  prefer hr hs _ := ⟨Run.forall_mem_prefer hr.stack hs.stack, hr.lead⟩

end Parse

/-- The tokens of a source stand at locations that count from one. -/
theorem Tree.isPlaced_of_ofSource? {chars : Array Char} {t : Tree}
    (h : Tree.ofSource? (.ofChars chars) = some t) : t.IsPlaced := by
  have hinv := Parse.invariant_isPlaced tables (SourceText.fromOne_locAt chars)
  refine hinv.of_ofSource? ⟨?_, ?_⟩ h
  · exact fun _ he => (List.not_mem_nil he).elim
  · exact fun _ ht => (List.not_mem_nil ht).elim

end CodeAudit
