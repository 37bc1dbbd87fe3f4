import CodeAudit.Proofs.Layout
import Mathlib.Data.List.Basic

/-!
# Trees that follow the layouts

A tree is well formed if every construct in it follows its layout. All trees that are derived from the
grammar are. The induction is on derivations, and it keeps track of more than the trees themselves: of
the labels under which a fragment may yet appear, and of what a hidden one contributes to the construct
around it.
-/

namespace CodeAudit

open Grammar

/-- Every construct in a tree follows its layout. -/
inductive Tree.WellFormed : Tree → Prop
  | leaf (label : Label) (role : Option Role) (lexeme : Lexeme) : WellFormed (.leaf label role lexeme)
  | node {label : Label} {role : Option Role} {children : List Tree}
      (parts : ∀ t ∈ children, WellFormed t)
      (layout : ∀ slots, label.layout? = some slots → Follows slots (marked children))
      (first : label.beginsWithPart → ∃ t rest, children = t :: rest ∧ t.label.isPart) :
      WellFormed (.node label role children)

theorem Label.takesRole_of_isPart {label : Label} (h : label.isPart) : label.takesRole := by
  cases label with
  | phrase p => rfl
  | token t => cases t <;> first | rfl | cases h

namespace Tree

@[simp] theorem label_assign (r : Option Role) (t : Tree) : (t.assign r).label = t.label := by
  cases t with
  | leaf label role lexeme => cases role <;> rfl
  | node label role children => cases role <;> rfl

theorem role_assign {r : Option Role} {t : Tree} (htakes : t.label.takesRole) (hrole : t.role = none) :
    (t.assign r).role = r := by
  cases t with
  | leaf label role lexeme =>
    obtain rfl : role = none := hrole
    exact if_pos htakes
  | node label role children =>
    obtain rfl : role = none := hrole
    rfl

theorem assign_none (t : Tree) : t.assign none = t := by
  cases t with
  | leaf label role lexeme => cases role <;> simp [assign]
  | node label role children => cases role <;> rfl

theorem map_assign_none (ts : List Tree) : ts.map (assign none) = ts := by
  rw [show assign none = id from funext assign_none, List.map_id]

theorem WellFormed.assign {t : Tree} (h : t.WellFormed) (r : Option Role) :
    (t.assign r).WellFormed := by
  cases h with
  | leaf label role lexeme => cases role <;> exact .leaf ..
  | @node label role children parts layout first => cases role <;> exact .node parts layout first

theorem IsExtra.wellFormed {t : Tree} (h : t.IsExtra) : t.WellFormed := by
  obtain ⟨terminal, lexeme, -, rfl⟩ := h
  exact .leaf ..

/-- Comments and continued lines do not count in a layout. -/
theorem IsExtra.isMarked {t : Tree} (h : t.IsExtra) : t.isMarked = false := by
  obtain ⟨terminal, lexeme, hextra, rfl⟩ := h
  simp [Tree.isMarked, Tree.label, Tree.role, Label.isPart, hextra]

end Tree

theorem marked_append (ts us : List Tree) : marked (ts ++ us) = marked ts ++ marked us :=
  List.filter_append ..

theorem marked_extras {lead : List Tree} (h : ∀ t ∈ lead, t.IsExtra) : marked lead = [] := by
  refine List.filter_eq_nil_iff.mpr fun t ht => ?_
  rw [(h t ht).isMarked]
  exact Bool.false_ne_true

/-- A tree stands at its own place. -/
theorem follows_treeSlots (t : Tree) : Follows (treeSlots t.label t.role) (marked [t]) := by
  cases h : t.isMarked with
  | true =>
    rw [treeSlots, ← Tree.isMarked, if_pos h, marked, List.filter_cons_of_pos h]
    exact ⟨t, [], rfl, by simp [admitted, Allowed.admits], rfl⟩
  | false =>
    rw [treeSlots, ← Tree.isMarked, if_neg (Bool.eq_false_iff.mp h), marked,
      List.filter_cons_of_neg (Bool.eq_false_iff.mp h)]
    rfl

/-- Whether a symbol shows its trees in its place. -/
def Grammar.Symbol.isHidden : Symbol → Bool
  | .token _ => false
  | .phrase p => p.isHidden
  | .loop _ => true

/-- What a fragment is known to be like. -/
structure Fragment.LaidOut (f : Fragment) : Prop where
  lead : ∀ t ∈ f.lead, t.IsExtra
  trees : ∀ t ∈ f.trees, t.WellFormed
  token : ∀ {t : Terminal}, f.symbol = .token t → ∃ lexeme, f.trees = [.leaf (.token t) none lexeme]
  appears : ∀ {p : Phrase} {label : Label}, f.symbol = .phrase p → label ∈ p.appearances →
    ∀ role, (Tree.node label role f.trees).WellFormed
  single : ∀ {p : Phrase}, f.symbol = .phrase p → p.isSingle →
    ∃ t, f.trees = [t] ∧ t.label.isPart ∧ t.role = none
  contributes : f.symbol.isHidden → ∀ n, ∀ t ∈ marked f.trees,
    admitted (contributions allProductions n f.symbol) t

namespace Fragment.LaidOut

variable {f : Fragment} {s : Step}

/-- A step shows a fragment in one of four ways: as a token, as a construct, as the one tree that the
fragment has, or as all trees of the fragment. -/
theorem shown_cases (h : f.LaidOut) (hs : f.symbol = s.symbol) (hproper : s.isProper) :
    (∃ label lexeme,
      f.shown s.marks = [.leaf label (if label.takesRole then s.marks.role else none) lexeme] ∧
      (∀ inner, s.slots inner = leafSlots label s.marks.role) ∧ s.isPart = label.isPart) ∨
    (∃ label, f.shown s.marks = [.node label s.marks.role f.trees] ∧
      (Tree.node label s.marks.role f.trees).WellFormed ∧
      (∀ inner, s.slots inner = treeSlots label s.marks.role) ∧ s.isPart = label.isPart) ∨
    (∃ t, f.trees = [t] ∧ t.label.isPart ∧ t.role = none ∧
      f.shown s.marks = [t.assign s.marks.role] ∧
      (∀ inner, s.slots inner = [.one [⟨none, some s.marks.role⟩]]) ∧ s.isPart) ∨
    (f.symbol.isHidden ∧ f.shown s.marks = f.trees.map (Tree.assign s.marks.role) ∧
      (∀ inner, s.slots inner = listSlots (inner f.symbol) s.marks.role) ∧ s.isPart = false) := by
  obtain ⟨symbol, marks⟩ := s
  obtain rfl : f.symbol = symbol := hs
  obtain ⟨level, assoc, label, role⟩ := marks
  cases hsymbol : f.symbol with
  | token t =>
    obtain ⟨lexeme, htrees⟩ := h.token hsymbol
    left
    cases label with
    | some label => exact ⟨label, lexeme, by simp [shown, hsymbol, htrees, Tree.assign],
        fun _ => rfl, rfl⟩
    | none => exact ⟨.token t, lexeme, by simp [shown, hsymbol, htrees, Tree.assign],
        fun _ => rfl, rfl⟩
  | phrase p =>
    right
    cases label with
    | some label =>
      have hmem : label ∈ p.appearances := by
        simpa [Step.isProper, hsymbol] using hproper
      exact .inl ⟨label, by simp [shown, hsymbol, Tree.assign], h.appears hsymbol hmem role,
        fun _ => rfl, rfl⟩
    | none =>
      cases hhidden : p.isHidden with
      | false =>
        have hmem : Label.phrase p ∈ p.appearances := by simp [Phrase.appearances, hhidden]
        refine .inl ⟨.phrase p, by simp [shown, hsymbol, hhidden, Tree.assign],
          h.appears hsymbol hmem role, fun _ => by simp [Step.slots, hhidden], ?_⟩
        simp [Step.isPart, hhidden, Label.isPart]
      | true =>
        right
        cases hsingle : p.isSingle with
        | true =>
          obtain ⟨t, htrees, hpart, hrole⟩ := h.single hsymbol hsingle
          exact .inl ⟨t, htrees, hpart, hrole, by simp [shown, hsymbol, hhidden, htrees],
            fun _ => by simp [Step.slots, hhidden, hsingle], by simp [Step.isPart, hsingle]⟩
        | false =>
          exact .inr ⟨hhidden, by simp [shown, hsymbol, hhidden],
            fun _ => by simp [Step.slots, hhidden, hsingle], by simp [Step.isPart, hhidden, hsingle]⟩
  | loop i =>
    right
    cases label with
    | some label => simp [Step.isProper, hsymbol] at hproper
    | none => exact .inr (.inr ⟨rfl, by simp [shown, hsymbol], fun _ => rfl, rfl⟩)

theorem wellFormed_shown (h : f.LaidOut) (hs : f.symbol = s.symbol) (hproper : s.isProper) :
    ∀ t ∈ f.shown s.marks, t.WellFormed := by
  intro t ht
  rcases h.shown_cases hs hproper with ⟨label, lexeme, hshown, -⟩ | ⟨label, hshown, hformed, -⟩ |
    ⟨u, htrees, -, -, hshown, -⟩ | ⟨-, hshown, -⟩
  · rw [hshown] at ht
    rw [List.mem_singleton.mp ht]
    exact .leaf ..
  · rw [hshown] at ht
    rw [List.mem_singleton.mp ht]
    exact hformed
  · rw [hshown] at ht
    rw [List.mem_singleton.mp ht]
    exact (h.trees u (by rw [htrees]; exact List.mem_singleton_self u)).assign _
  · rw [hshown] at ht
    obtain ⟨u, hu, rfl⟩ := List.mem_map.mp ht
    exact (h.trees u hu).assign _

/-- What a step shows stands at the places of the step. -/
theorem follows_shown (h : f.LaidOut) (hs : f.symbol = s.symbol) (hproper : s.isProper) (n : Nat) :
    Follows (s.slots (contributions allProductions n)) (marked (f.shown s.marks)) := by
  rcases h.shown_cases hs hproper with ⟨label, lexeme, hshown, hslots, -⟩ |
    ⟨label, hshown, -, hslots, -⟩ | ⟨u, -, hpart, hrole, hshown, hslots, -⟩ |
    ⟨hhidden, hshown, hslots, -⟩
  · rw [hshown, hslots]
    exact follows_treeSlots (.leaf label _ lexeme)
  · rw [hshown, hslots]
    exact follows_treeSlots (.node label _ f.trees)
  · have hmarked : (u.assign s.marks.role).isMarked := by simp [Tree.isMarked, hpart]
    rw [hshown, hslots, marked, List.filter_cons_of_pos hmarked]
    have hassigned : (u.assign s.marks.role).role = s.marks.role :=
      Tree.role_assign (Label.takesRole_of_isPart hpart) hrole
    exact ⟨_, [], rfl, by simp [admitted, Allowed.admits, hassigned], rfl⟩
  · rw [hshown, hslots, listSlots]
    cases hrole : s.marks.role with
    | none =>
      rw [Tree.map_assign_none]
      exact ⟨_, [], (List.append_nil _).symm, h.contributes hhidden n, rfl⟩
    | some r =>
      exact ⟨_, [], (List.append_nil _).symm, fun _ _ => rfl, rfl⟩

theorem exists_shown_of_isPart (h : f.LaidOut) (hs : f.symbol = s.symbol) (hproper : s.isProper)
    (hpart : s.isPart) :
    ∃ t, f.shown s.marks = [t] ∧ t.label.isPart ∧ t.role = s.marks.role := by
  rcases h.shown_cases hs hproper with ⟨label, lexeme, hshown, -, heq⟩ |
    ⟨label, hshown, -, -, heq⟩ | ⟨u, -, hu, hrole, hshown, -⟩ | ⟨-, -, -, heq⟩
  · have hlabel : label.isPart := heq ▸ hpart
    exact ⟨_, hshown, hlabel, if_pos (Label.takesRole_of_isPart hlabel)⟩
  · exact ⟨_, hshown, heq ▸ hpart, rfl⟩
  · exact ⟨_, hshown, by rwa [Tree.label_assign], Tree.role_assign (Label.takesRole_of_isPart hu) hrole⟩
  · rw [heq] at hpart
    cases hpart

end Fragment.LaidOut

namespace Fragment

variable {p : Production} {parts : List Fragment}

/-- The trees of a production, step by step. -/
theorem trees_ofProduction (p : Production) (parts : List Fragment) :
    (ofProduction p parts).trees =
      match parts.zip p.steps.toList with
      | [] => []
      | (f, s) :: rest => f.shown s.marks ++ rest.flatMap fun x => x.1.lead ++ x.1.shown x.2.marks := by
  rw [ofProduction, List.zip_map_right]
  cases parts.zip p.steps.toList with
  | nil => rfl
  | cons x rest => simp [List.flatMap_map]

theorem symbol_eq_of_mem_zip {steps : List Step}
    (h : parts.map Fragment.symbol = steps.map Step.symbol) {x : Fragment × Step}
    (hx : x ∈ parts.zip steps) : x.1.symbol = x.2.symbol := by
  induction parts generalizing steps with
  | nil => cases hx
  | cons f parts ih =>
    cases steps with
    | nil => cases h
    | cons s steps =>
      obtain ⟨hfirst, hrest⟩ := List.cons.inj h
      rcases List.mem_cons.mp hx with rfl | hx
      · exact hfirst
      · exact ih hrest hx

/-- A tree of a production is shown by one of the steps, unless it stands before one. -/
theorem exists_of_mem_trees {t : Tree} (ht : t ∈ (ofProduction p parts).trees) :
    ∃ x ∈ parts.zip p.steps.toList, t ∈ x.1.lead ∨ t ∈ x.1.shown x.2.marks := by
  rw [trees_ofProduction] at ht
  split at ht
  · cases ht
  · rename_i f s rest heq
    rw [heq]
    rcases List.mem_append.mp ht with ht | ht
    · exact ⟨(f, s), List.mem_cons_self, .inr ht⟩
    · obtain ⟨x, hx, ht⟩ := List.mem_flatMap.mp ht
      exact ⟨x, List.mem_cons_of_mem _ hx, List.mem_append.mp ht⟩

/-- What counts among the trees of a production is what counts among those of each step. -/
theorem marked_trees (hlead : ∀ f ∈ parts, ∀ t ∈ f.lead, t.IsExtra) :
    marked (ofProduction p parts).trees =
      (parts.zip p.steps.toList).flatMap fun x => marked (x.1.shown x.2.marks) := by
  have hrest : ∀ xs : List (Fragment × Step), (∀ x ∈ xs, ∀ t ∈ x.1.lead, t.IsExtra) →
      marked (xs.flatMap fun x => x.1.lead ++ x.1.shown x.2.marks) =
        xs.flatMap fun x => marked (x.1.shown x.2.marks) := by
    intro xs hxs
    rw [marked, List.filter_flatMap]
    refine List.flatMap_congr fun x hx => ?_
    rw [List.filter_append, show x.1.lead.filter Tree.isMarked = [] from marked_extras (hxs x hx)]
    rfl
  have hzip : ∀ x ∈ parts.zip p.steps.toList, ∀ t ∈ x.1.lead, t.IsExtra :=
    fun x hx => hlead x.1 (List.of_mem_zip hx).1
  rw [trees_ofProduction]
  cases h : parts.zip p.steps.toList with
  | nil => rfl
  | cons x rest =>
    rw [h] at hzip
    rw [marked_append, List.flatMap_cons, hrest rest fun y hy => hzip y (List.mem_cons_of_mem _ hy)]

/-- A step that shows a hidden construct as it is. -/
theorem shown_of_isPlain {f : Fragment} {s : Step} {x : Symbol} (hs : f.symbol = s.symbol)
    (hhidden : x.isHidden) (hplain : s.isPlain x) : f.symbol = x ∧ f.shown s.marks = f.trees := by
  simp only [Step.isPlain, Bool.and_eq_true, decide_eq_true_eq, Option.isNone_iff_eq_none] at hplain
  obtain ⟨⟨hself, hlabel⟩, hrole⟩ := hplain
  have hsymbol : f.symbol = x := hs.trans hself
  refine ⟨hsymbol, ?_⟩
  cases x with
  | token t => cases hhidden
  | phrase p =>
    have hp : p.isHidden := hhidden
    simp [shown, hlabel, hrole, hsymbol, hp, Tree.map_assign_none]
  | loop i => simp [shown, hlabel, hrole, hsymbol, Tree.map_assign_none]

/-- What the steps of a production show stands at the places of the steps. -/
theorem follows_flatMap (n : Nat) {xs : List (Fragment × Step)}
    (hlaid : ∀ x ∈ xs, x.1.LaidOut) (hsymbol : ∀ x ∈ xs, x.1.symbol = x.2.symbol)
    (hproper : ∀ x ∈ xs, x.2.isProper) :
    Follows (xs.flatMap fun x => x.2.slots (contributions allProductions n))
      (xs.flatMap fun x => marked (x.1.shown x.2.marks)) := by
  induction xs with
  | nil => rfl
  | cons x xs ih =>
    obtain ⟨hx, hxs⟩ := List.forall_mem_cons.mp hlaid
    obtain ⟨hs, hsymbol⟩ := List.forall_mem_cons.mp hsymbol
    obtain ⟨hp, hproper⟩ := List.forall_mem_cons.mp hproper
    exact (hx.follows_shown hs hp n).append (ih hxs hsymbol hproper)

end Fragment

/-- Parts that a production asks for, and that follow the layouts. -/
structure Grammar.Production.Filled (p : Production) (parts : List Fragment) : Prop where
  known : p ∈ allProductions
  symbols : parts.map Fragment.symbol = p.steps.toList.map Step.symbol
  laidOut : ∀ f ∈ parts, f.LaidOut

namespace Grammar.Production.Filled

variable {p : Production} {parts : List Fragment}

theorem isProper (h : p.Filled parts) {s : Step} (hs : s ∈ p.steps.toList) : s.isProper := by
  have hlaid := List.all_eq_true.mp isLaidOut_productions p h.known
  exact List.all_eq_true.mp (Bool.and_eq_true_iff.mp hlaid).1 s hs

theorem map_snd_zip (h : p.Filled parts) : (parts.zip p.steps.toList).map Prod.snd = p.steps.toList := by
  have hlength := congrArg List.length h.symbols
  rw [List.length_map, List.length_map] at hlength
  exact List.map_snd_zip (Nat.le_of_eq hlength.symm)

theorem of_mem_zip (h : p.Filled parts) {x : Fragment × Step} (hx : x ∈ parts.zip p.steps.toList) :
    x.1.LaidOut ∧ x.1.symbol = x.2.symbol ∧ x.2.isProper :=
  ⟨h.laidOut x.1 (List.of_mem_zip hx).1, Fragment.symbol_eq_of_mem_zip h.symbols hx,
    h.isProper (List.of_mem_zip hx).2⟩

theorem follows (h : p.Filled parts) :
    Follows (p.slots allProductions) (marked (Fragment.ofProduction p parts).trees) := by
  rw [Fragment.marked_trees fun f hf => (h.laidOut f hf).lead, slots]
  conv in p.steps.toList => rw [← h.map_snd_zip]
  rw [List.flatMap_map]
  exact Fragment.follows_flatMap 2 (fun x hx => (h.of_mem_zip hx).1) (fun x hx => (h.of_mem_zip hx).2.1)
    fun x hx => (h.of_mem_zip hx).2.2

/-- If the first step of a production shows a part, then its trees begin with one. -/
theorem exists_first (h : p.Filled parts) {s : Step} (hs : p.steps.toList.head? = some s)
    (hpart : s.isPart) :
    ∃ t rest, (Fragment.ofProduction p parts).trees = t :: rest ∧ t.label.isPart := by
  rw [Fragment.trees_ofProduction]
  have hsnd := h.map_snd_zip
  have hmem := @h.of_mem_zip
  generalize parts.zip p.steps.toList = xs at hsnd hmem ⊢
  cases xs with
  | nil =>
    rw [← hsnd] at hs
    cases hs
  | cons x xs =>
    rw [← hsnd] at hs
    obtain rfl : x.2 = s := Option.some.inj hs
    obtain ⟨hlaid, hsymbol, hproper⟩ := hmem List.mem_cons_self
    obtain ⟨t, hshown, ht, -⟩ := hlaid.exists_shown_of_isPart hsymbol hproper hpart
    exact ⟨t, _, by simp only [hshown]; rfl, ht⟩

/-- A production follows the layouts of all labels under which its construct can appear. -/
theorem fits (h : p.Filled parts) {q : Phrase} (hq : p.head = .phrase q) {label : Label}
    (hlabel : label ∈ q.appearances) : p.fits allProductions label := by
  have hlaid := List.all_eq_true.mp isLaidOut_productions p h.known
  have happears := (Bool.and_eq_true_iff.mp hlaid).2
  simp only [hq] at happears
  exact List.all_eq_true.mp (Bool.and_eq_true_iff.mp happears).1 label hlabel

theorem wellFormed_node (h : p.Filled parts) {q : Phrase} (hq : p.head = .phrase q) {label : Label}
    (hlabel : label ∈ q.appearances)
    (htrees : ∀ t ∈ (Fragment.ofProduction p parts).trees, t.WellFormed) (role : Option Role) :
    (Tree.node label role (Fragment.ofProduction p parts).trees).WellFormed := by
  obtain ⟨hlayout, hfirst⟩ := Bool.and_eq_true_iff.mp (h.fits hq hlabel)
  refine .node htrees (fun slots hslots => ?_) fun hbegins => ?_
  · simp only [hslots] at hlayout
    exact h.follows.of_cover hlayout
  · rw [hbegins] at hfirst
    obtain ⟨s, hs, hpart⟩ := (Option.any_eq_true _ _).mp hfirst
    exact h.exists_first hs hpart

/-- If a construct always shows up as a single tree, then so do the parts of a production of it. -/
theorem exists_single (h : p.Filled parts) {q : Phrase} (hq : p.head = .phrase q) (hsingle : q.isSingle) :
    ∃ t, (Fragment.ofProduction p parts).trees = [t] ∧ t.label.isPart ∧ t.role = none := by
  have hlaid := List.all_eq_true.mp isLaidOut_productions p h.known
  have hp := (Bool.and_eq_true_iff.mp hlaid).2
  simp only [hq, hsingle, Bool.not_true, Bool.false_or, Bool.and_eq_true] at hp
  have hone := hp.2
  rw [Production.isSingle.eq_def] at hone
  split at hone
  · rename_i s hsteps
    obtain ⟨hpart, hrole⟩ := Bool.and_eq_true_iff.mp hone
    have hsnd := h.map_snd_zip
    have hmem := @h.of_mem_zip
    rw [Fragment.trees_ofProduction]
    generalize parts.zip p.steps.toList = xs at hsnd hmem ⊢
    rw [hsteps] at hsnd
    obtain ⟨x, rfl, rfl⟩ := List.map_eq_singleton_iff.mp hsnd
    obtain ⟨hlaid, hsymbol, hproper⟩ := hmem List.mem_cons_self
    obtain ⟨t, hshown, ht, hr⟩ := hlaid.exists_shown_of_isPart hsymbol hproper hpart
    exact ⟨t, by simp only [hshown]; rfl, ht, hr.trans (Option.isNone_iff_eq_none.mp hrole)⟩
  · cases hone

/-- What counts among the trees of a hidden construct is what it can contribute. A step that shows the
construct itself is the one case in which the contribution of a part is asked for at the same depth. -/
theorem contributes (h : p.Filled parts) (hhidden : p.head.isHidden) (n : Nat) :
    ∀ t ∈ marked (Fragment.ofProduction p parts).trees,
      admitted (contributions allProductions n p.head) t := by
  intro t ht
  cases n with
  | zero => rfl
  | succ n =>
    rw [Fragment.marked_trees fun f hf => (h.laidOut f hf).lead] at ht
    obtain ⟨⟨f, s⟩, hx, ht⟩ := List.mem_flatMap.mp ht
    obtain ⟨hlaid, hsymbol, hproper⟩ := h.of_mem_zip hx
    cases hplain : s.isPlain p.head with
    | true =>
      obtain ⟨hself, hshown⟩ := Fragment.shown_of_isPlain hsymbol hhidden hplain
      rw [hshown] at ht
      rw [← hself] at hhidden ⊢
      exact hlaid.contributes hhidden (n + 1) t ht
    | false =>
      obtain ⟨slot, hslot, hadmitted⟩ := (hlaid.follows_shown hsymbol hproper n).exists_of_mem ht
      obtain ⟨a, ha, hat⟩ := List.any_eq_true.mp hadmitted
      refine List.any_eq_true.mpr ⟨a, ?_, hat⟩
      refine List.mem_flatMap.mpr ⟨p, List.mem_filter.mpr ⟨h.known, decide_eq_true rfl⟩, ?_⟩
      refine List.mem_flatMap.mpr ⟨s, (List.of_mem_zip hx).2, ?_⟩
      rw [if_neg (Bool.eq_false_iff.mp hplain)]
      exact List.mem_flatMap.mpr ⟨slot, hslot, ha⟩

/-- What is made of parts that follow the layouts does so as well. -/
theorem laidOut_ofProduction (h : p.Filled parts) : (Fragment.ofProduction p parts).LaidOut := by
  have htrees : ∀ t ∈ (Fragment.ofProduction p parts).trees, t.WellFormed := by
    intro t ht
    obtain ⟨x, hx, ht⟩ := Fragment.exists_of_mem_trees ht
    obtain ⟨hlaid, hsymbol, hproper⟩ := h.of_mem_zip hx
    rcases ht with ht | ht
    · exact (hlaid.lead t ht).wellFormed
    · exact hlaid.wellFormed_shown hsymbol hproper t ht
  refine ⟨?lead, htrees, fun htoken => ?token, fun hq hlabel => h.wellFormed_node hq hlabel htrees,
    h.exists_single, h.contributes⟩
  case lead =>
    intro t ht
    cases parts with
    | nil => cases ht
    | cons f parts => exact (h.laidOut f List.mem_cons_self).lead t ht
  case token =>
    have hlaid := List.all_eq_true.mp isLaidOut_productions p h.known
    have hhead := (Bool.and_eq_true_iff.mp hlaid).2
    rw [show p.head = _ from htoken] at hhead
    cases hhead

end Grammar.Production.Filled

theorem Fragment.laidOut_token (terminal : Terminal) {lead : List Tree} (lexeme : Lexeme)
    (extras : ∀ t ∈ lead, t.IsExtra) :
    LaidOut ⟨.token terminal, lead, [.leaf (.token terminal) none lexeme], 0⟩ where
  lead := extras
  trees t ht := by
    rw [List.mem_singleton.mp ht]
    exact .leaf ..
  token htoken := ⟨lexeme, by rw [Symbol.token.inj htoken]⟩
  appears hphrase := by cases hphrase
  single hphrase := by cases hphrase
  contributes hhidden := by cases hhidden

/-- Whatever is derived from the grammar follows the layouts. -/
theorem Fragment.Derived.laidOut {f : Fragment} (h : f.Derived) : f.LaidOut := by
  induction h with
  | token terminal lead lexeme ordinary extras => exact laidOut_token terminal lexeme extras
  | production p parts known symbols derived ih =>
    exact Production.Filled.laidOut_ofProduction ⟨known, symbols, ih⟩

/-- Trees of whole texts are well formed. -/
theorem Tree.IsModule.wellFormed {t : Tree} (h : t.IsModule) : t.WellFormed := by
  cases h with
  | blank lead ending lexeme extras =>
    refine .node (fun t ht => ?_) (fun _ hlayout => ?_) fun hbegins => ?_
    · rcases List.mem_append.mp ht with ht | ht
      · exact (extras t ht).wellFormed
      · rw [List.mem_singleton.mp ht]
        exact .leaf ..
    · cases hlayout
    · cases hbegins
  | statements f lead ending lexeme derived symbol extras =>
    have hlaid := derived.laidOut
    refine .node (fun t ht => ?_) (fun _ hlayout => ?_) fun hbegins => ?_
    · simp only [List.mem_append, List.mem_singleton] at ht
      rcases ht with ((ht | ht) | ht) | rfl
      · exact (hlaid.lead t ht).wellFormed
      · exact hlaid.trees t ht
      · exact (extras t ht).wellFormed
      · exact .leaf ..
    · cases hlayout
    · cases hbegins

end CodeAudit
