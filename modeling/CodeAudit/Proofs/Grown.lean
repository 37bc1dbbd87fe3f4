import CodeAudit.Proofs.Parts

/-!
# What productions make

`Tree.Grows` keeps a construct together with the production it comes from, and it holds of every tree
inside the tree of a text. What follows from productions alone is said about all constructs in this way.
-/

namespace CodeAudit

open Grammar

namespace Tree

mutual

/-- All trees inside a tree, the tree itself first. -/
def subtrees : Tree → List Tree
  | leaf label role lexeme => [leaf label role lexeme]
  | node label role children => node label role children :: subtreesOf children

/-- All trees inside some trees. -/
def subtreesOf : List Tree → List Tree
  | [] => []
  | t :: ts => subtrees t ++ subtreesOf ts

end

theorem subtreesOf_eq_flatMap (ts : List Tree) : subtreesOf ts = ts.flatMap subtrees := by
  induction ts with
  | nil => rfl
  | cons t ts ih => rw [subtreesOf, ih, List.flatMap_cons]

theorem subtrees_eq (t : Tree) : t.subtrees = t :: t.children.flatMap subtrees := by
  cases t with
  | leaf label role lexeme => rfl
  | node label role children => rw [subtrees, subtreesOf_eq_flatMap, Tree.children]

theorem mem_subtrees {s t : Tree} : s ∈ t.subtrees ↔ s = t ∨ ∃ c ∈ t.children, s ∈ c.subtrees := by
  rw [subtrees_eq, List.mem_cons, List.mem_flatMap]

mutual

/-- What passes from the parts of a tree to the tree holds of all trees. -/
theorem induct {P : Tree → Prop} (step : ∀ t, (∀ c ∈ t.children, P c) → P t) : (t : Tree) → P t
  | leaf .. => step _ fun _ hc => absurd hc List.not_mem_nil
  | node _ _ children => step _ (inductAll step children)

theorem inductAll {P : Tree → Prop} (step : ∀ t, (∀ c ∈ t.children, P c) → P t) :
    (ts : List Tree) → ∀ t ∈ ts, P t
  | [] => fun _ ht => absurd ht List.not_mem_nil
  | t :: ts => List.forall_mem_cons.mpr ⟨induct step t, inductAll step ts⟩

end

theorem subset_subtrees {s t : Tree} (hs : s ∈ t.subtrees) : ∀ u ∈ s.subtrees, u ∈ t.subtrees := by
  induction t using induct with
  | step t ih =>
    intro u hu
    rcases mem_subtrees.mp hs with rfl | ⟨c, hc, hs⟩
    · exact hu
    · exact mem_subtrees.mpr (.inr ⟨c, hc, ih c hc hs u hu⟩)

/-- A predicate holds of a tree and of all trees inside it. -/
def Everywhere (P : Tree → Prop) (t : Tree) : Prop := ∀ s ∈ t.subtrees, P s

namespace Everywhere

variable {P H : Tree → Prop} {t c : Tree}

theorem self (h : t.Everywhere P) : P t := h t (mem_subtrees.mpr (.inl rfl))

theorem child (h : t.Everywhere P) (hc : c ∈ t.children) : c.Everywhere P :=
  fun s hs => h s (mem_subtrees.mpr (.inr ⟨c, hc, hs⟩))

theorem subtree {s : Tree} (h : t.Everywhere P) (hs : s ∈ t.subtrees) : s.Everywhere P :=
  fun u hu => h u (subset_subtrees hs u hu)

theorem intro (here : P t) (inside : ∀ c ∈ t.children, c.Everywhere P) : t.Everywhere P := by
  intro s hs
  rcases mem_subtrees.mp hs with rfl | ⟨c, hc, hs⟩
  · exact here
  · exact inside c hc s hs

/-- What a tree owes to its parts and to something that holds everywhere holds everywhere. -/
theorem of_step (step : ∀ t, H t → (∀ c ∈ t.children, c.Everywhere P) → P t) (h : t.Everywhere H) :
    t.Everywhere P := by
  induction t using induct with
  | step t ih =>
    have inside : ∀ c ∈ t.children, c.Everywhere P := fun c hc => ih c hc (h.child hc)
    exact .intro (step t h.self inside) inside

theorem assign (h : t.Everywhere P) (r : Option Role) (here : P (t.assign r)) :
    (t.assign r).Everywhere P := by
  refine .intro here fun c hc => h.child ?_
  cases t with
  | leaf label role lexeme => cases role <;> cases hc
  | node label role children => cases role <;> exact hc

end Everywhere

end Tree

/-- A tree that a step shows is one of the trees of the fragment, a token under another label, or a
construct. -/
theorem Fragment.mem_shown {f : Fragment} {s : Step} (hs : f.symbol = s.symbol) (hproper : s.isProper)
    {t : Tree} (ht : t ∈ f.shown s.marks) :
    (∃ u ∈ f.trees, t = u.assign s.marks.role) ∨
    (∃ label terminal old role lexeme, s.marks.label = some label ∧ s.symbol = .token terminal ∧
      .leaf old role lexeme ∈ f.trees ∧ t = (Tree.leaf label role lexeme).assign s.marks.role) ∨
    ∃ p label, f.symbol = .phrase p ∧ label ∈ p.appearances ∧ t = .node label s.marks.role f.trees := by
  obtain ⟨symbol, level, assoc, label, role⟩ := s
  obtain rfl : f.symbol = symbol := hs
  obtain ⟨u, hu, rfl⟩ := List.mem_map.mp ht
  cases label with
  | none =>
    cases hsymbol : f.symbol with
    | token terminal =>
      simp only [hsymbol] at hu
      exact .inl ⟨u, hu, rfl⟩
    | loop i =>
      simp only [hsymbol] at hu
      exact .inl ⟨u, hu, rfl⟩
    | phrase p =>
      simp only [hsymbol] at hu
      split at hu
      · exact .inl ⟨u, hu, rfl⟩
      · rename_i hhidden
        rw [List.mem_singleton.mp hu]
        refine .inr (.inr ⟨p, .phrase p, rfl, ?_, rfl⟩)
        simp [Phrase.appearances, hhidden]
  | some label =>
    cases hsymbol : f.symbol with
    | token terminal =>
      simp only [hsymbol] at hu
      obtain ⟨v, hv, rfl⟩ := List.mem_map.mp hu
      cases v with
      | leaf old role' lexeme => exact .inr (.inl ⟨label, terminal, old, role', lexeme, rfl, rfl, hv, rfl⟩)
      | node old role' children => exact .inl ⟨_, hv, rfl⟩
    | loop i => simp [Step.isProper, hsymbol] at hproper
    | phrase p =>
      simp only [hsymbol] at hu
      rw [List.mem_singleton.mp hu]
      refine .inr (.inr ⟨p, label, rfl, ?_, rfl⟩)
      simpa [Step.isProper, hsymbol] using hproper

/-- Whether a token can appear under a label. -/
def Label.isLeaf : Label → Bool
  | .token t => (Symbol.token t).isKnown
  | .phrase p => p = .block

namespace Grammar

/-- Whether a step that shows a token under another label keeps to the labels of tokens. -/
def Step.isRenaming (s : Step) : Bool :=
  match s.marks.label, s.symbol with
  | some label, .token _ => label.isLeaf
  | _, _ => true

theorem isRenaming_productions : (allProductions.all fun p => p.steps.toList.all Step.isRenaming) = true :=
  all_productions (by decide +kernel)

/-- Parts that a production asks for, and that follow the grammar. -/
structure Production.Derives (p : Production) (parts : List Fragment) : Prop where
  known : p ∈ allProductions
  symbols : parts.map Fragment.symbol = p.steps.toList.map Step.symbol
  derived : ∀ f ∈ parts, f.Derived

theorem Production.Derives.filled {p : Production} {parts : List Fragment} (h : p.Derives parts) :
    p.Filled parts :=
  ⟨h.known, h.symbols, fun f hf => (h.derived f hf).laidOut⟩

end Grammar

/-- A token, or a construct together with the production it comes from. -/
inductive Tree.Grows : Tree → Prop
  | leaf {label : Label} (known : label.isLeaf) (role : Option Role) (lexeme : Lexeme) :
      Grows (.leaf label role lexeme)
  | node {p : Production} {parts : List Fragment} {q : Phrase} {label : Label} (derives : p.Derives parts)
      (head : p.head = .phrase q) (appears : label ∈ q.appearances) (role : Option Role) :
      Grows (.node label role (Fragment.ofProduction p parts).trees)

namespace Tree

theorem Grows.assign {t : Tree} (h : t.Grows) (r : Option Role) : (t.assign r).Grows := by
  cases h with
  | leaf known role lexeme => cases role <;> exact .leaf known ..
  | node derives head appears role => cases role <;> exact .node derives head appears _

theorem IsExtra.grows {t : Tree} (h : t.IsExtra) : t.Everywhere Grows := by
  obtain ⟨terminal, lexeme, hextra, rfl⟩ := h
  refine .intro (.leaf ?_ _ _) fun _ hc => absurd hc List.not_mem_nil
  cases terminal <;> first | rfl | cases hextra

end Tree

/-- A construct that follows the grammar comes from a production. -/
theorem Fragment.Derived.exists_production {f : Fragment} (h : f.Derived)
    (hsymbol : ∀ terminal, f.symbol ≠ .token terminal) :
    ∃ p parts, p.Derives parts ∧ p.head = f.symbol ∧ f = .ofProduction p parts := by
  cases h with
  | token terminal => exact absurd rfl (hsymbol terminal)
  | production p parts known symbols derived => exact ⟨p, parts, ⟨known, symbols, derived⟩, rfl, rfl⟩

/-- All trees inside a fragment that follows the grammar come from productions. -/
theorem Fragment.Derived.grows {f : Fragment} (h : f.Derived) (hknown : f.symbol.isKnown) :
    ∀ t ∈ f.trees, t.Everywhere Tree.Grows := by
  induction h with
  | token terminal lead lexeme ordinary extras =>
    intro t ht
    rw [List.mem_singleton.mp ht]
    have hleaf : (Label.token terminal).isLeaf := hknown
    exact .intro (.leaf hleaf _ _) fun _ hc => absurd hc List.not_mem_nil
  | production p parts known symbols derived ih =>
    have hfilled : p.Filled parts := Production.Derives.filled ⟨known, symbols, derived⟩
    intro t ht
    obtain ⟨x, hx, ht⟩ := exists_of_mem_trees ht
    obtain ⟨hlaid, hsymbol, hproper⟩ := hfilled.of_mem_zip hx
    obtain ⟨hf, hs⟩ := List.of_mem_zip hx
    have htrees := ih x.1 hf (by rw [hsymbol]; exact isKnown_of_mem known hs)
    rcases ht with ht | ht
    · exact (hlaid.lead t ht).grows
    rcases mem_shown hsymbol hproper ht with ⟨u, hu, rfl⟩ | ⟨label, terminal, old, role, lexeme, hlabel,
      htoken, hold, rfl⟩ | ⟨q, label, hphrase, happears, rfl⟩
    · have hgrows := htrees u hu
      exact hgrows.assign _ (hgrows.self.assign _)
    · have hrenaming := List.all_eq_true.mp (List.all_eq_true.mp isRenaming_productions p known) x.2 hs
      have hleaf : label.isLeaf := by
        rwa [Step.isRenaming, hlabel, htoken] at hrenaming
      refine .intro (Tree.Grows.assign (.leaf hleaf role lexeme) _) fun c hc => ?_
      cases role <;> cases hc
    · obtain ⟨p', parts', hderives, hhead, heq⟩ :=
        (derived x.1 hf).exists_production (by rw [hphrase]; intro _ h; cases h)
      refine .intro ?_ htrees
      rw [heq]
      exact .node hderives (hhead.trans hphrase) happears _

namespace Tree.IsModule

variable {t : Tree}

/-- Whatever stands in a text comes from productions, apart from the token that ends the text. -/
theorem grows_or_token (h : t.IsModule) : ∀ c ∈ t.children,
    c.Everywhere Grows ∨ ∃ terminal lexeme, c = .leaf (.token terminal) none lexeme := by
  intro c hc
  cases h with
  | blank lead terminal lexeme extras =>
    rcases List.mem_append.mp hc with hc | hc
    · exact .inl (extras c hc).grows
    · exact .inr ⟨terminal, lexeme, List.mem_singleton.mp hc⟩
  | statements f lead terminal lexeme derived symbol extras =>
    simp only [children, List.mem_append, List.mem_singleton] at hc
    rcases hc with ((hc | hc) | hc) | rfl
    · exact .inl (derived.laidOut.lead c hc).grows
    · exact .inl (derived.grows (by rw [symbol]; rfl) c hc)
    · exact .inl (extras c hc).grows
    · exact .inr ⟨terminal, lexeme, rfl⟩

/-- All parts of the tree of a text come from productions. -/
theorem grows (h : t.IsModule) : ∀ c ∈ t.parts, c.Everywhere Grows := by
  intro c hc
  obtain ⟨hc, hcounts⟩ := List.mem_filter.mp hc
  rcases h.grows_or_token c hc with hgrows | ⟨terminal, lexeme, rfl⟩
  · exact hgrows
  · have hnamed : terminal.isNamed := (Bool.and_eq_true_iff.mp hcounts).1
    refine .intro (.leaf ?_ _ _) fun _ hc => absurd hc List.not_mem_nil
    cases terminal <;> first | rfl | cases hnamed

/-- All constructs of a text come from productions. -/
theorem grows_of_mem {s : Tree} {p : Phrase} (h : t.IsModule) (hs : s ∈ t.subtrees)
    (hlabel : s.label = .phrase p) (hp : p ≠ .module) : s.Everywhere Grows := by
  rcases mem_subtrees.mp hs with rfl | ⟨c, hc, hs⟩
  · rw [h.label] at hlabel
    exact absurd (Label.phrase.inj hlabel).symm hp
  · rcases h.grows_or_token c hc with hgrows | ⟨terminal, lexeme, rfl⟩
    · exact hgrows.subtree hs
    · obtain rfl := List.mem_singleton.mp hs
      cases hlabel

end Tree.IsModule

end CodeAudit
