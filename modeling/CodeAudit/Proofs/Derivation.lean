import CodeAudit.Source.Parse

/-!
# Derivations

What a parser puts together follows the grammar: a fragment is a token, or it is made of the fragments
that a production asks for. `Fragment.Derived` says so without any reference to a parser, and
`Tree.IsModule` says it of the tree of a whole text. Both speak about trees with everything in them,
so comments and continued lines are part of a derivation too.

Symbols stand for themselves here, while a parser compares their numbers. `Symbol.code_injective` is
what makes the two agree: all tokens of the grammar have numbers of their own.

An `Outline` is a derivation that is written down. Whether it is one can be found out by evaluation.
-/

namespace CodeAudit

open Grammar

/-- A comment or a continued line. -/
def Tree.IsExtra (t : Tree) : Prop :=
  ∃ terminal lexeme, terminal.isExtra = true ∧ t = .leaf (.token terminal) none lexeme

/-- A fragment that follows the grammar. -/
inductive Fragment.Derived : Fragment → Prop
  | token (terminal : Terminal) (lead : List Tree) (lexeme : Lexeme)
      (ordinary : terminal.isExtra = false) (extras : ∀ t ∈ lead, t.IsExtra) :
      Derived ⟨.token terminal, lead, [.leaf (.token terminal) none lexeme], 0⟩
  | production (p : Production) (parts : List Fragment) (known : p ∈ allProductions)
      (symbols : parts.map Fragment.symbol = p.steps.toList.map Step.symbol)
      (derived : ∀ f ∈ parts, Derived f) : Derived (.ofProduction p parts)

/-- The tree of a text that follows the grammar: statements, if there are any, and the token that ends
the text, with comments and continued lines in between. -/
inductive Tree.IsModule : Tree → Prop
  | blank (lead : List Tree) (ending : Terminal) (lexeme : Lexeme) (extras : ∀ t ∈ lead, t.IsExtra) :
      IsModule (.node (.phrase .module) none (lead ++ [.leaf (.token ending) none lexeme]))
  | statements (f : Fragment) (lead : List Tree) (ending : Terminal) (lexeme : Lexeme)
      (derived : f.Derived) (symbol : f.symbol = .phrase .module) (extras : ∀ t ∈ lead, t.IsExtra) :
      IsModule (.node (.phrase .module) none
        (f.lead ++ f.trees ++ lead ++ [.leaf (.token ending) none lexeme]))

theorem Tree.IsModule.label {t : Tree} (h : t.IsModule) : t.label = .phrase .module := by
  cases h <;> rfl

namespace Terminal

theorem index_literal_ge (spelling : String) : 21 ≤ (literal spelling).index := by
  simp [index]

/-- Every terminal has a number below the first one of a construct. -/
theorem index_lt_firstPhrase (t : Terminal) : t.index < Symbol.firstPhrase := by
  cases t with
  | literal spelling =>
    have hidx : (words ++ signs).idxOf spelling ≤ (words ++ signs).length := List.idxOf_le_length
    have hlen : (words ++ signs).length = 87 := rfl
    simp only [index, Symbol.firstPhrase]
    omega
  | _ => decide

/-- Terminals that are tokens of the language have numbers of their own. -/
theorem index_injective {a b : Terminal} (h : a.index = b.index) (hb : b.index < count) : a = b := by
  cases a with
  | literal s =>
    cases b with
    | literal t =>
      have hlt : (words ++ signs).idxOf t < (words ++ signs).length := by
        simp only [index, count] at hb
        omega
      have heq : (words ++ signs).idxOf s = (words ++ signs).idxOf t := by
        simp only [index] at h
        omega
      have hs : (words ++ signs).idxOf s < (words ++ signs).length := by
        rw [heq]
        exact hlt
      have hst : s = t :=
        calc s = (words ++ signs)[(words ++ signs).idxOf s] := (List.getElem_idxOf hs).symm
          _ = (words ++ signs)[(words ++ signs).idxOf t] := by simp only [heq]
          _ = t := List.getElem_idxOf hlt
      rw [hst]
    | _ => exact absurd (index_literal_ge s) (by rw [h]; decide)
  | _ =>
    cases b with
    | literal t => exact absurd (index_literal_ge t) (by rw [← h]; decide)
    | _ => first | rfl | exact absurd h (by decide)

end Terminal

namespace Phrase

theorem index_injective {p q : Phrase} (h : p.index = q.index) : p = q := by
  have hp := all_get_index p
  rw [h, all_get_index q] at hp
  exact (Option.some.inj hp).symm

theorem mem_all (p : Phrase) : p ∈ all := List.mem_of_getElem? (all_get_index p)

theorem index_lt (p : Phrase) : p.index < all.length :=
  (List.getElem?_eq_some_iff.mp (all_get_index p)).choose

end Phrase

namespace Grammar

/-- Whether a symbol has a number of its own. -/
def Symbol.isKnown : Symbol → Bool
  | .token t => t.index < Terminal.count
  | _ => true

theorem Symbol.code_injective {a b : Symbol} (h : a.code = b.code) (hb : b.isKnown) : a = b := by
  cases a with
  | token s =>
    have hs := s.index_lt_firstPhrase
    cases b with
    | token t =>
      simp only [isKnown, decide_eq_true_eq] at hb
      rw [Terminal.index_injective h hb]
    | phrase q => simp only [code] at h; omega
    | loop j => simp only [code] at h; omega
  | phrase p =>
    have hp := p.index_lt
    cases b with
    | token t =>
      have ht := t.index_lt_firstPhrase
      simp only [code] at h
      omega
    | phrase q =>
      have hpq : p.index = q.index := by
        simp only [code] at h
        omega
      rw [Phrase.index_injective hpq]
    | loop j => simp only [code] at h; omega
  | loop i =>
    cases b with
    | token t =>
      have ht := t.index_lt_firstPhrase
      simp only [code] at h
      omega
    | phrase q =>
      have hq := q.index_lt
      simp only [code] at h
      omega
    | loop j =>
      have hij : i = j := by
        simp only [code] at h
        omega
      rw [hij]

theorem Symbol.map_code_injective {as bs : List Symbol} (h : as.map code = bs.map code)
    (hb : ∀ b ∈ bs, b.isKnown) : as = bs := by
  induction as generalizing bs with
  | nil => exact (List.map_eq_nil_iff.mp h.symm).symm
  | cons a as ih =>
    cases bs with
    | nil => cases h
    | cons b bs =>
      obtain ⟨hab, hrest⟩ := List.cons.inj h
      rw [code_injective hab (hb b List.mem_cons_self),
        ih hrest fun c hc => hb c (List.mem_cons_of_mem _ hc)]

/-- The forms of the constructs, with all repetitions. -/
def allForms : List Production :=
  allRules.flatMap fun entry => (entry.2.forms {} true).map (Production.ofForm entry.1)

theorem allProductions_subset : allProductions ⊆ allForms := by
  intro p hp
  obtain ⟨entry, hentry, hp⟩ := List.mem_flatMap.mp hp
  obtain ⟨form, hform, rfl⟩ := List.mem_map.mp hp
  exact List.mem_flatMap.mpr ⟨entry, hentry, List.mem_map_of_mem (List.mem_eraseDups.mp hform)⟩

-- It takes much longer to find the repetitions than to look at a form again.
theorem all_productions {f : Production → Bool} (h : allForms.all f = true) :
    allProductions.all f = true :=
  List.all_eq_true.mpr fun p hp => List.all_eq_true.mp h p (allProductions_subset hp)

/-- All tokens of the grammar are tokens of the language. -/
theorem isKnown_productions :
    (allProductions.all fun p => p.steps.toList.all fun s => s.symbol.isKnown) = true :=
  all_productions (by decide +kernel)

theorem isKnown_of_mem {p : Production} (hp : p ∈ allProductions) {s : Step}
    (hs : s ∈ p.steps.toList) : s.symbol.isKnown :=
  List.all_eq_true.mp (List.all_eq_true.mp isKnown_productions p hp) s hs

/-- The numbers of a production are those of its symbols. -/
theorem codes_of_mem {p : Production} (hp : p ∈ allProductions) :
    p.codes.toList = p.steps.toList.map fun s => s.symbol.code := by
  obtain ⟨entry, -, hp⟩ := List.mem_flatMap.mp hp
  obtain ⟨form, -, rfl⟩ := List.mem_map.mp hp
  rfl

/-- Whether a symbol has a form. -/
def Symbol.hasForm (x : Symbol) (f : Form) : Bool :=
  allRules.any fun entry => entry.1 = x && (entry.2.forms {} true).eraseDups.contains f

theorem Symbol.ofForm_mem_allProductions {x : Symbol} {f : Form} (h : x.hasForm f) :
    Production.ofForm x f ∈ allProductions := by
  obtain ⟨entry, hentry, h⟩ := List.any_eq_true.mp h
  obtain ⟨hx, hf⟩ := Bool.and_eq_true_iff.mp h
  obtain rfl := of_decide_eq_true hx
  exact List.mem_flatMap.mpr ⟨entry, hentry, List.mem_map_of_mem (List.contains_iff_mem.mp hf)⟩

end Grammar

/-- A derivation: tokens, with the comments and continued lines before them, and forms with their
parts. -/
inductive Outline where
  | token (extras : List (Terminal × Lexeme)) (terminal : Terminal) (lexeme : Lexeme)
  | form (head : Symbol) (form : Form) (parts : List Outline)

namespace Outline

mutual

/-- The fragment that is derived. -/
def fragment : Outline → Fragment
  | token extras terminal lexeme =>
    ⟨.token terminal, extras.map fun x => .leaf (.token x.1) none x.2,
      [.leaf (.token terminal) none lexeme], 0⟩
  | form head f parts => .ofProduction (.ofForm head f) (fragments parts)

/-- The fragments that are derived. -/
def fragments : List Outline → List Fragment
  | [] => []
  | o :: os => fragment o :: fragments os

end

mutual

/-- Whether all forms are known and have the parts that they ask for. -/
def isValid (known : Symbol → Form → Bool) : Outline → Bool
  | token extras terminal _ => !terminal.isExtra && extras.all (·.1.isExtra)
  | form head f parts =>
    known head f && (fragments parts).map Fragment.symbol = f.steps.map Step.symbol &&
      areValid known parts

/-- Whether some outlines are valid. -/
def areValid (known : Symbol → Form → Bool) : List Outline → Bool
  | [] => true
  | o :: os => isValid known o && areValid known os

end

variable {known : Symbol → Form → Bool}

mutual

/-- An outline with forms of the grammar is a derivation if it is valid. -/
theorem derived_fragment (hknown : ∀ {x f}, known x f → Production.ofForm x f ∈ allProductions) :
    (o : Outline) → o.isValid known → o.fragment.Derived
  | token extras terminal lexeme, h => by
    simp only [isValid, Bool.and_eq_true, Bool.not_eq_true', List.all_eq_true] at h
    refine .token terminal _ lexeme h.1 fun t ht => ?_
    obtain ⟨x, hx, rfl⟩ := List.mem_map.mp ht
    exact ⟨x.1, x.2, h.2 x hx, rfl⟩
  | form head f parts, h => by
    simp only [isValid, Bool.and_eq_true, decide_eq_true_eq] at h
    obtain ⟨⟨hform, hsymbols⟩, hparts⟩ := h
    exact .production _ _ (hknown hform) hsymbols (derived_fragments hknown parts hparts)

theorem derived_fragments (hknown : ∀ {x f}, known x f → Production.ofForm x f ∈ allProductions) :
    (os : List Outline) → areValid known os → ∀ f ∈ fragments os, f.Derived
  | [], _ => fun _ hf => absurd hf List.not_mem_nil
  | o :: os, h => by
    obtain ⟨ho, hos⟩ := Bool.and_eq_true_iff.mp h
    exact List.forall_mem_cons.mpr ⟨derived_fragment hknown o ho, derived_fragments hknown os hos⟩

end

/-- The tree of a text that consists of an outline and of the token that ends it. -/
def text (o : Outline) (ending : Lexeme) : Tree :=
  .node (.phrase .module) none
    (o.fragment.lead ++ o.fragment.trees ++ [] ++ [.leaf (.token .endOfFile) none ending])

theorem isModule_text {o : Outline} (h : o.isValid Symbol.hasForm) (hsymbol : o.fragment.symbol = .phrase .module)
    (ending : Lexeme) : (o.text ending).IsModule :=
  .statements o.fragment [] .endOfFile ending (o.derived_fragment Symbol.ofForm_mem_allProductions h) hsymbol
    fun _ ht => absurd ht List.not_mem_nil

end Outline

end CodeAudit
