import CodeAudit.Proofs.Derivation

/-!
# A parser follows the grammar

The states on the stack of a run say which productions the run may be in the middle of. They are right:
an item of a state tells which symbols lie on top of the stack, because every step of an item puts the
symbol there that the item expects. So a run takes a production off the stack only where its symbols
are, and what it puts there instead follows the grammar.

This holds of every run, whichever way it parted from another one. Two runs are put together only if
their symbols are the same, so choosing between two ways to understand one of them changes nothing.

How runs are followed does not depend on what is known about them. `Parse.Invariant` lists the five
things that can happen to a run, and whatever they preserve holds of the tree that is found.
-/

namespace CodeAudit

open Grammar

namespace Grammar.Tables

/-- Grouping keeps the numbers that are grouped. -/
theorem exists_of_mem_groupByHead {entries : List (Nat × Nat)} {group : Nat × List Nat} {n : Nat}
    (hg : group ∈ groupByHead entries) (hn : n ∈ group.2) : ∃ head, (head, n) ∈ entries := by
  induction entries generalizing group with
  | nil => cases hg
  | cons entry entries ih =>
    have later : ∀ group ∈ groupByHead entries, n ∈ group.2 →
        ∃ head, (head, n) ∈ entry :: entries := by
      intro group hg hn
      obtain ⟨head, h⟩ := ih hg hn
      exact ⟨head, List.mem_cons_of_mem _ h⟩
    have here : n = entry.2 → ∃ head, (head, n) ∈ entry :: entries := by
      rintro rfl
      exact ⟨entry.1, List.mem_cons_self⟩
    rw [groupByHead, List.foldr_cons, ← groupByHead] at hg
    cases hrest : groupByHead entries with
    | nil =>
      simp only [hrest, List.mem_singleton] at hg
      subst hg
      exact here (List.mem_singleton.mp hn)
    | cons first rest =>
      rw [hrest] at later
      simp only [hrest] at hg
      split at hg
      · rcases List.mem_cons.mp hg with rfl | hg
        · rcases List.mem_cons.mp hn with rfl | hn
          · exact here rfl
          · exact later first List.mem_cons_self hn
        · exact later group (List.mem_cons_of_mem _ hg) hn
      · rcases List.mem_cons.mp hg with rfl | hg
        · exact here (List.mem_singleton.mp hn)
        · exact later group hg hn

/-- Productions stand under the symbol that they begin with. -/
theorem exists_of_getElem?_enter {size code : Nat} {list : List (Production × Nat)}
    {entries : List (Nat × Nat)}
    (h : (list.foldr enter (Array.replicate size []))[code]? = some entries) {e : Nat × Nat}
    (he : e ∈ entries) : ∃ p, (p, e.2) ∈ list ∧ p.codes[0]? = some code := by
  induction list generalizing entries with
  | nil =>
    rw [List.foldr_nil, Array.getElem?_replicate] at h
    split at h <;> cases h
    cases he
  | cons entry list ih =>
    have later : (∃ p, (p, e.2) ∈ list ∧ p.codes[0]? = some code) →
        ∃ p, (p, e.2) ∈ entry :: list ∧ p.codes[0]? = some code := by
      rintro ⟨p, hp, hcode⟩
      exact ⟨p, List.mem_cons_of_mem _ hp, hcode⟩
    rw [List.foldr_cons, enter] at h
    split at h
    · rename_i c hc
      rw [Array.getElem?_modify] at h
      split at h
      · rename_i hcode
        obtain ⟨old, hold, rfl⟩ := Option.map_eq_some_iff.mp h
        rcases List.mem_cons.mp he with rfl | he
        · exact ⟨entry.1, List.mem_cons_self, hcode ▸ hc⟩
        · exact later (ih hold he)
      · exact later (ih h he)
    · exact later (ih h he)

theorem exists_of_mem_startingWith {size code n : Nat} {productions : Array Production}
    {group : Nat × List Nat} (hg : group ∈ (startingWith size productions).getD code [])
    (hn : n ∈ group.2) : ∃ p, productions[n]? = some p ∧ p.codes[0]? = some code := by
  rw [Array.getD_eq_getD_getElem?, startingWith, Array.getElem?_map] at hg
  cases hentries : (productions.toList.zipIdx.foldr enter (Array.replicate size []))[code]? with
  | none =>
    rw [hentries] at hg
    cases hg
  | some entries =>
    rw [hentries] at hg
    obtain ⟨head, hentry⟩ := exists_of_mem_groupByHead hg hn
    obtain ⟨p, hp, hcode⟩ := exists_of_getElem?_enter hentries hentry
    rw [List.mem_zipIdx_iff_getElem?] at hp
    exact ⟨p, by simpa using hp, hcode⟩

/-- Tables that describe the grammar. -/
structure Faithful (g : Tables) : Prop where
  productions : g.productions = allProductions.toArray
  starting : ∀ {code n : Nat} {group : Nat × List Nat}, group ∈ g.starting.getD code [] →
    n ∈ group.2 → ∃ p, g.productions[n]? = some p ∧ p.codes[0]? = some code

theorem faithful_tables : Faithful tables := ⟨rfl, exists_of_mem_startingWith⟩

variable {g : Tables}

theorem codesOf_of_getElem? {n : Nat} {p : Production} (h : g.productions[n]? = some p) :
    g.codesOf n = p.codes := by
  have hlt : n < g.productions.size := (Array.getElem?_eq_some_iff.mp h).choose
  rw [codesOf, if_neg (by rw [goal]; omega), h]

end Grammar.Tables

namespace Grammar.Item

/-- An item tells the truth about the symbols on a stack, the last one first: those that it has read
lie on top, and if it is about the whole text then nothing lies below them. -/
structure Fits (g : Tables) (symbols : List Symbol) (it : Item) : Prop where
  dot_le : it.dot ≤ symbols.length
  read : (symbols.take it.dot).reverse.map Symbol.code =
    (g.codesOf it.production).toList.take it.dot
  whole : g.productions.size ≤ it.production → it.dot = symbols.length

variable {g : Tables} {symbols : List Symbol} {it : Item}

theorem Fits.initial (h : it ∈ g.initial) : it.Fits g [] := by
  have hdot : it.dot = 0 := by
    rcases List.mem_cons.mp h with rfl | h
    · rfl
    · rw [List.mem_singleton.mp h]
  exact ⟨by simp [hdot], by simp [hdot], fun _ => hdot⟩

/-- Items that go on after a symbol, and items that begin with it, are right about the stack with the
symbol on top. -/
theorem Fits.goto (hg : g.Faithful) {s : State} (h : ∀ it ∈ s, it.Fits g symbols) {x : Symbol}
    (hit : it ∈ g.goto s x.code) : it.Fits g (x :: symbols) := by
  rw [Tables.goto] at hit
  rcases List.mem_append.mp hit with hit | hit
  · obtain ⟨old, hold, hit⟩ := List.mem_filterMap.mp hit
    split at hit
    · rename_i hnext
      obtain rfl := Option.some.inj hit
      have hfits := h old hold
      have hcode : (g.codesOf old.production).toList[old.dot]? = some x.code := by
        simpa [Tables.next?] using hnext
      refine ⟨by simpa using hfits.dot_le, ?_, fun hwhole => ?_⟩
      · simp only [List.take_succ_cons, List.reverse_cons, List.map_append, hfits.read,
          List.map_cons, List.map_nil]
        rw [List.take_add_one, hcode, Option.toList_some]
      · simpa using hfits.whole hwhole
    · cases hit
  · obtain ⟨group, hgroup, hit⟩ := List.mem_flatMap.mp hit
    dsimp only at hit
    split at hit
    · cases hit
    · obtain ⟨n, hn, rfl⟩ := List.mem_map.mp hit
      obtain ⟨p, hp, hcode⟩ := hg.starting hgroup hn
      have hlt : n < g.productions.size := (Array.getElem?_eq_some_iff.mp hp).choose
      have hfirst : p.codes.toList[0]? = some x.code := by simpa using hcode
      have htake : p.codes.toList.take 1 = [x.code] := by
        rw [List.take_add_one, hfirst]
        rfl
      refine ⟨by simp, ?_, fun hwhole => absurd hlt (Nat.not_lt.mpr hwhole)⟩
      rw [Tables.codesOf_of_getElem? hp, htake]
      rfl

/-- An item that expects nothing more has read all of its production. -/
theorem Fits.read_all (h : it.Fits g symbols) (hnext : g.next? it = none) :
    it.dot = (g.codesOf it.production).size ∧
      (symbols.take it.dot).reverse.map Symbol.code = (g.codesOf it.production).toList := by
  have hge : (g.codesOf it.production).size ≤ it.dot := by
    simpa [Tables.next?] using hnext
  have hlen := congrArg List.length h.read
  simp only [List.length_map, List.length_reverse, List.length_take, Array.length_toList] at hlen
  have hle := h.dot_le
  refine ⟨by omega, ?_⟩
  rw [h.read, List.take_of_length_le]
  simpa using hge

end Grammar.Item

/-- The symbols on a stack. -/
def symbolsOf (stack : List Entry) : List Symbol := stack.map fun e => e.fragment.symbol

/-- A stack in which every state is right about what lies below it. -/
inductive Viable (g : Tables) : List Entry → Prop
  | nil : Viable g []
  | cons {e : Entry} {stack : List Entry} (rest : Viable g stack)
      (top : ∀ it ∈ e.state, it.Fits g (symbolsOf (e :: stack))) : Viable g (e :: stack)

namespace Viable

variable {g : Tables}

theorem drop {stack : List Entry} (h : Viable g stack) (n : Nat) : Viable g (stack.drop n) := by
  induction n generalizing stack with
  | zero => exact h
  | succ n ih =>
    cases h with
    | nil => exact .nil
    | cons rest top => exact ih rest

/-- The state of a run is right about its stack. -/
theorem fits_state {r : Run} (h : Viable g r.stack) {it : Item} (hit : it ∈ r.state g) :
    it.Fits g (symbolsOf r.stack) := by
  obtain ⟨stack, pos, nesting, lead⟩ := r
  cases h with
  | nil => exact .initial hit
  | cons rest top => exact top it hit

theorem push (hg : g.Faithful) {r : Run} (h : Viable g r.stack) (f : Fragment) :
    Viable g (r.push g f).stack :=
  .cons h fun _ hit => .goto hg (fun _ hold => h.fits_state hold) hit

end Viable

/-- The symbols stay the same where two ways to understand them are compared. -/
theorem symbolsOf_zipWith_prefer {as bs : List Entry} (h : symbolsOf as = symbolsOf bs) :
    symbolsOf (as.zipWith (fun a b => ⟨a.state, a.fragment.prefer b.fragment⟩) bs) =
      symbolsOf as := by
  induction as generalizing bs with
  | nil => rfl
  | cons a as ih =>
    cases bs with
    | nil => cases h
    | cons b bs =>
      obtain ⟨hsymbol, hrest⟩ := List.cons.inj h
      have hprefer : (a.fragment.prefer b.fragment).symbol = a.fragment.symbol := by
        rw [Fragment.prefer]
        split
        · exact hsymbol.symm
        · rfl
      rw [List.zipWith_cons_cons]
      exact List.cons_eq_cons.mpr ⟨hprefer, ih hrest⟩

/-- Whether a state is right depends only on the symbols. -/
theorem Viable.zipWith_prefer {g : Tables} {as bs : List Entry} (ha : Viable g as)
    (h : symbolsOf as = symbolsOf bs) :
    Viable g (as.zipWith (fun a b => ⟨a.state, a.fragment.prefer b.fragment⟩) bs) := by
  induction ha generalizing bs with
  | nil => exact .nil
  | cons rest top ih =>
    cases bs with
    | nil => cases h
    | cons b bs =>
      have hsymbols := symbolsOf_zipWith_prefer h
      rw [List.zipWith_cons_cons] at hsymbols ⊢
      refine .cons (ih (List.cons.inj h).2) fun it hit => ?_
      rw [hsymbols]
      exact top it hit

namespace Grammar.Tables

variable {g : Tables} {s : State} {token : Nat}

/-- Apart from going on, all that can be done is to end an item that has been read. -/
theorem exists_of_mem_actions {action : Action} (h : action ∈ g.actions s token) :
    action = .shift ∨ ∃ it ∈ s, g.next? it = none ∧ action = g.finish it := by
  rw [actions] at h
  dsimp only at h
  rcases List.mem_append.mp h with h | h
  · exact .inl (List.mem_singleton.mp (List.mem_ite_nil_right.mp h).2)
  · obtain ⟨it, hit, rfl⟩ := List.mem_map.mp (List.mem_ite_nil_right.mp h).2
    rw [List.mem_mergeSort] at hit
    have hcompleted : it ∈ g.completed s token := (List.mem_filter.mp hit).1
    rw [completed, List.mem_filter] at hcompleted
    have hnone := (Bool.and_eq_true_iff.mp hcompleted.2).1
    exact .inr ⟨it, hcompleted.1, by simpa using hnone, rfl⟩

/-- Where a production is to be put together, an item has read it. -/
theorem exists_of_reduce_mem_actions {n : Nat} (h : .reduce n ∈ g.actions s token) :
    ∃ it ∈ s, g.next? it = none ∧ it.production = n := by
  rcases exists_of_mem_actions h with h | ⟨it, hit, hnext, h⟩
  · cases h
  · refine ⟨it, hit, hnext, ?_⟩
    rw [finish] at h
    split at h
    · exact (Action.reduce.inj h).symm
    · cases h

/-- Where a text may end, an item about the whole text has read it. -/
theorem exists_of_accept_mem_actions (h : .accept ∈ g.actions s token) :
    ∃ it ∈ s, g.next? it = none ∧ g.productions.size ≤ it.production := by
  rcases exists_of_mem_actions h with h | ⟨it, hit, hnext, h⟩
  · cases h
  · refine ⟨it, hit, hnext, ?_⟩
    rw [finish] at h
    split at h
    · cases h
    · rename_i hge
      exact Nat.not_lt.mp hge

end Grammar.Tables

/-- What holds of everything that two runs have read holds of the preferred understanding of it. -/
theorem Run.forall_mem_prefer {P : Fragment → Prop} {r s : Run} (hr : ∀ e ∈ r.stack, P e.fragment)
    (hs : ∀ e ∈ s.stack, P e.fragment) : ∀ e ∈ (r.prefer s).stack, P e.fragment := by
  intro e he
  rw [Run.prefer, ← List.map_uncurry_zip_eq_zipWith] at he
  obtain ⟨⟨a, b⟩, hab, rfl⟩ := List.mem_map.mp he
  obtain ⟨ha, hb⟩ := List.of_mem_zip hab
  simp only [Function.uncurry_apply_pair, Fragment.prefer]
  split
  · exact hs b hb
  · exact hr a ha

/-- A run that has read what the grammar allows. -/
structure Run.Sound (g : Tables) (r : Run) : Prop where
  viable : Viable g r.stack
  derived : ∀ e ∈ r.stack, e.fragment.Derived
  extras : ∀ t ∈ r.lead, t.IsExtra

namespace Run.Sound

variable {g : Tables} {r : Run}

theorem start : Run.Sound g .start :=
  ⟨.nil, fun _ he => (List.not_mem_nil he).elim, fun _ ht => (List.not_mem_nil ht).elim⟩

theorem push (hg : g.Faithful) (h : r.Sound g) {f : Fragment} (hf : f.Derived) :
    (r.push g f).Sound g := by
  refine ⟨h.viable.push hg f, fun e he => ?_, h.extras⟩
  rcases List.mem_cons.mp he with rfl | he
  · exact hf
  · exact h.derived e he

/-- A production that an item has read lies on the stack. -/
theorem symbols_of_read (hg : g.Faithful) (h : r.Sound g) {it : Item} (hit : it ∈ r.state g)
    (hnext : g.next? it = none) {p : Production} (hp : g.productions[it.production]? = some p) :
    p ∈ allProductions ∧ ((r.stack.take p.steps.size).reverse.map Entry.fragment).map Fragment.symbol =
      p.steps.toList.map Step.symbol := by
  have known : p ∈ allProductions := by
    rw [hg.productions] at hp
    exact List.mem_toArray.mp (Array.mem_of_getElem? hp)
  obtain ⟨hdot, hread⟩ := (h.viable.fits_state hit).read_all hnext
  rw [Tables.codesOf_of_getElem? hp] at hdot hread
  have hsize : p.codes.size = p.steps.size := by
    simpa using congrArg List.length (codes_of_mem known)
  rw [hdot, hsize, codes_of_mem known] at hread
  have hcodes : (((r.stack.take p.steps.size).reverse.map Entry.fragment).map Fragment.symbol).map Symbol.code =
      (p.steps.toList.map Step.symbol).map Symbol.code := by
    simpa [symbolsOf, List.map_take, List.map_reverse, Function.comp_def] using hread
  refine ⟨known, Symbol.map_code_injective hcodes fun x hx => ?_⟩
  obtain ⟨step, hstep, rfl⟩ := List.mem_map.mp hx
  exact isKnown_of_mem known hstep

theorem derived_of_mem_taken (h : r.Sound g) {n : Nat} {f : Fragment}
    (hf : f ∈ (r.stack.take n).reverse.map Entry.fragment) : f.Derived := by
  obtain ⟨e, he, rfl⟩ := List.mem_map.mp hf
  exact h.derived e (List.mem_of_mem_take (List.mem_reverse.mp he))

/-- Taking the symbols of such a production together follows the grammar. -/
theorem reduce (hg : g.Faithful) (h : r.Sound g) {it : Item} (hit : it ∈ r.state g)
    (hnext : g.next? it = none) {p : Production} (hp : g.productions[it.production]? = some p) :
    (r.reduce g p).Sound g := by
  obtain ⟨known, symbols⟩ := h.symbols_of_read hg hit hnext hp
  have rest : Run.Sound g { r with stack := r.stack.drop p.steps.size } :=
    ⟨h.viable.drop _, fun e he => h.derived e (List.mem_of_mem_drop he), h.extras⟩
  exact rest.push hg (.production p _ known symbols fun f hf => h.derived_of_mem_taken hf)

/-- Where a text may end, the stack holds a module or nothing. -/
theorem stack_cases (h : r.Sound g) {it : Item} (hit : it ∈ r.state g) (hnext : g.next? it = none)
    (hwhole : g.productions.size ≤ it.production) :
    r.stack = [] ∨ ∃ e, r.stack = [e] ∧ e.fragment.symbol = .phrase .module := by
  have hfits := h.viable.fits_state hit
  obtain ⟨hdot, hread⟩ := hfits.read_all hnext
  rw [hfits.whole hwhole, List.take_length] at hread
  rw [Tables.codesOf] at hread
  split at hread
  · -- The item about a module is the only one that has something to read.
    have hmodule : symbolsOf r.stack = [.phrase .module] := by
      have hsymbols : (symbolsOf r.stack).reverse = [.phrase .module] :=
        Symbol.map_code_injective hread (by simp [Symbol.isKnown])
      simpa using congrArg List.reverse hsymbols
    right
    simpa [symbolsOf, List.map_eq_singleton_iff] using hmodule
  · have hnone : g.productions[it.production]? = none := by simpa using hwhole
    rw [hnone] at hread
    left
    simpa [symbolsOf] using hread

theorem isModule (h : r.Sound g) {it : Item} (hit : it ∈ r.state g)
    (hnext : g.next? it = none) (hwhole : g.productions.size ≤ it.production) (ending : Terminal)
    (lexeme : Lexeme) : (Parse.root r (.leaf (.token ending) none lexeme)).IsModule := by
  rw [Parse.root]
  rcases h.stack_cases hit hnext hwhole with hstack | ⟨e, hstack, hsymbol⟩
  · rw [hstack, List.flatMap_nil, List.nil_append]
    exact .blank r.lead ending lexeme h.extras
  · have hderived := h.derived e (by rw [hstack]; exact List.mem_singleton_self e)
    rw [hstack, List.flatMap_singleton]
    exact .statements e.fragment r.lead ending lexeme hderived hsymbol h.extras

/-- The more pronounced understanding of each symbol follows the grammar as well. -/
theorem prefer {s : Run} (hr : r.Sound g) (hs : s.Sound g) (hlike : r.isLike s) :
    (r.prefer s).Sound g := by
  have hsymbols : symbolsOf r.stack = symbolsOf s.stack := by
    simp only [isLike, Bool.and_eq_true, beq_iff_eq] at hlike
    exact hlike.1.2
  exact ⟨hr.viable.zipWith_prefer hsymbols, forall_mem_prefer hr.derived hs.derived, hr.extras⟩

end Run.Sound

/-- What holds of an outcome if `R` holds of all runs and `T` of all trees. -/
def Outcome.Keeps (R : Run → Prop) (T : Tree → Prop) : Outcome → Prop
  | .goesOn r => R r
  | .ends t _ => T t
  | .isStuck => True

/-- What comes of a token, and the runs that part on the way. -/
structure Advance.Keeps (R : Run → Prop) (T : Tree → Prop) (a : Advance) : Prop where
  outcome : a.outcome.Keeps R T
  parting : ∀ r ∈ a.parting, R r

/-- A token that is taken for what it is, or a word that is taken for a name. -/
def Token.CountsAs (token : Token) (terminal : Terminal) : Prop :=
  terminal = token.terminal ∨ terminal = .identifier ∧ token.terminal.isWord

/-- A token that a run comes to next, where some tokens are expected. -/
def Run.Meets (src : SourceText) (r : Run) (token : Token) : Prop :=
  ∃ expected, Lexer.token? src expected r.nesting r.pos = some token

namespace Parse

/-- Whatever a parser does to a run for which `R` holds leads to such a run again, or to a tree for
which `T` holds. -/
structure Invariant (g : Tables) (src : SourceText) (R : Run → Prop) (T : Tree → Prop) : Prop where
  shift : ∀ {r : Run} {terminal : Terminal} {token : Token}, R r → r.Meets src token →
    token.CountsAs terminal → terminal.isExtra = false →
    R { r.push g ⟨.token terminal, r.lead, [leaf src r.pos token terminal], 0⟩ with
      pos := token.stop, nesting := token.nesting, lead := [] }
  reduce : ∀ {r : Run} {index n : Nat} {p : Production}, R r → .reduce n ∈ g.actions (r.state g) index →
    g.productions[n]? = some p → R (r.reduce g p)
  accept : ∀ {r : Run} {terminal : Terminal} {token : Token}, R r → r.Meets src token →
    token.CountsAs terminal → .accept ∈ g.actions (r.state g) terminal.index →
    T (root r (leaf src r.pos token terminal))
  extra : ∀ {r : Run} {token : Token}, R r → r.Meets src token → token.terminal.isExtra →
    R { r with
      pos := token.stop, nesting := token.nesting,
      lead := r.lead ++ [leaf src r.pos token token.terminal] }
  prefer : ∀ {r s : Run}, R r → R s → r.isLike s → R (r.prefer s)

namespace Invariant

variable {g : Tables} {src : SourceText} {R : Run → Prop} {T : Tree → Prop}

theorem addTo (hinv : Invariant g src R T) {s : Run} (hs : R s) {runs : List Run}
    (h : ∀ r ∈ runs, R r) : ∀ r ∈ s.addTo runs, R r := by
  induction runs with
  | nil =>
    intro r hr
    rw [List.mem_singleton.mp hr]
    exact hs
  | cons first runs ih =>
    obtain ⟨hfirst, hruns⟩ := List.forall_mem_cons.mp h
    rw [Run.addTo]
    split
    · rename_i hlike
      exact List.forall_mem_cons.mpr ⟨hinv.prefer hfirst hs hlike, hruns⟩
    · exact List.forall_mem_cons.mpr ⟨hfirst, ih hruns⟩

theorem take (hinv : Invariant g src R T) {token : Token} (fuel : Nat) {terminal : Terminal} {r : Run}
    (hcounts : token.CountsAs terminal) (ordinary : terminal.isExtra = false) (hmeets : r.Meets src token)
    (h : R r) : (Parse.take g src token fuel terminal r).Keeps R T := by
  induction fuel generalizing terminal r with
  | zero => exact ⟨trivial, fun _ hr => (List.not_mem_nil hr).elim⟩
  | succ fuel ih =>
    rw [Parse.take]
    split
    · split
      · rename_i hword
        refine ih (.inr ⟨rfl, ?_⟩) rfl hmeets h
        rcases hcounts with rfl | ⟨-, hcounts⟩
        · exact (Bool.and_eq_true_iff.mp hword).1
        · exact hcounts
      · exact ⟨trivial, fun _ hr => (List.not_mem_nil hr).elim⟩
    · rename_i action others hactions
      have parting : ∀ s ∈ others.reverse.filterMap
          (fun other => (g.reduction? other).map (r.reduce g)), R s := by
        intro s hs
        obtain ⟨other, hother, hs⟩ := List.mem_filterMap.mp hs
        obtain ⟨p, hp, rfl⟩ := Option.map_eq_some_iff.mp hs
        have hmem : other ∈ g.actions (r.state g) terminal.index := by
          rw [hactions]
          exact List.mem_cons_of_mem _ (List.mem_reverse.mp hother)
        cases other with
        | reduce n => exact hinv.reduce h hmem hp
        | shift => cases hp
        | accept => cases hp
      have here : action ∈ g.actions (r.state g) terminal.index := by
        rw [hactions]
        exact List.mem_cons_self
      cases action with
      | shift => exact ⟨hinv.shift h hmeets hcounts ordinary, parting⟩
      | accept => exact ⟨hinv.accept h hmeets hcounts here, parting⟩
      | reduce n =>
        dsimp only
        split
        · rename_i p hp
          have hadvance := ih (r := r.reduce g p) hcounts ordinary hmeets (hinv.reduce h here hp)
          refine ⟨hadvance.outcome, fun s hs => ?_⟩
          rcases List.mem_append.mp hs with hs | hs
          · exact parting s hs
          · exact hadvance.parting s hs
        · exact ⟨trivial, parting⟩

theorem advance (hinv : Invariant g src R T) {r : Run} (h : R r) : (Parse.advance g src r).Keeps R T := by
  rw [Parse.advance]
  split
  · exact ⟨trivial, fun _ hr => (List.not_mem_nil hr).elim⟩
  · rename_i token htoken
    have hmeets : r.Meets src token := ⟨_, htoken⟩
    dsimp only
    split
    · rename_i hextra
      exact ⟨hinv.extra h hmeets hextra, fun _ hr => (List.not_mem_nil hr).elim⟩
    · rename_i hordinary
      exact hinv.take _ (.inl rfl) (Bool.eq_false_iff.mpr hordinary) hmeets h

theorem advanceAll (hinv : Invariant g src R T) {runs : List Run} (h : ∀ r ∈ runs, R r) :
    ∀ o ∈ Parse.advanceAll g src runs, o.Keeps R T := by
  have each : ∀ a ∈ runs.map (fun r =>
      if r.pos ≤ runs.foldl (fun least r => min least r.pos) src.size then Parse.advance g src r
      else ⟨.goesOn r, []⟩), a.Keeps R T := by
    intro a ha
    obtain ⟨r, hr, rfl⟩ := List.mem_map.mp ha
    split
    · exact hinv.advance (h r hr)
    · exact ⟨h r hr, fun _ hs => (List.not_mem_nil hs).elim⟩
  intro o ho
  rw [Parse.advanceAll] at ho
  rcases List.mem_append.mp ho with ho | ho
  · obtain ⟨a, ha, rfl⟩ := List.mem_map.mp ho
    exact (each a ha).outcome
  · obtain ⟨a, ha, ho⟩ := List.mem_flatMap.mp ho
    obtain ⟨r, hr, rfl⟩ := List.mem_map.mp ho
    exact (each a ha).parting r hr

end Invariant

theorem of_mem_preferTree {T : Tree → Prop} {best : Option (Tree × Int)} (h : ∀ found ∈ best, T found.1)
    {t : Tree} (ht : T t) (dynamic : Int) : ∀ found ∈ preferTree best t dynamic, T found.1 := by
  intro found hfound
  unfold preferTree at hfound
  split at hfound
  · split at hfound
    · obtain rfl := Option.mem_some.mp hfound
      exact ht
    · exact h found hfound
  · obtain rfl := Option.mem_some.mp hfound
    exact ht

/-- Following runs for which `R` holds finds nothing else than trees for which `T` holds. -/
theorem Invariant.follow {g : Tables} {src : SourceText} {R : Run → Prop} {T : Tree → Prop}
    (hinv : Invariant g src R T) (fuel : Nat) {runs : List Run} {best : Option (Tree × Int)}
    (hruns : ∀ r ∈ runs, R r) (hbest : ∀ found ∈ best, T found.1) :
    ∀ found ∈ Parse.follow g src fuel runs best, T found.1 := by
  fun_induction Parse.follow g src fuel runs best with
  | case1 => exact hbest
  | case2 => exact hbest
  | case3 fuel runs best _ outcomes runs' best' ih =>
    have houtcomes : ∀ o ∈ outcomes, o.Keeps R T := hinv.advanceAll hruns
    refine ih ?_ ?_
    · refine List.foldlRecOn (motive := fun runs => ∀ r ∈ runs, R r) outcomes _ ?_ ?_
      · exact fun _ hr => (List.not_mem_nil hr).elim
      · intro runs h o ho
        have hkeeps := houtcomes o ho
        cases o with
        | goesOn r => exact hinv.addTo hkeeps h
        | ends t dynamic => exact h
        | isStuck => exact h
    · refine List.foldlRecOn (motive := fun best : Option (Tree × Int) => ∀ found ∈ best, T found.1)
        outcomes _ hbest ?_
      intro best h o ho
      have hkeeps := houtcomes o ho
      cases o with
      | goesOn r => exact h
      | ends t dynamic => exact of_mem_preferTree h hkeeps dynamic
      | isStuck => exact h

/-- An invariant of the parser holds of the tree that it finds, if it holds where the parser starts. -/
theorem Invariant.of_ofSource? {src : SourceText} {R : Run → Prop} {T : Tree → Prop}
    (hinv : Invariant tables src R T) (hstart : R .start) {t : Tree}
    (h : Tree.ofSource? src = some t) : T t := by
  obtain ⟨⟨t, dynamic⟩, hfound, rfl⟩ := Option.map_eq_some_iff.mp h
  refine hinv.follow _ ?_ ?_ _ hfound
  · intro r hr
    rw [List.mem_singleton.mp hr]
    exact hstart
  · exact fun _ hfound => (Option.not_mem_none _ hfound).elim

/-- Reading what the grammar allows is an invariant. -/
theorem invariant_sound {g : Tables} (hg : g.Faithful) (src : SourceText) :
    Invariant g src (Run.Sound g) Tree.IsModule where
  shift {r terminal token} h _ _ ordinary := by
    have hpush := h.push hg (.token terminal r.lead
      ⟨src.slice r.pos token.start, src.locAt token.start, src.slice token.start token.stop⟩
      ordinary h.extras)
    exact ⟨hpush.viable, hpush.derived, fun _ ht => (List.not_mem_nil ht).elim⟩
  reduce h haction hp := by
    obtain ⟨it, hit, hnext, rfl⟩ := Tables.exists_of_reduce_mem_actions haction
    exact h.reduce hg hit hnext hp
  accept h _ _ haction := by
    obtain ⟨it, hit, hnext, hwhole⟩ := Tables.exists_of_accept_mem_actions haction
    exact h.isModule hit hnext hwhole _ _
  extra {r token} h _ hextra := by
    refine ⟨h.viable, h.derived, fun t ht => ?_⟩
    rcases List.mem_append.mp ht with ht | ht
    · exact h.extras t ht
    · exact ⟨token.terminal, _, hextra, List.mem_singleton.mp ht⟩
  prefer hr hs hlike := hr.prefer hs hlike

end Parse

/-- The tree of a source text follows the grammar. -/
theorem Tree.isModule_of_ofSource? {src : SourceText} {t : Tree} (h : Tree.ofSource? src = some t) :
    t.IsModule :=
  (Parse.invariant_sound Tables.faithful_tables src).of_ofSource? .start h

end CodeAudit
