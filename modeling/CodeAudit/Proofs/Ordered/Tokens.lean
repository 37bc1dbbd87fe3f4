import CodeAudit.Proofs.Lexing
import CodeAudit.Proofs.Places
import Mathlib.Order.Basic

/-!
# Tokens in order

A parser reads tokens from left to right, and the stack of a run holds them in the order in which they
have been read. Putting symbols together keeps that order. Where two runs are put together, a symbol of
one may come to stand next to a symbol of the other; both runs have read each symbol from the same place
on, which is why the order is kept there too. So the tokens of the tree that is found stand in order.
-/

namespace CodeAudit

open Grammar

namespace Location

/-- Locations are compared by their lines, and by their columns within a line. -/
instance : PartialOrder Location where
  le a b := a.line < b.line ∨ a.line = b.line ∧ a.col ≤ b.col
  le_refl a := .inr ⟨rfl, Nat.le_refl _⟩
  le_trans a b c := by
    intro hab hbc
    omega
  le_antisymm a b := by
    obtain ⟨line, col⟩ := a
    obtain ⟨line', col'⟩ := b
    intro hab hba
    rw [mk.injEq]
    dsimp only at hab hba
    omega

theorem le_iff {a b : Location} : a ≤ b ↔ a.line < b.line ∨ a.line = b.line ∧ a.col ≤ b.col :=
  Iff.rfl

instance (a b : Location) : Decidable (a ≤ b) := decidable_of_iff' _ le_iff

end Location

namespace SourceText

theorem le_advance (l : Location) (c : Char) : l ≤ advance l c := by
  unfold advance
  split
  · exact .inl (Nat.lt_succ_self _)
  · exact .inr ⟨rfl, Nat.le_add_right _ _⟩

/-- The locations that have been worked out so far, and the next one. -/
structure Located (n : Nat) (x : Array Location × Location) : Prop where
  size : x.1.size = n
  sorted : x.1.toList.Pairwise (· ≤ ·)
  last : ∀ l ∈ x.1.toList, l ≤ x.2

theorem Located.push {n : Nat} {x : Array Location × Location} (h : Located n x) (c : Char) :
    Located (n + 1) (x.1.push x.2, advance x.2 c) where
  size := by rw [Array.size_push, h.size]
  sorted := by
    rw [Array.toList_push, List.pairwise_append]
    refine ⟨h.sorted, List.pairwise_singleton _ _, fun l hl m hm => ?_⟩
    rw [List.mem_singleton.mp hm]
    exact h.last l hl
  last := by
    intro l hl
    rw [Array.toList_push] at hl
    rcases List.mem_append.mp hl with hl | hl
    · exact (h.last l hl).trans (le_advance _ _)
    · rw [List.mem_singleton.mp hl]
      exact le_advance _ _

theorem located_foldl (chars : Array Char) {x : Array Location × Location}
    (h : chars.foldl (fun x c => (x.1.push x.2, advance x.2 c)) (#[], ⟨1, 1⟩) = x) :
    Located chars.size x := by
  subst h
  refine Array.foldl_induction Located ?_ ?_
  · exact ⟨rfl, .nil, fun _ hl => (List.not_mem_nil hl).elim⟩
  · exact fun i x hx => hx.push _

/-- Whatever comes later in a source stands at a later location. -/
theorem locAt_le (chars : Array Char) {i j : Nat} (hij : i ≤ j) (hj : j ≤ (ofChars chars).size) :
    (ofChars chars).locAt i ≤ (ofChars chars).locAt j := by
  obtain ⟨hsize, hsorted, -⟩ := (located_foldl chars rfl).push 'a'
  have hlocs : j < (ofChars chars).locs.size := by
    refine Nat.lt_of_lt_of_eq (Nat.lt_succ_of_le hj) ?_
    exact hsize.symm
  rcases Nat.eq_or_lt_of_le hij with rfl | hlt
  · exact le_rfl
  · simp only [locAt, Array.getD_eq_getD_getElem?, Array.getElem?_eq_getElem hlocs,
      Array.getElem?_eq_getElem (Nat.lt_trans hlt hlocs), Option.getD_some]
    exact List.pairwise_iff_getElem.mp hsorted i j _ _ hlt

end SourceText

/-- Tokens that stand one after the other. -/
def InOrder (ls : List Lexeme) : Prop := ls.Pairwise fun a b => a.loc ≤ b.loc

instance (ls : List Lexeme) : Decidable (InOrder ls) := inferInstanceAs (Decidable (List.Pairwise _ _))

namespace InOrder

variable {ls ms : List Lexeme}

theorem append_iff : InOrder (ls ++ ms) ↔ InOrder ls ∧ InOrder ms ∧ ∀ l ∈ ls, ∀ m ∈ ms, l.loc ≤ m.loc :=
  List.pairwise_append

/-- The first token stands before all of them. -/
theorem head?_le (h : InOrder ls) {l : Lexeme} (hl : l ∈ ls) : ∀ first ∈ ls.head?, first.loc ≤ l.loc := by
  intro first hfirst
  cases ls with
  | nil => cases hfirst
  | cons m ms =>
    obtain rfl := Option.some.inj hfirst
    rcases List.mem_cons.mp hl with rfl | hl
    · exact le_rfl
    · exact List.rel_of_pairwise_cons h hl

end InOrder

/-- Blocks of tokens, the last one first, in each of which and between which the tokens are in order. -/
structure BlocksInOrder (blocks : List (List Lexeme)) : Prop where
  each : ∀ b ∈ blocks, InOrder b
  between : blocks.Pairwise fun later earlier => ∀ l ∈ earlier, ∀ first ∈ later.head?, l.loc ≤ first.loc

namespace BlocksInOrder

variable {as bs cs : List (List Lexeme)}

/-- Blocks are in order if and only if all of their tokens are, from the earliest block on. -/
theorem iff_inOrder (blocks : List (List Lexeme)) :
    BlocksInOrder blocks ↔ InOrder blocks.reverse.flatten := by
  have hflatten : InOrder blocks.reverse.flatten ↔ (∀ b ∈ blocks, InOrder b) ∧
      blocks.Pairwise fun later earlier => ∀ l ∈ earlier, ∀ m ∈ later, l.loc ≤ m.loc := by
    simp only [InOrder, List.pairwise_flatten, List.mem_reverse, List.pairwise_reverse]
  rw [hflatten]
  constructor
  · rintro ⟨each, between⟩
    refine ⟨each, between.imp_of_mem fun {later earlier} hlater _ h l hl m hm => ?_⟩
    cases hfirst : later.head? with
    | none =>
      rw [List.head?_eq_none_iff.mp hfirst] at hm
      cases hm
    | some first => exact (h l hl first hfirst).trans ((each later hlater).head?_le hm first hfirst)
  · rintro ⟨each, between⟩
    exact ⟨each, between.imp fun h l hl first hfirst => h l hl first (List.mem_of_head? hfirst)⟩

/-- Each block of a list is taken from one of two others, and these begin their blocks at the same
places. -/
inductive Mixed : List (List Lexeme) → List (List Lexeme) → List (List Lexeme) → Prop
  | nil : Mixed [] [] []
  | cons {a b c : List Lexeme} {as bs cs : List (List Lexeme)} (here : c = a ∨ c = b)
      (start : a.head?.map Lexeme.loc = b.head?.map Lexeme.loc) (rest : Mixed as bs cs) :
      Mixed (a :: as) (b :: bs) (c :: cs)

theorem Mixed.mem (h : Mixed as bs cs) {c : List Lexeme} (hc : c ∈ cs) : c ∈ as ∨ c ∈ bs := by
  induction h with
  | nil => cases hc
  | cons here _ _ ih =>
    rcases List.mem_cons.mp hc with rfl | hc
    · rcases here with rfl | rfl
      · exact .inl List.mem_cons_self
      · exact .inr List.mem_cons_self
    · exact (ih hc).imp (List.mem_cons_of_mem _) (List.mem_cons_of_mem _)

/-- An earlier block ends before the later ones of its own list begin, and these begin where those of
the other list do. -/
theorem mixed (h : Mixed as bs cs) (ha : BlocksInOrder as) (hb : BlocksInOrder bs) : BlocksInOrder cs := by
  refine ⟨fun c hc => (h.mem hc).elim (ha.each c) (hb.each c), ?_⟩
  replace ha := ha.between
  replace hb := hb.between
  induction h with
  | nil => exact .nil
  | @cons a b c as bs cs here start rest ih =>
    obtain ⟨hearlierA, has⟩ := List.pairwise_cons.mp ha
    obtain ⟨hearlierB, hbs⟩ := List.pairwise_cons.mp hb
    refine List.pairwise_cons.mpr ⟨fun earlier he l hl first hfirst => ?_, ih has hbs⟩
    -- The two first tokens may differ, but not where they stand.
    have hloc : a.head?.map Lexeme.loc = some first.loc ∧ b.head?.map Lexeme.loc = some first.loc := by
      rcases here with rfl | rfl
      · rw [← start, hfirst]
        exact ⟨rfl, rfl⟩
      · rw [start, hfirst]
        exact ⟨rfl, rfl⟩
    rcases rest.mem he with he | he
    · obtain ⟨m, hm, heq⟩ := Option.map_eq_some_iff.mp hloc.1
      rw [← heq]
      exact hearlierA earlier he l hl m hm
    · obtain ⟨m, hm, heq⟩ := Option.map_eq_some_iff.mp hloc.2
      rw [← heq]
      exact hearlierB earlier he l hl m hm

end BlocksInOrder

/-- The tokens of a fragment, with the comments before it. -/
def Fragment.lexemes (f : Fragment) : List Lexeme := Tree.lexemesOf (f.lead ++ f.trees)

namespace Tree

theorem lexemesOf_append (ts us : List Tree) : lexemesOf (ts ++ us) = lexemesOf ts ++ lexemesOf us := by
  simp only [lexemesOf_eq_flatMap, List.flatMap_append]

end Tree

/-- Putting symbols together keeps their tokens. -/
theorem Fragment.lexemes_ofProduction (p : Production) {parts : List Fragment}
    (h : parts.length ≤ p.steps.size) : (ofProduction p parts).lexemes = parts.flatMap lexemes := by
  have hrest : ∀ (parts : List Fragment) (steps : List Step), parts.length ≤ steps.length →
      Tree.lexemesOf ((parts.zip steps).flatMap fun x => x.1.lead ++ x.1.shown x.2.marks) =
        parts.flatMap lexemes := by
    intro parts
    induction parts with
    | nil => exact fun _ _ => rfl
    | cons f parts ih =>
      intro steps hle
      cases steps with
      | nil => cases hle
      | cons s steps =>
        rw [List.zip_cons_cons, List.flatMap_cons, List.flatMap_cons, Tree.lexemesOf_append,
          ih steps (Nat.le_of_succ_le_succ hle), Tree.lexemesOf_append, lexemesOf_shown, lexemes,
          Tree.lexemesOf_append]
  have hlength : parts.length ≤ p.steps.toList.length := by simpa using h
  rw [lexemes, ← hrest parts p.steps.toList hlength, trees_ofProduction]
  cases parts with
  | nil => rfl
  | cons f parts =>
    cases hsteps : p.steps.toList with
    | nil =>
      rw [hsteps] at hlength
      cases hlength
    | cons s steps =>
      rw [List.zip_cons_cons, List.flatMap_cons, List.append_assoc]
      rfl

namespace Run

/-- The tokens of a run, block by block, the last one first. -/
def blocks (r : Run) : List (List Lexeme) :=
  Tree.lexemesOf r.lead :: r.stack.map fun e => e.fragment.lexemes

/-- The tokens that a run has read. -/
def lexemes (r : Run) : List Lexeme := r.blocks.reverse.flatten

theorem lexemes_eq (r : Run) :
    r.lexemes = (r.stack.reverse.flatMap fun e => e.fragment.lexemes) ++ Tree.lexemesOf r.lead := by
  rw [lexemes, blocks, List.reverse_cons, List.flatten_append, ← List.map_reverse, List.flatten_singleton]
  rfl

/-- Putting symbols together keeps what has been read. -/
theorem lexemes_reduce (g : Tables) (r : Run) (p : Production) : (r.reduce g p).lexemes = r.lexemes := by
  have hlength : ((r.stack.take p.steps.size).reverse.map Entry.fragment).length ≤ p.steps.size := by
    rw [List.length_map, List.length_reverse]
    exact List.length_take_le _ _
  have hstack : (r.reduce g p).stack.reverse.flatMap (fun e => e.fragment.lexemes) =
      ((r.stack.drop p.steps.size).reverse.flatMap fun e => e.fragment.lexemes) ++
        (r.stack.take p.steps.size).reverse.flatMap fun e => e.fragment.lexemes := by
    rw [reduce, push, List.reverse_cons, List.flatMap_append, List.flatMap_singleton,
      Fragment.lexemes_ofProduction p hlength, List.flatMap_map]
  rw [lexemes_eq, hstack, ← List.flatMap_append, ← List.reverse_append, List.take_append_drop, lexemes_eq]
  rfl

/-- A run that has read its tokens in order, and none beyond the place that it has come to. -/
structure InOrder (src : SourceText) (r : Run) : Prop where
  within : r.pos ≤ src.size
  sorted : CodeAudit.InOrder r.lexemes
  before : ∀ l ∈ r.lexemes, l.loc ≤ src.locAt r.pos

namespace InOrder

variable {src : SourceText} {r s : Run}

/-- A token that a run comes to next stands after all that it has read. -/
theorem append (hsrc : ∀ {i j : Nat}, i ≤ j → j ≤ src.size → src.locAt i ≤ src.locAt j)
    (h : r.InOrder src) {token : Token} (hmeets : r.Meets src token) (terminal : Terminal) :
    CodeAudit.InOrder (r.lexemes ++ (Parse.leaf src r.pos token terminal).lexemes) := by
  obtain ⟨expected, htoken⟩ := hmeets
  obtain ⟨hle, hspans⟩ := Lexer.follows_token? h.within htoken
  refine CodeAudit.InOrder.append_iff.mpr ⟨h.sorted, List.pairwise_singleton _ _, fun l hl m hm => ?_⟩
  rw [List.mem_singleton.mp hm]
  exact (h.before l hl).trans (hsrc hle (Nat.le_trans hspans.le hspans.le_size))

/-- A run that adds such a token is in order again. -/
theorem next (hsrc : ∀ {i j : Nat}, i ≤ j → j ≤ src.size → src.locAt i ≤ src.locAt j)
    (h : r.InOrder src) {token : Token} (hmeets : r.Meets src token) (terminal : Terminal)
    (hpos : s.pos = token.stop)
    (hlexemes : s.lexemes = r.lexemes ++ (Parse.leaf src r.pos token terminal).lexemes) :
    s.InOrder src := by
  have hsorted := h.append hsrc hmeets terminal
  obtain ⟨expected, htoken⟩ := hmeets
  obtain ⟨hle, hspans⟩ := Lexer.follows_token? h.within htoken
  refine ⟨hpos ▸ hspans.le_size, hlexemes ▸ hsorted, fun l hl => ?_⟩
  rw [hlexemes] at hl
  rw [hpos]
  rcases List.mem_append.mp hl with hl | hl
  · exact (h.before l hl).trans (hsrc (Nat.le_trans hle hspans.le) hspans.le_size)
  · rw [List.mem_singleton.mp hl]
    exact hsrc hspans.le hspans.le_size

end InOrder

/-- Where one of two symbols is preferred at each place, its tokens are those of one of the two. -/
theorem mixed_zipWith_prefer {as bs : List Entry}
    (h : as.map (fun e => e.fragment.start?) = bs.map (fun e => e.fragment.start?)) :
    BlocksInOrder.Mixed (as.map fun e => e.fragment.lexemes) (bs.map fun e => e.fragment.lexemes)
      ((as.zipWith (fun a b => Entry.mk a.state (a.fragment.prefer b.fragment)) bs).map
        fun e => e.fragment.lexemes) := by
  induction as generalizing bs with
  | nil =>
    rw [List.map_eq_nil_iff.mp h.symm]
    exact .nil
  | cons a as ih =>
    cases bs with
    | nil => cases h
    | cons b bs =>
      obtain ⟨hstart, hrest⟩ := List.cons.inj h
      refine .cons ?_ ?_ (ih hrest)
      · show (a.fragment.prefer b.fragment).lexemes = _ ∨ (a.fragment.prefer b.fragment).lexemes = _
        rw [Fragment.prefer]
        split
        · exact .inr rfl
        · exact .inl rfl
      · simpa only [Fragment.lexemes, Tree.head?_lexemesOf, Fragment.start?] using hstart

theorem mixed_prefer {r s : Run} (h : r.isLike s) :
    BlocksInOrder.Mixed r.blocks s.blocks (r.prefer s).blocks := by
  have hstarts : r.starts = s.starts := by
    simp only [isLike, Bool.and_eq_true, beq_iff_eq] at h
    exact h.2
  obtain ⟨hlead, hstack⟩ := List.cons.inj hstarts
  rw [← Tree.head?_lexemesOf, ← Tree.head?_lexemesOf] at hlead
  exact .cons (.inl rfl) hlead (mixed_zipWith_prefer hstack)

theorem InOrder.prefer {src : SourceText} {r s : Run} (hr : r.InOrder src) (hs : s.InOrder src)
    (h : r.isLike s) : (r.prefer s).InOrder src := by
  have hpos : r.pos = s.pos := by
    simp only [isLike, Bool.and_eq_true, beq_iff_eq] at h
    exact h.1.1.1.1
  have hmixed := mixed_prefer h
  have hblocks := BlocksInOrder.mixed hmixed ((BlocksInOrder.iff_inOrder _).mpr hr.sorted)
    ((BlocksInOrder.iff_inOrder _).mpr hs.sorted)
  refine ⟨hr.within, (BlocksInOrder.iff_inOrder _).mp hblocks, fun l hl => ?_⟩
  have hmem {r : Run} {b : List Lexeme} (hb : b ∈ r.blocks) (hl : l ∈ b) : l ∈ r.lexemes :=
    List.mem_flatten.mpr ⟨b, List.mem_reverse.mpr hb, hl⟩
  obtain ⟨b, hb, hlb⟩ := List.mem_flatten.mp hl
  show l.loc ≤ src.locAt r.pos
  rcases hmixed.mem (List.mem_reverse.mp hb) with hb | hb
  · exact hr.before l (hmem hb hlb)
  · rw [hpos]
    exact hs.before l (hmem hb hlb)

end Run

/-- The tokens of a tree stand one after the other. -/
def Tree.InOrder (t : Tree) : Prop := CodeAudit.InOrder t.lexemes

instance (t : Tree) : Decidable t.InOrder := inferInstanceAs (Decidable (CodeAudit.InOrder t.lexemes))

namespace Parse

/-- What has been read stands in order. Where a text ends, one symbol at most is left, so that the tree
of the text has the tokens of the run. -/
theorem invariant_inOrder {g : Tables} (hg : g.Faithful) {src : SourceText}
    (hsrc : ∀ {i j : Nat}, i ≤ j → j ≤ src.size → src.locAt i ≤ src.locAt j) :
    Invariant g src (fun r => r.Sound g ∧ r.InOrder src) Tree.InOrder where
  shift {r terminal token} h hmeets hcounts ordinary := by
    refine ⟨(invariant_sound hg src).shift h.1 hmeets hcounts ordinary,
      h.2.next hsrc hmeets terminal rfl ?_⟩
    simp only [Run.lexemes_eq, Run.push, List.reverse_cons, List.flatMap_append, List.flatMap_singleton,
      Fragment.lexemes, Tree.lexemesOf_append, Tree.lexemesOf, List.append_nil, List.append_assoc]
  reduce {r index n p} h haction hp := by
    refine ⟨(invariant_sound hg src).reduce h.1 haction hp, h.2.within, ?_, fun l hl => ?_⟩
    · rw [Run.lexemes_reduce]
      exact h.2.sorted
    · rw [Run.lexemes_reduce] at hl
      exact h.2.before l hl
  accept {r terminal token} h hmeets _ haction := by
    obtain ⟨it, hit, hnext, hwhole⟩ := Tables.exists_of_accept_mem_actions haction
    have hstack : r.stack.reverse = r.stack := by
      rcases h.1.stack_cases hit hnext hwhole with hstack | ⟨e, hstack, -⟩ <;> rw [hstack] <;> rfl
    have hlexemes : (root r (leaf src r.pos token terminal)).lexemes =
        r.lexemes ++ (leaf src r.pos token terminal).lexemes := by
      simp only [Run.lexemes_eq, hstack, root, Tree.lexemes, Tree.lexemesOf_append, Tree.lexemesOf,
        List.append_nil]
      simp only [Tree.lexemesOf_eq_flatMap, List.flatMap_assoc, Fragment.lexemes]
    rw [Tree.InOrder, hlexemes]
    exact h.2.append hsrc hmeets terminal
  extra {r token} h hmeets hextra := by
    refine ⟨(invariant_sound hg src).extra h.1 hmeets hextra,
      h.2.next hsrc hmeets token.terminal rfl ?_⟩
    simp only [Run.lexemes_eq, Tree.lexemesOf_append, Tree.lexemesOf, List.append_nil, List.append_assoc]
  prefer hr hs hlike := ⟨(invariant_sound hg src).prefer hr.1 hs.1 hlike, hr.2.prefer hs.2 hlike⟩

end Parse

/-- The tokens of a source stand one after the other in its tree. -/
theorem Tree.inOrder_of_ofSource? {chars : Array Char} {t : Tree}
    (h : Tree.ofSource? (.ofChars chars) = some t) : t.InOrder := by
  have hinv := Parse.invariant_inOrder Tables.faithful_tables (SourceText.locAt_le chars)
  refine hinv.of_ofSource? ⟨.start, Nat.zero_le _, .nil, fun _ hl => ?_⟩ h
  exact (List.not_mem_nil hl).elim

end CodeAudit
