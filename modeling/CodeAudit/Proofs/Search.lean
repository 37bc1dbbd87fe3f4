import CodeAudit.Regex.Search
import Mathlib.Data.Finset.Card
import Mathlib.Data.Finset.Range
import Mathlib.Data.Nat.Bitwise

/-!
# What a search finds

`Regex.Matches` says which pieces of a text an expression describes, without an order among them and
without a strategy. The places that `Regex.ends` lists are exactly the ends of these pieces. For a
repetition this is the correctness of a search through a graph whose nodes are the places of the text:
what is listed can be reached, and since no place is left before all its rounds have been followed,
what can be reached is listed.
-/

namespace CodeAudit.Regex

/-- So many rounds lead from one place to another. -/
def Repeats (round : Nat → Nat → Prop) : Nat → Nat → Nat → Prop
  | 0, i, k => i = k
  | n + 1, i, k => ∃ j, round i j ∧ Repeats round n j k

namespace Repeats

variable {round round' : Nat → Nat → Prop} {m n i j k : Nat}

theorem append (h : Repeats round m i j) (h' : Repeats round n j k) : Repeats round (m + n) i k := by
  induction m generalizing i with
  | zero =>
    obtain rfl : i = j := h
    rwa [Nat.zero_add]
  | succ m ih =>
    obtain ⟨next, hround, hrest⟩ := h
    rw [Nat.succ_add]
    exact ⟨next, hround, ih hrest⟩

theorem single (h : round i j) : Repeats round 1 i j := ⟨j, h, rfl⟩

theorem exists_append (h : Repeats round (m + n) i k) :
    ∃ j, Repeats round m i j ∧ Repeats round n j k := by
  induction m generalizing i with
  | zero => exact ⟨i, rfl, by rwa [Nat.zero_add] at h⟩
  | succ m ih =>
    rw [Nat.succ_add] at h
    obtain ⟨next, hround, hrest⟩ := h
    obtain ⟨j, hm, hn⟩ := ih hrest
    exact ⟨j, ⟨next, hround, hm⟩, hn⟩

theorem le {size : Nat} (h : Repeats round n i k) (hround : ∀ i j, round i j → i ≤ size → j ≤ size)
    (hi : i ≤ size) : k ≤ size := by
  induction n generalizing i with
  | zero =>
    obtain rfl : i = k := h
    exact hi
  | succ n ih =>
    obtain ⟨j, hfirst, hrest⟩ := h
    exact ih hrest (hround i j hfirst hi)

/-- Rounds need to agree only inside the text, if they stay there. -/
theorem congr {size : Nat} (hround : ∀ i j, round i j → i ≤ size → j ≤ size)
    (hsame : ∀ i ≤ size, ∀ j, round i j ↔ round' i j) (hi : i ≤ size) :
    Repeats round n i k ↔ Repeats round' n i k := by
  induction n generalizing i with
  | zero => exact Iff.rfl
  | succ n ih =>
    constructor
    · rintro ⟨j, hfirst, hrest⟩
      exact ⟨j, (hsame i hi j).mp hfirst, (ih (hround i j hfirst hi)).mp hrest⟩
    · rintro ⟨j, hfirst, hrest⟩
      have hfirst := (hsame i hi j).mpr hfirst
      exact ⟨j, hfirst, (ih (hround i j hfirst hi)).mpr hrest⟩

end Repeats

/-- The piece of a text between two places is described by an expression. -/
def Matches (text : Array Char) : Regex → Nat → Nat → Prop
  | empty, i, k => i = k
  | set s, i, k => ∃ c, text[i]? = some c ∧ s.contains c ∧ k = i + 1
  | look l, i, k => l.holds text i ∧ i = k
  | seq a b, i, k => ∃ j, Matches text a i j ∧ Matches text b j k
  | alt a b, i, k => Matches text a i k ∨ Matches text b i k
  | rep min max _ body, i, k =>
    ∃ more, (∀ m ∈ max, more ≤ m - min) ∧ Repeats (Matches text body) (min + more) i k

/-! ### Sets of places -/

theorem testBit_mark (n i j : Nat) : (n ||| (1 <<< i)).testBit j ↔ n.testBit j ∨ j = i := by
  rw [Nat.testBit_or, Nat.one_shiftLeft, Nat.testBit_two_pow, Bool.or_eq_true, decide_eq_true_iff]
  exact or_congr Iff.rfl eq_comm

namespace Places

variable {p : Places}

/-- The bits tell which places have been found. -/
def Sound (p : Places) : Prop := ∀ i, p.bits.testBit i ↔ i ∈ p.found

theorem sound_empty : empty.Sound := by
  intro i
  simp [empty]

theorem Sound.add (h : p.Sound) (i : Nat) : (p.add i).Sound := by
  unfold Places.add
  split
  · exact h
  · intro j
    rw [testBit_mark, h j, List.mem_cons, or_comm]

theorem Sound.mem_add (h : p.Sound) {i j : Nat} : j ∈ (p.add i).toList ↔ j ∈ p.toList ∨ j = i := by
  unfold Places.add toList
  split
  · rename_i hbit
    simp only [List.mem_reverse]
    constructor
    · exact .inl
    · rintro (hj | rfl)
      · exact hj
      · exact (h j).mp hbit
  · simp [or_comm]

end Places

theorem mem_distinct {is : List Nat} {j : Nat} : j ∈ distinct is ↔ j ∈ is := by
  have hfold : ∀ (is : List Nat) (p : Places), p.Sound →
      (is.foldl Places.add p).Sound ∧
        ∀ j, j ∈ (is.foldl Places.add p).toList ↔ j ∈ p.toList ∨ j ∈ is := by
    intro is
    induction is with
    | nil => exact fun p hp => ⟨hp, by simp⟩
    | cons i is ih =>
      intro p hp
      obtain ⟨hsound, hmem⟩ := ih (p.add i) (hp.add i)
      refine ⟨hsound, fun j => ?_⟩
      rw [List.foldl_cons, hmem, hp.mem_add, List.mem_cons, or_assoc]
  rw [distinct, (hfold is .empty Places.sound_empty).2]
  simp [Places.empty, Places.toList]

/-! ### Repetitions without an upper bound -/

/-- The places of a text where no rounds have started. -/
def Rounds.fresh (size : Nat) (s : Rounds) : Finset Nat :=
  (Finset.range (size + 1)).filter fun p => ¬ s.started.testBit p

/-- What exploring from a place does to the state: nothing is lost, and what is new is finished. All
rounds from a place that is new have ended somewhere, a round that has newly ended has been followed
further, and each new end can be reached. -/
structure Explores (step : Nat → List Nat) (reach : Nat → Prop) (s s' : Rounds) : Prop where
  sound : s'.ends.Sound
  started : ∀ p, s.started.testBit p → s'.started.testBit p
  ended : ∀ p, s.ended.testBit p → s'.ended.testBit p
  ends : ∀ p ∈ s.ends.toList, p ∈ s'.ends.toList
  followed : ∀ p, s'.started.testBit p → s.started.testBit p ∨ ∀ j ∈ step p, s'.ended.testBit j
  settled : ∀ j, s'.ended.testBit j →
    s.ended.testBit j ∨ s'.started.testBit j ∧ j ∈ s'.ends.toList
  reached : ∀ j ∈ s'.ends.toList, j ∈ s.ends.toList ∨ reach j

namespace Explores

variable {step : Nat → List Nat} {reach reach' : Nat → Prop} {s s' s'' : Rounds}

theorem refl (h : s.ends.Sound) : Explores step reach s s where
  sound := h
  started _ := id
  ended _ := id
  ends _ := id
  followed _ := .inl
  settled _ := .inl
  reached _ := .inl

theorem trans (h : Explores step reach s s') (h' : Explores step reach s' s'') :
    Explores step reach s s'' where
  sound := h'.sound
  started p hp := h'.started p (h.started p hp)
  ended p hp := h'.ended p (h.ended p hp)
  ends p hp := h'.ends p (h.ends p hp)
  followed p hp := by
    rcases h'.followed p hp with hp | hp
    · exact (h.followed p hp).imp_right fun hall j hj => h'.ended j (hall j hj)
    · exact .inr hp
  settled j hj := by
    rcases h'.settled j hj with hj | hj
    · exact (h.settled j hj).imp_right fun hdone => ⟨h'.started j hdone.1, h'.ends j hdone.2⟩
    · exact .inr hj
  reached j hj := by
    rcases h'.reached j hj with hj | hj
    · exact h.reached j hj
    · exact .inr hj

theorem mono (h : Explores step reach s s') (himp : ∀ j, reach j → reach' j) :
    Explores step reach' s s' :=
  { h with reached := fun j hj => (h.reached j hj).imp_right (himp j) }

theorem fresh_subset (h : Explores step reach s s') (size : Nat) : s'.fresh size ⊆ s.fresh size := by
  intro p hp
  simp only [Rounds.fresh, Finset.mem_filter] at hp ⊢
  exact ⟨hp.1, fun hs => hp.2 (h.started p hs)⟩

/-- From the empty state on everything is new, and so everything is finished. -/
theorem mem_of_repeats (h : Explores step reach ⟨0, 0, .empty⟩ s') {n i k : Nat}
    (hstarted : s'.started.testBit i) (hrounds : Repeats (fun i j => j ∈ step i) (n + 1) i k) :
    k ∈ s'.ends.toList := by
  induction n generalizing i with
  | zero =>
    obtain ⟨j, hj, rfl⟩ := hrounds
    have hended := (h.followed i hstarted).resolve_left (by simp) j hj
    exact ((h.settled j hended).resolve_left (by simp)).2
  | succ n ih =>
    obtain ⟨j, hj, hrest⟩ := hrounds
    have hended := (h.followed i hstarted).resolve_left (by simp) j hj
    exact ih ((h.settled j hended).resolve_left (by simp)).1 hrest

end Explores

/-- Follows one round to its end, as `explore` does. -/
def visitEnd (step : Nat → List Nat) (greedy : Bool) (fuel : Nat) (s : Rounds) (j : Nat) : Rounds :=
  if s.ended.testBit j then s
  else
    let s := { s with ended := s.ended ||| (1 <<< j) }
    if greedy then
      let s := explore step greedy fuel j s
      { s with ends := s.ends.add j }
    else explore step greedy fuel j { s with ends := s.ends.add j }

theorem explore_succ (step : Nat → List Nat) (greedy : Bool) (fuel i : Nat) (s : Rounds) :
    explore step greedy (fuel + 1) i s =
      if s.started.testBit i then s
      else (step i).foldl (visitEnd step greedy fuel)
        { s with started := s.started ||| (1 <<< i) } := rfl

section Explore

variable {step : Nat → List Nat} {greedy : Bool} {size : Nat}

/-- Some rounds, at least one, lead from one place to another. -/
def Reaches (step : Nat → List Nat) (i k : Nat) : Prop :=
  ∃ n, Repeats (fun i j => j ∈ step i) (n + 1) i k

theorem Reaches.single {i j : Nat} (h : j ∈ step i) : Reaches step i j := ⟨0, .single h⟩

theorem Reaches.head {i j k : Nat} (h : j ∈ step i) (h' : Reaches step j k) : Reaches step i k := by
  obtain ⟨n, hn⟩ := h'
  exact ⟨n + 1, j, h, hn⟩

/-- What is known of exploring with some fuel. -/
def ExploresAll (step : Nat → List Nat) (greedy : Bool) (size fuel : Nat) : Prop :=
  ∀ i s, i ≤ size → s.ends.Sound → (s.fresh size).card < fuel →
    Explores step (Reaches step i) s (explore step greedy fuel i s) ∧
      (explore step greedy fuel i s).started.testBit i

theorem ExploresAll.visitEnd {fuel : Nat} (ih : ExploresAll step greedy size fuel) {s : Rounds}
    {j : Nat} (hj : j ≤ size) (hs : s.ends.Sound) (hfuel : (s.fresh size).card < fuel) :
    Explores step (fun k => k = j ∨ Reaches step j k) s (visitEnd step greedy fuel s j) ∧
      (Regex.visitEnd step greedy fuel s j).ended.testBit j := by
  unfold Regex.visitEnd
  split
  · rename_i hended
    exact ⟨.refl hs, hended⟩
  · cases greedy with
    | true =>
      obtain ⟨h, hstarted⟩ := ih j { s with ended := s.ended ||| (1 <<< j) } hj hs hfuel
      refine ⟨?_, h.ended j ((testBit_mark ..).mpr (.inr rfl))⟩
      constructor
      · exact h.sound.add j
      · exact h.started
      · exact fun p hp => h.ended p ((testBit_mark ..).mpr (.inl hp))
      · exact fun p hp => h.sound.mem_add.mpr (.inl (h.ends p hp))
      · exact h.followed
      · intro k hk
        rcases h.settled k hk with hk | ⟨hk, hmem⟩
        · rcases (testBit_mark ..).mp hk with hk | rfl
          · exact .inl hk
          · exact .inr ⟨hstarted, h.sound.mem_add.mpr (.inr rfl)⟩
        · exact .inr ⟨hk, h.sound.mem_add.mpr (.inl hmem)⟩
      · intro k hk
        rcases h.sound.mem_add.mp hk with hk | rfl
        · exact (h.reached k hk).imp_right .inr
        · exact .inr (.inl rfl)
    | false =>
      obtain ⟨h, hstarted⟩ := ih j
        { s with ended := s.ended ||| (1 <<< j), ends := s.ends.add j } hj (hs.add j) hfuel
      refine ⟨?_, h.ended j ((testBit_mark ..).mpr (.inr rfl))⟩
      constructor
      · exact h.sound
      · exact h.started
      · exact fun p hp => h.ended p ((testBit_mark ..).mpr (.inl hp))
      · exact fun p hp => h.ends p (hs.mem_add.mpr (.inl hp))
      · exact h.followed
      · intro k hk
        rcases h.settled k hk with hk | hk
        · rcases (testBit_mark ..).mp hk with hk | rfl
          · exact .inl hk
          · exact .inr ⟨hstarted, h.ends k (hs.mem_add.mpr (.inr rfl))⟩
        · exact .inr hk
      · intro k hk
        rcases h.reached k hk with hk | hk
        · exact (hs.mem_add.mp hk).imp_right .inl
        · exact .inr (.inr hk)

theorem ExploresAll.foldl_visitEnd {fuel : Nat} (ih : ExploresAll step greedy size fuel)
    {js : List Nat} (hjs : ∀ j ∈ js, j ≤ size) {s : Rounds} (hs : s.ends.Sound)
    (hfuel : (s.fresh size).card < fuel) :
    Explores step (fun k => ∃ j ∈ js, k = j ∨ Reaches step j k) s
        (js.foldl (Regex.visitEnd step greedy fuel) s) ∧
      ∀ j ∈ js, (js.foldl (Regex.visitEnd step greedy fuel) s).ended.testBit j := by
  induction js generalizing s with
  | nil => exact ⟨.refl hs, nofun⟩
  | cons j js ihjs =>
    rw [List.forall_mem_cons] at hjs
    obtain ⟨hfirst, hended⟩ := ih.visitEnd hjs.1 hs hfuel
    have hcard := Finset.card_le_card (hfirst.fresh_subset size)
    obtain ⟨hrest, hall⟩ := ihjs hjs.2 hfirst.sound (by omega)
    constructor
    · refine Explores.trans (hfirst.mono fun k hk => ?_) (hrest.mono fun k hk => ?_)
      · exact ⟨j, List.mem_cons_self, hk⟩
      · obtain ⟨j', hj', hk⟩ := hk
        exact ⟨j', List.mem_cons_of_mem _ hj', hk⟩
    · rw [List.forall_mem_cons]
      exact ⟨hrest.ended j hended, hall⟩

/-- Exploring finishes what it begins, if there is a round of fuel for every place. -/
theorem exploresAll (greedy : Bool) (hstep : ∀ i ≤ size, ∀ j ∈ step i, j ≤ size) (fuel : Nat) :
    ExploresAll step greedy size fuel := by
  induction fuel with
  | zero => exact fun i s _ _ hfuel => absurd hfuel (Nat.not_lt_zero _)
  | succ fuel ih =>
    intro i s hi hs hfuel
    rw [explore_succ]
    split
    · rename_i hstarted
      exact ⟨.refl hs, hstarted⟩
    · rename_i hfresh
      -- Marking the place leaves one fresh place less for the rounds from it.
      have hless : (Rounds.fresh size { s with started := s.started ||| (1 <<< i) }).card <
          (s.fresh size).card := by
        apply Finset.card_lt_card
        rw [Finset.ssubset_iff_of_subset]
        · refine ⟨i, ?_, ?_⟩
          · simp only [Rounds.fresh, Finset.mem_filter, Finset.mem_range]
            exact ⟨by omega, hfresh⟩
          · simp [Rounds.fresh]
        · intro p hp
          simp only [Rounds.fresh, Finset.mem_filter, testBit_mark, not_or] at hp ⊢
          exact ⟨hp.1, hp.2.1⟩
      obtain ⟨h, hall⟩ := ih.foldl_visitEnd (s := { s with started := s.started ||| (1 <<< i) })
        (hstep i hi) hs (by omega)
      have hself := h.started i ((testBit_mark ..).mpr (.inr rfl))
      refine ⟨?_, hself⟩
      constructor
      · exact h.sound
      · exact fun p hp => h.started p ((testBit_mark ..).mpr (.inl hp))
      · exact h.ended
      · exact h.ends
      · intro p hp
        rcases h.followed p hp with hp | hp
        · rcases (testBit_mark ..).mp hp with hp | rfl
          · exact .inl hp
          · exact .inr hall
        · exact .inr hp
      · exact h.settled
      · intro k hk
        rcases h.reached k hk with hk | ⟨j, hj, rfl | hk⟩
        · exact .inl hk
        · exact .inr (.single hj)
        · exact .inr (.head hj hk)

/-- The ends that are listed are those that some rounds lead to. -/
theorem mem_oneOrMore (hstep : ∀ i ≤ size, ∀ j ∈ step i, j ≤ size) {i k : Nat} (hi : i ≤ size) :
    k ∈ oneOrMore step greedy size i ↔ Reaches step i k := by
  have hfuel : (Rounds.fresh size ⟨0, 0, .empty⟩).card < size + 2 := by
    have := Finset.card_filter_le (Finset.range (size + 1)) fun p => ¬ (0 : Nat).testBit p
    rw [Finset.card_range] at this
    exact Nat.lt_succ_of_le this
  obtain ⟨h, hstarted⟩ := exploresAll greedy hstep (size + 2) i ⟨0, 0, .empty⟩ hi
    Places.sound_empty hfuel
  constructor
  · intro hk
    exact (h.reached k hk).resolve_left nofun
  · rintro ⟨n, hn⟩
    exact h.mem_of_repeats hstarted hn

end Explore

/-! ### Repetitions with bounds -/

section Bounded

variable {step : Nat → List Nat} {greedy : Bool} {size : Nat}

/-- If a further round changes nothing, then no number of rounds does. -/
theorem exists_repeats_of_stable {is : List Nat} (hstable : ∀ k, k ∈ is ↔ ∃ i ∈ is, k ∈ step i) (n : Nat)
    {k : Nat} : k ∈ is ↔ ∃ i ∈ is, Repeats (fun i j => j ∈ step i) n i k := by
  induction n with
  | zero => simp [Repeats]
  | succ n ih =>
    rw [ih]
    constructor
    · rintro ⟨i, hi, hrest⟩
      obtain ⟨h, hh, hround⟩ := (hstable i).mp hi
      exact ⟨h, hh, i, hround, hrest⟩
    · rintro ⟨i, hi, j, hround, hrest⟩
      exact ⟨j, (hstable j).mpr ⟨i, hi, hround⟩, hrest⟩

theorem mem_exactly {n : Nat} {is : List Nat} {k : Nat} :
    k ∈ exactly step n is ↔ ∃ i ∈ is, Repeats (fun i j => j ∈ step i) n i k := by
  induction n generalizing is with
  | zero => simp [exactly, Repeats]
  | succ n ih =>
    have hnext : ∀ j, j ∈ distinct (is.flatMap step) ↔ ∃ i ∈ is, j ∈ step i := by
      simp [mem_distinct]
    unfold exactly
    simp only [beq_iff_eq]
    split
    · rename_i hsame
      refine exists_repeats_of_stable (fun k => ?_) _
      rw [← hnext, hsame]
    · rw [ih]
      constructor
      · rintro ⟨j, hj, hrest⟩
        obtain ⟨i, hi, hround⟩ := (hnext j).mp hj
        exact ⟨i, hi, j, hround, hrest⟩
      · rintro ⟨i, hi, j, hround, hrest⟩
        exact ⟨j, (hnext j).mpr ⟨i, hi, hround⟩, hrest⟩

/-- The bit for a number of rounds that are left at a place. -/
theorem mark_inj {width m n p i : Nat} (hp : p < width) (hi : i < width)
    (h : m * width + p = n * width + i) : m = n ∧ p = i := by
  have hplace : p = i := by
    have hmod := congrArg (· % width) h
    simpa [Nat.mul_add_mod_self_right, Nat.mod_eq_of_lt hp, Nat.mod_eq_of_lt hi] using hmod
  subst hplace
  exact ⟨Nat.eq_of_mul_eq_mul_right (Nat.zero_lt_of_lt hp) (Nat.add_right_cancel h), rfl⟩

/-- All that up to so many rounds from a place lead to is listed or is going to be. -/
def Tries.Done (size : Nat) (s : Tries) : Nat → Nat → Prop
  | 0, i => i ∈ s.ends.toList
  | n + 1, i => s.looked.testBit ((n + 1) * (size + 1) + i)

theorem Tries.Done.add {s : Tries} (hs : s.ends.Sound) {n j : Nat} (h : s.Done size n j) (i : Nat) :
    Tries.Done size { s with ends := s.ends.add i } n j := by
  cases n with
  | zero => exact hs.mem_add.mpr (.inl h)
  | succ n => exact h

/-- What exploring up to a number of rounds does to the state: nothing is lost, what is new is finished,
and each new end can be reached. -/
structure ExploresUpTo (step : Nat → List Nat) (size : Nat) (reach : Nat → Prop) (s s' : Tries) :
    Prop where
  sound : s'.ends.Sound
  looked : ∀ b, s.looked.testBit b → s'.looked.testBit b
  ends : ∀ p ∈ s.ends.toList, p ∈ s'.ends.toList
  settled : ∀ m, ∀ p ≤ size, s'.looked.testBit ((m + 1) * (size + 1) + p) →
    s.looked.testBit ((m + 1) * (size + 1) + p) ∨
      p ∈ s'.ends.toList ∧ ∀ j ∈ step p, s'.Done size m j
  reached : ∀ j ∈ s'.ends.toList, j ∈ s.ends.toList ∨ reach j

namespace ExploresUpTo

variable {reach reach' : Nat → Prop} {s s' s'' : Tries}

theorem refl (s : Tries) (h : s.ends.Sound) : ExploresUpTo step size reach s s where
  sound := h
  looked _ := id
  ends _ := id
  settled _ _ _ := .inl
  reached _ := .inl

theorem done (h : ExploresUpTo step size reach s s') {n i : Nat} (hdone : s.Done size n i) :
    s'.Done size n i := by
  cases n with
  | zero => exact h.ends i hdone
  | succ n => exact h.looked _ hdone

theorem trans (h : ExploresUpTo step size reach s s') (h' : ExploresUpTo step size reach s' s'') :
    ExploresUpTo step size reach s s'' where
  sound := h'.sound
  looked b hb := h'.looked b (h.looked b hb)
  ends p hp := h'.ends p (h.ends p hp)
  settled m p hp hbit := by
    rcases h'.settled m p hp hbit with hbit | hdone
    · exact (h.settled m p hp hbit).imp_right fun hdone =>
        ⟨h'.ends p hdone.1, fun j hj => h'.done (hdone.2 j hj)⟩
    · exact .inr hdone
  reached j hj := by
    rcases h'.reached j hj with hj | hj
    · exact h.reached j hj
    · exact .inr hj

theorem mono (h : ExploresUpTo step size reach s s') (himp : ∀ j, reach j → reach' j) :
    ExploresUpTo step size reach' s s' :=
  { h with reached := fun j hj => (h.reached j hj).imp_right (himp j) }

/-- Listing a place that can be reached. -/
theorem add (h : ExploresUpTo step size reach s s') {i : Nat} (hi : reach i) :
    ExploresUpTo step size reach s { s' with ends := s'.ends.add i } where
  sound := h.sound.add i
  looked := h.looked
  ends p hp := h.sound.mem_add.mpr (.inl (h.ends p hp))
  settled m p hp hbit := by
    exact (h.settled m p hp hbit).imp_right fun hdone =>
      ⟨h.sound.mem_add.mpr (.inl hdone.1), fun j hj => (hdone.2 j hj).add h.sound i⟩
  reached j hj := by
    rcases h.sound.mem_add.mp hj with hj | rfl
    · exact h.reached j hj
    · exact .inr hi

/-- Marking a number of rounds at a place, if all of it gets finished. -/
theorem of_marked {n i : Nat} (hi : i ≤ size)
    (h : ExploresUpTo step size reach
      { s with looked := s.looked ||| (1 <<< ((n + 1) * (size + 1) + i)) } s')
    (hmem : i ∈ s'.ends.toList) (hall : ∀ j ∈ step i, s'.Done size n j) :
    ExploresUpTo step size reach s s' ∧ s'.Done size (n + 1) i := by
  refine ⟨{ h with looked := ?_, settled := ?_ }, h.looked _ ((testBit_mark ..).mpr (.inr rfl))⟩
  · exact fun b hb => h.looked b ((testBit_mark ..).mpr (.inl hb))
  · intro m p hp hbit
    rcases h.settled m p hp hbit with hbit | hdone
    · rcases (testBit_mark ..).mp hbit with hbit | hsame
      · exact .inl hbit
      · obtain ⟨hm, rfl⟩ := mark_inj (Nat.lt_succ_of_le hp) (Nat.lt_succ_of_le hi) hsame
        obtain rfl := Nat.succ.inj hm
        exact .inr ⟨hmem, hall⟩
    · exact .inr hdone

/-- From the empty state on everything is new, and so everything is finished. -/
theorem mem_of_repeats (hstep : ∀ i ≤ size, ∀ j ∈ step i, j ≤ size)
    (h : ExploresUpTo step size reach ⟨0, .empty⟩ s') {m n i k : Nat} (hi : i ≤ size)
    (hdone : s'.Done size n i) (hm : m ≤ n) (hrounds : Repeats (fun i j => j ∈ step i) m i k) :
    k ∈ s'.ends.toList := by
  induction n generalizing m i with
  | zero =>
    obtain rfl := Nat.le_zero.mp hm
    obtain rfl : i = k := hrounds
    exact hdone
  | succ n ih =>
    obtain ⟨hmem, hall⟩ := (h.settled n i hi hdone).resolve_left (by simp)
    cases m with
    | zero =>
      obtain rfl : i = k := hrounds
      exact hmem
    | succ m =>
      obtain ⟨j, hj, hrest⟩ := hrounds
      exact ih (hstep i hi j hj) (hall j hj) (Nat.le_of_succ_le_succ hm) hrest

end ExploresUpTo

/-- At most so many rounds lead from one place to another. -/
def ReachesWithin (step : Nat → List Nat) (n i k : Nat) : Prop :=
  ∃ m ≤ n, Repeats (fun i j => j ∈ step i) m i k

theorem exploresUpTo (greedy : Bool) (hstep : ∀ i ≤ size, ∀ j ∈ step i, j ≤ size) (n : Nat) {i : Nat}
    (hi : i ≤ size) {s : Tries} (hs : s.ends.Sound) :
    ExploresUpTo step size (ReachesWithin step n i) s (exploreUpTo step greedy (size + 1) n i s) ∧
      (exploreUpTo step greedy (size + 1) n i s).Done size n i := by
  induction n generalizing i s with
  | zero =>
    exact ⟨(ExploresUpTo.refl s hs).add ⟨0, Nat.le_refl 0, rfl⟩, hs.mem_add.mpr (.inr rfl)⟩
  | succ n ih =>
    have hfold : ∀ (js : List Nat), (∀ j ∈ js, j ≤ size) → ∀ s : Tries, s.ends.Sound →
        ExploresUpTo step size (fun k => ∃ j ∈ js, ReachesWithin step n j k) s
            (js.foldl (fun s j => exploreUpTo step greedy (size + 1) n j s) s) ∧
          ∀ j ∈ js, (js.foldl (fun s j => exploreUpTo step greedy (size + 1) n j s) s).Done size n j := by
      intro js
      induction js with
      | nil => exact fun _ s hs => ⟨.refl s hs, nofun⟩
      | cons j js ihjs =>
        intro hjs s hs
        rw [List.forall_mem_cons] at hjs
        obtain ⟨hfirst, hdone⟩ := ih hjs.1 hs
        obtain ⟨hrest, hall⟩ := ihjs hjs.2 _ hfirst.sound
        refine ⟨.trans (hfirst.mono fun k hk => ⟨j, List.mem_cons_self, hk⟩) (hrest.mono ?_), ?_⟩
        · rintro k ⟨j', hj', hk⟩
          exact ⟨j', List.mem_cons_of_mem _ hj', hk⟩
        · rw [List.forall_mem_cons]
          exact ⟨hrest.done hdone, hall⟩
    have hself : ReachesWithin step (n + 1) i i := ⟨0, Nat.zero_le _, rfl⟩
    have hround : ∀ k, (∃ j ∈ step i, ReachesWithin step n j k) → ReachesWithin step (n + 1) i k := by
      rintro k ⟨j, hj, m, hm, hrest⟩
      exact ⟨m + 1, Nat.succ_le_succ hm, j, hj, hrest⟩
    unfold exploreUpTo
    dsimp only
    split
    · rename_i hlooked
      exact ⟨.refl s hs, hlooked⟩
    · cases greedy with
      | true =>
        obtain ⟨h, hall⟩ := hfold (step i) (hstep i hi)
          { s with looked := s.looked ||| (1 <<< ((n + 1) * (size + 1) + i)) } hs
        refine ((h.mono hround).add hself).of_marked hi (h.sound.mem_add.mpr (.inr rfl)) ?_
        exact fun j hj => (hall j hj).add h.sound i
      | false =>
        obtain ⟨h, hall⟩ := hfold (step i) (hstep i hi)
          { s with
            looked := s.looked ||| (1 <<< ((n + 1) * (size + 1) + i))
            ends := s.ends.add i } (hs.add i)
        let marked : Tries := { s with looked := s.looked ||| (1 <<< ((n + 1) * (size + 1) + i)) }
        have hlisted : ExploresUpTo step size _ marked _ := (ExploresUpTo.refl marked hs).add hself
        exact (hlisted.trans (h.mono hround)).of_marked hi (h.ends i (hs.mem_add.mpr (.inr rfl))) hall

/-- The ends that are listed are those that up to so many rounds lead to. -/
theorem mem_atMost (hstep : ∀ i ≤ size, ∀ j ∈ step i, j ≤ size) {n i k : Nat} (hi : i ≤ size) :
    k ∈ atMost step greedy size n i ↔ ReachesWithin step n i k := by
  obtain ⟨h, hdone⟩ := exploresUpTo greedy hstep n hi (s := ⟨0, .empty⟩) Places.sound_empty
  constructor
  · intro hk
    exact (h.reached k hk).resolve_left nofun
  · rintro ⟨m, hm, hrounds⟩
    exact h.mem_of_repeats hstep hi hdone hm hrounds

end Bounded

/-! ### Ends and matches -/

variable {text : Array Char} {r : Regex}

theorem Matches.le_size {i k : Nat} (h : Matches text r i k) (hi : i ≤ text.size) : k ≤ text.size := by
  induction r generalizing i k with
  | empty =>
    obtain rfl : i = k := h
    exact hi
  | set s =>
    obtain ⟨c, hc, -, rfl⟩ := h
    obtain ⟨hlt, -⟩ := Array.getElem?_eq_some_iff.mp hc
    exact hlt
  | look l =>
    obtain ⟨-, rfl⟩ := h
    exact hi
  | seq a b iha ihb =>
    obtain ⟨j, ha, hb⟩ := h
    exact ihb hb (iha ha hi)
  | alt a b iha ihb =>
    rcases h with ha | hb
    · exact iha ha hi
    · exact ihb hb hi
  | rep min max greedy body ih =>
    obtain ⟨more, -, hrounds⟩ := h
    exact hrounds.le (fun _ _ hround hi => ih hround hi) hi

theorem mem_ends_rep {min : Nat} {max : Option Nat} {greedy : Bool} {body : Regex}
    (hround : ∀ i j, j ∈ ends text body i → i ≤ text.size → j ≤ text.size) {i k : Nat}
    (hi : i ≤ text.size) :
    k ∈ ends text (rep min max greedy body) i ↔ ∃ more, (∀ m ∈ max, more ≤ m - min) ∧
      Repeats (fun i j => j ∈ ends text body i) (min + more) i k := by
  have hstep : ∀ i ≤ text.size, ∀ j ∈ ends text body i, j ≤ text.size :=
    fun i hi j hj => hround i j hj hi
  cases max with
  | some m =>
    simp only [ends, mem_distinct, List.mem_flatMap, mem_exactly, List.mem_singleton,
      exists_eq_left, Option.mem_some_iff, forall_eq']
    constructor
    · rintro ⟨j, hmin, hrest⟩
      obtain ⟨more, hmore, hrest⟩ := (mem_atMost hstep (hmin.le hround hi)).mp hrest
      exact ⟨more, hmore, hmin.append hrest⟩
    · rintro ⟨more, hmore, hrounds⟩
      obtain ⟨j, hmin, hrest⟩ := hrounds.exists_append
      exact ⟨j, hmin, (mem_atMost hstep (hmin.le hround hi)).mpr ⟨more, hmore, hrest⟩⟩
  | none =>
    cases min with
    | zero =>
      have hmem : k ∈ ends text (rep 0 none greedy body) i ↔
          k = i ∨ k ∈ oneOrMore (ends text body) greedy text.size i := by
        cases greedy <;> simp [ends, mem_distinct, or_comm]
      rw [hmem, mem_oneOrMore hstep hi]
      constructor
      · rintro (rfl | ⟨n, hn⟩)
        · exact ⟨0, nofun, rfl⟩
        · exact ⟨n + 1, nofun, by rwa [Nat.zero_add]⟩
      · rintro ⟨more, -, hrounds⟩
        rw [Nat.zero_add] at hrounds
        cases more with
        | zero => exact .inl (Eq.symm hrounds)
        | succ n => exact .inr ⟨n, hrounds⟩
    | succ min =>
      simp only [ends, mem_distinct, List.mem_flatMap, mem_exactly, List.mem_singleton,
        exists_eq_left]
      constructor
      · rintro ⟨j, hmin, hrest⟩
        obtain ⟨n, hn⟩ := (mem_oneOrMore hstep (hmin.le hround hi)).mp hrest
        refine ⟨n, nofun, ?_⟩
        rw [show min + 1 + n = min + (n + 1) by omega]
        exact hmin.append hn
      · rintro ⟨more, -, hrounds⟩
        rw [show min + 1 + more = min + (more + 1) by omega] at hrounds
        obtain ⟨j, hmin, hrest⟩ := hrounds.exists_append
        exact ⟨j, hmin, (mem_oneOrMore hstep (hmin.le hround hi)).mpr ⟨more, hrest⟩⟩

/-- The places that are listed are the ends of the pieces that an expression describes. -/
theorem mem_ends {i k : Nat} (hi : i ≤ text.size) : k ∈ ends text r i ↔ Matches text r i k := by
  induction r generalizing i k with
  | empty => simp [ends, Matches, eq_comm]
  | set s =>
    unfold ends Matches
    cases hc : text[i]? with
    | none => simp
    | some c => cases hs : s.contains c <;> simp [hs]
  | look l => cases hl : l.holds text i <;> simp [ends, Matches, hl, eq_comm]
  | seq a b iha ihb =>
    simp only [ends, mem_distinct, List.mem_flatMap, Matches]
    constructor
    · rintro ⟨j, ha, hb⟩
      have ha := (iha hi).mp ha
      exact ⟨j, ha, (ihb (ha.le_size hi)).mp hb⟩
    · rintro ⟨j, ha, hb⟩
      exact ⟨j, (iha hi).mpr ha, (ihb (ha.le_size hi)).mpr hb⟩
  | alt a b iha ihb => simp only [ends, mem_distinct, List.mem_append, Matches, iha hi, ihb hi]
  | rep min max greedy body ih =>
    have hround : ∀ i j, j ∈ ends text body i → i ≤ text.size → j ≤ text.size :=
      fun i j hj hi => ((ih hi).mp hj).le_size hi
    have hrounds {n : Nat} : Repeats (fun i j => j ∈ ends text body i) n i k ↔
        Repeats (Matches text body) n i k :=
      Repeats.congr hround (fun i hi j => ih hi) hi
    simp only [Matches, ← hrounds]
    exact mem_ends_rep hround hi

theorem isSome_findFrom {fuel i : Nat} :
    (findFrom text r fuel i).isSome ↔ ∃ j, i ≤ j ∧ j < i + fuel ∧ ends text r j ≠ [] := by
  induction fuel generalizing i with
  | zero =>
    simp only [findFrom, Option.isSome_none, Bool.false_eq_true, false_iff]
    rintro ⟨j, hij, hj, -⟩
    omega
  | succ fuel ih =>
    unfold findFrom
    cases hends : ends text r i with
    | cons k ks => simpa using ⟨i, Nat.le_refl i, by omega, by simp [hends]⟩
    | nil =>
      simp only [ih]
      constructor
      · rintro ⟨j, hij, hj, hends⟩
        exact ⟨j, by omega, by omega, hends⟩
      · rintro ⟨j, hij, hj, hsome⟩
        have hne : i ≠ j := by
          rintro rfl
          exact hsome hends
        exact ⟨j, by omega, by omega, hsome⟩

/-- A search finds something exactly if some piece of the text is described. -/
theorem isSome_find?_iff : (r.find? text).isSome ↔ ∃ i k, i ≤ text.size ∧ Matches text r i k := by
  rw [find?, isSome_findFrom]
  constructor
  · rintro ⟨i, -, hi, hends⟩
    obtain ⟨k, hk⟩ := List.exists_mem_of_ne_nil _ hends
    have hi : i ≤ text.size := by omega
    exact ⟨i, k, hi, (mem_ends hi).mp hk⟩
  · rintro ⟨i, k, hi, hmatch⟩
    exact ⟨i, Nat.zero_le i, by omega, List.ne_nil_of_mem ((mem_ends hi).mpr hmatch)⟩

/-! ### Pieces in any surroundings -/

/-- An expression describes some characters wherever they stand. -/
def Describes (r : Regex) (piece : List Char) : Prop :=
  ∀ before behind : List Char, Matches (before ++ (piece ++ behind)).toArray r before.length
    (before.length + piece.length)

namespace Describes

variable {a b : Regex} {p q : List Char}

theorem single {s : CharSet} {c : Char} (h : s.contains c) : Describes (set s) [c] := by
  intro before behind
  exact ⟨c, by simp, h, rfl⟩

theorem seq (hp : Describes a p) (hq : Describes b q) : Describes (seq a b) (p ++ q) := by
  intro before behind
  have hfirst := hp before (q ++ behind)
  have hsecond := hq (before ++ p) behind
  simp only [List.append_assoc, List.length_append] at hfirst hsecond ⊢
  rw [← Nat.add_assoc]
  exact ⟨_, hfirst, hsecond⟩

theorem repeats {pieces : List (List Char)} (h : ∀ p ∈ pieces, Describes a p)
    (before behind : List Char) :
    Repeats (Matches (before ++ (pieces.flatten ++ behind)).toArray a) pieces.length before.length
      (before.length + pieces.flatten.length) := by
  induction pieces generalizing before with
  | nil => rfl
  | cons p pieces ih =>
    rw [List.forall_mem_cons] at h
    have hfirst := h.1 before (pieces.flatten ++ behind)
    have hrest := ih h.2 (before ++ p)
    simp only [List.flatten_cons, List.append_assoc, List.length_append] at hfirst hrest ⊢
    rw [← Nat.add_assoc]
    exact ⟨_, hfirst, hrest⟩

theorem rep {min : Nat} {max : Option Nat} {greedy : Bool} {pieces : List (List Char)}
    (h : ∀ p ∈ pieces, Describes a p) (hmin : min ≤ pieces.length)
    (hmax : ∀ m ∈ max, pieces.length ≤ m) : Describes (rep min max greedy a) pieces.flatten := by
  intro before behind
  refine ⟨pieces.length - min, fun m hm => Nat.sub_le_sub_right (hmax m hm) min, ?_⟩
  rw [Nat.add_sub_cancel' hmin]
  exact repeats h before behind

theorem rep_set {min : Nat} {max : Option Nat} {greedy : Bool} {s : CharSet} {cs : List Char}
    (h : ∀ c ∈ cs, s.contains c) (hmin : min ≤ cs.length) (hmax : ∀ m ∈ max, cs.length ≤ m) :
    Describes (.rep min max greedy (set s)) cs := by
  have hpieces : ∀ p ∈ cs.map fun c => [c], Describes (set s) p := by
    intro p hp
    obtain ⟨c, hc, rfl⟩ := List.mem_map.mp hp
    exact single (h c hc)
  have hflatten : (cs.map fun c => [c]).flatten = cs := by
    rw [← List.flatMap_def, List.flatMap_singleton']
  rw [← hflatten]
  exact rep hpieces (by simpa using hmin) (by simpa using hmax)

end Describes

end CodeAudit.Regex
