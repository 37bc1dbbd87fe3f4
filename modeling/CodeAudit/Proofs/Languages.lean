import CodeAudit.Proofs.Search

/-!
# The words of an expression

An expression without looks describes the same pieces wherever they stand, and so it has a language:
`Regex.Accepts` says which words belong to it, by the structure of the expression and without a text around
them. A piece of a text is described by such an expression exactly if it is one of the words.
-/

namespace CodeAudit.Regex

/-- An expression that has no looks. -/
def LookFree : Regex → Prop
  | empty => True
  | set _ => True
  | look _ => False
  | seq a b => LookFree a ∧ LookFree b
  | alt a b => LookFree a ∧ LookFree b
  | rep _ _ _ body => LookFree body

/-- The words of an expression. What matters to a look is not in a word. -/
def Accepts : Regex → List Char → Prop
  | empty, w => w = []
  | set s, w => ∃ c, s.contains c ∧ w = [c]
  | look _, _ => False
  | seq a b, w => ∃ u v, w = u ++ v ∧ Accepts a u ∧ Accepts b v
  | alt a b, w => Accepts a w ∨ Accepts b w
  | rep min max _ body, w =>
    ∃ pieces : List (List Char), w = pieces.flatten ∧ (∀ p ∈ pieces, Accepts body p) ∧
      min ≤ pieces.length ∧ ∀ m ∈ max, pieces.length - min ≤ m - min

variable {r : Regex} {text w : List Char}

theorem Accepts.describes (h : Accepts r w) : Describes r w := by
  induction r generalizing w with
  | empty =>
    obtain rfl : w = [] := h
    exact fun before behind => rfl
  | set s =>
    obtain ⟨c, hc, rfl⟩ := h
    exact .single hc
  | look => exact h.elim
  | seq a b iha ihb =>
    obtain ⟨u, v, rfl, hu, hv⟩ := h
    exact (iha hu).seq (ihb hv)
  | alt a b iha ihb =>
    rcases h with h | h
    · exact fun before behind => .inl (iha h before behind)
    · exact fun before behind => .inr (ihb h before behind)
  | rep min max greedy body ih =>
    obtain ⟨pieces, rfl, hpieces, hmin, hmax⟩ := h
    intro before behind
    refine ⟨pieces.length - min, hmax, ?_⟩
    rw [Nat.add_sub_cancel' hmin]
    exact Describes.repeats (fun p hp => ih (hpieces p hp)) before behind

/-- Rounds cut the piece that they go through into as many pieces. -/
theorem Repeats.exists_pieces {body : Regex} {n i k : Nat}
    (hround : ∀ i k, i ≤ text.length → Matches text.toArray body i k →
      ∃ p behind, text.drop i = p ++ behind ∧ k = i + p.length ∧ Accepts body p)
    (hi : i ≤ text.length) (h : Repeats (Matches text.toArray body) n i k) :
    ∃ (pieces : List (List Char)) (behind : List Char), text.drop i = pieces.flatten ++ behind ∧
      k = i + pieces.flatten.length ∧ pieces.length = n ∧ ∀ p ∈ pieces, Accepts body p := by
  induction n generalizing i with
  | zero =>
    obtain rfl : i = k := h
    exact ⟨[], text.drop i, rfl, rfl, rfl, nofun⟩
  | succ n ih =>
    obtain ⟨j, hfirst, hrest⟩ := h
    have hj : j ≤ text.length := by simpa using hfirst.le_size (by simpa using hi)
    obtain ⟨p, after, hdrop, rfl, hp⟩ := hround i j hi hfirst
    obtain ⟨pieces, behind, hdrop', rfl, rfl, hpieces⟩ := ih hj hrest
    have hafter : text.drop (i + p.length) = after := by
      rw [← List.drop_drop, hdrop, List.drop_left]
    refine ⟨p :: pieces, behind, ?_, ?_, rfl, List.forall_mem_cons.mpr ⟨hp, hpieces⟩⟩
    · rw [hdrop, ← hafter, hdrop', List.flatten_cons, List.append_assoc]
    · rw [List.flatten_cons, List.length_append, Nat.add_assoc]

theorem Matches.exists_word (hfree : r.LookFree) {i k : Nat} (hi : i ≤ text.length)
    (h : Matches text.toArray r i k) :
    ∃ word behind, text.drop i = word ++ behind ∧ k = i + word.length ∧ Accepts r word := by
  induction r generalizing i k with
  | empty =>
    obtain rfl : i = k := h
    exact ⟨[], _, rfl, rfl, rfl⟩
  | set s =>
    obtain ⟨c, hc, hs, rfl⟩ := h
    obtain ⟨hlt, hc⟩ := List.getElem?_eq_some_iff.mp (List.getElem?_toArray .. ▸ hc)
    exact ⟨[c], text.drop (i + 1), hc ▸ List.drop_eq_getElem_cons hlt, rfl, c, hs, rfl⟩
  | look => exact hfree.elim
  | seq a b iha ihb =>
    obtain ⟨j, ha, hb⟩ := h
    have hj : j ≤ text.length := by simpa using ha.le_size (by simpa using hi)
    obtain ⟨u, after, hdrop, rfl, hu⟩ := iha hfree.1 hi ha
    obtain ⟨v, behind, hdrop', rfl, hv⟩ := ihb hfree.2 hj hb
    refine ⟨u ++ v, behind, ?_, by rw [List.length_append, Nat.add_assoc], u, v, rfl, hu, hv⟩
    rw [← List.drop_drop, hdrop, List.drop_left] at hdrop'
    rw [hdrop, hdrop', List.append_assoc]
  | alt a b iha ihb =>
    rcases h with h | h
    · obtain ⟨word, behind, hdrop, hk, hword⟩ := iha hfree.1 hi h
      exact ⟨word, behind, hdrop, hk, .inl hword⟩
    · obtain ⟨word, behind, hdrop, hk, hword⟩ := ihb hfree.2 hi h
      exact ⟨word, behind, hdrop, hk, .inr hword⟩
  | rep min max greedy body ih =>
    obtain ⟨more, hmore, hrounds⟩ := h
    obtain ⟨pieces, behind, hdrop, rfl, hlength, hpieces⟩ :=
      hrounds.exists_pieces (fun i k hi h => ih hfree hi h) hi
    refine ⟨pieces.flatten, behind, hdrop, rfl, pieces, rfl, hpieces, by omega, fun m hm => ?_⟩
    have := hmore m hm
    omega

theorem holds_stop_iff {text : Array Char} {i : Nat} : Look.stop.holds text i ↔ text.size ≤ i := by
  simp [Look.holds]

/-- What is left of a text is described as far as its end exactly if it is a word. -/
theorem exists_matches_stop_iff (hfree : r.LookFree) {j : Nat} (hj : j ≤ text.length) :
    (∃ k, Matches text.toArray (seq r (look .stop)) j k) ↔ Accepts r (text.drop j) := by
  constructor
  · rintro ⟨k, k', hword, hstop, -⟩
    obtain ⟨word, behind, hdrop, rfl, haccepts⟩ := hword.exists_word hfree hj
    have hbehind : behind = [] := by
      have hsize := holds_stop_iff.mp hstop
      have hlength := congrArg List.length hdrop
      simp only [List.size_toArray, List.length_drop, List.length_append] at hsize hlength
      exact List.length_eq_zero_iff.mp (by omega)
    rwa [hdrop, hbehind, List.append_nil]
  · intro haccepts
    have hdescribes := haccepts.describes (text.take j) []
    rw [List.append_nil, List.take_append_drop, List.length_take_of_le hj, List.length_drop,
      Nat.add_sub_cancel' hj] at hdescribes
    exact ⟨text.length, text.length, hdescribes, holds_stop_iff.mpr (Nat.le_refl _), rfl⟩

/-! ### Words of some expressions -/

theorem accepts_rep_set_iff {s : CharSet} {greedy : Bool} :
    Accepts (rep 0 none greedy (set s)) w ↔ ∀ c ∈ w, s.contains c := by
  constructor
  · rintro ⟨pieces, rfl, hpieces, -⟩ c hc
    obtain ⟨p, hp, hc⟩ := List.mem_flatten.mp hc
    obtain ⟨c', hs, rfl⟩ := hpieces p hp
    obtain rfl := List.mem_singleton.mp hc
    exact hs
  · intro h
    refine ⟨w.map fun c => [c], ?_, ?_, Nat.zero_le _, nofun⟩
    · rw [← List.flatMap_def, List.flatMap_singleton']
    · intro p hp
      obtain ⟨c, hc, rfl⟩ := List.mem_map.mp hp
      exact ⟨c, h c hc, rfl⟩

theorem contains_single {c d : Char} : (CharSet.single c).contains d ↔ d = c := by
  rw [← Char.toNat_inj]
  simp only [CharSet.contains, CharSet.single, CharSet.memberOf]
  split
  · simp only [Bool.false_eq_true, false_iff]
    omega
  · simp only [Bool.or_false, decide_eq_true_eq]
    omega

theorem accepts_set_single_iff {c : Char} : Accepts (set (.single c)) w ↔ w = [c] := by
  simp only [Accepts, contains_single, exists_eq_left]

theorem accepts_seqs_cons_iff {rs : List Regex} :
    Accepts (seqs (r :: rs)) w ↔ ∃ u v, w = u ++ v ∧ Accepts r u ∧ Accepts (seqs rs) v := by
  cases rs with
  | nil => simp [seqs, Accepts]
  | cons => exact Iff.rfl

theorem accepts_seqs_singles_iff {word : List Char} :
    Accepts (seqs (word.map fun c => set (.single c))) w ↔ w = word := by
  induction word generalizing w with
  | nil => exact Iff.rfl
  | cons c word ih => simp [accepts_seqs_cons_iff, accepts_set_single_iff, ih]

theorem lookFree_seqs {rs : List Regex} (h : ∀ r ∈ rs, r.LookFree) : (seqs rs).LookFree := by
  induction rs with
  | nil => trivial
  | cons r rs ih =>
    rw [List.forall_mem_cons] at h
    cases rs with
    | nil => exact h.1
    | cons => exact ⟨h.1, ih h.2⟩

end CodeAudit.Regex
