import CodeAudit.Proofs.Preorder
import Mathlib.Logic.Function.Iterate

/-!
# What a walk hands out

A walk keeps one stack of ancestors and cuts it down to the depth of the node that comes next. Behind
the stack stands an agenda: the visits that are due, in order. In a `Coherent` walk the stack gives
every waiting node its right path, so that a walk and its agenda move in step. Handing out a visit
replaces it by its children, or by nothing if they are to be skipped.

From the agenda alone it follows what a whole walk hands out, with any number of requests to skip
after any of the nodes.
-/

namespace CodeAudit

namespace Walker

theorem length_truncate {depth : Nat} {ancestors : List Stop} (h : depth ≤ ancestors.length) :
    (truncate depth ancestors).length = depth := by
  simp only [truncate, List.length_drop]
  omega

@[simp] theorem truncate_length (ancestors : List Stop) :
    truncate ancestors.length ancestors = ancestors := by
  simp [truncate]

/-- Cutting a stack down twice is cutting it down to the lower depth. -/
theorem truncate_truncate {low high : Nat} {ancestors : List Stop} (h : low ≤ high)
    (hh : high ≤ ancestors.length) :
    truncate low (truncate high ancestors) = truncate low ancestors := by
  rw [truncate, length_truncate hh, truncate, List.drop_drop, truncate]
  congr 1
  omega

/-- A new innermost ancestor does not matter to those who do not stand below it. -/
theorem truncate_cons {depth : Nat} {ancestors : List Stop} (h : depth ≤ ancestors.length)
    (s : Stop) : truncate depth (s :: ancestors) = truncate depth ancestors := by
  have hlen : (s :: ancestors).length - depth = (ancestors.length - depth) + 1 := by
    rw [List.length_cons]
    omega
  rw [truncate, hlen, List.drop_succ_cons, truncate]

/-- The visit that a waiting node will be, if the stack of ancestors is as given. -/
def visit (ancestors : List Stop) (s : Stop) : Visit :=
  ⟨s.node, Stop.pathTo s.index (truncate s.depth ancestors)⟩

/-- The visits that are due, in order. -/
def agenda (w : Walker) : List Visit := w.descend.pending.map (visit w.descend.ancestors)

/-- The stack of ancestors fits the nodes that are waiting: no node stands deeper than the stack is
high, none deeper than one that comes before it, and the stack holds exactly the ancestors of the
node handed out last. -/
structure Coherent (w : Walker) : Prop where
  bounded : ∀ s ∈ w.pending, s.depth ≤ w.ancestors.length
  ordered : w.pending.Pairwise fun s t => t.depth ≤ s.depth
  last : ∀ s, w.last = some s → s.depth = w.ancestors.length

theorem Coherent.ofRoot (root : Node) : (ofRoot root).Coherent := by
  refine ⟨?_, ?_, ?_⟩ <;> simp [Walker.ofRoot]

@[simp] theorem agenda_ofRoot (root : Node) : (ofRoot root).agenda = [⟨root, []⟩] := rfl

@[simp] theorem last_descend (w : Walker) : w.descend.last = none := by
  unfold descend
  split
  · assumption
  · split <;> rfl

theorem descend_of_last_none {w : Walker} (h : w.last = none) : w.descend = w := by
  rw [descend, h]

@[simp] theorem descend_descend (w : Walker) : w.descend.descend = w.descend :=
  descend_of_last_none w.last_descend

@[simp] theorem agenda_descend (w : Walker) : w.descend.agenda = w.agenda := by
  rw [agenda, descend_descend, agenda]

theorem depth_of_mem_children {s c : Stop} (h : c ∈ s.children) : c.depth = s.depth + 1 := by
  obtain ⟨i, hi, rfl⟩ := List.mem_mapIdx.mp h
  rfl

/-- Descending into the node handed out last leaves a walk coherent. -/
theorem Coherent.descend {w : Walker} (h : w.Coherent) : w.descend.Coherent := by
  unfold Walker.descend
  split
  · exact h
  · rename_i s hs
    have hlast := h.last s hs
    split
    · exact ⟨h.bounded, h.ordered, by simp⟩
    · refine ⟨?_, ?_, by simp⟩
      · intro t ht
        rw [hlast, truncate_length, List.length_cons]
        rcases List.mem_append.mp ht with ht | ht
        · have := depth_of_mem_children ht
          omega
        · exact Nat.le_succ_of_le (h.bounded t ht)
      · refine List.pairwise_append.mpr ⟨?_, h.ordered, ?_⟩
        · refine List.pairwise_of_forall_mem_list fun a ha b hb => ?_
          exact Nat.le_of_eq ((depth_of_mem_children hb).trans (depth_of_mem_children ha).symm)
        · intro a ha b hb
          rw [depth_of_mem_children ha, hlast]
          exact Nat.le_succ_of_le (h.bounded b hb)

/-- After a node has been handed out and its children are wanted, they are due first. -/
theorem agenda_of_last {w : Walker} {s : Stop} (hlast : w.last = some s) (hskip : w.skip = false) :
    w.agenda = (s.children ++ w.pending).map (visit (s :: truncate s.depth w.ancestors)) := by
  simp [agenda, descend, hlast, hskip]

/-- After a request to skip, what was pending is due. -/
theorem agenda_skipChildren {w : Walker} {s : Stop} (hlast : w.last = some s) :
    w.skipChildren.agenda = w.pending.map (visit w.ancestors) := by
  simp [agenda, descend, skipChildren, hlast]

/-- The visits of the children of a node, once the node is the innermost ancestor. -/
theorem map_visit_children {s : Stop} {ancestors : List Stop} (h : s.depth = ancestors.length) :
    s.children.map (visit (s :: ancestors)) = (visit ancestors s).children := by
  apply List.ext_getElem
  · simp [Stop.children, Visit.children, visit]
  · intro i hi hi'
    have htrunc : truncate (s.depth + 1) (s :: ancestors) = s :: ancestors := by
      rw [h, ← List.length_cons, truncate_length]
    have hself : truncate s.depth ancestors = ancestors := by
      rw [h, truncate_length]
    simp [Stop.children, Visit.children, visit, htrunc, hself, Stop.pathTo]

/-- The state of a walk that has just handed out a node. -/
theorem next_cons {w : Walker} {s : Stop} {pending : List Stop}
    (h : w.descend.pending = s :: pending) :
    w.next = (some (visit w.descend.ancestors s),
      { w.descend with
        pending
        ancestors := truncate s.depth w.descend.ancestors
        last := some s }) := by
  simp only [next, h, visit]

/-- A walk with nothing on its agenda is at its end, and stays there. -/
theorem next_of_agenda_nil {w : Walker} (h : w.agenda = []) : w.next = (none, w.descend) := by
  have hp : w.descend.pending = [] := by simpa [agenda] using h
  simp only [next, hp]

/-- A walk hands out the first visit on its agenda. The children of that visit take its place, or
nothing does if they are to be skipped. -/
theorem next_of_agenda_cons {w : Walker} (coherent : w.Coherent) {v : Visit} {rest : List Visit}
    (h : w.agenda = v :: rest) :
    ∃ w', w.next = (some v, w') ∧ w'.Coherent ∧ w'.last.isSome ∧ w'.skip = w.descend.skip ∧
      (w'.skip = false → w'.agenda = v.children ++ rest) ∧ w'.skipChildren.agenda = rest := by
  have hd := coherent.descend
  cases hp : w.descend.pending with
  | nil => simp [agenda, hp] at h
  | cons s pending =>
    simp only [agenda, hp, List.map_cons, List.cons.injEq] at h
    obtain ⟨rfl, rfl⟩ := h
    have hs : s.depth ≤ w.descend.ancestors.length := hd.bounded s (by simp [hp])
    have hpending : ∀ t ∈ pending, t.depth ≤ s.depth := by
      have := hd.ordered
      rw [hp] at this
      exact (List.pairwise_cons.mp this).1
    have hlen := length_truncate hs
    -- Cutting the stack down to the depth of `s` takes nothing away from those that wait longer.
    have hkeep : pending.map (visit (truncate s.depth w.descend.ancestors)) =
        pending.map (visit w.descend.ancestors) := by
      refine List.map_congr_left fun t ht => ?_
      simp only [visit, truncate_truncate (hpending t ht) hs]
    refine ⟨_, next_cons hp, ⟨?_, ?_, ?_⟩, rfl, rfl, fun hskip => ?_, ?_⟩
    · intro t ht
      rw [hlen]
      exact hpending t ht
    · have := hd.ordered
      rw [hp] at this
      exact (List.pairwise_cons.mp this).2
    · intro t ht
      obtain rfl : s = t := by simpa using ht
      exact hlen.symm
    · have hchildren : s.children.map (visit (s :: truncate s.depth w.descend.ancestors)) =
          (visit w.descend.ancestors s).children := by
        rw [map_visit_children hlen.symm, visit, truncate_truncate (Nat.le_refl _) hs, visit]
      have hrest : pending.map (visit (s :: truncate s.depth w.descend.ancestors)) =
          pending.map (visit (truncate s.depth w.descend.ancestors)) := by
        refine List.map_congr_left fun t ht => ?_
        rw [visit, truncate_cons (by rw [hlen]; exact hpending t ht), visit]
      rw [agenda_of_last rfl hskip]
      simp only [truncate_truncate (Nat.le_refl _) hs, List.map_append, hchildren, hrest, hkeep]
    · rw [agenda_skipChildren rfl]
      exact hkeep

/-- A coherent walk in which a request to skip is always about a node that has been handed out. -/
structure Steady (w : Walker) : Prop extends Coherent w where
  attentive : w.skip = true → w.last.isSome

theorem Steady.ofRoot (root : Node) : (ofRoot root).Steady :=
  ⟨.ofRoot root, by simp [Walker.ofRoot]⟩

/-- The request is used up when the next node is asked for. -/
theorem Steady.skip_descend {w : Walker} (h : w.Steady) : w.descend.skip = false := by
  cases hskip : w.skip with
  | false =>
    unfold Walker.descend
    split
    · exact hskip
    · simp [hskip]
  | true =>
    obtain ⟨s, hs⟩ := Option.isSome_iff_exists.mp (h.attentive hskip)
    simp [Walker.descend, hs, hskip]

theorem Steady.descend {w : Walker} (h : w.Steady) : w.descend.Steady :=
  ⟨h.toCoherent.descend, by simp [h.skip_descend]⟩

theorem Steady.skipChildren {w : Walker} (h : w.Coherent) (hlast : w.last.isSome) :
    w.skipChildren.Steady :=
  ⟨⟨h.bounded, h.ordered, h.last⟩, fun _ => hlast⟩

/-- A steady walk without requests hands out the trees on its agenda in pre-order. -/
theorem Steady.drain {w : Walker} (h : w.Steady) : w.drain.1 = w.agenda.flatMap Visit.subtree := by
  fun_induction Walker.drain w with
  | case1 w w' hnext =>
    cases hagenda : w.agenda with
    | nil => rfl
    | cons v rest =>
      obtain ⟨w₁, hnext₁, -⟩ := next_of_agenda_cons h.toCoherent hagenda
      simp [hnext₁] at hnext
  | case2 w v w' hnext vs done hdrain ih =>
    cases hagenda : w.agenda with
    | nil => simp [next_of_agenda_nil hagenda] at hnext
    | cons v₁ rest =>
      obtain ⟨w₁, hnext₁, hcoherent, hlast, hskip, hkeep, -⟩ :=
        next_of_agenda_cons h.toCoherent hagenda
      obtain ⟨rfl, rfl⟩ : v₁ = v ∧ w₁ = w' := by simpa [hnext₁] using hnext
      rw [h.skip_descend] at hskip
      have hsteady : w₁.Steady := ⟨hcoherent, by simp [hskip]⟩
      have hvs : vs = w₁.agenda.flatMap Visit.subtree := by
        rw [← ih hsteady, hdrain]
      rw [hvs, hkeep hskip, List.flatMap_append, List.flatMap_cons, Visit.subtree_eq,
        List.cons_append]

/-- One call of `next` and then, if it has handed out a node, some requests to skip. -/
def step (requests : Nat) (w : Walker) : Walker :=
  match w.next with
  | (some _, w') => skipChildren^[requests] w'
  | (none, w') => w'

/-- The walk after a number of calls of `next`, with `requests i` requests to skip after call `i`. -/
def after (requests : Nat → Nat) (w : Walker) : Nat → Walker
  | 0 => w
  | k + 1 => (after requests w k).step (requests k)

theorem after_succ (requests : Nat → Nat) (w : Walker) (k : Nat) :
    w.after requests (k + 1) = (w.step (requests 0)).after (fun i => requests (i + 1)) k := by
  induction k with
  | zero => rfl
  | succ k ih => rw [after, ih, after]

theorem iterate_skipChildren (w : Walker) (n : Nat) :
    skipChildren^[n] w = if n = 0 then w else w.skipChildren := by
  induction n generalizing w with
  | zero => rfl
  | succ n ih =>
    rw [Function.iterate_succ_apply, ih]
    simp [skipChildren]

end Walker

/-- The visits of a whole walk are the pre-order of the tree. -/
theorem Node.visits_eq_preorder (root : Node) : root.visits = root.preorder := by
  rw [Node.visits, (Walker.Steady.ofRoot root).drain, Walker.agenda_ofRoot, List.flatMap_singleton,
    Node.preorder]

namespace Visit

/-- What becomes of an agenda when its first visit is handed out and then skipped some number of
times. -/
def advance (requests : Nat) : List Visit → List Visit
  | [] => []
  | v :: rest => (if requests = 0 then v.children else []) ++ rest

theorem length_flatMap_subtree_advance_lt (requests : Nat) (v : Visit) (rest : List Visit) :
    ((advance requests (v :: rest)).flatMap subtree).length <
      ((v :: rest).flatMap subtree).length := by
  rw [List.flatMap_cons, subtree_eq, advance]
  split <;> simp only [List.flatMap_append, List.flatMap_nil, List.length_append, List.length_nil,
    List.length_cons] <;> omega

/-- What is handed out from an agenda, with `requests i` requests to skip after visit `i`. -/
def tour (requests : Nat → Nat) : List Visit → List Visit
  | [] => []
  | v :: rest => v :: tour (fun i => requests (i + 1)) (advance (requests 0) (v :: rest))
termination_by agenda => (agenda.flatMap subtree).length
decreasing_by exact length_flatMap_subtree_advance_lt _ _ _

/-- Those visits of a list that a request to skip follows. -/
def skipped (requests : Nat → Nat) : List Visit → List Visit
  | [] => []
  | v :: vs => (if requests 0 = 0 then [] else [v]) ++ skipped (fun i => requests (i + 1)) vs

end Visit

namespace Walker

/-- One step of a steady walk is one step of its agenda. -/
theorem Steady.step {w : Walker} (h : w.Steady) (requests : Nat) :
    (w.step requests).Steady ∧ (w.step requests).agenda = Visit.advance requests w.agenda := by
  cases hagenda : w.agenda with
  | nil =>
    rw [Walker.step, next_of_agenda_nil hagenda]
    exact ⟨h.descend, by rw [agenda_descend, hagenda, Visit.advance]⟩
  | cons v rest =>
    obtain ⟨w', hnext, hcoherent, hlast, hskip, hkeep, hprune⟩ :=
      next_of_agenda_cons h.toCoherent hagenda
    rw [h.skip_descend] at hskip
    simp only [Walker.step, hnext, iterate_skipChildren, Visit.advance]
    split
    · exact ⟨⟨hcoherent, by simp [hskip]⟩, hkeep hskip⟩
    · exact ⟨.skipChildren hcoherent hlast, by rw [hprune, List.nil_append]⟩

/-- A steady walk answers as its agenda says, also beyond its end. -/
theorem Steady.next_after {w : Walker} (h : w.Steady) (requests : Nat → Nat) (k : Nat) :
    (w.after requests k).next.1 = (Visit.tour requests w.agenda)[k]? := by
  induction k generalizing w requests with
  | zero =>
    rw [after]
    cases hagenda : w.agenda with
    | nil => simp [next_of_agenda_nil hagenda, Visit.tour]
    | cons v rest =>
      obtain ⟨w', hnext, -⟩ := next_of_agenda_cons h.toCoherent hagenda
      simp [hnext, Visit.tour]
  | succ k ih =>
    obtain ⟨hsteady, hagenda⟩ := h.step (requests 0)
    rw [after_succ, ih hsteady, hagenda]
    cases w.agenda with
    | nil => simp [Visit.advance, Visit.tour]
    | cons v rest => simp [Visit.tour]

end Walker

namespace Visit

theorem pairwise_apart_advance {requests : Nat} {agenda : List Visit}
    (h : agenda.Pairwise Apart) : (advance requests agenda).Pairwise Apart := by
  cases agenda with
  | nil => exact List.Pairwise.nil
  | cons v rest =>
    obtain ⟨hv, hrest⟩ := List.pairwise_cons.mp h
    rw [advance]
    split
    · refine List.pairwise_append.mpr ⟨v.pairwise_apart_children, hrest, ?_⟩
      intro c hc u hu
      exact (hv u hu).of_mem_children hc
    · exact hrest

theorem mem_of_mem_skipped {requests : Nat → Nat} {vs : List Visit} {u : Visit}
    (h : u ∈ skipped requests vs) : u ∈ vs := by
  induction vs generalizing requests with
  | nil => simp [skipped] at h
  | cons v vs ih =>
    rcases List.mem_append.mp h with h | h
    · split at h
      · simp at h
      · simp at h
        simp [h]
    · exact List.mem_cons_of_mem _ (ih h)

theorem mem_of_mem_tour {requests : Nat → Nat} {agenda : List Visit} {u : Visit}
    (h : u ∈ tour requests agenda) : u ∈ agenda.flatMap subtree := by
  fun_induction tour requests agenda with
  | case1 => simp at h
  | case2 requests v rest ih =>
    rw [List.flatMap_cons, subtree_eq]
    rcases List.mem_cons.mp h with rfl | h
    · exact List.mem_append_left _ List.mem_cons_self
    · have hu := ih h
      rw [advance] at hu
      split at hu
      · rw [List.flatMap_append] at hu
        rcases List.mem_append.mp hu with hu | hu
        · exact List.mem_append_left _ (List.mem_cons_of_mem _ hu)
        · exact List.mem_append_right _ hu
      · exact List.mem_append_right _ hu

@[simp] theorem skipped_zero (vs : List Visit) : skipped (fun _ => 0) vs = [] := by
  induction vs with
  | nil => rfl
  | cons v vs ih => simp [skipped, ih]

theorem Above.irrefl (v : Visit) : ¬ v.Above v := fun h => h.2 rfl

theorem Above.asymm {u v : Visit} (h : u.Above v) : ¬ v.Above u :=
  fun h' => h.2 (h.1.eq_of_length_le h'.1.length_le)

/-- Nothing that is handed out later is above the first visit. -/
theorem not_above_of_mem_tour_advance {requests : Nat} {requests' : Nat → Nat} {v u : Visit}
    {rest : List Visit} (apart : (v :: rest).Pairwise Apart)
    (h : u ∈ tour requests' (advance requests (v :: rest))) : ¬ u.Above v := by
  obtain ⟨hv, -⟩ := List.pairwise_cons.mp apart
  have hself : v ∈ v.subtree := by
    rw [subtree_eq]
    exact List.mem_cons_self
  obtain ⟨w, hw, hu⟩ := List.mem_flatMap.mp (mem_of_mem_tour h)
  rcases List.mem_append.mp hw with hw | hw
  · split at hw
    · exact (above_of_mem_children hw hu).asymm
    · simp at hw
  · exact ((hv w hw).symm.of_mem_subtree hu hself).not_above

/-- What is handed out from an agenda is its trees in pre-order, without what is strictly below a
visit that was skipped. -/
theorem tour_eq_filter (requests : Nat → Nat) {agenda : List Visit}
    (apart : agenda.Pairwise Apart) :
    tour requests agenda = (agenda.flatMap subtree).filter fun v =>
      ∀ u ∈ skipped requests (tour requests agenda), ¬ u.Above v := by
  fun_induction tour requests agenda with
  | case1 => rfl
  | case2 requests v rest ih =>
    have hrest := ih (pairwise_apart_advance apart)
    have hlater : ∀ u ∈ skipped (fun i => requests (i + 1))
        (tour (fun i => requests (i + 1)) (advance (requests 0) (v :: rest))), ¬ u.Above v :=
      fun u hu => not_above_of_mem_tour_advance apart (mem_of_mem_skipped hu)
    generalize tour (fun i => requests (i + 1)) (advance (requests 0) (v :: rest)) = ys at *
    rw [List.flatMap_cons, subtree_eq, List.cons_append, List.filter_cons_of_pos]
    · congr 1
      rw [advance] at hrest
      by_cases hzero : requests 0 = 0
      · simpa [skipped, hzero] using hrest
      · simp only [hzero, if_false, List.nil_append] at hrest
        rw [List.filter_append, List.filter_eq_nil_iff.mpr, List.nil_append]
        · -- Behind `v`, nothing is below `v`, so that the request after `v` does not count.
          conv_lhs => rw [hrest]
          refine List.filter_congr fun x hx => ?_
          obtain ⟨w, hw, hx⟩ := List.mem_flatMap.mp hx
          have hself : v ∈ v.subtree := by
            rw [subtree_eq]
            exact List.mem_cons_self
          have hvx : ¬ v.Above x :=
            (((List.pairwise_cons.mp apart).1 w hw).of_mem_subtree hself hx).not_above
          simp [skipped, hzero, hvx]
        · intro x hx
          obtain ⟨c, hc, hx⟩ := List.mem_flatMap.mp hx
          simp [skipped, hzero, above_of_mem_children hc hx]
    · refine decide_eq_true fun u hu => ?_
      rcases List.mem_append.mp hu with hu | hu
      · split at hu
        · simp at hu
        · obtain rfl : u = v := by simpa using hu
          exact Above.irrefl u
      · exact hlater u hu

end Visit

/-- A walk hands out the pre-order of a tree without what is strictly below the nodes that were
skipped, and then nothing any more. Each visit tells the position of its node and the chain of its
proper ancestors, and no position comes twice. Without requests to skip, the nodes are all
descendants of the root. -/
theorem Walker.hands_out_preorder (root : Node) (requests : Nat → Nat) :
    (∃ visits : List Visit,
      (∀ k, ((Walker.ofRoot root).after requests k).next.1 = visits[k]?) ∧
      visits = root.preorder.filter (fun v =>
        ∀ u ∈ Visit.skipped requests visits, ¬ u.Above v) ∧
      (∀ pos, pos ∈ visits.map Visit.position ↔ (root.at? pos).isSome ∧
        ∀ u ∈ Visit.skipped requests visits, ¬ (u.position <+: pos ∧ u.position ≠ pos)) ∧
      (visits.map Visit.position).Nodup ∧
      ∀ v ∈ visits, root.at? v.position = some v.node ∧
        v.path.ancestors.reverse = root.chain v.position ∧
        v.path.depth = v.position.length) ∧
    ∀ k, ((Walker.ofRoot root).after (fun _ => 0) k).next.1.map Visit.node =
      root.descendants[k]? := by
  have answers (requests : Nat → Nat) (k : Nat) :
      ((ofRoot root).after requests k).next.1 = (Visit.tour requests [⟨root, []⟩])[k]? :=
    (Steady.ofRoot root).next_after requests k
  have pruned (requests : Nat → Nat) : Visit.tour requests [⟨root, []⟩] = root.preorder.filter fun v =>
      ∀ u ∈ Visit.skipped requests (Visit.tour requests [⟨root, []⟩]), ¬ u.Above v := by
    have := Visit.tour_eq_filter requests (List.pairwise_singleton Visit.Apart ⟨root, []⟩)
    rwa [List.flatMap_singleton] at this
  constructor
  · refine ⟨_, answers requests, pruned requests, ?_⟩
    have mem (v : Visit) : v ∈ Visit.tour requests [⟨root, []⟩] ↔ v ∈ root.preorder ∧
        ∀ u ∈ Visit.skipped requests (Visit.tour requests [⟨root, []⟩]), ¬ u.Above v := by
      conv_lhs => rw [pruned requests]
      simp
    refine ⟨fun pos => ?_, ?_, fun v hv => ?_⟩
    · rw [← Node.mem_position_preorder, List.mem_map, List.mem_map]
      constructor
      · rintro ⟨v, hv, rfl⟩
        exact ⟨⟨v, ((mem v).mp hv).1, rfl⟩, ((mem v).mp hv).2⟩
      · rintro ⟨⟨v, hv, rfl⟩, hspared⟩
        exact ⟨v, (mem v).mpr ⟨hv, hspared⟩, rfl⟩
    · rw [pruned requests]
      exact root.nodup_position_preorder.sublist (List.filter_sublist.map _)
    · have hat := Node.isAt_of_mem_preorder ((mem v).mp hv).1
      exact ⟨hat.node, hat.ancestors, v.length_position.symm⟩
  · intro k
    rw [answers, pruned, ← List.getElem?_map]
    simp [Node.map_node_preorder]

end CodeAudit
