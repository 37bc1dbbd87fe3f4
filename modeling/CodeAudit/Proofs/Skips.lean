import CodeAudit.Proofs.Walk
import Mathlib.Data.List.Basic

/-!
# Requests to skip that are about no node

A request to skip is meant for the node handed out last. It is idle if there is no such node: if
nothing has been handed out since the walk began, or if nothing was left to hand out. An idle request
should make no difference, and one at the end of a walk makes none. One at the beginning of a walk
does. It stands until the root has been handed out, and then the children of the root are left out.

Two walks are compared here, one with all requests and one without those that are idle. They answer
differently if and only if a walk begins with a request to skip, then two nodes are asked for in a row,
and the root has children.
-/

namespace CodeAudit

namespace Walker

/-- What a caller can ask of a walk. -/
inductive Request where
  | next
  | skip
  | restart
deriving DecidableEq

/-- The walk after a request. -/
def perform (w : Walker) : Request → Walker
  | .next => w.next.2
  | .skip => w.skipChildren
  | .restart => w.restart

/-- The answers to the requests for a node, in order. -/
def answers (w : Walker) : List Request → List (Option Visit)
  | [] => []
  | .next :: requests => w.next.1 :: (w.perform .next).answers requests
  | .skip :: requests => (w.perform .skip).answers requests
  | .restart :: requests => (w.perform .restart).answers requests

/-- Leaves out the idle requests to skip. A request is idle unless a node was handed out when one was
asked for last, since the walk began; `handed` tells whether this is so. -/
def withoutIdle (w : Walker) (handed : Bool) : List Request → List Request
  | [] => []
  | .next :: requests => .next :: (w.perform .next).withoutIdle w.next.1.isSome requests
  | .skip :: requests =>
    if handed then .skip :: (w.perform .skip).withoutIdle handed requests
    else (w.perform .skip).withoutIdle handed requests
  | .restart :: requests => .restart :: (w.perform .restart).withoutIdle false requests

variable {root : Node} {w w' : Walker} {request : Request} {requests : List Request}

/-! ### One request -/

@[simp] theorem root_descend (w : Walker) : w.descend.root = w.root := by
  unfold descend
  split
  · rfl
  · split <;> rfl

theorem root_perform (w : Walker) (request : Request) : (w.perform request).root = w.root := by
  cases request with
  | next =>
    simp only [perform, next]
    split <;> exact w.root_descend
  | skip => rfl
  | restart => rfl

/-- A walk knows whether it has handed out a node. -/
theorem isSome_last_next (w : Walker) : w.next.2.last.isSome = w.next.1.isSome := by
  simp only [next]
  split
  · simp
  · rfl

/-- If there is no node that a request to skip could be about, then it stands until there is one. -/
theorem next_skipChildren (h : w.last = none) :
    w.skipChildren.next = (w.next.1, w.next.2.skipChildren) := by
  have hskip : w.skipChildren.descend = w.skipChildren := descend_of_last_none h
  rw [next, hskip, next, descend_of_last_none h]
  cases hpending : w.pending with
  | nil => simp [skipChildren, hpending]
  | cons s pending => simp [skipChildren, hpending]

/-- A walk that has come to its end. -/
structure IsOver (w : Walker) : Prop where
  last : w.last = none
  pending : w.pending = []

namespace IsOver

theorem next_eq (h : w.IsOver) : w.next = (none, w) := by
  rw [next, descend_of_last_none h.last]
  simp [h.pending]

theorem of_next (h : w.next.1 = none) : w.next.2.IsOver := by
  cases hpending : w.descend.pending with
  | nil =>
    simp only [next, hpending]
    exact ⟨w.last_descend, hpending⟩
  | cons s pending =>
    rw [next_cons hpending] at h
    cases h

theorem skipChildren (h : w.IsOver) : w.skipChildren.IsOver := ⟨h.last, h.pending⟩

end IsOver

/-- If the root has no children, then a walk is over after the root. -/
theorem next_of_childless (h : root.children = []) (skip : Bool) :
    ({ (ofRoot root).next.2 with skip } : Walker).next.1 = none := by
  cases skip with
  | true => rfl
  | false => simp [next, descend, ofRoot, Stop.children, h]

/-! ### Two walks -/

/-- A walk, and the same walk without idle requests, after requests that end as told. -/
inductive Tracks (root : Node) : List Request → Walker → Walker → Prop
  /-- A node has been handed out, and both walks are the same. -/
  | same {w : Walker} (hroot : w.root = root) (handed : w.last.isSome) : Tracks root [] w w
  /-- Nothing is left. -/
  | ended {w w' : Walker} (hroot : w.root = root) (hroot' : w'.root = root) (h : w.IsOver) (h' : w'.IsOver) :
      Tracks root [] w w'
  /-- Nothing has been handed out. -/
  | fresh (count : Nat) :
      Tracks root (.restart :: List.replicate count .skip) (skipChildren^[count] (ofRoot root)) (ofRoot root)
  /-- The root has been handed out, after requests that came too early. -/
  | early (count : Nat) :
      Tracks root (.restart :: List.replicate (count + 1) .skip ++ [.next])
        (ofRoot root).next.2.skipChildren (ofRoot root).next.2

/-- A walk that begins with requests to skip and goes on with two requests for a node. -/
def hasty (count : Nat) : List Request :=
  .restart :: List.replicate (count + 1) .skip ++ [.next, .next]

theorem root_iterate_skipChildren (w : Walker) (count : Nat) : (skipChildren^[count] w).root = w.root := by
  rw [iterate_skipChildren]
  split <;> rfl

theorem last_iterate_skipChildren (w : Walker) (count : Nat) : (skipChildren^[count] w).last = w.last := by
  rw [iterate_skipChildren]
  split <;> rfl

/-- Two walks that are the same stay so when a node is asked for. -/
theorem Tracks.of_next (hroot : w.root = root) : Tracks root [] w.next.2 w.next.2 := by
  have hroot' : w.next.2.root = root := (w.root_perform .next).trans hroot
  cases hnext : w.next.1 with
  | none => exact .ended hroot' hroot' (.of_next hnext) (.of_next hnext)
  | some v => exact .same hroot' (by rw [isSome_last_next, hnext]; rfl)

namespace Tracks

variable {history : List Request}

theorem roots (h : Tracks root history w w') : w.root = root ∧ w'.root = root := by
  cases h with
  | same hroot handed => exact ⟨hroot, hroot⟩
  | ended hroot hroot' h h' => exact ⟨hroot, hroot'⟩
  | fresh count => exact ⟨root_iterate_skipChildren _ _, rfl⟩
  | early count => exact ⟨rfl, rfl⟩

theorem restart (h : Tracks root history w w') : Tracks root [.restart] w.restart w'.restart := by
  rw [Walker.restart, Walker.restart, h.roots.1, h.roots.2]
  exact .fresh 0

/-- A request about the node handed out last reaches both walks. -/
theorem skip (h : Tracks root history w w') (handed : w.last.isSome) :
    Tracks root [] w.skipChildren w'.skipChildren := by
  cases h with
  | same hroot _ => exact .same hroot handed
  | ended hroot hroot' h h' =>
    rw [h.last] at handed
    cases handed
  | fresh count =>
    rw [last_iterate_skipChildren] at handed
    cases handed
  | early count => exact .same rfl handed

/-- An idle request reaches one walk only. -/
theorem idle (h : Tracks root history w w') (hlast : w.last = none) :
    ∃ later, later <:+ history ++ [.skip] ∧ Tracks root later w.skipChildren w' := by
  cases h with
  | same hroot handed =>
    rw [hlast] at handed
    cases handed
  | ended hroot hroot' h h' => exact ⟨[], List.nil_suffix, .ended hroot hroot' h.skipChildren h'⟩
  | fresh count =>
    refine ⟨_, List.suffix_rfl, ?_⟩
    have hskip : (skipChildren^[count] (ofRoot root)).skipChildren = skipChildren^[count + 1] (ofRoot root) :=
      (Function.iterate_succ_apply' skipChildren count _).symm
    rw [hskip, List.cons_append, ← List.replicate_succ']
    exact .fresh (count + 1)
  | early count => cases hlast

/-- The answers are the same, unless the children of the root are skipped too early. -/
theorem next (h : Tracks root history w w')
    (hclear : root.children = [] ∨ ∀ count, hasty count ≠ history ++ [.next]) :
    w'.next.1 = w.next.1 ∧ ∃ later, later <:+ history ++ [.next] ∧ Tracks root later w.next.2 w'.next.2 := by
  cases h with
  | same hroot handed => exact ⟨rfl, [], List.nil_suffix, .of_next hroot⟩
  | ended hroot hroot' h h' =>
    rw [h.next_eq, h'.next_eq]
    exact ⟨rfl, [], List.nil_suffix, .ended hroot hroot' h h'⟩
  | fresh count =>
    cases count with
    | zero => exact ⟨rfl, [], List.nil_suffix, .of_next rfl⟩
    | succ count =>
      rw [iterate_skipChildren, if_neg (Nat.succ_ne_zero count), next_skipChildren rfl]
      exact ⟨rfl, _, List.suffix_rfl, .early count⟩
  | early count =>
    rcases hclear with hchildless | hclear
    · have hnext := next_of_childless hchildless true
      have hnext' := next_of_childless hchildless false
      refine ⟨hnext'.trans hnext.symm, [], List.nil_suffix, ?_⟩
      exact .ended (root_perform _ .next) (root_perform _ .next) (.of_next hnext) (.of_next hnext')
    · exact absurd (by simp [hasty]) (hclear count)

/-- The two walks give the same answers, whatever is asked, unless a walk is begun hastily. -/
theorem answers_eq (h : Tracks root history w w')
    (hclear : root.children = [] ∨ ∀ count, ¬ hasty count <:+: history ++ requests) :
    w'.answers (w.withoutIdle w.last.isSome requests) = w.answers requests := by
  induction requests generalizing history w w' with
  | nil => rfl
  | cons request requests ih =>
    -- What has been asked before a request counts only as far as a hasty beginning may reach back.
    have hlater {later : List Request} (hsuffix : later <:+ history ++ [request]) :
        root.children = [] ∨ ∀ count, ¬ hasty count <:+: later ++ requests := by
      refine hclear.imp_right fun hclear count hinside => hclear count (hinside.trans ?_)
      obtain ⟨before, hbefore⟩ := hsuffix
      refine ⟨before, [], ?_⟩
      rw [List.append_nil, ← List.append_assoc, hbefore, List.append_assoc, List.singleton_append]
    cases request with
    | next =>
      have hnext : root.children = [] ∨ ∀ count, hasty count ≠ history ++ [.next] := by
        refine hclear.imp_right fun hclear count heq => hclear count ⟨[], requests, ?_⟩
        rw [heq, List.nil_append, List.append_assoc, List.singleton_append]
      obtain ⟨hanswer, later, hsuffix, htracks⟩ := h.next hnext
      rw [withoutIdle, answers, answers, hanswer, ← isSome_last_next]
      exact congrArg _ (ih htracks (hlater hsuffix))
    | skip =>
      cases hlast : w.last with
      | none =>
        obtain ⟨later, hsuffix, htracks⟩ := h.idle hlast
        have hanswers := ih htracks (hlater hsuffix)
        rwa [show w.skipChildren.last.isSome = false from congrArg Option.isSome hlast] at hanswers
      | some s =>
        have hanswers := ih (h.skip (by rw [hlast]; rfl)) (hlater List.nil_suffix)
        rwa [show w.skipChildren.last.isSome = true from congrArg Option.isSome hlast] at hanswers
    | restart => exact ih h.restart (hlater (List.suffix_append history [.restart]))

end Tracks

/-! ### All requests -/

theorem answers_append (w : Walker) (before after : List Request) :
    w.answers (before ++ after) = w.answers before ++ (before.foldl perform w).answers after := by
  induction before generalizing w with
  | nil => rfl
  | cons request before ih =>
    cases request with
    | next => simp only [List.cons_append, answers, ih, List.foldl_cons]
    | skip => simp only [List.cons_append, answers, ih, List.foldl_cons]
    | restart => simp only [List.cons_append, answers, ih, List.foldl_cons]

theorem length_answers (w : Walker) (requests : List Request) :
    (w.answers requests).length = requests.count .next := by
  induction requests generalizing w with
  | nil => rfl
  | cons request requests ih =>
    cases request with
    | next => simp [answers, ih]
    | skip => simp [answers, ih]
    | restart => simp [answers, ih]

theorem root_foldl_perform (w : Walker) (requests : List Request) :
    (requests.foldl perform w).root = w.root := by
  induction requests generalizing w with
  | nil => rfl
  | cons request requests ih => rw [List.foldl_cons, ih, root_perform]

theorem count_withoutIdle (w : Walker) (handed : Bool) (requests : List Request) :
    (w.withoutIdle handed requests).count .next = requests.count .next := by
  induction requests generalizing w handed with
  | nil => rfl
  | cons request requests ih =>
    cases request with
    | next => simp [withoutIdle, ih]
    | skip =>
      rw [withoutIdle]
      split <;> simp [ih]
    | restart => simp [withoutIdle, ih]

theorem withoutIdle_append (w : Walker) (handed : Bool) (before after : List Request) :
    ∃ later, w.withoutIdle handed (before ++ after) =
      w.withoutIdle handed before ++ (before.foldl perform w).withoutIdle later after := by
  induction before generalizing w handed with
  | nil => exact ⟨handed, rfl⟩
  | cons request before ih =>
    cases request with
    | next =>
      obtain ⟨later, hlater⟩ := ih (w.perform .next) w.next.1.isSome
      exact ⟨later, by rw [List.cons_append, withoutIdle, hlater]; rfl⟩
    | skip =>
      obtain ⟨later, hlater⟩ := ih (w.perform .skip) handed
      refine ⟨later, ?_⟩
      rw [List.cons_append, withoutIdle, withoutIdle, hlater]
      split <;> rfl
    | restart =>
      obtain ⟨later, hlater⟩ := ih (w.perform .restart) false
      exact ⟨later, by rw [List.cons_append, withoutIdle, hlater]; rfl⟩

theorem answers_replicate_skip (w : Walker) (count : Nat) (requests : List Request) :
    w.answers (List.replicate count .skip ++ requests) = (skipChildren^[count] w).answers requests := by
  induction count generalizing w with
  | zero => rfl
  | succ count ih =>
    rw [List.replicate_succ, List.cons_append, answers, ih]
    rfl

theorem withoutIdle_replicate_skip (w : Walker) (count : Nat) (requests : List Request) :
    w.withoutIdle false (List.replicate count .skip ++ requests) =
      (skipChildren^[count] w).withoutIdle false requests := by
  induction count generalizing w with
  | zero => rfl
  | succ count ih =>
    rw [List.replicate_succ, List.cons_append, withoutIdle, if_neg Bool.false_ne_true, ih]
    rfl

/-- After a hasty beginning, the root is all that is handed out. -/
theorem answers_hasty (w : Walker) (count : Nat) (requests : List Request) :
    ∃ more, w.answers (hasty count ++ requests) = (ofRoot w.root).next.1 :: none :: more := by
  have hroot : skipChildren^[count + 1] (ofRoot w.root) = (ofRoot w.root).skipChildren := by
    rw [iterate_skipChildren, if_neg (Nat.succ_ne_zero count)]
  refine ⟨(ofRoot w.root).skipChildren.next.2.next.2.answers requests, ?_⟩
  rw [hasty, List.append_assoc, List.cons_append, answers, answers_replicate_skip]
  show (skipChildren^[count + 1] (ofRoot w.root)).answers _ = _
  rw [hroot]
  rfl

theorem withoutIdle_hasty (w : Walker) (handed : Bool) (count : Nat) (requests : List Request) :
    ∃ more, w.withoutIdle handed (hasty count ++ requests) = .restart :: .next :: .next :: more := by
  rw [hasty, List.append_assoc, List.cons_append, withoutIdle, withoutIdle_replicate_skip]
  exact ⟨_, rfl⟩

/-- If the root has children, then one of them is handed out after the root. -/
theorem isSome_next_next (h : root.children ≠ []) : (ofRoot root).next.2.next.1.isSome := by
  obtain ⟨c, cs, hchildren⟩ := List.exists_cons_of_ne_nil h
  simp [next, descend, ofRoot, Stop.children, hchildren]

/-- A hasty beginning shows in the answers. -/
theorem answers_ne_of_hasty {count : Nat} (h : root.children ≠ [])
    (hhasty : hasty count <:+: .restart :: requests) :
    (ofRoot root).answers ((ofRoot root).withoutIdle false requests) ≠ (ofRoot root).answers requests := by
  intro heq
  obtain ⟨before, after, hrequests⟩ := hhasty
  rw [List.append_assoc] at hrequests
  -- Restarting a walk that has not begun makes no difference.
  have heq : (ofRoot root).answers ((ofRoot root).withoutIdle false (.restart :: requests)) =
      (ofRoot root).answers (.restart :: requests) := heq
  rw [← hrequests] at heq
  obtain ⟨later, hlater⟩ := withoutIdle_append (ofRoot root) false before (hasty count ++ after)
  obtain ⟨kept, hkept⟩ := withoutIdle_hasty (before.foldl perform (ofRoot root)) later count after
  obtain ⟨more, hmore⟩ := answers_hasty (before.foldl perform (ofRoot root)) count after
  rw [hlater, hkept, answers_append, answers_append, hmore, answers, answers, answers] at heq
  have hlength : ((ofRoot root).answers ((ofRoot root).withoutIdle false before)).length =
      ((ofRoot root).answers before).length := by
    rw [length_answers, length_answers, count_withoutIdle]
  have hroot (past : List Request) : (past.foldl perform (ofRoot root)).perform .restart = ofRoot root := by
    rw [perform, Walker.restart, root_foldl_perform]
    rfl
  obtain ⟨-, hanswer⟩ := List.cons.inj (List.append_inj heq hlength).2
  have hsecond : (ofRoot root).next.2.next.1 = none := by
    rw [hroot] at hanswer
    exact (List.cons.inj hanswer).1
  have hsome := isSome_next_next h
  rw [hsecond] at hsome
  cases hsome

end Walker

/-- Without the idle requests to skip, a walk gives the same answers if and only if no walk over the
tree is begun hastily, or the root has no children. A request that comes too early is like one for the
root. -/
theorem Walker.idle_requests_matter_iff (root : Node) (requests : List Request) :
    ((ofRoot root).answers ((ofRoot root).withoutIdle false requests) = (ofRoot root).answers requests ↔
      root.children = [] ∨ ∀ count, ¬ hasty count <:+: .restart :: requests) ∧
    (ofRoot root).answers (.skip :: .next :: requests) = (ofRoot root).answers (.next :: .skip :: requests) := by
  refine ⟨⟨fun heq => ?_, fun hclear => ?_⟩, ?_⟩
  · by_cases hchildren : root.children = []
    · exact .inl hchildren
    · exact .inr fun count hhasty => answers_ne_of_hasty hchildren hhasty heq
  · exact (Tracks.fresh 0).answers_eq hclear
  · have hskip : (ofRoot root).skipChildren.next = ((ofRoot root).next.1, (ofRoot root).next.2.skipChildren) :=
      next_skipChildren rfl
    simp only [answers, perform, hskip]

/-- A module with a single statement. -/
def Walker.lone : Node := ⟨⟨1, 1⟩, .module [⟨⟨1, 1⟩, .expr ⟨⟨1, 1⟩, .name "x"⟩⟩]⟩

/-- A request to skip before the module has been handed out hides the statement. -/
theorem Walker.early_request_hides_statement :
    (ofRoot lone).withoutIdle false [.skip, .next, .next] = [.next, .next] ∧
      ((ofRoot lone).answers [.next, .next]).map (·.map fun v => v.node.kind) = [some .module, some .expr] ∧
      ((ofRoot lone).answers [.skip, .next, .next]).map (·.map fun v => v.node.kind) =
        [some .module, none] := by
  exact ⟨rfl, rfl, rfl⟩

end CodeAudit
