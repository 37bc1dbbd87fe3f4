import CodeAudit.Walker
import Mathlib.Data.List.Nodup

/-!
# Positions and pre-order

A position is a list of child numbers, from the root on. `Node.at?` follows it down a tree, and
`Node.chain` collects the nodes that are passed on the way. The recursive pre-order of a tree,
`Node.preorder`, pairs each node with its path. Its members are exactly the nodes at the positions
of the tree, each position once.
-/

namespace CodeAudit

namespace Node

/-- The node at a position below a node. -/
def at? (n : Node) : List Nat → Option Node
  | [] => some n
  | i :: is => n.children[i]?.bind fun c => c.at? is

/-- The nodes that are passed on the way to a position, the outermost first. The node at the position
is not one of them. -/
def chain (n : Node) : List Nat → List Node
  | [] => []
  | i :: is => n :: (n.children[i]?.map fun c => c.chain is).getD []

@[simp] theorem at?_nil (n : Node) : n.at? [] = some n := rfl

theorem at?_cons (n : Node) (i : Nat) (is : List Nat) :
    n.at? (i :: is) = n.children[i]?.bind fun c => c.at? is := rfl

/-- Following a position can be interrupted anywhere. -/
theorem at?_append (n : Node) (is js : List Nat) :
    n.at? (is ++ js) = (n.at? is).bind fun c => c.at? js := by
  induction is generalizing n with
  | nil => rfl
  | cons i is ih =>
    cases h : n.children[i]? with
    | none => simp [at?_cons, h]
    | some c => simp [at?_cons, h, ih]

/-- One more level down adds the node that is left to the chain. -/
theorem chain_concat {n m : Node} {is : List Nat} (h : n.at? is = some m) (i : Nat) :
    n.chain (is ++ [i]) = n.chain is ++ [m] := by
  induction is generalizing n with
  | nil =>
    obtain rfl : n = m := by simpa using h
    cases hc : n.children[i]? <;> simp [chain, hc]
  | cons j js ih =>
    cases hc : n.children[j]? with
    | none => simp [at?_cons, hc] at h
    | some c =>
      have hm : c.at? js = some m := by simpa [at?_cons, hc] using h
      simp [chain, hc, ih hm]

end Node

namespace Visit

/-- The numbers of the children taken on the way from the root. -/
def position (v : Visit) : List Nat := (v.path.map Step.index).reverse

/-- Whether a visit is strictly above another one. -/
def Above (u v : Visit) : Prop := u.position <+: v.position ∧ u.position ≠ v.position

instance (u v : Visit) : Decidable (u.Above v) := inferInstanceAs (Decidable (_ ∧ _))

/-- The visits of the children, first child first. -/
def children (v : Visit) : List Visit :=
  v.node.children.mapIdx fun i c => ⟨c, ⟨v.node, i⟩ :: v.path⟩

theorem mem_children {u v : Visit} :
    u ∈ v.children ↔ ∃ i c, v.node.children[i]? = some c ∧ u = ⟨c, ⟨v.node, i⟩ :: v.path⟩ := by
  simp only [children, List.mem_mapIdx, List.getElem?_eq_some_iff]
  constructor
  · rintro ⟨i, hi, rfl⟩
    exact ⟨i, _, ⟨hi, rfl⟩, rfl⟩
  · rintro ⟨i, c, ⟨hi, rfl⟩, rfl⟩
    exact ⟨i, hi, rfl⟩

theorem map_node_children (v : Visit) : v.children.map Visit.node = v.node.children := by
  apply List.ext_getElem <;> simp [children]

@[simp] theorem position_child (v : Visit) (c : Node) (i : Nat) :
    position ⟨c, ⟨v.node, i⟩ :: v.path⟩ = v.position ++ [i] := by
  simp [position]

@[simp] theorem length_position (v : Visit) : v.position.length = v.path.depth := by
  simp [position, Path.depth]

theorem sizeOf_lt_of_mem_children {u v : Visit} (h : u ∈ v.children) :
    sizeOf u.node < sizeOf v.node := by
  obtain ⟨i, c, hc, rfl⟩ := mem_children.mp h
  exact Node.sizeOf_lt_of_mem_children (List.mem_of_getElem? hc)

/-- The tree at a visit in pre-order. -/
def subtree (v : Visit) : List Visit :=
  v :: v.children.attach.flatMap fun u => u.1.subtree
termination_by sizeOf v.node
decreasing_by exact sizeOf_lt_of_mem_children u.2

theorem subtree_eq (v : Visit) : v.subtree = v :: v.children.flatMap subtree := by
  rw [subtree]
  congr 1
  simp [List.flatMap]

/-- A change of visits that goes from visits to their children goes through the whole tree. -/
theorem subtree_map {g : Visit → Visit} (down : ∀ v, (g v).children = v.children.map g) (v : Visit) :
    (g v).subtree = v.subtree.map g := by
  rw [subtree_eq, subtree_eq v, List.map_cons, down, List.flatMap_map, List.map_flatMap]
  congr 1
  refine List.flatMap_congr fun c hc => ?_
  exact subtree_map down c
termination_by sizeOf v.node
decreasing_by exact sizeOf_lt_of_mem_children hc

/-- What holds at a visit and goes from visits to their children holds in the whole tree. -/
theorem subtree_induction {P : Visit → Prop} {v : Visit} (here : P v)
    (down : ∀ u c, P u → c ∈ u.children → P c) : ∀ u ∈ v.subtree, P u := by
  intro u hu
  rw [subtree_eq] at hu
  rcases List.mem_cons.mp hu with rfl | hu
  · exact here
  · obtain ⟨c, hc, hu⟩ := List.mem_flatMap.mp hu
    exact subtree_induction (down v c here hc) down u hu
termination_by sizeOf v.node
decreasing_by exact sizeOf_lt_of_mem_children hc

/-- The positions below a visit begin with its own. -/
theorem position_of_mem_subtree {u v : Visit} (h : u ∈ v.subtree) : v.position <+: u.position := by
  refine subtree_induction (P := fun u => v.position <+: u.position) (List.prefix_refl _) ?_ u h
  intro u c hu hc
  obtain ⟨i, n, -, rfl⟩ := mem_children.mp hc
  rw [position_child]
  exact hu.trans (List.prefix_append _ _)

/-- Whatever comes below a child is strictly below the parent. -/
theorem above_of_mem_children {u c v : Visit} (hc : c ∈ v.children) (hu : u ∈ c.subtree) :
    v.Above u := by
  obtain ⟨i, n, -, rfl⟩ := mem_children.mp hc
  have hp := position_of_mem_subtree hu
  rw [position_child] at hp
  refine ⟨(List.prefix_append _ _).trans hp, fun heq => ?_⟩
  have hlen := hp.length_le
  simp only [← heq, List.length_append, List.length_singleton] at hlen
  omega

theorem map_node_subtree (v : Visit) : v.subtree.map Visit.node = v.node.descendants := by
  rw [subtree_eq, Node.descendants_eq, List.map_cons, List.map_flatMap]
  congr 1
  conv_rhs => rw [← map_node_children v, List.flatMap_map]
  refine List.flatMap_congr fun c hc => ?_
  exact map_node_subtree c
termination_by sizeOf v.node
decreasing_by exact sizeOf_lt_of_mem_children hc

/-- Neither of two visits is at or below the other one. -/
def Apart (a b : Visit) : Prop := ¬ a.position <+: b.position ∧ ¬ b.position <+: a.position

theorem Apart.symm {a b : Visit} (h : a.Apart b) : b.Apart a := ⟨h.2, h.1⟩

theorem Apart.not_above {a b : Visit} (h : a.Apart b) : ¬ a.Above b := fun above => h.1 above.1

/-- Trees at visits that are apart have nothing to do with each other. -/
theorem Apart.of_mem_subtree {a b u v : Visit} (h : a.Apart b) (hu : u ∈ a.subtree)
    (hv : v ∈ b.subtree) : u.Apart v := by
  have ha := position_of_mem_subtree hu
  have hb := position_of_mem_subtree hv
  constructor
  · intro huv
    rcases List.prefix_or_prefix_of_prefix (ha.trans huv) hb with hab | hba
    · exact h.1 hab
    · exact h.2 hba
  · intro hvu
    rcases List.prefix_or_prefix_of_prefix ha (hb.trans hvu) with hab | hba
    · exact h.1 hab
    · exact h.2 hba

/-- The children of a visit are apart from each other. -/
theorem pairwise_apart_children (v : Visit) : v.children.Pairwise Apart := by
  rw [List.pairwise_iff_getElem]
  intro i j hi hj hij
  simp only [children, List.getElem_mapIdx, Apart, position_child]
  constructor <;> intro hp <;> have := hp.eq_of_length (by simp) <;> simp at this <;> omega

/-- A child is apart from everything its parent is apart from. -/
theorem Apart.of_mem_children {a b c : Visit} (h : a.Apart b) (hc : c ∈ a.children) : c.Apart b := by
  refine h.of_mem_subtree (u := c) (v := b) ?_ ?_
  · rw [subtree_eq]
    refine List.mem_cons_of_mem _ (List.mem_flatMap.mpr ⟨c, hc, ?_⟩)
    rw [subtree_eq]
    exact List.mem_cons_self
  · rw [subtree_eq]
    exact List.mem_cons_self

/-- No position occurs twice in the pre-order of a tree. -/
theorem nodup_position_subtree (v : Visit) : (v.subtree.map position).Nodup := by
  rw [subtree_eq, List.map_cons, List.map_flatMap, List.nodup_cons, List.nodup_flatMap]
  refine ⟨?_, ?_, ?_⟩
  · intro hmem
    obtain ⟨c, hc, hmem⟩ := List.mem_flatMap.mp hmem
    obtain ⟨u, hu, heq⟩ := List.mem_map.mp hmem
    exact (above_of_mem_children hc hu).2 heq.symm
  · intro c hc
    exact nodup_position_subtree c
  · refine v.pairwise_apart_children.imp fun {a b} hab => ?_
    intro pos ha hb
    obtain ⟨u, hu, rfl⟩ := List.mem_map.mp ha
    obtain ⟨w, hw, heq⟩ := List.mem_map.mp hb
    exact (hab.of_mem_subtree hu hw).1 (heq ▸ List.prefix_refl _)
termination_by sizeOf v.node
decreasing_by exact sizeOf_lt_of_mem_children hc

/-- Every position of the tree at a visit occurs in its pre-order. -/
theorem exists_mem_subtree {v : Visit} {is : List Nat} {n : Node} (h : v.node.at? is = some n) :
    ∃ u ∈ v.subtree, u.position = v.position ++ is := by
  induction is generalizing v with
  | nil => exact ⟨v, by rw [subtree_eq]; exact List.mem_cons_self, by simp⟩
  | cons i is ih =>
    rw [Node.at?_cons] at h
    obtain ⟨c, hc, h⟩ := Option.bind_eq_some_iff.mp h
    obtain ⟨u, hu, hpos⟩ := ih (v := ⟨c, ⟨v.node, i⟩ :: v.path⟩) h
    refine ⟨u, ?_, by rw [hpos, position_child, List.append_assoc, List.singleton_append]⟩
    rw [subtree_eq]
    exact List.mem_cons_of_mem _ (List.mem_flatMap.mpr ⟨_, mem_children.mpr ⟨i, c, hc, rfl⟩, hu⟩)

/-- A visit tells the truth about a tree: its node stands at its position, and its path lists the
proper ancestors of that position. -/
structure IsAt (root : Node) (v : Visit) : Prop where
  node : root.at? v.position = some v.node
  ancestors : v.path.ancestors.reverse = root.chain v.position

theorem IsAt.root (root : Node) : IsAt root ⟨root, []⟩ := ⟨rfl, rfl⟩

theorem IsAt.child {root : Node} {v c : Visit} (h : IsAt root v) (hc : c ∈ v.children) :
    IsAt root c := by
  obtain ⟨i, n, hn, rfl⟩ := mem_children.mp hc
  constructor
  · rw [position_child, Node.at?_append, h.node]
    simp [Node.at?_cons, hn]
  · rw [position_child, Node.chain_concat h.node, ← h.ancestors]
    simp [Path.ancestors]

end Visit

namespace Node

/-- The nodes of a tree in their places, in pre-order: a node, then the trees of its children one
after the other. -/
def preorder (root : Node) : List Visit := Visit.subtree ⟨root, []⟩

theorem isAt_of_mem_preorder {root : Node} {v : Visit} (h : v ∈ root.preorder) : v.IsAt root :=
  Visit.subtree_induction (.root root) (fun _ _ hu hc => hu.child hc) v h

/-- The positions in the pre-order of a tree are the positions of the tree. -/
theorem mem_position_preorder {root : Node} {pos : List Nat} :
    pos ∈ root.preorder.map Visit.position ↔ (root.at? pos).isSome := by
  constructor
  · intro h
    obtain ⟨v, hv, rfl⟩ := List.mem_map.mp h
    rw [(isAt_of_mem_preorder hv).node]
    rfl
  · intro h
    obtain ⟨n, hn⟩ := Option.isSome_iff_exists.mp h
    obtain ⟨u, hu, hpos⟩ := Visit.exists_mem_subtree (v := ⟨root, []⟩) hn
    exact List.mem_map.mpr ⟨u, hu, by simpa [Visit.position] using hpos⟩

theorem nodup_position_preorder (root : Node) : (root.preorder.map Visit.position).Nodup :=
  Visit.nodup_position_subtree ⟨root, []⟩

theorem map_node_preorder (root : Node) : root.preorder.map Visit.node = root.descendants :=
  Visit.map_node_subtree ⟨root, []⟩

theorem mem_descendants_self (n : Node) : n ∈ n.descendants := by
  rw [descendants_eq]
  exact List.mem_cons_self

theorem mem_descendants_of_mem_children {c n : Node} (h : c ∈ n.children) : c ∈ n.descendants := by
  rw [descendants_eq]
  exact List.mem_cons_of_mem _ (List.mem_flatMap.mpr ⟨c, h, c.mem_descendants_self⟩)

/-- What is in a tree that is in another tree is in that tree. -/
theorem mem_descendants_trans {a b c : Node} (hab : a ∈ b.descendants) (hbc : b ∈ c.descendants) :
    a ∈ c.descendants := by
  rw [descendants_eq] at hbc ⊢
  rcases List.mem_cons.mp hbc with rfl | hbc
  · rwa [← descendants_eq]
  · obtain ⟨d, hd, hbd⟩ := List.mem_flatMap.mp hbc
    exact List.mem_cons_of_mem _
      (List.mem_flatMap.mpr ⟨d, hd, mem_descendants_trans hab hbd⟩)
termination_by sizeOf c
decreasing_by exact sizeOf_lt_of_mem_children hd

/-- The nodes that a visit speaks of, its own and those that are passed on the way to it, are nodes of
the tree. -/
theorem mem_descendants_of_mem_preorder {root : Node} {v : Visit} (h : v ∈ root.preorder) :
    ∀ n ∈ v.node :: v.path.ancestors, n ∈ root.descendants := by
  refine Visit.subtree_induction (P := fun v => ∀ n ∈ v.node :: v.path.ancestors,
    n ∈ root.descendants) ?_ ?_ v h
  · intro n hn
    obtain rfl : n = root := by simpa [Path.ancestors] using hn
    exact n.mem_descendants_self
  · intro u c hu hc n hn
    obtain ⟨i, m, hm, rfl⟩ := Visit.mem_children.mp hc
    rcases List.mem_cons.mp hn with rfl | hn
    · exact mem_descendants_trans (mem_descendants_of_mem_children (List.mem_of_getElem? hm))
        (hu _ List.mem_cons_self)
    · exact hu n hn

end Node

end CodeAudit
