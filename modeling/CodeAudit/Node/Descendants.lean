import CodeAudit.Node.Basic

/-!
# All nodes below a node

`Node.descendants` lists a tree in pre-order. The recursion is on the size of the node: a child is
smaller than the node it belongs to, whichever part of the node it sits in.
-/

namespace CodeAudit

namespace Shape

variable {α : Type} [SizeOf α]

private theorem sizeOf_toList_lt {o : Option α} {c : α} (h : c ∈ o.toList) :
    sizeOf c < sizeOf o := by
  cases o with
  | none => simp at h
  | some v => simp at h; subst h; simp

private theorem sizeOf_entry_lt {keys : List (Option α)} {values : List α} {c : α}
    (h : c ∈ (keys.zip values).flatMap fun entry => entry.1.toList ++ [entry.2]) :
    sizeOf c < sizeOf keys + sizeOf values := by
  obtain ⟨⟨k, v⟩, hmem, hc⟩ := List.mem_flatMap.mp h
  have hk := List.sizeOf_lt_of_mem (List.of_mem_zip hmem).1
  have hv := List.sizeOf_lt_of_mem (List.of_mem_zip hmem).2
  rcases List.mem_append.mp hc with hc | hc
  · have := sizeOf_toList_lt hc
    simp only at this
    omega
  · simp at hc
    subst hc
    omega

/-- A child is smaller than the construct it is a part of. -/
theorem sizeOf_lt_of_mem_children {s : Shape α} {c : α} (h : c ∈ s.children) :
    sizeOf c < sizeOf s := by
  have mem {l : List α} (hl : c ∈ l) : sizeOf c < sizeOf l := List.sizeOf_lt_of_mem hl
  have opt {o : Option α} (ho : c ∈ o.toList) : sizeOf c < sizeOf o := sizeOf_toList_lt ho
  cases s with
  | call func args keywords =>
    simp only [children, List.mem_cons, List.mem_append, List.mem_map] at h
    simp only [call.sizeOf_spec]
    rcases h with rfl | h | ⟨k, hk, rfl⟩
    · omega
    · have := mem h
      omega
    · have := List.sizeOf_lt_of_mem hk
      cases k
      simp only [Keyword.mk.sizeOf_spec] at *
      omega
  | dict keys values =>
    have := sizeOf_entry_lt (by simpa only [children] using h)
    simp only [dict.sizeOf_spec]
    omega
  | importNames | importFrom | str | num | constant | name =>
    simp only [children, List.not_mem_nil] at h
  | _ =>
    simp only [children, List.mem_cons, List.mem_append, List.not_mem_nil, or_false] at h
    simp +arith only [module.sizeOf_spec, functionDef.sizeOf_spec, assign.sizeOf_spec,
      annAssign.sizeOf_spec, forLoop.sizeOf_spec, whileLoop.sizeOf_spec, conditional.sizeOf_spec,
      member.sizeOf_spec, binOp.sizeOf_spec, compare.sizeOf_spec, boolOp.sizeOf_spec,
      unaryOp.sizeOf_spec, ret.sizeOf_spec, tryBlock.sizeOf_spec, handler.sizeOf_spec,
      assertion.sizeOf_spec, expr.sizeOf_spec, other.sizeOf_spec]
    grind

end Shape

namespace Node

/-- A child is smaller than its parent. -/
theorem sizeOf_lt_of_mem_children {n c : Node} (h : c ∈ n.children) : sizeOf c < sizeOf n := by
  obtain ⟨loc, shape⟩ := n
  have : sizeOf c < sizeOf shape := Shape.sizeOf_lt_of_mem_children h
  simp only [mk.sizeOf_spec]
  omega

/-- Every node of the tree below a node, the node itself first, in pre-order. -/
def descendants (n : Node) : List Node :=
  n :: n.children.attach.flatMap fun c => descendants c.1
termination_by sizeOf n
decreasing_by exact sizeOf_lt_of_mem_children c.2

end Node

end CodeAudit
