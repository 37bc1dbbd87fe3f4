import CodeAudit.Matching.Loops
import CodeAudit.Matching.Policies
import CodeAudit.Matching.Primitives
import CodeAudit.Proofs.Preorder

/-!
# Moving the nodes of a tree

`Node.relocate` gives every node of a tree another location and changes nothing else. The function
on locations is arbitrary: nodes that stood in different places may come to stand in the same place,
so that different parts of a tree can become equal.

Whatever is asked about a node or about a call has the same answer after a relocation, and what is
picked out of a node is picked out of the relocated node too, relocated. Both kinds of laws are
`simp` lemmas, so that they are found wherever rules ask such questions.
-/

namespace CodeAudit

namespace Shape

variable {α β : Type}

/-- What is done to the parts of a construct matters only for things that are smaller. -/
theorem map_congr [SizeOf α] {s : Shape α} {g h : α → β}
    (same : ∀ c, sizeOf c < sizeOf s → g c = h c) : s.map g = s.map h := by
  have list {l : List α} (hl : sizeOf l < sizeOf s) : l.map g = l.map h :=
    List.map_congr_left fun c hc => same c (Nat.lt_trans (List.sizeOf_lt_of_mem hc) hl)
  have option {o : Option α} (ho : sizeOf o < sizeOf s) : o.map g = o.map h := by
    cases o with
    | none => rfl
    | some c => exact congrArg some (same c (Nat.lt_trans (by simp) ho))
  cases s with
  | call func args keywords =>
    have hkeywords : (keywords.map fun k => (⟨k.name, g k.value⟩ : Keyword β)) =
        keywords.map fun k => ⟨k.name, h k.value⟩ := by
      refine List.map_congr_left fun k hk => ?_
      have hvalue : sizeOf k.value < sizeOf k := by
        cases k
        simp +arith
      have hkey := List.sizeOf_lt_of_mem hk
      rw [same k.value (by simp only [call.sizeOf_spec]; omega)]
    have hfunc : g func = h func := same func (by simp +arith)
    have hargs : args.map g = args.map h := list (by simp +arith)
    rw [map, map, hfunc, hargs, hkeywords]
  | dict keys values =>
    have hkeys : keys.map (Option.map g) = keys.map (Option.map h) := by
      refine List.map_congr_left fun o ho => option ?_
      have hkey := List.sizeOf_lt_of_mem ho
      simp only [dict.sizeOf_spec]
      omega
    simp (disch := simp +arith) only [map, list, hkeys]
  | _ => simp (disch := simp +arith) only [map, same, list, option]

@[simp] theorem children_map (f : α → β) (s : Shape α) :
    (s.map f).children = s.children.map f := by
  cases s with
  | dict keys values =>
    rw [map, children, children, List.zip_map, List.flatMap_map, List.map_flatMap]
    refine List.flatMap_congr fun entry _ => ?_
    cases h : entry.1 <;> simp [h]
  | _ => simp [map, children, Option.toList_map]

@[simp] theorem body_map (f : α → β) (s : Shape α) : (s.map f).body = s.body.map f := by
  cases s <;> rfl

end Shape

namespace Node

/-- The tree with every node moved. Parts are smaller than the node they belong to, so nothing is
left where it was. -/
noncomputable def relocate (f : Location → Location) (n : Node) : Node :=
  ⟨f n.loc, n.shape.map fun c => if _h : sizeOf c < sizeOf n then relocate f c else c⟩
termination_by sizeOf n

variable (f : Location → Location)

theorem relocate_eq (n : Node) : n.relocate f = ⟨f n.loc, n.shape.map (relocate f)⟩ := by
  rw [relocate]
  congr 1
  obtain ⟨loc, shape⟩ := n
  refine Shape.map_congr fun c (hc : sizeOf c < sizeOf shape) => dif_pos ?_
  simp only [mk.sizeOf_spec]
  omega

@[simp] theorem loc_relocate (n : Node) : (n.relocate f).loc = f n.loc := by rw [relocate_eq]

@[simp] theorem shape_relocate (n : Node) : (n.relocate f).shape = n.shape.map (relocate f) := by
  rw [relocate_eq]

@[simp] theorem kind_relocate (n : Node) : (n.relocate f).kind = n.kind := by simp [kind]

@[simp] theorem children_relocate (n : Node) :
    (n.relocate f).children = n.children.map (relocate f) := by
  simp [children]

@[simp] theorem body_relocate (n : Node) : (n.relocate f).body = n.body.map (relocate f) := by
  simp [body]

/-! ### Questions about a node -/

@[simp] theorem asStr?_relocate (n : Node) : (n.relocate f).asStr? = n.asStr? := by
  rw [asStr?, asStr?, shape_relocate]
  cases n.shape <;> rfl

@[simp] theorem asName?_relocate (n : Node) : (n.relocate f).asName? = n.asName? := by
  rw [asName?, asName?, shape_relocate]
  cases n.shape <;> rfl

@[simp] theorem functionName?_relocate (n : Node) :
    (n.relocate f).functionName? = n.functionName? := by
  rw [functionName?, functionName?, shape_relocate]
  cases n.shape <;> rfl

@[simp] theorem isBool_relocate (n : Node) (b : Bool) : (n.relocate f).isBool b = n.isBool b := by
  rw [isBool, isBool, shape_relocate]
  cases n.shape <;> rfl

@[simp] theorem asInt?_relocate : ∀ n : Node, (n.relocate f).asInt? = n.asInt?
  | ⟨loc, shape⟩ => by
    rw [relocate_eq]
    cases shape with
    | num v => cases v <;> rfl
    | unaryOp op operand => cases op <;> simp [Shape.map, asInt?, asInt?_relocate operand]
    | _ => rfl

@[simp] theorem dottedName?_relocate : ∀ n : Node, (n.relocate f).dottedName? = n.dottedName?
  | ⟨loc, shape⟩ => by
    rw [relocate_eq]
    cases shape with
    | member value attr => simp [Shape.map, dottedName?, dottedName?_relocate value]
    | _ => rfl

/-! ### Questions about a call -/

@[simp] theorem calleeName?_relocate (n : Node) : (n.relocate f).calleeName? = n.calleeName? := by
  rw [calleeName?, calleeName?, shape_relocate]
  cases n.shape <;> rfl

@[simp] theorem callName?_relocate (n : Node) : (n.relocate f).callName? = n.callName? := by
  rw [callName?, callName?, shape_relocate]
  cases n.shape with
  | call func args keywords => exact calleeName?_relocate f func
  | _ => rfl

@[simp] theorem callPath?_relocate (n : Node) : (n.relocate f).callPath? = n.callPath? := by
  rw [callPath?, callPath?, shape_relocate]
  cases n.shape with
  | call func args keywords => simp [Shape.map]
  | _ => rfl

@[simp] theorem bareCallee?_relocate (n : Node) : (n.relocate f).bareCallee? = n.bareCallee? := by
  rw [bareCallee?, bareCallee?, shape_relocate]
  cases n.shape with
  | call func args keywords => exact asName?_relocate f func
  | _ => rfl

@[simp] theorem receiverName?_relocate (n : Node) :
    (n.relocate f).receiverName? = n.receiverName? := by
  rw [receiverName?, receiverName?, shape_relocate]
  cases n.shape with
  | call func args keywords =>
    simp only [Shape.map, shape_relocate]
    cases func.shape with
    | member value attr => exact asName?_relocate f value
    | _ => rfl
  | _ => rfl

@[simp] theorem positional_relocate (n : Node) :
    (n.relocate f).positional = n.positional.map (relocate f) := by
  rw [positional, positional, shape_relocate]
  cases n.shape <;> rfl

end Node

/-- The argument with its value moved. -/
noncomputable def Keyword.relocate (f : Location → Location) (k : Keyword Node) : Keyword Node :=
  ⟨k.name, k.value.relocate f⟩

namespace Node

variable (f : Location → Location)

@[simp] theorem keywords_relocate (n : Node) :
    (n.relocate f).keywords = n.keywords.map (Keyword.relocate f) := by
  rw [keywords, keywords, shape_relocate]
  cases n.shape <;> rfl

theorem keywordNames_relocate (n : Node) :
    (n.relocate f).keywords.filterMap Keyword.name = n.keywords.filterMap Keyword.name := by
  rw [keywords_relocate, List.filterMap_map]
  rfl

@[simp] theorem keyword?_relocate (n : Node) (name : String) :
    (n.relocate f).keyword? name = (n.keyword? name).map (relocate f) := by
  rw [keyword?, keyword?, keywords_relocate, List.find?_map, Option.map_map, Option.map_map]
  rfl

@[simp] theorem strArg?_relocate (n : Node) (i : Nat) : (n.relocate f).strArg? i = n.strArg? i := by
  rw [strArg?, strArg?, positional_relocate, List.getElem?_map]
  cases n.positional[i]? with
  | none => rfl
  | some arg => exact asStr?_relocate f arg

@[simp] theorem keywordInt?_relocate (n : Node) (name : String) :
    (n.relocate f).keywordInt? name = n.keywordInt? name := by
  rw [keywordInt?, keywordInt?, keyword?_relocate]
  cases n.keyword? name with
  | none => rfl
  | some value => exact asInt?_relocate f value

@[simp] theorem observedNames_relocate (n : Node) :
    (n.relocate f).observedNames = n.observedNames := by
  have hstr : asStr? ∘ relocate f = asStr? := funext (asStr?_relocate f)
  rw [observedNames, observedNames, positional_relocate, keywordNames_relocate, List.filterMap_map,
    hstr]

end Node

@[simp] theorem CallMatcher.matches?_relocate (f : Location → Location) (m : CallMatcher)
    (n : Node) : m.matches? (n.relocate f) = m.matches? n := by
  cases m <;> simp [matches?]

namespace PrimitiveTable

variable (f : Location → Location) (t : PrimitiveTable) (primitive : String) (call : Node)

@[simp] theorem weakKey?_relocate (bitsKeyword : String) :
    t.weakKey? primitive (call.relocate f) bitsKeyword = t.weakKey? primitive call bitsKeyword := by
  simp only [weakKey?, Node.keywordInt?_relocate]

@[simp] theorem missingOps_relocate :
    t.missingOps primitive (call.relocate f) = t.missingOps primitive call := by
  simp only [missingOps, Node.observedNames_relocate]

end PrimitiveTable

/-! ### Loops and conditions -/

/-- The bound with its expression moved. -/
noncomputable def Bound.relocate (f : Location → Location) : Bound → Bound
  | default value => .default value
  | missing => .missing
  | expr node => .expr (node.relocate f)

/-- The range with its bounds moved. -/
noncomputable def RangeArgs.relocate (f : Location → Location) (r : RangeArgs) : RangeArgs :=
  ⟨r.start.relocate f, r.stop.relocate f, r.step.relocate f⟩

@[simp] theorem Bound.literal?_relocate (f : Location → Location) (b : Bound) :
    (b.relocate f).literal? = b.literal? := by
  cases b with
  | expr node => exact Node.asInt?_relocate f node
  | _ => rfl

@[simp] theorem Bound.describe_relocate (f : Location → Location) (b : Bound) :
    (b.relocate f).describe = b.describe := by
  rw [describe, describe, literal?_relocate]

namespace Node

variable (f : Location → Location)

@[simp] theorem targetLabel_relocate (n : Node) : (n.relocate f).targetLabel = n.targetLabel := by
  rw [targetLabel, targetLabel, calleeName?_relocate]

@[simp] theorem rangeArgs?_relocate (n : Node) :
    (n.relocate f).rangeArgs? = n.rangeArgs?.map (RangeArgs.relocate f) := by
  rw [rangeArgs?, rangeArgs?, bareCallee?_relocate]
  split
  · simp only [keyword?_relocate, positional_relocate, Option.map_some, Option.some.injEq]
    rcases n.positional with _ | ⟨first, _ | ⟨second, _ | ⟨third, rest⟩⟩⟩
    · cases n.keyword? "start" <;> cases n.keyword? "stop" <;> cases n.keyword? "step" <;> rfl
    all_goals rfl
  · rfl

@[simp] theorem isSoundRange_relocate (n : Node) (range : RangeArgs) :
    (n.relocate f).isSoundRange (range.relocate f) = n.isSoundRange range := by
  simp [isSoundRange, RangeArgs.relocate]

theorem anyInvalidCondition_eq_any (conds : List Node) :
    anyInvalidCondition conds = conds.any isInvalidCondition := by
  induction conds with
  | nil => rfl
  | cons cond conds ih => rw [anyInvalidCondition, ih, List.any_cons]

@[simp] theorem isInvalidCondition_relocate :
    ∀ n : Node, (n.relocate f).isInvalidCondition = n.isInvalidCondition
  | ⟨loc, shape⟩ => by
    rw [relocate_eq]
    cases shape with
    | compare left ops comparators =>
      -- Only a single operator with a single comparator is looked into.
      rcases ops with _ | ⟨op, _ | ⟨_, _⟩⟩
      · rfl
      · rcases comparators with _ | ⟨right, _ | ⟨_, _⟩⟩
        · cases op <;> rfl
        · cases op <;> simp [Shape.map, isInvalidCondition]
        · cases op <;> rfl
      · cases op <;> rfl
    | boolOp op values =>
      cases op with
      | or => rfl
      | and =>
        simp only [Shape.map, isInvalidCondition, anyInvalidCondition_eq_any, List.any_map]
        rw [Bool.eq_iff_iff, List.any_eq_true, List.any_eq_true]
        refine exists_congr fun c => and_congr_right fun hc => ?_
        rw [Function.comp, isInvalidCondition_relocate c]
    | unaryOp op operand =>
      cases op <;> simp [Shape.map, isInvalidCondition, isInvalidCondition_relocate operand]
    | _ => rfl
termination_by n => sizeOf n
decreasing_by
  · have := List.sizeOf_lt_of_mem hc
    simp only [mk.sizeOf_spec, Shape.boolOp.sizeOf_spec]
    omega
  · simp +arith

/-! ### Dictionaries -/

/-- The entries of a dictionary go together after a relocation as they did before. -/
theorem zip_relocate (keys : List (Option Node)) (values : List Node) :
    (keys.map (Option.map (relocate f))).zip (values.map (relocate f)) =
      (keys.zip values).map (Prod.map (Option.map (relocate f)) (relocate f)) :=
  List.zip_map ..

theorem bind_asStr?_relocate (key : Option Node) :
    (key.map (relocate f)).bind asStr? = key.bind asStr? := by
  cases key with
  | none => rfl
  | some key => exact asStr?_relocate f key

@[simp] theorem unpolicedKeys_relocate (n : Node) (words : List String) :
    (n.relocate f).unpolicedKeys words = n.unpolicedKeys words := by
  rw [unpolicedKeys, unpolicedKeys, shape_relocate]
  cases n.shape with
  | dict keys values =>
    simp only [Shape.map, List.filterMap_map, Function.comp_def, bind_asStr?_relocate]
  | _ => rfl

@[simp] theorem grantedPolicies_relocate (n : Node) (words : List String) :
    (n.relocate f).grantedPolicies words = n.grantedPolicies words := by
  rw [grantedPolicies, grantedPolicies, shape_relocate]
  cases n.shape with
  | dict keys values =>
    simp only [Shape.map, zip_relocate, List.flatMap_map, Prod.map_fst, Prod.map_snd,
      bind_asStr?_relocate, isBool_relocate]
  | _ => rfl

end Node

/-! ### Nodes in their places -/

/-- The step with its parent moved. -/
noncomputable def Step.relocate (f : Location → Location) (s : Step) : Step :=
  ⟨s.parent.relocate f, s.index⟩

/-- The way to a node through parents that are moved. -/
noncomputable def Path.relocate (f : Location → Location) (p : Path) : Path :=
  p.map (Step.relocate f)

/-- The visit with its node and the way to it moved. -/
noncomputable def Visit.relocate (f : Location → Location) (v : Visit) : Visit :=
  ⟨v.node.relocate f, v.path.relocate f⟩

namespace Path

variable (f : Location → Location)

@[simp] theorem ancestors_relocate (p : Path) :
    (p.relocate f).ancestors = p.ancestors.map (Node.relocate f) := by
  simp [ancestors, relocate, Function.comp_def, Step.relocate]

@[simp] theorem parent?_relocate (p : Path) :
    (p.relocate f).parent? = p.parent?.map (Node.relocate f) := by
  cases p <;> rfl

@[simp] theorem enclosingFunction?_relocate (p : Path) :
    (p.relocate f).enclosingFunction? = p.enclosingFunction?.map (Node.relocate f) := by
  rw [enclosingFunction?, enclosingFunction?, innermost?, innermost?, ancestors_relocate,
    List.find?_map]
  simp only [Function.comp_def, Node.kind_relocate]

end Path

namespace Visit

variable (f : Location → Location)

theorem children_relocate (v : Visit) :
    (v.relocate f).children = v.children.map (relocate f) := by
  apply List.ext_getElem <;> simp [children, relocate, Path.relocate, Step.relocate]

/-- The nodes below a visit that is moved are those below the visit, moved. -/
theorem subtree_relocate (v : Visit) : (v.relocate f).subtree = v.subtree.map (relocate f) :=
  subtree_map (children_relocate f) v

end Visit

namespace Node

variable (f : Location → Location)

theorem preorder_relocate (n : Node) :
    (n.relocate f).preorder = n.preorder.map (Visit.relocate f) :=
  Visit.subtree_relocate f ⟨n, []⟩

@[simp] theorem descendants_relocate (n : Node) :
    (n.relocate f).descendants = n.descendants.map (relocate f) := by
  rw [← map_node_preorder, ← map_node_preorder, preorder_relocate, List.map_map, List.map_map]
  rfl

end Node

end CodeAudit
