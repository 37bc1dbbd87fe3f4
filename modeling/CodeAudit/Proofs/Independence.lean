import CodeAudit.Proofs.Building

/-!
# Statements are audited one by one

The rules of the catalog look at a node, at what is below it and at some of its ancestors. What they
ask of an ancestor is never true of a module, so the module a statement belongs to does not matter
to them, and neither do the other statements of that module. A scan of a module is therefore the
concatenation of what is said about its statements, each taken as a tree of its own.
-/

namespace CodeAudit

namespace Path

variable {s : Step}

/-- A module around everything is not an enclosing function. -/
theorem enclosingFunction?_append (p : Path) (h : s.parent.kind = .module) :
    enclosingFunction? (p ++ [s]) = p.enclosingFunction? := by
  have hs : (s.parent.kind == Kind.functionDef) = false := by rw [h]; rfl
  rw [enclosingFunction?, enclosingFunction?, innermost?, innermost?, ancestors, ancestors,
    List.map_append, List.find?_append]
  simp [hs]

/-- A module around everything guards nothing. -/
theorem isGuarded_append (p : Path) (h : s.parent.kind = .module) :
    Requests.isGuarded (p ++ [s]) = Requests.isGuarded p := by
  have hs : Requests.isGuardingStep s = false := by
    obtain ⟨⟨loc, shape⟩, i⟩ := s
    cases shape <;> first | rfl | cases h
  simp [Requests.isGuarded, hs]

/-- A module is not a call, so nothing is handed to a dangerous callee by it. -/
theorem dangerousCallee?_append (p : Path) (h : s.parent.kind = .module)
    (modules functions : List String) :
    (parent? (p ++ [s])).bind (Literals.dangerousCallee? modules functions) =
      p.parent?.bind (Literals.dangerousCallee? modules functions) := by
  cases p with
  | cons _ _ => rfl
  | nil =>
    obtain ⟨⟨loc, shape⟩, i⟩ := s
    cases shape <;> first | rfl | cases h

end Path

/-- A rule that does not ask for modules and to which a module around everything makes no
difference. -/
structure Rule.IsLocal (r : Rule) : Prop where
  skips_module : r.kinds.contains .module = false
  check_append : ∀ n p s, s.parent.kind = .module → r.check n (p ++ [s]) = r.check n p

/-- No built-in rule asks for modules. -/
theorem Rule.IsBuiltIn.skips_module {r : Rule} (h : r.IsBuiltIn) :
    r.kinds.contains .module = false := by
  cases h with
  | suspiciousImport info s =>
    have himports : (KindSet.ofList [.importNames, .importFrom]).contains .module = false := by
      decide
    exact himports
  | _ => exact KindSet.contains_single _ .module

theorem Rule.IsBuiltIn.isLocal {r : Rule} (h : r.IsBuiltIn) : r.IsLocal := by
  refine ⟨h.skips_module, fun n p s hs => ?_⟩
  -- Four makers look at the path; for all others both sides are the same by definition.
  cases h with
  | printCall info logger =>
    simp only [Logging.printCallRule, Path.enclosingFunction?_append p hs]
  | dangerousContext info modules functions =>
    simp only [Literals.dangerousContextRule, Path.dangerousCallee?_append p hs]
  | unvalidatedKey info keys accessor =>
    simp only [Requests.unvalidatedKeyRule, Path.isGuarded_append p hs]
  | unvalidatedQuery info source accessor =>
    simp only [Requests.unvalidatedQueryRule, Path.isGuarded_append p hs]
  | _ => rfl

namespace Visit

/-- The same visit in a larger tree, where the way to the former root comes first. -/
def below (q : Path) (v : Visit) : Visit := ⟨v.node, v.path ++ q⟩

theorem children_below (q : Path) (v : Visit) :
    (v.below q).children = v.children.map (below q) := by
  apply List.ext_getElem <;> simp [children, below]

theorem subtree_below (q : Path) (v : Visit) : (v.below q).subtree = v.subtree.map (below q) :=
  subtree_map (children_below q) v

theorem function?_below {s : Step} (v : Visit) (h : s.parent.kind = .module) :
    (v.below [s]).function? = v.function? := by
  have hs : s.parent.functionName? = none := by
    rw [← Option.not_isSome_iff_eq_none, Node.isSome_functionName?, h]
    decide
  rw [function?, function?, Path.ancestors, below, List.map_append, ← List.cons_append,
    List.findSome?_append]
  simp [Path.ancestors, hs]

end Visit

namespace Rule

variable {r : Rule} {rules : List Rule}

theorem IsLocal.verdict_below (h : r.IsLocal) {s : Step} (hs : s.parent.kind = .module)
    (v : Visit) : r.verdict (v.below [s]) = r.verdict v := by
  rw [verdict, verdict, v.function?_below hs]
  simp only [Visit.below, h.check_append _ _ _ hs]

theorem IsLocal.verdict_module (h : r.IsLocal) {v : Visit} (hv : v.node.kind = .module) :
    r.verdict v = [] := by
  rw [verdict, hv, h.skips_module]
  rfl

/-- Local rules say about a module what they say about its statements one by one. -/
theorem verdicts_module (h : ∀ r ∈ rules, r.IsLocal) (loc : Location) (body : List Node) :
    verdicts rules ⟨loc, .module body⟩ = body.flatMap (verdicts rules) := by
  have hroot : rules.flatMap (fun r => r.verdict ⟨⟨loc, .module body⟩, []⟩) = [] :=
    List.flatMap_eq_nil_iff.mpr fun r hr => (h r hr).verdict_module rfl
  have hstmt : ∀ i c, (Visit.subtree ⟨c, [⟨⟨loc, .module body⟩, i⟩]⟩).flatMap
      (fun v => rules.flatMap fun r => r.verdict v) = verdicts rules c := by
    intro i c
    have hsub := Visit.subtree_below [⟨⟨loc, .module body⟩, i⟩] ⟨c, []⟩
    rw [Visit.below, List.nil_append] at hsub
    rw [hsub, List.flatMap_map]
    exact List.flatMap_congr fun v _ => List.flatMap_congr fun r hr =>
      (h r hr).verdict_below rfl v
  rw [verdicts, Node.preorder, Visit.subtree_eq, List.flatMap_cons, hroot, List.nil_append,
    List.flatMap_assoc]
  conv_rhs => rw [show body = (Visit.children ⟨⟨loc, .module body⟩, []⟩).map Visit.node from
    (Visit.map_node_children ⟨⟨loc, .module body⟩, []⟩).symm, List.flatMap_map]
  refine List.flatMap_congr fun c hc => ?_
  obtain ⟨i, n, -, rfl⟩ := Visit.mem_children.mp hc
  exact hstmt i n

end Rule

/-- What a registry of local rules reports about a module is what it reports about the statements. -/
theorem Registry.scan_module_index {rules : List Rule} (h : ∀ r ∈ rules, r.IsLocal)
    (loc : Location) (body : List Node) :
    scan ⟨rules, index rules⟩ ⟨loc, .module body⟩ = .ok (body.flatMap (Rule.verdicts rules)) := by
  rw [scan_index rules rfl, Rule.verdicts_module h]

/-- Whatever settings are built, a scan of two lists of statements one after the other reports what
scans of the two lists report, one after the other. No rule speaks about the module itself, and none
judges a node differently for standing in a module, with its statements and at any place among
them. -/
theorem RuleSettings.scan_append {s : RuleSettings} {g : Registry} (built : s.build = .ok g) :
    (∀ loc loc₁ loc₂ b₁ b₂, ∃ d₁ d₂, g.scan ⟨loc₁, .module b₁⟩ = .ok d₁ ∧
      g.scan ⟨loc₂, .module b₂⟩ = .ok d₂ ∧ g.scan ⟨loc, .module (b₁ ++ b₂)⟩ = .ok (d₁ ++ d₂)) ∧
    ∀ r ∈ g.rules, ∀ loc body,
      (∀ p, r.verdict ⟨⟨loc, .module body⟩, p⟩ = []) ∧
      ∀ n p i, r.verdict ⟨n, p ++ [⟨⟨loc, .module body⟩, i⟩]⟩ = r.verdict ⟨n, p⟩ := by
  have hlocal : ∀ r ∈ g.rules, r.IsLocal := fun r hr => (allBuiltIn_of_build built r hr).isLocal
  obtain ⟨all, -, rfl⟩ := exists_allRules_of_build built
  constructor
  · intro loc loc₁ loc₂ b₁ b₂
    refine ⟨_, _, Registry.scan_module_index hlocal loc₁ b₁,
      Registry.scan_module_index hlocal loc₂ b₂, ?_⟩
    rw [Registry.scan_module_index hlocal, List.flatMap_append]
  · intro r hr loc body
    exact ⟨fun p => (hlocal r hr).verdict_module rfl,
      fun n p i => (hlocal r hr).verdict_below rfl ⟨n, p⟩⟩

/-- A function that prints, before an assertion at the top level. -/
theorem RuleSettings.scan_append_blank :
    let print : Node := ⟨⟨2, 5⟩, .expr ⟨⟨2, 5⟩, .call ⟨⟨2, 5⟩, .name "print"⟩ [] []⟩⟩
    let function : Node := ⟨⟨1, 1⟩, .functionDef "f" [] [] [print] none⟩
    let assertion : Node := ⟨⟨3, 1⟩, .assertion ⟨⟨3, 8⟩, .name "x"⟩ none⟩
    ∃ g, blank.build = .ok g ∧ ∃ d₁ d₂, g.scan ⟨⟨1, 1⟩, .module [function]⟩ = .ok d₁ ∧
      g.scan ⟨⟨3, 1⟩, .module [assertion]⟩ = .ok d₂ ∧
      g.scan ⟨⟨1, 1⟩, .module [function, assertion]⟩ = .ok (d₁ ++ d₂) := by
  intro print function assertion
  obtain ⟨g, hg⟩ := exists_build isValid_blank
  exact ⟨g, hg, (scan_append hg).1 ⟨1, 1⟩ ⟨1, 1⟩ ⟨3, 1⟩ [function] [assertion]⟩

end CodeAudit
