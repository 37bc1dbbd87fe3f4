import CodeAudit.Proofs.Walk
import CodeAudit.Rule.Registry

/-!
# Scans without an index

A registry finds the rules for a node through an index by kinds, and a scan follows a lazy walk. Here
is what comes out, said without either: every node of the tree, in pre-order, is shown to every rule
in the order of registration, and a rule answers if it asks for the kind of the node.
-/

namespace CodeAudit

namespace Node

theorem isSome_functionName? (n : Node) : n.functionName?.isSome = (n.kind == .functionDef) := by
  obtain ⟨loc, shape⟩ := n
  cases shape <;> rfl

/-- The nearest function among some nodes has the first name that is found. -/
theorem find?_functionDef_bind (ns : List Node) :
    (ns.find? fun n => n.kind == .functionDef).bind functionName? = ns.findSome? functionName? := by
  induction ns with
  | nil => rfl
  | cons n ns ih =>
    rw [List.find?_cons, List.findSome?_cons, ← isSome_functionName?]
    cases h : n.functionName? with
    | none => simpa using ih
    | some name => simp [h]

end Node

namespace Visit

/-- The function that a visit belongs to: the first definition on the way from the node itself out to
the root. -/
def function? (v : Visit) : Option String :=
  (v.node :: v.path.ancestors).findSome? Node.functionName?

theorem functionNameFor?_eq (v : Visit) : v.path.functionNameFor? v.node = v.function? := by
  rw [Path.functionNameFor?, Path.enclosingFunction?, Path.innermost?, Node.find?_functionDef_bind,
    function?, List.findSome?_cons]
  cases v.node.functionName? <;> rfl

end Visit

namespace Rule

/-- What a rule has to say at a visit. -/
def verdict (r : Rule) (v : Visit) : List Diagnostic :=
  if r.kinds.contains v.node.kind then
    (r.check v.node v.path).map fun finding =>
      { ruleId := r.id
        severity := r.info.severity
        message := finding.message
        loc := finding.loc
        function := v.function? }
  else []

/-- What some rules have to say about a tree, node by node and rule by rule. -/
def verdicts (rules : List Rule) (root : Node) : List Diagnostic :=
  root.preorder.flatMap fun v => rules.flatMap fun r => r.verdict v

end Rule

/-- A search for repeated members finds none in a list of distinct members that are all new. -/
theorem firstRepeated?_eq_none_iff {seen xs : List String} :
    firstRepeated? seen xs = none ↔ xs.Nodup ∧ ∀ x ∈ xs, x ∉ seen := by
  induction xs generalizing seen with
  | nil => simp [firstRepeated?]
  | cons x xs ih =>
    rw [firstRepeated?]
    by_cases hx : x ∈ seen
    · simp [hx]
    · rw [if_neg (by simpa using hx), ih, List.nodup_cons]
      constructor
      · rintro ⟨hnodup, hnew⟩
        have hmem : x ∉ xs := fun h => hnew x h List.mem_cons_self
        refine ⟨⟨hmem, hnodup⟩, fun y hy => ?_⟩
        rcases List.mem_cons.mp hy with rfl | hy
        · exact hx
        · exact fun hseen => hnew y hy (List.mem_cons_of_mem _ hseen)
      · rintro ⟨⟨hmem, hnodup⟩, hnew⟩
        refine ⟨hnodup, fun y hy hseen => ?_⟩
        rcases List.mem_cons.mp hseen with rfl | hseen
        · exact hmem hy
        · exact hnew y (List.mem_cons_of_mem _ hy) hseen

namespace Report

/-- Recording some diagnostics adds them at the end, in order. -/
theorem toList_foldl_record (r : Report) (ds : List Diagnostic) :
    (ds.foldl record r).toList = r.toList ++ ds := by
  induction ds generalizing r with
  | nil => simp
  | cons d ds ih => simp [ih]

end Report

namespace Registry

/-- A registry is made exactly of rules with distinct names. -/
theorem ofRules_of_nodup {rules : List Rule} (h : (rules.map Rule.id).Nodup) :
    ofRules rules = .ok ⟨rules, index rules⟩ := by
  have hnone : firstRepeated? [] (rules.map Rule.id) = none :=
    firstRepeated?_eq_none_iff.mpr ⟨h, by simp⟩
  rw [ofRules, hnone]

theorem exists_ofRules_eq_error {rules : List Rule} (h : ¬ (rules.map Rule.id).Nodup) :
    ∃ id, ofRules rules = .error (.duplicateRule id) := by
  cases hfirst : firstRepeated? [] (rules.map Rule.id) with
  | none => exact absurd (firstRepeated?_eq_none_iff.mp hfirst).1 h
  | some id => exact ⟨id, by rw [ofRules, hfirst]⟩

theorem map_get_subscribers (rules : List Rule) (k : Kind) :
    (subscribers rules k).map rules.get = rules.filter fun r => r.kinds.contains k := by
  conv_rhs => rw [← List.map_get_finRange rules, List.filter_map]
  rfl

/-- The index leads to the rules that ask for a kind, in the order of registration. -/
theorem rulesFor_index (rules : List Rule) (k : Kind) :
    rulesFor ⟨rules, index rules⟩ k = rules.filter fun r => r.kinds.contains k := by
  have hget : (index rules).getD k.index.val [] = subscribers rules k := by
    simp [index, Array.getD_eq_getD_getElem?, Kind.all_get_index]
  rw [rulesFor, hget, map_get_subscribers]

theorem diagnose_index (rules : List Rule) (v : Visit) :
    diagnose ⟨rules, index rules⟩ v = rules.flatMap fun r => r.verdict v := by
  rw [diagnose, rulesFor_index, v.functionNameFor?_eq]
  induction rules with
  | nil => rfl
  | cons r rules ih =>
    rw [List.filter_cons, List.flatMap_cons, Rule.verdict]
    split
    · rw [List.flatMap_cons, ih]
      rfl
    · rw [ih, List.nil_append]

/-- A scan reports what is said about each visit, in the order of the walk. -/
theorem scan_module (g : Registry) {root : Node} (h : root.kind = .module) :
    g.scan root = .ok (root.preorder.flatMap g.diagnose) := by
  have hreport : ∀ (vs : List Visit) (r : Report),
      (vs.foldl (fun r v => (g.diagnose v).foldl Report.record r) r).toList =
        r.toList ++ vs.flatMap g.diagnose := by
    intro vs
    induction vs with
    | nil => simp
    | cons v vs ih =>
      intro r
      rw [List.foldl_cons, ih, Report.toList_foldl_record, List.flatMap_cons, List.append_assoc]
  simp only [scan, if_pos h, Node.visits_eq_preorder, hreport]
  rfl

/-- A registry with the index that belongs to its rules reports what the rules have to say. -/
theorem scan_index (rules : List Rule) {root : Node} (h : root.kind = .module) :
    scan ⟨rules, index rules⟩ root = .ok (Rule.verdicts rules root) := by
  rw [scan_module _ h]
  exact congrArg Except.ok (List.flatMap_congr fun v _ => diagnose_index rules v)

end Registry

/-- Rules with distinct names make a registry, and its scans report for each node in pre-order what
each rule that asks for its kind says, in the order of registration, and nothing else. There is no
registry exactly if two rules share a name. -/
theorem Registry.scan_eq_verdicts (rules : List Rule) :
    ((rules.map Rule.id).Nodup → ∃ g, ofRules rules = .ok g ∧
      ∀ loc body, g.scan ⟨loc, .module body⟩ = .ok (Rule.verdicts rules ⟨loc, .module body⟩)) ∧
    ((∃ e, ofRules rules = .error e) ↔ ¬ (rules.map Rule.id).Nodup) := by
  refine ⟨fun h => ⟨_, ofRules_of_nodup h, fun loc body => ?_⟩, ?_, ?_⟩
  · rw [scan_module _ rfl]
    exact congrArg Except.ok (List.flatMap_congr fun v _ => diagnose_index rules v)
  · rintro ⟨e, he⟩ h
    rw [ofRules_of_nodup h] at he
    cases he
  · intro h
    obtain ⟨id, hid⟩ := exists_ofRules_eq_error h
    exact ⟨_, hid⟩

/-- Two rules that ask for names, and a name inside and another one outside of a function. -/
theorem Registry.scan_eq_verdicts_two_rules :
    let ask (id : String) : Rule := ⟨⟨id, "", "", .low⟩, .single .name, fun n _ => [.on n id]⟩
    let name (line : Nat) : Node := ⟨⟨line, 1⟩, .expr ⟨⟨line, 1⟩, .name "x"⟩⟩
    ([ask "a", ask "b"].map Rule.id).Nodup ∧ ∃ g, ofRules [ask "a", ask "b"] = .ok g ∧
      g.scan ⟨⟨1, 1⟩, .module [⟨⟨1, 1⟩, .functionDef "f" [] [] [name 2] none⟩, name 3]⟩ =
        .ok [⟨"a", .low, "a", ⟨2, 1⟩, some "f"⟩, ⟨"b", .low, "b", ⟨2, 1⟩, some "f"⟩,
          ⟨"a", .low, "a", ⟨3, 1⟩, none⟩, ⟨"b", .low, "b", ⟨3, 1⟩, none⟩] := by
  intro ask name
  have distinct : ([ask "a", ask "b"].map Rule.id).Nodup := by decide
  obtain ⟨g, hg, hscan⟩ := (scan_eq_verdicts [ask "a", ask "b"]).1 distinct
  refine ⟨distinct, g, hg, ?_⟩
  rw [hscan]
  simp [Rule.verdicts, Node.preorder, Visit.subtree_eq, Visit.children, Node.children,
    Shape.children, Rule.verdict, ask, name, Node.kind, Shape.kind, KindSet.contains_single,
    Finding.on, Rule.id, Visit.function?, Path.ancestors]
  exact ⟨rfl, rfl, rfl, rfl⟩

end CodeAudit
