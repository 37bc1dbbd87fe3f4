import CodeAudit.Proofs.Building

/-!
# Where diagnostics come from

A rule reports the node it is asked about, or statements in the body of that node. Statements of a
body are children, so whatever is reported stands in the tree that is scanned, also where the tree
is none that a text could have. Name and severity of a diagnostic are those of a rule of the
registry, and its function is one of the definitions around the node that was looked at.
-/

namespace CodeAudit

/-- Findings that point at a node. -/
def PointAt (n : Node) (xs : List Finding) : Prop := ∀ x ∈ xs, x.loc = n.loc

/-- Findings that point at nodes of a tree. -/
def PointInto (n : Node) (xs : List Finding) : Prop := ∀ x ∈ xs, ∃ m ∈ n.descendants, x.loc = m.loc

section Findings

variable {n : Node} {xs : List Finding}

@[simp] theorem pointAt_nil : PointAt n [] := List.forall_mem_nil _

@[simp] theorem pointAt_report (info : RuleInfo) (vars : List (String × String)) :
    PointAt n (Catalog.report info n vars) := by
  simp [PointAt, Catalog.report, Finding.on]

theorem PointAt.pointInto (h : PointAt n xs) : PointInto n xs :=
  fun x hx => ⟨n, n.mem_descendants_self, h x hx⟩

theorem PointAt.pointInto_of_mem_children {c : Node} (h : PointAt c xs) (hc : c ∈ n.children) :
    PointInto n xs :=
  fun x hx => ⟨c, Node.mem_descendants_of_mem_children hc, h x hx⟩

theorem pointInto_flatten {xss : List (List Finding)} (h : ∀ xs ∈ xss, PointInto n xs) :
    PointInto n xss.flatten := by
  intro x hx
  obtain ⟨xs, hxs, hx⟩ := List.mem_flatten.mp hx
  exact h xs hxs x hx

end Findings

/-- The rule about secrets reports statements in the body of a function. -/
theorem Secrets.pointInto_hardcodedSecretRule (info : RuleInfo) (names : List String)
    (pattern : Regex) (n : Node) (p : Path) :
    PointInto n ((hardcodedSecretRule info names pattern).check n p) := by
  obtain ⟨loc, shape⟩ := n
  cases shape with
  | functionDef name params decorators body docstring =>
    refine pointInto_flatten fun xs hxs => ?_
    obtain ⟨i, hi, rfl⟩ := List.mem_mapIdx.mp hxs
    have hstmt : body[i] ∈ Node.children ⟨loc, .functionDef name params decorators body docstring⟩ :=
      List.mem_append_right _ (List.getElem_mem hi)
    refine PointAt.pointInto_of_mem_children (c := body[i]) ?_ hstmt
    split <;> simp
  | _ => exact pointAt_nil.pointInto

/-- One finding for each module that should not be imported, all on the import statement. -/
theorem Literals.pointInto_suspiciousImportRule (info : RuleInfo) (s : Settings) (n : Node)
    (p : Path) : PointInto n ((suspiciousImportRule info s).check n p) := by
  refine pointInto_flatten fun xs hxs => PointAt.pointInto ?_
  obtain ⟨module, -, rfl⟩ := List.mem_map.mp hxs
  split <;> simp

/-- Whatever a built-in rule reports is in the tree below the node that it is asked about. -/
theorem Rule.IsBuiltIn.pointInto_check {r : Rule} (h : r.IsBuiltIn) (n : Node) (p : Path) :
    PointInto n (r.check n p) := by
  cases h with
  | hardcodedSecret info names pattern =>
    exact Secrets.pointInto_hardcodedSecretRule info names pattern n p
  | suspiciousImport info s => exact Literals.pointInto_suspiciousImportRule info s n p
  | _ =>
    -- All other checks decide whether the node itself is reported.
    refine PointAt.pointInto ?_
    simp only [Catalog.callRule, Cryptography.weakKeySizeRule, Cryptography.missingOperationsRule,
      Cryptography.primitiveRule, Access.unsaltedHashRule, Access.insecureSessionRule,
      Access.incompleteRule, Access.permissiveRule, Access.entryRule, Logging.broadHandlerRule,
      Logging.unloggedHandlerRule, Logging.deprecatedCallRule, Logging.withoutLevelRule,
      Logging.printCallRule, Logging.assertUsedRule, Logging.todoUnloggedRule,
      Network.insecureProtocolRule, Network.verifyDisabledRule, Network.tlsKeywordsRule,
      Network.networkRule, Literals.maliciousStringRule, Literals.dangerousContextRule,
      Literals.obfuscatedStringRule, Literals.dangerousBuiltinRule, Branching.invalidRangeRule,
      Branching.conditionRule, Branching.nonRangeRule, Environment.iniFileRule,
      Environment.shellCommandRule, Requests.unvalidatedKeyRule, Requests.unvalidatedQueryRule,
      Requests.jsonResponseRule, Requests.loginRequiredRule]
    repeat' split
    all_goals simp

/-- The function of a visit is a definition of the tree. -/
theorem Visit.exists_functionDef_of_function? {root : Node} {v : Visit} (hv : v ∈ root.preorder)
    {name : String} (h : v.function? = some name) :
    ∃ n ∈ root.descendants, n.kind = .functionDef ∧ n.functionName? = some name := by
  obtain ⟨n, hn, hname⟩ := List.exists_of_findSome?_eq_some h
  refine ⟨n, Node.mem_descendants_of_mem_preorder hv n hn, ?_, hname⟩
  have hsome : n.functionName?.isSome := by
    rw [hname]
    rfl
  simpa [Node.isSome_functionName?] using hsome

/-- A diagnostic comes from a visit and a rule that speaks about it. -/
theorem Rule.exists_of_mem_verdicts {rules : List Rule} {root : Node} {d : Diagnostic}
    (h : d ∈ verdicts rules root) :
    ∃ v ∈ root.preorder, ∃ r ∈ rules, ∃ x ∈ r.check v.node v.path,
      d = ⟨r.id, r.info.severity, x.message, x.loc, v.function?⟩ := by
  obtain ⟨v, hv, h⟩ := List.mem_flatMap.mp h
  obtain ⟨r, hr, h⟩ := List.mem_flatMap.mp h
  rw [verdict] at h
  split at h
  · obtain ⟨x, hx, rfl⟩ := List.mem_map.mp h
    exact ⟨v, hv, r, hr, x, hx, rfl⟩
  · cases h

/-- A rule of a registry that is built has a description of the catalog, and its severity is the one
that the settings give it. -/
theorem RuleSettings.exists_info_of_build {s : RuleSettings} {g : Registry} (h : s.build = .ok g)
    {r : Rule} (hr : r ∈ g.rules) :
    ∃ info ∈ catalog, info.id = r.id ∧ r.id ∉ s.disabled ∧
      r.info.severity = (s.severity.get? r.id).getD info.severity := by
  have hinfo : r.info ∈ (s.infos.filter fun info => !s.disabled.contains info.id).map s.adjust := by
    rw [← map_info_of_build h]
    exact List.mem_map_of_mem hr
  obtain ⟨info, hmem, hadjust⟩ := List.mem_map.mp hinfo
  obtain ⟨hmem, henabled⟩ := List.mem_filter.mp hmem
  have hid : info.id = r.id := by
    rw [Rule.id, ← hadjust, s.id_adjust]
  refine ⟨info, List.mem_of_mem_filter hmem, hid, ?_, ?_⟩
  · rw [← hid]
    simpa using henabled
  · rw [← hadjust, s.adjust_eq, ← hid]

/-- Whatever settings are built and whatever module is scanned, every diagnostic stands where a node
of the module stands, has the name and the severity of a rule in the registry, which are those of the
catalog with the severity of the settings, and names no function or one that is defined in the
module. -/
theorem RuleSettings.scan_reports_nodes {s : RuleSettings} {g : Registry} (built : s.build = .ok g)
    (loc : Location) (body : List Node) :
    ∃ ds, g.scan ⟨loc, .module body⟩ = .ok ds ∧ ∀ d ∈ ds,
      (∃ n ∈ Node.descendants ⟨loc, .module body⟩, d.loc = n.loc) ∧
      (∃ r ∈ g.rules, d.ruleId = r.id ∧ d.severity = r.info.severity) ∧
      (∃ info ∈ catalog, d.ruleId = info.id ∧ d.ruleId ∉ s.disabled ∧
        d.severity = (s.severity.get? d.ruleId).getD info.severity) ∧
      (d.function = none ∨ ∃ n ∈ Node.descendants ⟨loc, .module body⟩,
        n.kind = .functionDef ∧ d.function = n.functionName?) := by
  refine ⟨_, scan_of_build built rfl, fun d hd => ?_⟩
  obtain ⟨v, hv, r, hr, x, hx, rfl⟩ := Rule.exists_of_mem_verdicts hd
  have hbuiltIn := allBuiltIn_of_build built r hr
  obtain ⟨m, hm, hloc⟩ := hbuiltIn.pointInto_check v.node v.path x hx
  have hnode := Node.mem_descendants_of_mem_preorder hv v.node List.mem_cons_self
  obtain ⟨info, hinfo, hid, henabled, hseverity⟩ := exists_info_of_build built hr
  refine ⟨⟨m, Node.mem_descendants_trans hm hnode, hloc⟩, ⟨r, hr, rfl, rfl⟩,
    ⟨info, hinfo, hid.symm, henabled, hseverity⟩, ?_⟩
  cases hfunction : v.function? with
  | none => exact .inl rfl
  | some name =>
    obtain ⟨n, hn, hkind, hname⟩ := Visit.exists_functionDef_of_function? hv hfunction
    exact .inr ⟨n, hn, hkind, hname.symm⟩

/-- An assertion in a function inside a function, about a dictionary with a key too many, where
assertions are graded up. The key that has no value is not part of the tree. -/
theorem RuleSettings.scan_reports_nodes_blank :
    let dict : Node := ⟨⟨3, 16⟩, .dict [some ⟨⟨3, 17⟩, .name "k"⟩] []⟩
    let inner : Node := ⟨⟨2, 5⟩, .functionDef "g" [] [] [⟨⟨3, 9⟩, .assertion dict none⟩] none⟩
    let s : RuleSettings := { blank with severity := .ofList [("assert_used", .high)] }
    ∃ g, s.build = .ok g ∧ ∃ ds,
      g.scan ⟨⟨1, 1⟩, .module [⟨⟨1, 1⟩, .functionDef "f" [] [] [inner] none⟩]⟩ = .ok ds ∧
      ∀ d ∈ ds, d.loc ∈ [(⟨1, 1⟩ : Location), ⟨2, 5⟩, ⟨3, 9⟩, ⟨3, 16⟩] ∧
        (d.ruleId = "assert_used" → d.severity = .high) ∧
        d.function ∈ [none, some "f", some "g"] := by
  intro dict inner s
  have hvalid : s.IsValid := { isValid_blank with names := by decide }
  obtain ⟨g, hg⟩ := exists_build hvalid
  obtain ⟨ds, hscan, hds⟩ :=
    scan_reports_nodes hg ⟨1, 1⟩ [⟨⟨1, 1⟩, .functionDef "f" [] [] [inner] none⟩]
  have hnodes : ∀ n ∈ Node.descendants
      ⟨⟨1, 1⟩, .module [⟨⟨1, 1⟩, .functionDef "f" [] [] [inner] none⟩]⟩,
      n.loc ∈ [(⟨1, 1⟩ : Location), ⟨2, 5⟩, ⟨3, 9⟩, ⟨3, 16⟩] ∧
        n.functionName? ∈ [none, some "f", some "g"] := by
    simp [Node.descendants_eq, Node.children, Shape.children, inner, dict, Node.functionName?]
  refine ⟨g, hg, ds, hscan, fun d hd => ?_⟩
  obtain ⟨⟨n, hn, hloc⟩, -, ⟨info, -, -, -, hseverity⟩, hfunction⟩ := hds d hd
  refine ⟨?_, fun hid => ?_, ?_⟩
  · rw [hloc]
    exact (hnodes n hn).1
  · rw [hseverity, hid]
    rfl
  · rcases hfunction with hnone | ⟨m, hm, -, hname⟩
    · simp [hnone]
    · rw [hname]
      exact (hnodes m hm).2

end CodeAudit
