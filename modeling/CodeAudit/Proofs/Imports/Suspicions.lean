import CodeAudit.Proofs.Imports.Paths

/-!
# Imports of suspicious modules

Every import statement of a text is judged, module by module, by what comes before the first dot in the
path of the module. That is the first name of the path if the dot follows it at once. Otherwise it is the
name together with blank space or a continued line, which is no name and not found in any list. So a path
is reported by its first name alone as long as nothing stands between the name and the first dot, and layout
at any other place makes no difference.
-/

namespace CodeAudit

/-! ### Visits of import statements -/

namespace Visit

theorem function?_eq (v : Visit) :
    v.function? = v.node.functionName?.or (v.path.ancestors.findSome? Node.functionName?) := by
  rw [function?, List.findSome?_cons]
  cases v.node.functionName? <;> rfl

/-- A walk comes to the import statements of a tree, each in its function. -/
theorem map_filter_subtree (v : Visit) :
    (v.subtree.filter fun u => u.node.kind.isImport).map (fun u => (u.function?, u.node)) =
      v.node.importsIn (v.path.ancestors.findSome? Node.functionName?) := by
  have hchildren : ((v.children.flatMap subtree).filter fun u => u.node.kind.isImport).map
      (fun u => (u.function?, u.node)) = v.node.children.flatMap (Node.importsIn v.function?) := by
    rw [List.filter_flatMap, List.map_flatMap, ← map_node_children v, List.flatMap_map]
    refine List.flatMap_congr fun c hc => ?_
    rw [map_filter_subtree c]
    -- The first ancestors of a child are its parent and those of its parent.
    obtain ⟨i, n, -, rfl⟩ := mem_children.mp hc
    rfl
  rw [subtree_eq, Node.importsIn_eq, ← function?_eq, ← hchildren, List.filter_cons]
  split
  · rfl
  · rfl
termination_by sizeOf v.node
decreasing_by exact sizeOf_lt_of_mem_children hc

end Visit

/-! ### What a scan says about them -/

namespace Literals

/-- The lists that a name is looked up in, each with what is wrong about the names in it. -/
def Settings.blacklists (s : Settings) : List (String × List String) :=
  [("malicious keyword", s.badKeywords), ("built-in function name", s.badBuiltins),
    ("dangerous module", s.dangerousModules)]

/-- What is wrong about a name, if anything: the reason of the first list that it is in. -/
def Settings.reason? (s : Settings) (name : String) : Option String :=
  (s.blacklists.find? fun x => x.2.contains name).map Prod.fst

/-- A name is a bad keyword, a bad builtin or a dangerous module. -/
def Settings.Lists (s : Settings) (name : String) : Prop :=
  name ∈ s.badKeywords ∨ name ∈ s.badBuiltins ∨ name ∈ s.dangerousModules

theorem Settings.isSome_reason?_iff {s : Settings} {name : String} : (s.reason? name).isSome ↔ s.Lists name := by
  simp [reason?, blacklists, Lists]

theorem importReason?_eq (s : Settings) (module : String) :
    importReason? s module = s.reason? (Search.before '.' module) := by
  simp only [importReason?, Settings.reason?, Settings.blacklists, List.find?_cons]
  cases s.badKeywords.contains (Search.before '.' module) with
  | true => rfl
  | false =>
    cases s.badBuiltins.contains (Search.before '.' module) with
    | true => rfl
    | false => cases s.dangerousModules.contains (Search.before '.' module) <;> rfl

end Literals

/-- An import of a module that should not be imported. -/
structure Suspicion where
  /-- The function that the import statement stands in. -/
  function : Option String
  loc : Location
  module : String
  reason : String
deriving DecidableEq

namespace Suspicion

/-- What is reported. -/
def diagnostic (info : RuleInfo) (x : Suspicion) : Diagnostic where
  ruleId := info.id
  severity := info.severity
  message := info.render [("module", x.module), ("reason", x.reason)]
  loc := x.loc
  function := x.function

/-- What is reported, apart from the text of the module and the place. -/
def gist (x : Suspicion) : Option String × String := (x.function, x.reason)

end Suspicion

namespace Literals

variable {s : Settings} {info : RuleInfo}

/-- What is wrong with the modules that an import statement names, where the statement stands in a
function. -/
def suspicionsAt (s : Settings) (x : Option String × Node) : List Suspicion :=
  (importedModules x.2).filterMap fun module =>
    (importReason? s module).map fun reason => ⟨x.1, x.2.loc, module, reason⟩

theorem contains_kinds (k : Kind) : (KindSet.ofList [.importNames, .importFrom]).contains k = k.isImport := by
  cases k <;> rfl

theorem verdict_suspiciousImportRule (v : Visit) :
    (suspiciousImportRule info s).verdict v =
      if v.node.kind.isImport then (suspicionsAt s (v.function?, v.node)).map (Suspicion.diagnostic info)
      else [] := by
  rw [Rule.verdict, show (suspiciousImportRule info s).kinds.contains _ = _ from contains_kinds _]
  split
  · rw [suspicionsAt, List.map_filterMap]
    show ((importedModules v.node).flatMap _).map _ = _
    rw [List.map_flatMap, List.filterMap_eq_flatMap_toList]
    refine List.flatMap_congr fun module _ => ?_
    cases importReason? s module <;> rfl
  · rfl

/-- The rule about imports reports the import statements of a tree in pre-order. -/
theorem verdicts_suspiciousImportRule (root : Node) :
    Rule.verdicts [suspiciousImportRule info s] root =
      ((root.importsIn none).flatMap (suspicionsAt s)).map (Suspicion.diagnostic info) := by
  have hvisits : (root.preorder.filter fun v => v.node.kind.isImport).map (fun v => (v.function?, v.node)) =
      root.importsIn none := Visit.map_filter_subtree ⟨root, []⟩
  rw [Rule.verdicts, ← hvisits, List.flatMap_map, List.map_flatMap,
    ← flatMap_filter_eq (p := fun v : Visit => v.node.kind.isImport)]
  · refine List.flatMap_congr fun v hv => ?_
    rw [List.flatMap_singleton, verdict_suspiciousImportRule, if_pos (List.of_mem_filter hv)]
  · intro v _ himport
    rw [List.flatMap_singleton, verdict_suspiciousImportRule, if_neg (by simp [himport])]

end Literals

/-! ### The import statements of a text -/

namespace Tree

variable {s : Literals.Settings} {t u : Tree}

/-- The imports of a text that are suspicious: those of paths whose root is in one of the lists. -/
def suspicions (s : Literals.Settings) (t : Tree) : List Suspicion :=
  (t.importsIn none).flatMap fun x => x.2.paths.filterMap fun d =>
    (s.reason? d.root).map fun reason => ⟨x.1, x.2.loc, d.text, reason⟩

/-- The roots of the paths that the import statements of a text name, each with the function that the
statement stands in. -/
def roots (t : Tree) : List (Option String × String) :=
  (t.importsIn none).flatMap fun x => x.2.paths.map fun d => (x.1, d.root)

/-- The first names of the paths that the import statements of a text name. -/
def firstNames (t : Tree) : List (Option String × String) :=
  (t.importsIn none).flatMap fun x => x.2.paths.map fun d => (x.1, d.firstName)

/-- The paths that the import statements of a text name, layout apart. -/
def modules (t : Tree) : List (Option String × List String) :=
  (t.importsIn none).flatMap fun x => x.2.paths.map fun d => (x.1, d.words)

/-- In no path of an import statement does anything stand between the first name and the first dot. -/
def IsTight (t : Tree) : Prop := ∀ x ∈ t.importsIn none, ∀ d ∈ x.2.paths, d.seam = ""

instance (t : Tree) : Decidable t.IsTight :=
  inferInstanceAs (Decidable (∀ x ∈ t.importsIn none, ∀ d ∈ x.2.paths, d.seam = ""))

theorem mem_importsIn {x : Option String × Tree} (hx : x ∈ t.importsIn none) :
    x.2 ∈ t.subtrees ∧ x.2.label.isImport := by
  have hmem : x.2 ∈ (t.importsIn none).map Prod.snd := List.mem_map_of_mem hx
  rw [map_snd_importsIn] at hmem
  exact List.mem_filter.mp hmem

theorem exists_mem_importsIn {i : Tree} (hi : i ∈ t.subtrees) (himport : i.label.isImport) :
    ∃ function, (function, i) ∈ t.importsIn none := by
  have hmem : i ∈ (t.importsIn none).map Prod.snd := by
    rw [map_snd_importsIn]
    exact List.mem_filter.mpr ⟨hi, himport⟩
  obtain ⟨⟨function, _⟩, hx, rfl⟩ := List.mem_map.mp hmem
  exact ⟨function, hx⟩

/-- What is reported about the import statements of a text, apart from the texts of the modules and the
places, is known from the roots of the paths. -/
theorem map_gist_suspicions (s : Literals.Settings) (t : Tree) :
    (t.suspicions s).map Suspicion.gist =
      t.roots.filterMap fun x => (s.reason? x.2).map fun reason => (x.1, reason) := by
  rw [suspicions, roots, List.map_flatMap, List.filterMap_flatMap]
  refine List.flatMap_congr fun x _ => ?_
  rw [List.map_filterMap, List.filterMap_map]
  refine List.filterMap_congr fun d _ => ?_
  show Option.map _ _ = Option.map _ _
  rw [Option.map_map]
  rfl

theorem IsTight.roots_eq (h : t.IsTight) : t.roots = t.firstNames := by
  refine List.flatMap_congr fun x hx => List.map_congr_left fun d hd => ?_
  rw [root, h x hx d hd]
  exact congrArg (Prod.mk x.1) String.append_empty

/-- What is said about the paths of import statements holds of all of them in a text. -/
theorem IsModule.namesPaths (h : t.IsModule) {i : Tree} (hi : i ∈ t.subtrees) (himport : i.label.isImport) :
    i.NamesPaths := by
  cases hlabel : i.label with
  | token terminal =>
    rw [hlabel] at himport
    cases himport
  | phrase p =>
    refine Grows.namesPaths (h.grows_of_mem hi hlabel ?_) himport
    rintro rfl
    rw [hlabel] at himport
    cases himport

theorem IsModule.isPath (h : t.IsModule) (hspelled : t.IsSpelled) {i d : Tree} (hi : i ∈ t.subtrees)
    (himport : i.label.isImport) (hd : d ∈ i.paths) : d.IsPath ∧ d.IsSpelled := by
  have hpaths := h.namesPaths hi himport
  exact ⟨hpaths.isPath d hd, hspelled.subtree (subset_subtrees hi d (hpaths.inside d hd))⟩

/-- The first names are the same in all texts that name the same paths, layout apart. -/
theorem IsModule.firstNames_eq (h : t.IsModule) (hspelled : t.IsSpelled) :
    t.firstNames = t.modules.map fun x => (x.1, firstOf x.2) := by
  rw [firstNames, modules, List.map_flatMap]
  refine List.flatMap_congr fun x hx => ?_
  rw [List.map_map]
  refine List.map_congr_left fun d hd => ?_
  obtain ⟨hin, himport⟩ := mem_importsIn hx
  obtain ⟨hpath, hspelled⟩ := h.isPath hspelled hin himport hd
  exact congrArg (Prod.mk x.1) (hpath.firstName_eq hspelled)

/-- The import statements of a module are reported by the roots of their paths. -/
theorem IsModule.flatMap_suspicionsAt (h : t.IsModule) (hspelled : t.IsSpelled) :
    ((Node.ofTree t).importsIn none).flatMap (Literals.suspicionsAt s) = t.suspicions s := by
  rw [h.importsIn_ofTree, List.flatMap_map, suspicions]
  refine List.flatMap_congr fun x hx => ?_
  obtain ⟨hin, himport⟩ := mem_importsIn hx
  have hpaths := h.namesPaths hin himport
  rw [Literals.suspicionsAt, stated, hpaths.modules (hspelled.subtree hin), hpaths.loc, List.filterMap_map]
  refine List.filterMap_congr fun d hd => ?_
  obtain ⟨hpath, hspelled⟩ := h.isPath hspelled hin himport hd
  show Option.map _ (Literals.importReason? s d.text) = _
  rw [Literals.importReason?_eq, hpath.before_text hspelled]

/-- How the import statements of a text are judged, where `ds` is what a scan reports. -/
structure Judged (s : Literals.Settings) (info : RuleInfo) (t : Tree) (ds : List Diagnostic) : Prop where
  /-- All that is suspicious is reported in the order of the text, and nothing else is. -/
  reported : ds.filter (fun d => d.ruleId == "suspicious_import") =
    (t.suspicions s).map (Suspicion.diagnostic info)
  /-- Where nothing stands between the first name of a path and the first dot, the name decides. -/
  tight : ∀ i ∈ t.subtrees, i.label.isImport → ∀ d ∈ i.paths, d.seam = "" →
    d.root = d.firstName ∧ (s.Lists d.firstName →
      ∃ x ∈ t.suspicions s, x.loc = i.loc ∧ x.module = d.text ∧ s.reason? d.firstName = some x.reason)
  /-- Otherwise the path is judged by a text that is no name, and is missed if only names are listed. -/
  loose : ∀ i ∈ t.subtrees, i.label.isImport → ∀ d ∈ i.paths, d.seam ≠ "" →
    (∃ c ∈ d.root.toList, separates c) ∧
      ((∀ name, s.Lists name → ∀ c ∈ name.toList, separates c = false) → s.reason? d.root = none)

/-- A path is reported if what comes before its first dot is in one of the lists. -/
theorem exists_mem_suspicions {i d : Tree} (hi : i ∈ t.subtrees) (himport : i.label.isImport)
    (hd : d ∈ i.paths) {reason : String} (hreason : s.reason? d.root = some reason) :
    ∃ x ∈ t.suspicions s, x.loc = i.loc ∧ x.module = d.text ∧ x.reason = reason := by
  obtain ⟨function, hx⟩ := exists_mem_importsIn hi himport
  refine ⟨⟨function, i.loc, d.text, reason⟩, ?_, rfl, rfl, rfl⟩
  refine List.mem_flatMap.mpr ⟨_, hx, List.mem_filterMap.mpr ⟨d, hd, ?_⟩⟩
  rw [hreason]
  rfl

theorem IsModule.judged (h : t.IsModule) (hspelled : t.IsSpelled) {info : RuleInfo} {ds : List Diagnostic}
    (hreported : ds.filter (fun d => d.ruleId == "suspicious_import") =
      (((Node.ofTree t).importsIn none).flatMap (Literals.suspicionsAt s)).map (Suspicion.diagnostic info)) :
    t.Judged s info ds := by
  rw [h.flatMap_suspicionsAt hspelled] at hreported
  have hroot : ∀ i ∈ t.subtrees, i.label.isImport → ∀ d ∈ i.paths,
      d.seam = "" ∧ d.root = d.firstName ∨ d.seam ≠ "" ∧ ∃ c ∈ d.root.toList, separates c := by
    intro i hi himport d hd
    obtain ⟨hpath, hspelled⟩ := h.isPath hspelled hi himport hd
    exact hpath.root_spec hspelled
  refine ⟨hreported, fun i hi himport d hd hseam => ?_, fun i hi himport d hd hseam => ?_⟩
  · rcases hroot i hi himport d hd with ⟨-, hname⟩ | ⟨hloose, -⟩
    · refine ⟨hname, fun hlisted => ?_⟩
      obtain ⟨reason, hreason⟩ := Option.isSome_iff_exists.mp (Literals.Settings.isSome_reason?_iff.mpr hlisted)
      obtain ⟨x, hx, hloc, hmodule, rfl⟩ := exists_mem_suspicions hi himport hd (hname.symm ▸ hreason)
      exact ⟨x, hx, hloc, hmodule, hreason⟩
    · exact absurd hseam hloose
  · rcases hroot i hi himport d hd with ⟨htight, -⟩ | ⟨-, c, hc, hseparates⟩
    · exact absurd htight hseam
    · refine ⟨⟨c, hc, hseparates⟩, fun hnames => ?_⟩
      cases hreason : s.reason? d.root with
      | none => rfl
      | some reason =>
        have hlisted : s.Lists d.root := Literals.Settings.isSome_reason?_iff.mp (by rw [hreason]; rfl)
        rw [hnames _ hlisted c hc] at hseparates
        cases hseparates

end Tree

namespace RuleSettings

/-- The rule about imports is in every registry, unless it is left out. -/
theorem mem_suspiciousImportRule_of_build {s : RuleSettings} {g : Registry} (h : s.build = .ok g)
    (henabled : Literals.suspiciousImport.id ∉ s.disabled) :
    Literals.suspiciousImportRule (s.adjust Literals.suspiciousImport) s.literals ∈ g.rules := by
  obtain ⟨rs, hrs, hmem⟩ := exists_literals_of_build h
  refine hmem _ (Literals.mem_rules hrs).2 ?_
  rwa [Rule.id, Literals.suspiciousImportRule, s.id_adjust]

/-- A scan judges the import statements of a module. -/
theorem exists_judged {s : RuleSettings} {g : Registry} (h : s.build = .ok g)
    (henabled : Literals.suspiciousImport.id ∉ s.disabled) {t : Tree} (ht : t.IsModule) (hspelled : t.IsSpelled) :
    ∃ ds, g.scan (.ofTree t) = .ok ds ∧ t.Judged s.literals (s.adjust Literals.suspiciousImport) ds := by
  have hr := mem_suspiciousImportRule_of_build h henabled
  have hid : (Literals.suspiciousImportRule (s.adjust Literals.suspiciousImport) s.literals).id =
      "suspicious_import" := s.id_adjust _
  refine ⟨_, scan_of_build h rfl, ht.judged hspelled ?_⟩
  rw [← Literals.verdicts_suspiciousImportRule, ← hid]
  exact Rule.filter_verdicts_eq_alone (nodup_of_build h) hr _

end RuleSettings

/-- Every import statement of a source is judged module by module. What decides is the text before the first
dot of the path: the first name alone where the dot follows it at once, or where there is no dot, and a text
that is no name otherwise. Texts that name the same paths, layout apart, have the same first names. If nothing
stands between these and the first dots, the reports on the two texts differ only in the texts of the modules
and in the places, and so they do if the same stands there in both texts. -/
theorem RuleSettings.imports_judged_by_roots {s : RuleSettings} {g : Registry} (built : s.build = .ok g)
    (enabled : "suspicious_import" ∉ s.disabled) :
    (∀ bytes root, Node.ofSource bytes = .ok root →
      ∃ chars t ds, Utf8.decode bytes = .ok chars ∧ Tree.ofSource? (.ofChars chars) = some t ∧
        t.IsModule ∧ t.IsSpelled ∧ g.scan root = .ok ds ∧
        t.Judged s.literals (s.adjust Literals.suspiciousImport) ds) ∧
    (∀ t : Tree, t.IsModule → t.IsSpelled →
      ∃ ds, g.scan (.ofTree t) = .ok ds ∧ t.Judged s.literals (s.adjust Literals.suspiciousImport) ds) ∧
    ∀ t u : Tree, t.IsModule → t.IsSpelled → u.IsModule → u.IsSpelled →
      (t.modules = u.modules → t.firstNames = u.firstNames) ∧
      (t.roots = u.roots ∨ t.IsTight ∧ u.IsTight ∧ t.firstNames = u.firstNames →
        (t.suspicions s.literals).map Suspicion.gist = (u.suspicions s.literals).map Suspicion.gist) := by
  refine ⟨fun bytes root hsource => ?_, fun t ht hspelled => exists_judged built enabled ht hspelled, ?_⟩
  · obtain ⟨chars, t, hdecode, htree, rfl⟩ := Node.exists_tree_of_ofSource hsource
    have ht := Tree.isModule_of_ofSource? htree
    have hspelled := Tree.isSpelled_of_ofSource? htree
    obtain ⟨ds, hds, hjudged⟩ := exists_judged built enabled ht hspelled
    exact ⟨chars, t, ds, hdecode, htree, ht, hspelled, hds, hjudged⟩
  · intro t u ht hspelled hu hspelled'
    refine ⟨fun hmodules => ?_, fun h => ?_⟩
    · rw [ht.firstNames_eq hspelled, hu.firstNames_eq hspelled', hmodules]
    · have hroots : t.roots = u.roots := by
        rcases h with hroots | ⟨htight, htight', hnames⟩
        · exact hroots
        · rw [htight.roots_eq, htight'.roots_eq, hnames]
      rw [Tree.map_gist_suspicions, Tree.map_gist_suspicions, hroots]

/-! ### Layout around a dot

The import of `os.path`, with layout before the dot and after it. -/

namespace Spaced

open Sample Grammar

/-- `import os.path`, where the dot comes after `extras`. -/
def outline (extras : List (Terminal × Lexeme)) (dot last : Lexeme) (stop : Location) : Outline :=
  chain (.phrase .module) (.loop 0) <| statement .simpleStatements <|
    simple .importStatement
      (.form (.phrase .importStatement) (plain [literal "import", .phrase .importList])
        [word 1 "" 1 "import",
          .form (.phrase .importList) { steps := [having .name (.phrase .dottedName)] }
            [.form (.phrase .dottedName)
              { steps := [.token .identifier, .loop 17].map fun x => ⟨x, { level := some 1 }⟩ }
              [name 1 " " 8 "os",
                .form (.loop 17) (plain [literal ".", .token .identifier])
                  [.token extras (.literal ".") dot, .token [] .identifier last]]]])
      stop.line stop.col

/-- `import os. path` -/
def after : Tree :=
  (outline [] ⟨"", ⟨1, 10⟩, "."⟩ ⟨" ", ⟨1, 12⟩, "path"⟩ ⟨1, 16⟩).text ⟨"", ⟨1, 16⟩, ""⟩

/-- `import os.path` -/
def close : Tree :=
  (outline [] ⟨"", ⟨1, 10⟩, "."⟩ ⟨"", ⟨1, 11⟩, "path"⟩ ⟨1, 15⟩).text ⟨"", ⟨1, 15⟩, ""⟩

/-- `import os . path` -/
def around : Tree :=
  (outline [] ⟨" ", ⟨1, 11⟩, "."⟩ ⟨" ", ⟨1, 13⟩, "path"⟩ ⟨1, 17⟩).text ⟨"", ⟨1, 17⟩, ""⟩

/-- `import os`, continued in the second line with `.path` -/
def continued : Tree :=
  (outline [(.lineContinuation, ⟨"", ⟨1, 10⟩, "\\\n"⟩)] ⟨"", ⟨2, 1⟩, "."⟩ ⟨"", ⟨2, 2⟩, "path"⟩ ⟨2, 6⟩).text
    ⟨"", ⟨2, 6⟩, ""⟩

theorem isModule_after : after.IsModule := Outline.isModule_text (by decide +kernel) rfl _

theorem isModule_close : close.IsModule := Outline.isModule_text (by decide +kernel) rfl _

theorem isModule_around : around.IsModule := Outline.isModule_text (by decide +kernel) rfl _

theorem isModule_continued : continued.IsModule := Outline.isModule_text (by decide +kernel) rfl _

/-- What is reported about the import of `os.path`, whose path is written as `path`. -/
def report (path : String) : Diagnostic where
  ruleId := "suspicious_import"
  severity := .medium
  message := "imports '" ++ path ++ "' (dangerous module)"
  loc := ⟨1, 1⟩
  function := none

end Spaced

/-- With the default settings, the import of `os.path` is reported with a blank after the dot as it is
without one. -/
theorem RuleSettings.imports_judged_by_roots_blank_after_dot :
    (Spaced.after.IsModule ∧ Spaced.after.IsSpelled ∧ Spaced.after.IsTight) ∧
    (Spaced.close.IsModule ∧ Spaced.close.IsSpelled ∧ Spaced.close.IsTight) ∧
    Spaced.after.modules = Spaced.close.modules ∧
    ∃ g, ({} : RuleSettings).build = .ok g ∧ "suspicious_import" ∉ ({} : RuleSettings).disabled ∧
      (∃ ds, g.scan (.ofTree Spaced.after) = .ok ds ∧
        ds.filter (fun d => d.ruleId == "suspicious_import") = [Spaced.report "os. path"]) ∧
      (Spaced.after.suspicions {}).map Suspicion.gist = (Spaced.close.suspicions {}).map Suspicion.gist := by
  obtain ⟨g, hg⟩ := exists_build isValid_default
  have enabled : "suspicious_import" ∉ ({} : RuleSettings).disabled := by decide
  have hafter : Spaced.after.IsSpelled ∧ Spaced.after.IsTight := by decide +kernel
  have hclose : Spaced.close.IsSpelled ∧ Spaced.close.IsTight := by decide +kernel
  have hmodules : Spaced.after.modules = Spaced.close.modules := by decide +kernel
  obtain ⟨-, hscan, hpair⟩ := imports_judged_by_roots hg enabled
  obtain ⟨ds, hds, hjudged⟩ := hscan Spaced.after Spaced.isModule_after hafter.1
  obtain ⟨hnames, hgists⟩ := hpair _ _ Spaced.isModule_after hafter.1 Spaced.isModule_close hclose.1
  refine ⟨⟨Spaced.isModule_after, hafter⟩, ⟨Spaced.isModule_close, hclose⟩, hmodules, g, hg, enabled,
    ⟨ds, hds, ?_⟩, hgists (.inr ⟨hafter.2, hclose.2, hnames hmodules⟩)⟩
  rw [hjudged.reported]
  decide +kernel

/-- With a blank or a continued line before the dot, the import of `os.path` is not reported, although it
names the same module and `os` is a dangerous one. -/
theorem RuleSettings.import_missed_with_layout_before_dot :
    "os" ∈ ({} : RuleSettings).literals.dangerousModules ∧
    Spaced.close.firstNames = [(none, "os")] ∧
    (Spaced.around.IsModule ∧ Spaced.around.IsSpelled ∧ Spaced.around.modules = Spaced.close.modules) ∧
    (Spaced.continued.IsModule ∧ Spaced.continued.IsSpelled ∧ Spaced.continued.modules = Spaced.close.modules) ∧
    ∃ g, ({} : RuleSettings).build = .ok g ∧
      (∃ ds, g.scan (.ofTree Spaced.close) = .ok ds ∧
        ds.filter (fun d => d.ruleId == "suspicious_import") = [Spaced.report "os.path"]) ∧
      (∃ ds, g.scan (.ofTree Spaced.around) = .ok ds ∧
        ds.filter (fun d => d.ruleId == "suspicious_import") = []) ∧
      ∃ ds, g.scan (.ofTree Spaced.continued) = .ok ds ∧
        ds.filter (fun d => d.ruleId == "suspicious_import") = [] := by
  obtain ⟨g, hg⟩ := exists_build isValid_default
  have enabled : "suspicious_import" ∉ ({} : RuleSettings).disabled := by decide
  have haround : Spaced.around.IsSpelled ∧ Spaced.around.modules = Spaced.close.modules := by decide +kernel
  have hcontinued : Spaced.continued.IsSpelled ∧ Spaced.continued.modules = Spaced.close.modules := by
    decide +kernel
  obtain ⟨ds, hds, hclose⟩ := exists_judged hg enabled Spaced.isModule_close (by decide +kernel)
  obtain ⟨ds', hds', haround'⟩ := exists_judged hg enabled Spaced.isModule_around haround.1
  obtain ⟨ds'', hds'', hcontinued'⟩ := exists_judged hg enabled Spaced.isModule_continued hcontinued.1
  refine ⟨by decide, by decide +kernel, ⟨Spaced.isModule_around, haround⟩,
    ⟨Spaced.isModule_continued, hcontinued⟩, g, hg, ⟨ds, hds, hclose.reported.trans ?_⟩,
    ⟨ds', hds', haround'.reported.trans ?_⟩, ds'', hds'', hcontinued'.reported.trans ?_⟩
  · decide +kernel
  · decide +kernel
  · decide +kernel

end CodeAudit
