import CodeAudit.Proofs.Disguises
import CodeAudit.Proofs.Guards
import CodeAudit.Proofs.Selection

/-!
# Texts that are handed to dangerous functions

A text is reported when the call around it calls a dangerous function: a bare name from a list, or an
attribute at the end of a chain that starts with the name of a dangerous module. The start is looked up
in the path of the call, and a callee without a path is known by its last attribute only. So an attribute
of any other expression, such as the result of a call, is taken for a module if it is named like one.

The report says exactly this and nothing more.
-/

namespace CodeAudit

namespace Search

theorem before_eq_self {sep : Char} {text : String} (h : sep ∉ text.toList) :
    before sep text = text := by
  have hall : text.toList.takeWhile (· != sep) = text.toList := by
    refine List.takeWhile_eq_self_iff.mpr fun c hc => ?_
    simpa using ne_of_mem_of_not_mem hc h
  rw [before, hall, String.ofList_toList]

/-- What is added after the character that is looked for makes no difference. -/
theorem before_append_singleton (sep : Char) (text rest : String) :
    before sep (text ++ String.singleton sep ++ rest) = before sep text := by
  have hlist : ∀ cs : List Char,
      (cs ++ sep :: rest.toList).takeWhile (· != sep) = cs.takeWhile (· != sep) := by
    intro cs
    induction cs with
    | nil => simp
    | cons c cs ih => rw [List.cons_append, List.takeWhile_cons, List.takeWhile_cons, ih]
  rw [before, before, String.toList_append, String.toList_append, String.toList_singleton,
    List.append_assoc]
  exact congrArg String.ofList (hlist text.toList)

end Search

namespace Node

/-- The name that a chain of attributes starts with: `a` in `a`, in `a.b` and in `a.b.c`. -/
inductive RootedAt : Node → String → Prop
  | name (loc : Location) (id : String) : RootedAt ⟨loc, .name id⟩ id
  | member (loc : Location) {value : Node} (attr : String) {id : String} (rooted : RootedAt value id) :
      RootedAt ⟨loc, .member value attr⟩ id

/-- What a call gives starts with no name. -/
theorem not_rootedAt_call {loc : Location} {func : Node} {args : List Node}
    {keywords : List (Keyword Node)} (id : String) : ¬ RootedAt ⟨loc, .call func args keywords⟩ id := by
  intro h
  cases h

/-- A chain has a path, and the path starts like the chain. -/
theorem RootedAt.exists_dottedName? {n : Node} {id : String} (h : n.RootedAt id) :
    ∃ path, n.dottedName? = some path ∧ Search.before '.' path = Search.before '.' id := by
  induction h with
  | name loc id => exact ⟨id, by rw [dottedName?], rfl⟩
  | member loc attr rooted ih =>
    obtain ⟨path, hpath, hbefore⟩ := ih
    refine ⟨path ++ "." ++ attr, by rw [dottedName?, hpath]; rfl, ?_⟩
    exact (Search.before_append_singleton '.' path attr).trans hbefore

/-- Only chains have a path. -/
theorem dottedName?_of_not_rootedAt {n : Node} (h : ∀ id, ¬ n.RootedAt id) : n.dottedName? = none := by
  fun_induction dottedName? n with
  | case1 loc id => exact absurd (.name loc id) (h id)
  | case2 loc value attr ih =>
    rw [ih fun id hid => h id (.member loc attr hid)]
    rfl
  | case3 => rfl

/-- The node around the one at a position is a call. -/
def CalledAt (root : Node) (pos : List Nat) (func : Node) : Prop :=
  ∃ above i loc args keywords, pos = above ++ [i] ∧
    root.at? above = some ⟨loc, .call func args keywords⟩

theorem calledAt_concat_iff {root func callee : Node} {above : List Nat} {i : Nat} {loc : Location}
    {args : List Node} {keywords : List (Keyword Node)}
    (h : root.at? above = some ⟨loc, .call func args keywords⟩) :
    root.CalledAt (above ++ [i]) callee ↔ callee = func := by
  constructor
  · rintro ⟨above', i', loc', args', keywords', hpos, hat⟩
    obtain ⟨rfl, -⟩ := List.append_inj' hpos rfl
    rw [h] at hat
    obtain ⟨-, rfl, -⟩ : loc = loc' ∧ func = callee ∧ args = args' ∧ keywords = keywords' := by
      simpa using hat
    rfl
  · rintro rfl
    exact ⟨above, i, loc, args, keywords, rfl, h⟩

end Node

/-- The walk of a tree comes to every position that there is. -/
theorem Node.exists_visit_of_at? {root n : Node} {pos : List Nat} (h : root.at? pos = some n) :
    ∃ v ∈ root.visits, v.position = pos ∧ v.node = n := by
  have hmem : pos ∈ root.preorder.map Visit.position := by
    rw [mem_position_preorder, h]
    rfl
  obtain ⟨v, hv, rfl⟩ := List.mem_map.mp hmem
  rw [(isAt_of_mem_preorder hv).node] at h
  exact ⟨v, by rwa [visits_eq_preorder], rfl, Option.some.inj h⟩

/-- The parent of a visit is the node one position up. -/
theorem Visit.parent?_eq_some_iff {root n : Node} {v : Visit} (hv : v ∈ root.preorder) :
    v.path.parent? = some n ↔ ∃ above i, v.position = above ++ [i] ∧ root.at? above = some n := by
  cases hpath : v.path with
  | nil =>
    have hpos : v.position = [] := by rw [position, hpath]; rfl
    simp [Path.parent?, hpos]
  | cons s outer =>
    have hat := at?_of_path_eq hv (show v.path = [] ++ s :: outer from hpath)
    have hpos : v.position = (outer.map Step.index).reverse ++ [s.index] := by simp [position, hpath]
    constructor
    · intro h
      obtain rfl : s.parent = n := Option.some.inj h
      exact ⟨_, _, hpos, hat⟩
    · rintro ⟨above, i, hpos', hn⟩
      obtain ⟨rfl, -⟩ := List.append_inj' (hpos.symm.trans hpos') rfl
      rw [hn] at hat
      exact congrArg some (Option.some.inj hat).symm

namespace Literals

/-- A callee that is dangerous: a bare name of some functions, or an attribute at the end of a chain that
starts with a name of some modules. -/
inductive IsDangerous (modules functions : String → Prop) : Node → Prop
  | function (loc : Location) {id : String} (listed : functions id) :
      IsDangerous modules functions ⟨loc, .name id⟩
  | member (loc : Location) {value : Node} (attr : String) {id : String}
      (rooted : value.RootedAt id) (listed : modules id) :
      IsDangerous modules functions ⟨loc, .member value attr⟩

/-- A callee that is mistaken for a dangerous one: an attribute that is named like some modules, of an
expression that is no chain. -/
inductive IsMistaken (modules : String → Prop) : Node → Prop
  | member (loc : Location) {value : Node} {attr : String}
      (unrooted : ∀ id, ¬ value.RootedAt id) (listed : modules attr) :
      IsMistaken modules ⟨loc, .member value attr⟩

/-- The callees that are reported. A name with a dot in it, which no source has, is known by what comes
before the dot. -/
def IsReported (modules functions : List String) (func : Node) : Prop :=
  IsDangerous (Search.before '.' · ∈ modules) (· ∈ functions) func ∨
    IsMistaken (Search.before '.' · ∈ modules) func

/-- The name at the start of a callee and the one at its end. -/
inductive Names : Node → String → Prop
  | root {func : Node} {id : String} (rooted : func.RootedAt id) : Names func id
  | last (loc : Location) (value : Node) (attr : String) : Names ⟨loc, .member value attr⟩ attr

variable {modules functions : List String}

/-- Without dots in names, callees are reported for being dangerous or by mistake. -/
theorem isReported_iff_of_plain {func : Node} (plain : ∀ id, Names func id → '.' ∉ id.toList) :
    IsReported modules functions func ↔
      IsDangerous (· ∈ modules) (· ∈ functions) func ∨ IsMistaken (· ∈ modules) func := by
  have hbefore : ∀ id, Names func id → Search.before '.' id = id :=
    fun id hid => Search.before_eq_self (plain id hid)
  refine or_congr ⟨?_, ?_⟩ ⟨?_, ?_⟩
  · rintro (⟨loc, listed⟩ | ⟨loc, attr, rooted, listed⟩)
    · exact .function loc listed
    · rw [hbefore _ (.root (.member loc attr rooted))] at listed
      exact .member loc attr rooted listed
  · rintro (⟨loc, listed⟩ | ⟨loc, attr, rooted, listed⟩)
    · exact .function loc listed
    · rw [← hbefore _ (.root (.member loc attr rooted))] at listed
      exact .member loc attr rooted listed
  · rintro ⟨loc, unrooted, listed⟩
    rw [hbefore _ (.last loc _ _)] at listed
    exact .member loc unrooted listed
  · rintro ⟨loc, unrooted, listed⟩
    rw [← hbefore _ (.last loc _ _)] at listed
    exact .member loc unrooted listed

section Reported

variable {loc : Location}

/-- A bare name is reported if it is one of the functions. -/
theorem isReported_name_iff {id : String} :
    IsReported modules functions ⟨loc, .name id⟩ ↔ id ∈ functions := by
  constructor
  · rintro (h | h)
    · cases h with
      | function loc listed => exact listed
    · cases h
  · exact fun listed => .inl (.function loc listed)

/-- An attribute is reported if its path, or else its own name, starts with one of the modules. -/
theorem isReported_member_iff {value : Node} {attr : String} :
    IsReported modules functions ⟨loc, .member value attr⟩ ↔
      Search.before '.' ((Node.dottedName? ⟨loc, .member value attr⟩).getD attr) ∈ modules := by
  by_cases hvalue : ∃ id, value.RootedAt id
  · obtain ⟨id, rooted⟩ := hvalue
    obtain ⟨path, hpath, hbefore⟩ := (rooted.member loc attr).exists_dottedName?
    rw [hpath, Option.getD_some]
    constructor
    · rintro (h | h)
      · cases h with
        | member loc attr rooted' listed =>
          -- A chain has one path, so it starts in one way only.
          obtain ⟨path', hpath', hbefore'⟩ := (rooted'.member loc attr).exists_dottedName?
          obtain rfl : path = path' := Option.some.inj (hpath.symm.trans hpath')
          rwa [hbefore']
      · cases h with
        | member loc unrooted listed => exact absurd rooted (unrooted id)
    · intro listed
      rw [hbefore] at listed
      exact .inl (.member loc attr rooted listed)
  · have unrooted : ∀ id, ¬ value.RootedAt id := not_exists.mp hvalue
    have hnone : Node.dottedName? ⟨loc, .member value attr⟩ = none := by
      rw [Node.dottedName?, Node.dottedName?_of_not_rootedAt unrooted]
      rfl
    rw [hnone, Option.getD_none]
    constructor
    · rintro (h | h)
      · cases h with
        | member loc attr rooted listed => exact absurd rooted (unrooted _)
      · cases h with
        | member loc unrooted listed => exact listed
    · exact fun listed => .inr (.member loc unrooted listed)

/-- Only names and attributes are reported. -/
theorem IsReported.kind {func : Node} (h : IsReported modules functions func) :
    func.kind = .name ∨ func.kind = .member := by
  rcases h with h | h
  · cases h with
    | function => exact .inl rfl
    | member => exact .inr rfl
  · cases h with
    | member => exact .inr rfl

end Reported

/-- A call is dangerous if its callee is reported. -/
theorem isSome_dangerousCallee?_call_iff {loc : Location} {func : Node} {args : List Node}
    {keywords : List (Keyword Node)} :
    (dangerousCallee? modules functions ⟨loc, .call func args keywords⟩).isSome ↔
      IsReported modules functions func := by
  obtain ⟨place, shape⟩ := func
  cases shape with
  | name id =>
    rw [isReported_name_iff]
    simp [dangerousCallee?, Node.bareCallee?, Node.asName?]
  | member value attr =>
    rw [isReported_member_iff]
    cases hpath : Node.dottedName? ⟨place, .member value attr⟩ <;>
      simp [dangerousCallee?, Node.bareCallee?, Node.asName?, Node.callPath?, Node.calleeName?, hpath]
  | _ =>
    constructor
    · intro h
      cases h
    · intro h
      rcases h.kind with hkind | hkind <;> cases hkind

/-- The callees of calls are all that is looked at. -/
theorem isSome_dangerousCallee?_iff {n : Node} :
    (dangerousCallee? modules functions n).isSome ↔
      ∃ loc func args keywords, n = ⟨loc, .call func args keywords⟩ ∧
        IsReported modules functions func := by
  constructor
  · intro h
    obtain ⟨loc, shape⟩ := n
    cases shape with
    | call func args keywords =>
      exact ⟨loc, func, args, keywords, rfl, isSome_dangerousCallee?_call_iff.mp h⟩
    | _ => cases h
  · rintro ⟨loc, func, args, keywords, rfl, h⟩
    exact isSome_dangerousCallee?_call_iff.mpr h

/-- What the rule says about a text whose parent is a dangerous call. -/
theorem mem_verdict_iff {info : RuleInfo} {v : Visit} {d : Diagnostic} :
    d ∈ (dangerousContextRule info modules functions).verdict v ↔
      v.node.kind = .str ∧ ∃ callee,
        v.path.parent?.bind (dangerousCallee? modules functions) = some callee ∧
          d = ⟨info.id, info.severity, info.render [("callee", callee)], v.node.loc, v.function?⟩ := by
  rw [Rule.verdict, dangerousContextRule, KindSet.contains_single]
  by_cases hkind : v.node.kind = .str
  · rw [hkind]
    cases hcallee : v.path.parent?.bind (dangerousCallee? modules functions) <;>
      simp [hcallee, Catalog.report, Finding.on, Rule.id]
  · simp [hkind, Ne.symm hkind]

/-- The parent of a visit is a dangerous call exactly if the node one position up is one. -/
theorem isSome_parent?_bind_iff {root : Node} {v : Visit} (hv : v ∈ root.preorder) :
    (v.path.parent?.bind (dangerousCallee? modules functions)).isSome ↔
      ∃ func, root.CalledAt v.position func ∧ IsReported modules functions func := by
  constructor
  · intro h
    obtain ⟨callee, hcallee⟩ := Option.isSome_iff_exists.mp h
    obtain ⟨n, hn, hcallee⟩ := Option.bind_eq_some_iff.mp hcallee
    obtain ⟨loc, func, args, keywords, rfl, hfunc⟩ :=
      isSome_dangerousCallee?_iff.mp (Option.isSome_iff_exists.mpr ⟨callee, hcallee⟩)
    obtain ⟨above, i, hpos, hat⟩ := (Visit.parent?_eq_some_iff hv).mp hn
    exact ⟨func, ⟨above, i, loc, args, keywords, hpos, hat⟩, hfunc⟩
  · rintro ⟨func, ⟨above, i, loc, args, keywords, hpos, hat⟩, hfunc⟩
    rw [(Visit.parent?_eq_some_iff hv).mpr ⟨above, i, hpos, hat⟩, Option.bind_some]
    exact isSome_dangerousCallee?_call_iff.mpr hfunc

/-- The rules that ask for no patterns are made from the settings as they are. -/
theorem mem_rules {s : Settings} {adjust : RuleInfo → RuleInfo} {rs : List Rule} (h : rules s adjust = .ok rs) :
    dangerousContextRule (adjust dangerousContext) s.dangerousModules s.dangerousFunctions ∈ rs ∧
      suspiciousImportRule (adjust suspiciousImport) s ∈ rs := by
  obtain ⟨base64Shape, -, h⟩ := exists_ok_of_bind_eq_ok h
  obtain ⟨rot13Shape, -, h⟩ := exists_ok_of_bind_eq_ok h
  obtain ⟨hexShape, -, h⟩ := exists_ok_of_bind_eq_ok h
  obtain ⟨rescan, -, h⟩ := exists_ok_of_bind_eq_ok h
  obtain ⟨malicious, -, h⟩ := exists_ok_of_bind_eq_ok h
  obtain rfl := Except.ok.inj h
  simp

end Literals

namespace RuleSettings

/-- The rule about dangerous callees is in every registry, unless it is left out. -/
theorem mem_dangerousContextRule_of_build {s : RuleSettings} {g : Registry} (h : s.build = .ok g)
    (henabled : Literals.dangerousContext.id ∉ s.disabled) :
    Literals.dangerousContextRule (s.adjust Literals.dangerousContext) s.literals.dangerousModules
      s.literals.dangerousFunctions ∈ g.rules := by
  obtain ⟨rs, hrs, hmem⟩ := exists_literals_of_build h
  refine hmem _ (Literals.mem_rules hrs).1 ?_
  rwa [Rule.id, Literals.dangerousContextRule, s.id_adjust]

/-- What a registry says in the name of one of its rules is what that rule says. -/
theorem mem_diagnose_iff_of_build {s : RuleSettings} {g : Registry} (h : s.build = .ok g) {r : Rule}
    (hr : r ∈ g.rules) {v : Visit} {d : Diagnostic} :
    d ∈ g.diagnose v ∧ d.ruleId = r.id ↔ d ∈ r.verdict v := by
  rw [diagnose_of_build h, List.mem_flatMap]
  constructor
  · rintro ⟨⟨r', hr', hd⟩, hid⟩
    rw [Rule.ruleId_of_mem_verdict hd] at hid
    obtain rfl : r' = r := List.inj_on_of_nodup_map (nodup_of_build h) hr' hr hid
    exact hd
  · exact fun hd => ⟨⟨r, hr, hd⟩, Rule.ruleId_of_mem_verdict hd⟩

/-- The places at which a registry reports texts with a dangerous call around them. -/
theorem exists_dangerousContext_iff {s : RuleSettings} {g : Registry} (h : s.build = .ok g)
    (henabled : Literals.dangerousContext.id ∉ s.disabled) {root : Node} {v : Visit}
    (hv : v ∈ root.visits) {loc : Location} :
    (∃ d ∈ g.diagnose v, d.ruleId = Literals.dangerousContext.id ∧ d.loc = loc) ↔
      v.node.kind = .str ∧ v.node.loc = loc ∧ ∃ func, root.CalledAt v.position func ∧
        Literals.IsReported s.literals.dangerousModules s.literals.dangerousFunctions func := by
  have hr := mem_dangerousContextRule_of_build h henabled
  have hid : Literals.dangerousContext.id = (Literals.dangerousContextRule
      (s.adjust Literals.dangerousContext) s.literals.dangerousModules
      s.literals.dangerousFunctions).id := (s.id_adjust _).symm
  rw [Node.visits_eq_preorder] at hv
  rw [← Literals.isSome_parent?_bind_iff hv, Option.isSome_iff_exists, hid]
  constructor
  · rintro ⟨d, hd, hrule, rfl⟩
    obtain ⟨hkind, callee, hcallee, rfl⟩ :=
      Literals.mem_verdict_iff.mp ((mem_diagnose_iff_of_build h hr).mp ⟨hd, hrule⟩)
    exact ⟨hkind, rfl, callee, hcallee⟩
  · rintro ⟨hkind, hloc, callee, hcallee⟩
    obtain ⟨hd, hrule⟩ := (mem_diagnose_iff_of_build h hr).mpr
      (Literals.mem_verdict_iff.mpr ⟨hkind, callee, hcallee, rfl⟩)
    exact ⟨_, hd, hrule, hloc⟩

end RuleSettings

/-- A scan reports what is said about each visit. With the rule about dangerous callees it reports a
node, at its own place, exactly if the node is a text and the node around it a call that is reported.
Where no name has a dot in it, that is a call of a dangerous function, or of an attribute that is named
like a dangerous module and belongs to an expression that is no chain of attributes. -/
theorem RuleSettings.dangerous_context_reported_iff {s : RuleSettings} {g : Registry}
    (built : s.build = .ok g) (enabled : "dangerous_string_context" ∉ s.disabled) {root : Node}
    (isModule : root.kind = .module) :
    g.scan root = .ok (root.visits.flatMap g.diagnose) ∧
    (∀ v ∈ root.visits, ∀ loc,
      (∃ d ∈ g.diagnose v, d.ruleId = "dangerous_string_context" ∧ d.loc = loc) ↔
        v.node.kind = .str ∧ v.node.loc = loc ∧ ∃ func, root.CalledAt v.position func ∧
          Literals.IsReported s.literals.dangerousModules s.literals.dangerousFunctions func) ∧
    ∀ func, (∀ name, Literals.Names func name → '.' ∉ name.toList) →
      (Literals.IsReported s.literals.dangerousModules s.literals.dangerousFunctions func ↔
        Literals.IsDangerous (· ∈ s.literals.dangerousModules) (· ∈ s.literals.dangerousFunctions)
          func ∨
        Literals.IsMistaken (· ∈ s.literals.dangerousModules) func) := by
  refine ⟨?_, fun v hv loc => exists_dangerousContext_iff built enabled hv,
    fun func plain => Literals.isReported_iff_of_plain plain⟩
  rw [Node.visits_eq_preorder, Registry.scan_module g isModule]

/-- With the default settings: a text for a function of `os` is reported, one for a method of a result is
not, and one for a method `os` of a result is. -/
theorem RuleSettings.dangerous_context_reported_iff_methods :
    let result : Node := ⟨⟨1, 1⟩, .call ⟨⟨1, 1⟩, .name "f"⟩ [] []⟩
    let path : Node := ⟨⟨1, 1⟩, .member ⟨⟨1, 1⟩, .name "os"⟩ "path"⟩
    let call (col : Nat) (func : Node) : Node :=
      ⟨⟨1, 1⟩, .expr ⟨⟨1, 1⟩, .call func [⟨⟨1, col⟩, .str "x" false⟩] []⟩⟩
    let root : Node := ⟨⟨1, 1⟩, .module [call 14 ⟨⟨1, 1⟩, .member path "join"⟩,
      call 9 ⟨⟨1, 1⟩, .member result "run"⟩, call 8 ⟨⟨1, 1⟩, .member result "os"⟩]⟩
    let reported (g : Registry) (v : Visit) (col : Nat) : Prop :=
      ∃ d ∈ g.diagnose v, d.ruleId = "dangerous_string_context" ∧ d.loc = ⟨1, col⟩
    ∃ g, ({} : RuleSettings).build = .ok g ∧
      "dangerous_string_context" ∉ ({} : RuleSettings).disabled ∧ root.kind = .module ∧
      (∃ v ∈ root.visits, v.position = [0, 0, 1] ∧ reported g v 14) ∧
      (∃ v ∈ root.visits, v.position = [1, 0, 1] ∧ ¬ reported g v 9) ∧
      ∃ v ∈ root.visits, v.position = [2, 0, 1] ∧ reported g v 8 := by
  intro result path call root reported
  obtain ⟨g, hg⟩ := exists_build isValid_default
  have enabled : "dangerous_string_context" ∉ ({} : RuleSettings).disabled := by decide
  obtain ⟨-, hiff, -⟩ := dangerous_context_reported_iff hg enabled (show root.kind = .module from rfl)
  have unrooted : ∀ id, ¬ result.RootedAt id := Node.not_rootedAt_call
  obtain ⟨u, hu, hupos, hunode⟩ := Node.exists_visit_of_at?
    (show root.at? [0, 0, 1] = some ⟨⟨1, 14⟩, .str "x" false⟩ from rfl)
  obtain ⟨v, hv, hvpos, hvnode⟩ := Node.exists_visit_of_at?
    (show root.at? [1, 0, 1] = some ⟨⟨1, 9⟩, .str "x" false⟩ from rfl)
  obtain ⟨w, hw, hwpos, hwnode⟩ := Node.exists_visit_of_at?
    (show root.at? [2, 0, 1] = some ⟨⟨1, 8⟩, .str "x" false⟩ from rfl)
  refine ⟨g, hg, enabled, rfl, ⟨u, hu, hupos, ?_⟩, ⟨v, hv, hvpos, ?_⟩, ⟨w, hw, hwpos, ?_⟩⟩
  · refine (hiff u hu _).mpr ⟨by rw [hunode]; rfl, by rw [hunode], ?_⟩
    rw [hupos]
    exact ⟨_, (Node.calledAt_concat_iff (show root.at? [0, 0] = some _ from rfl)).mpr rfl,
      .inl (.member _ _ (.member _ _ (.name _ _)) (by decide))⟩
  · intro h
    obtain ⟨-, -, func, hfunc, h⟩ := (hiff v hv _).mp h
    rw [hvpos] at hfunc
    obtain rfl := (Node.calledAt_concat_iff (show root.at? [1, 0] = some _ from rfl)).mp hfunc
    rcases h with h | h
    · cases h with
      | member loc attr rooted listed => exact unrooted _ rooted
    · cases h with
      | member loc unrooted listed => exact absurd listed (by decide)
  · refine (hiff w hw _).mpr ⟨by rw [hwnode]; rfl, by rw [hwnode], ?_⟩
    rw [hwpos]
    exact ⟨_, (Node.calledAt_concat_iff (show root.at? [2, 0] = some _ from rfl)).mpr rfl,
      .inr (.member _ unrooted (by decide))⟩

/-- A method `os` of a result belongs to no module. Still a text that it is given is reported. -/
theorem RuleSettings.method_of_result_reported :
    let result : Node := ⟨⟨1, 1⟩, .call ⟨⟨1, 1⟩, .name "f"⟩ [] []⟩
    let call : Node := ⟨⟨1, 1⟩, .call ⟨⟨1, 1⟩, .member result "os"⟩ [⟨⟨1, 8⟩, .str "x" false⟩] []⟩
    let root : Node := ⟨⟨1, 1⟩, .module [⟨⟨1, 1⟩, .expr call⟩]⟩
    let s : Literals.Settings := {}
    ∃ g, ({} : RuleSettings).build = .ok g ∧ ∃ v ∈ root.visits, v.position = [0, 0, 1] ∧
      (∀ func, root.CalledAt v.position func →
        ¬ Literals.IsDangerous (· ∈ s.dangerousModules) (· ∈ s.dangerousFunctions) func) ∧
      ∃ d ∈ g.diagnose v, d.ruleId = "dangerous_string_context" ∧ d.loc = ⟨1, 8⟩ := by
  intro result call root s
  obtain ⟨g, hg⟩ := exists_build isValid_default
  have unrooted : ∀ id, ¬ result.RootedAt id := Node.not_rootedAt_call
  have hcalled : ∀ func, root.CalledAt [0, 0, 1] func ↔ func = ⟨⟨1, 1⟩, .member result "os"⟩ :=
    fun func => Node.calledAt_concat_iff (show root.at? [0, 0] = some call from rfl)
  obtain ⟨v, hv, hpos, hnode⟩ := Node.exists_visit_of_at?
    (show root.at? [0, 0, 1] = some ⟨⟨1, 8⟩, .str "x" false⟩ from rfl)
  refine ⟨g, hg, v, hv, hpos, ?_, ?_⟩
  · intro func hfunc h
    rw [hpos, hcalled] at hfunc
    subst hfunc
    cases h with
    | member loc attr rooted listed => exact unrooted _ rooted
  · refine (exists_dangerousContext_iff hg (by decide) hv).mpr ⟨by rw [hnode]; rfl, by rw [hnode], ?_⟩
    rw [hpos]
    exact ⟨_, (hcalled _).mpr rfl, .inr (.member ⟨1, 1⟩ unrooted (by decide))⟩

end CodeAudit
