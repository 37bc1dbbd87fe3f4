import CodeAudit.Proofs.Catalog
import CodeAudit.Proofs.Scan

/-!
# The rules that settings build

Settings are valid when they name rules that exist, demand sizes and operations that make sense and
hold patterns that can be read. Building a registry is a chain of checks for these mistakes. What
comes out has the rules of the catalog in their order, less those that are left out, each with the
severity that the settings give it. Names of the catalog are distinct, so that there is never a
complaint about two rules with one name.
-/

namespace CodeAudit

/-- A computation succeeds only if both of its halves do. -/
theorem exists_ok_of_bind_eq_ok {ε α β : Type} {x : Except ε α} {f : α → Except ε β} {b : β}
    (h : (x >>= f) = .ok b) : ∃ a, x = .ok a ∧ f a = .ok b := by
  cases x with
  | error e => cases h
  | ok a => exact ⟨a, rfl, h⟩

/-- Every one of some patterns can be read. -/
abbrev Readable (patterns : List String) : Prop := ∀ p ∈ patterns, (Regex.ofPattern? p).isSome

theorem nodup_catalog : (catalog.map RuleInfo.id).Nodup := by decide

theorem isSome_lookup?_iff {id : String} :
    (lookup? id).isSome ↔ id ∈ catalog.map RuleInfo.id := by
  simp [lookup?, List.find?_isSome, List.mem_map]

namespace RuleSettings

/-- All patterns of some settings. -/
def patterns (s : RuleSettings) : List String :=
  [s.cryptography.insecureHash, s.cryptography.insecureMac, s.cryptography.insecureRandom] ++
    [s.logging.logger, s.logging.todoMarker] ++ [s.secrets.pattern] ++
    [s.network.functions, s.network.protocols, s.network.tlsKeywords] ++
    [s.literals.base64Shape, s.literals.rot13Shape, s.literals.hexShape, s.literals.rescan,
      s.literals.malicious] ++
    [s.requests.keyPattern, s.requests.querySource, s.requests.identityPattern]

/-- All patterns of some settings, with the names of their fields. -/
def patternFields (s : RuleSettings) : List (String × String) :=
  s.cryptography.patternFields ++ s.logging.patternFields ++ s.secrets.patternFields ++
    s.network.patternFields ++ s.literals.patternFields ++ s.requests.patternFields

theorem map_snd_patternFields (s : RuleSettings) : s.patternFields.map Prod.snd = s.patterns := rfl

/-- Settings without a mistake. -/
structure IsValid (s : RuleSettings) : Prop where
  names : ∀ id ∈ s.disabled ++ s.severity.keys, (lookup? id).isSome
  sizes : ∀ entry ∈ s.cryptography.keySizes.entries, ¬ entry.2 ≤ 0
  operations : ∀ entry ∈ s.cryptography.requiredOps.entries, ∀ op ∈ entry.2,
    op ∈ Cryptography.operations
  patterns : Readable s.patterns

/-- The mistakes in some settings, each with the error that names it. -/
inductive Mistake (s : RuleSettings) : RuleSetError → Prop
  | unknownRule (id : String) (named : id ∈ s.disabled ++ s.severity.keys)
      (unknown : id ∉ catalog.map RuleInfo.id) : Mistake s (.unknownRule id)
  | keySize (name : String) (bits : Int64)
      (demanded : (name, bits) ∈ s.cryptography.keySizes.entries) (notPositive : bits ≤ 0) :
      Mistake s (.keySize name bits)
  | operation (name : String) (ops : List String) (op : String)
      (demanded : (name, ops) ∈ s.cryptography.requiredOps.entries) (listed : op ∈ ops)
      (unknown : op ∉ Cryptography.operations) : Mistake s (.operation name op)
  | pattern (field pattern : String) (given : (field, pattern) ∈ s.patternFields)
      (unreadable : Regex.ofPattern? pattern = none) : Mistake s (.pattern field)

/-- The name of a rule is not in the catalog. -/
def UnknownRule (s : RuleSettings) (e : RuleSetError) : Prop :=
  ∃ id ∈ s.disabled ++ s.severity.keys, id ∉ catalog.map RuleInfo.id ∧ e = .unknownRule id

theorem mistake_iff {s : RuleSettings} {e : RuleSetError} :
    s.Mistake e ↔
      s.UnknownRule e ∨ (s.cryptography.BadSize e ∨ s.cryptography.BadOperation e) ∨
        Unreadable s.patternFields e := by
  constructor
  · intro h
    cases h with
    | unknownRule id named unknown => exact .inl ⟨id, named, unknown, rfl⟩
    | keySize name bits demanded small => exact .inr (.inl (.inl ⟨_, demanded, small, rfl⟩))
    | operation name ops op demanded listed unknown =>
      exact .inr (.inl (.inr ⟨_, demanded, op, listed, unknown, rfl⟩))
    | pattern field pattern given unreadable => exact .inr (.inr ⟨_, given, unreadable, rfl⟩)
  · rintro (⟨id, named, unknown, rfl⟩ | (⟨_, demanded, small, rfl⟩ |
      ⟨_, demanded, op, listed, unknown, rfl⟩) | ⟨_, given, unreadable, rfl⟩)
    · exact .unknownRule id named unknown
    · exact .keySize _ _ demanded small
    · exact .operation _ _ op demanded listed unknown
    · exact .pattern _ _ given unreadable

/-- Settings are valid if there is no mistake in them. -/
theorem isValid_iff {s : RuleSettings} : s.IsValid ↔ ∀ e, ¬ s.Mistake e := by
  constructor
  · rintro h e (⟨id, named, unknown⟩ | ⟨name, bits, demanded, small⟩ |
      ⟨name, ops, op, demanded, listed, unknown⟩ | ⟨field, pattern, given, unreadable⟩)
    · exact unknown (isSome_lookup?_iff.mp (h.names id named))
    · exact h.sizes _ demanded small
    · exact unknown (h.operations _ demanded op listed)
    · have hmem : pattern ∈ s.patternFields.map Prod.snd := List.mem_map.mpr ⟨_, given, rfl⟩
      simpa [unreadable] using h.patterns pattern hmem
  · intro h
    refine ⟨fun id hid => ?_, fun entry he hsize => ?_, fun entry he op hop => ?_, fun p hp => ?_⟩
    · exact isSome_lookup?_iff.mpr (by_contra fun hno => h _ (.unknownRule id hid hno))
    · exact h _ (.keySize _ _ he hsize)
    · exact by_contra fun hno => h _ (.operation _ _ op he hop hno)
    · rw [← map_snd_patternFields] at hp
      obtain ⟨field, hfield, rfl⟩ := List.mem_map.mp hp
      rw [Option.isSome_iff_ne_none]
      exact fun hnone => h _ (.pattern _ _ hfield hnone)

/-- The descriptions of the rules that some settings know of. -/
def infos (s : RuleSettings) : List RuleInfo :=
  catalog.filter fun info => s.branching.flagNonRangeIterables || info != Branching.nonRange

theorem id_adjust (s : RuleSettings) (info : RuleInfo) : (s.adjust info).id = info.id := by
  rw [adjust]
  split <;> rfl

/-- The families, one after the other, look for mistakes in their own settings and make the rules
that are described. -/
theorem detects_allRules (s : RuleSettings) :
    Detects (fun e => (s.cryptography.BadSize e ∨ s.cryptography.BadOperation e) ∨
      Unreadable s.patternFields e) (Realize s.adjust s.infos) s.allRules := by
  have hinfos : s.infos = Cryptography.infos ++ Access.infos ++ Logging.infos ++ Secrets.infos ++
      Network.infos ++ Literals.infos ++ (Branching.infos.filter fun info =>
        s.branching.flagNonRangeIterables || info != Branching.nonRange) ++
      Environment.infos ++ Requests.infos := by
    simp only [infos, catalog, List.filter_append]
    cases s.branching.flagNonRangeIterables <;> rfl
  have hall : Detects _ (Realize s.adjust s.infos) s.allRules :=
    (Cryptography.detects_rules s.adjust s.cryptography).bind fun _ hc =>
    (Logging.detects_rules s.adjust s.logging).bind fun _ hl =>
    (Secrets.detects_rules s.adjust s.secrets).bind fun _ hs =>
    (Network.detects_rules s.adjust s.network).bind fun _ hn =>
    (Literals.detects_rules s.adjust s.literals).bind fun _ hi =>
    (Requests.detects_rules s.adjust s.requests).bind fun _ hr => .done <| by
      rw [hinfos]
      exact List.rel_append (List.rel_append (List.rel_append (List.rel_append (List.rel_append
        (List.rel_append (List.rel_append (List.rel_append hc (Access.realize_rules ..)) hl) hs) hn)
        hi) (Branching.realize_rules ..)) (Environment.realize_rules ..)) hr
  refine hall.mono (fun e => ?_) fun _ => id
  simp only [patternFields, unreadable_append]
  tauto

variable {s : RuleSettings} {rules : List Rule} {g : Registry}

/-- Rules that realize what the settings know of have distinct names, also after some have been left
out. -/
theorem nodup_enabled (h : Realize s.adjust s.infos rules) :
    ((rules.filter fun r => !s.disabled.contains r.id).map Rule.id).Nodup := by
  have hids : rules.map Rule.id = s.infos.map RuleInfo.id := by
    have hadjust : RuleInfo.id ∘ s.adjust = RuleInfo.id := funext s.id_adjust
    have hinfo := congrArg (List.map RuleInfo.id) h.map_info
    rwa [List.map_map, List.map_map, hadjust] at hinfo
  have hall : (rules.map Rule.id).Nodup := by
    rw [hids]
    exact nodup_catalog.sublist (List.filter_sublist.map _)
  exact hall.sublist (List.filter_sublist.map _)

/-- A registry that is built holds the rules that are not left out, and the index that belongs to
them. -/
theorem exists_allRules_of_build (h : s.build = .ok g) :
    ∃ all, s.allRules = .ok all ∧
      g = ⟨all.filter fun r => !s.disabled.contains r.id,
        Registry.index (all.filter fun r => !s.disabled.contains r.id)⟩ := by
  obtain ⟨-, -, h⟩ := exists_ok_of_bind_eq_ok h
  obtain ⟨all, hall, h⟩ := exists_ok_of_bind_eq_ok h
  refine ⟨all, hall, ?_⟩
  rw [Registry.ofRules_of_nodup (nodup_enabled ((detects_allRules s).of_ok hall))] at h
  exact (Except.ok.inj h).symm

theorem allBuiltIn_of_build (h : s.build = .ok g) : AllBuiltIn g.rules := by
  obtain ⟨all, hall, rfl⟩ := exists_allRules_of_build h
  intro r hr
  exact ((detects_allRules s).of_ok hall).allBuiltIn r (List.mem_of_mem_filter hr)

theorem scan_of_build (h : s.build = .ok g) {root : Node} (hroot : root.kind = .module) :
    g.scan root = .ok (Rule.verdicts g.rules root) := by
  obtain ⟨all, -, rfl⟩ := exists_allRules_of_build h
  exact Registry.scan_index _ hroot

/-- No two rules of a registry have the same name. -/
theorem nodup_of_build (h : s.build = .ok g) : (g.rules.map Rule.id).Nodup := by
  obtain ⟨all, hall, rfl⟩ := exists_allRules_of_build h
  exact nodup_enabled ((detects_allRules s).of_ok hall)

/-- Wherever a walk comes to, a registry says what its rules say. -/
theorem diagnose_of_build (h : s.build = .ok g) (v : Visit) :
    g.diagnose v = g.rules.flatMap fun r => r.verdict v := by
  obtain ⟨all, -, rfl⟩ := exists_allRules_of_build h
  exact Registry.diagnose_index _ v

/-- The rules about literals are in every registry, apart from those that are left out. -/
theorem exists_literals_of_build (h : s.build = .ok g) :
    ∃ rs, Literals.rules s.literals s.adjust = .ok rs ∧ ∀ r ∈ rs, r.id ∉ s.disabled → r ∈ g.rules := by
  obtain ⟨all, hall, rfl⟩ := exists_allRules_of_build h
  obtain ⟨cryptography, -, hall⟩ := exists_ok_of_bind_eq_ok hall
  obtain ⟨logging, -, hall⟩ := exists_ok_of_bind_eq_ok hall
  obtain ⟨secrets, -, hall⟩ := exists_ok_of_bind_eq_ok hall
  obtain ⟨network, -, hall⟩ := exists_ok_of_bind_eq_ok hall
  obtain ⟨literals, hliterals, hall⟩ := exists_ok_of_bind_eq_ok hall
  obtain ⟨requests, -, hall⟩ := exists_ok_of_bind_eq_ok hall
  obtain rfl := Except.ok.inj hall
  refine ⟨literals, hliterals, fun r hr henabled => List.mem_filter.mpr ⟨?_, by simpa using henabled⟩⟩
  simp [hr]

/-- Building a registry looks for the mistakes in the settings, and for nothing else. -/
theorem detects_build (s : RuleSettings) : Detects s.Mistake (fun _ => True) s.build := by
  have hnames : Detects s.UnknownRule (fun _ => True)
      ((s.disabled ++ s.severity.keys).forM fun id =>
        if (lookup? id).isSome then .ok () else .error (.unknownRule id)) := by
    refine .forM fun id _ => ?_
    split
    · rename_i hknown
      exact ⟨fun e he => he.1 (isSome_lookup?_iff.mp hknown), trivial⟩
    · rename_i hunknown
      exact ⟨fun hmem => hunknown (isSome_lookup?_iff.mpr hmem), rfl⟩
  have hbuild : Detects _ (fun _ => True) s.build :=
    hnames.bind fun _ _ => (detects_allRules s).bind fun rules hrules => by
      rw [Registry.ofRules_of_nodup (nodup_enabled hrules)]
      exact .done trivial
  refine hbuild.mono (fun e => ?_) fun _ => id
  rw [mistake_iff, or_false]

/-- Valid settings build a registry. -/
theorem exists_build {s : RuleSettings} (h : s.IsValid) : ∃ g, s.build = .ok g :=
  (detects_build s).exists_ok_iff.mpr (isValid_iff.mp h)

/-- The descriptions of the rules in a registry are those of the catalog. -/
theorem map_info_of_build (h : s.build = .ok g) :
    g.rules.map Rule.info =
      (s.infos.filter fun info => !s.disabled.contains info.id).map s.adjust := by
  obtain ⟨all, hall, rfl⟩ := exists_allRules_of_build h
  have hinfo := ((detects_allRules s).of_ok hall).map_info
  have henabled : (fun info => !s.disabled.contains info.id) ∘ s.adjust =
      fun info => !s.disabled.contains info.id :=
    funext fun info => by rw [Function.comp, s.id_adjust]
  calc (all.filter fun r => !s.disabled.contains r.id).map Rule.info
      = (all.map Rule.info).filter fun info => !s.disabled.contains info.id := by
        rw [List.filter_map]
        rfl
    _ = (s.infos.filter fun info => !s.disabled.contains info.id).map s.adjust := by
        rw [hinfo, List.filter_map, henabled]

theorem adjust_eq (s : RuleSettings) (info : RuleInfo) :
    s.adjust info = { info with severity := (s.severity.get? info.id).getD info.severity } := by
  rw [adjust]
  split <;> rename_i h <;> rw [h] <;> rfl

end RuleSettings

theorem Regex.ofPattern?_empty : Regex.ofPattern? "" = some .empty := by
  rw [Regex.ofPattern?, Pattern.branches]
  rfl

/-- Settings in which every pattern is empty and nothing is demanded of primitives. -/
def RuleSettings.blank : RuleSettings where
  cryptography :=
    { insecureHash := "", insecureMac := "", insecureRandom := "",
      keySizes := .empty, requiredOps := .empty }
  logging := { logger := "", todoMarker := "" }
  secrets := { pattern := "" }
  network := { functions := "", protocols := "", tlsKeywords := "" }
  literals := { malicious := "", rescan := "", base64Shape := "", rot13Shape := "", hexShape := "" }
  requests := { keyPattern := "", querySource := "", identityPattern := "" }

theorem RuleSettings.isValid_blank : blank.IsValid where
  names id hid := by cases hid
  sizes entry he := by cases he
  operations entry he := by cases he
  patterns p hp := by
    have hp : p = "" := by simpa [patterns, blank] using hp
    rw [hp, Regex.ofPattern?_empty]
    rfl

end CodeAudit
