import CodeAudit.Proofs.Building
import CodeAudit.Proofs.Selection

/-!
# Rules that are left out and severities that are replaced

A rule keeps its severity in its description, and its verdicts depend on the description only
through the message. So a change of severities can be made in the descriptions before the rules are
made, in the rules, or in the diagnostics of a scan. With the law that picking rules is picking
diagnostics, this says what the two kinds of overrides in the settings do to a scan, and that they
do nothing else.
-/

namespace CodeAudit

/-- The description with another severity, which depends on the name and on the former severity. -/
def RuleInfo.regrade (grade : String → Severity → Severity) (info : RuleInfo) : RuleInfo :=
  { info with severity := grade info.id info.severity }

/-- The rule with another severity. -/
def Rule.regrade (grade : String → Severity → Severity) (r : Rule) : Rule :=
  { r with info := r.info.regrade grade }

/-- The diagnostic with another severity. -/
def Diagnostic.regrade (grade : String → Severity → Severity) (d : Diagnostic) : Diagnostic :=
  { d with severity := grade d.ruleId d.severity }

namespace Rule

variable (grade : String → Severity → Severity)

/-- A rule that is graded differently says the same things with other severities. -/
theorem verdict_regrade (r : Rule) (v : Visit) :
    (r.regrade grade).verdict v = (r.verdict v).map (Diagnostic.regrade grade) := by
  rw [verdict, verdict, apply_ite (List.map _), List.map_map]
  rfl

theorem verdicts_map_regrade (rules : List Rule) (root : Node) :
    verdicts (rules.map (regrade grade)) root =
      (verdicts rules root).map (Diagnostic.regrade grade) := by
  rw [verdicts, verdicts, List.map_flatMap]
  refine List.flatMap_congr fun v _ => ?_
  rw [List.flatMap_map, List.map_flatMap]
  exact List.flatMap_congr fun r _ => verdict_regrade grade r v

end Rule

/-! ### Making rules from regraded descriptions

No maker of rules looks at the severity, so all of these hold by computation once the patterns have
been compiled. -/

section Families

variable (grade : String → Severity → Severity)

theorem Cryptography.rules_regrade (s : Settings) :
    rules s (RuleInfo.regrade grade) = List.map (Rule.regrade grade) <$> rules s id := by
  simp only [rules, map_bind, map_pure]
  rfl

theorem Access.rules_regrade (s : Settings) :
    rules s (RuleInfo.regrade grade) = (rules s id).map (Rule.regrade grade) := rfl

theorem Logging.rules_regrade (s : Settings) :
    rules s (RuleInfo.regrade grade) = List.map (Rule.regrade grade) <$> rules s id := by
  simp only [rules, map_bind, map_pure]
  rfl

theorem Secrets.rules_regrade (s : Settings) :
    rules s (RuleInfo.regrade grade) = List.map (Rule.regrade grade) <$> rules s id := by
  simp only [rules, map_bind, map_pure]
  rfl

theorem Network.rules_regrade (s : Settings) :
    rules s (RuleInfo.regrade grade) = List.map (Rule.regrade grade) <$> rules s id := by
  simp only [rules, map_bind, map_pure]
  rfl

theorem Literals.rules_regrade (s : Settings) :
    rules s (RuleInfo.regrade grade) = List.map (Rule.regrade grade) <$> rules s id := by
  simp only [rules, map_bind, map_pure]
  rfl

theorem Branching.rules_regrade (s : Settings) :
    rules s (RuleInfo.regrade grade) = (rules s id).map (Rule.regrade grade) := by
  rw [rules, rules, List.map_append]
  split <;> rfl

theorem Environment.rules_regrade (s : Settings) :
    rules s (RuleInfo.regrade grade) = (rules s id).map (Rule.regrade grade) := rfl

theorem Requests.rules_regrade (s : Settings) :
    rules s (RuleInfo.regrade grade) = List.map (Rule.regrade grade) <$> rules s id := by
  simp only [rules, map_bind, map_pure]
  rfl

end Families

namespace RuleSettings

/-- The severity that some settings give to a rule. -/
def severityOf (s : RuleSettings) (id : String) (severity : Severity) : Severity :=
  (s.severity.get? id).getD severity

/-- The settings without overrides: no rule is left out and no severity is replaced. -/
def plain (s : RuleSettings) : RuleSettings := { s with disabled := [], severity := .empty }

theorem adjust_eq_regrade (s : RuleSettings) : s.adjust = RuleInfo.regrade s.severityOf :=
  funext s.adjust_eq

theorem adjust_plain (s : RuleSettings) : s.plain.adjust = id := rfl

/-- The rules of some settings are those of the settings without overrides, regraded. -/
theorem allRules_eq_regrade (s : RuleSettings) :
    s.allRules = List.map (Rule.regrade s.severityOf) <$> s.plain.allRules := by
  simp only [allRules, adjust_eq_regrade s, adjust_plain, Cryptography.rules_regrade,
    Access.rules_regrade, Logging.rules_regrade, Secrets.rules_regrade, Network.rules_regrade,
    Literals.rules_regrade, Branching.rules_regrade, Environment.rules_regrade,
    Requests.rules_regrade, map_bind, bind_map_left, map_pure, List.map_append]
  rfl

theorem IsValid.plain {s : RuleSettings} (h : s.IsValid) : s.plain.IsValid where
  names id hid := by cases hid
  sizes := h.sizes
  operations := h.operations
  patterns := h.patterns

/-- The rules that are installed are those of the settings without overrides, less some and
regraded. -/
theorem rules_of_build {s : RuleSettings} {g g₀ : Registry} (built : s.build = .ok g)
    (built₀ : s.plain.build = .ok g₀) :
    g.rules = (g₀.rules.filter fun r => !s.disabled.contains r.id).map
      (Rule.regrade s.severityOf) := by
  obtain ⟨all, hall, rfl⟩ := exists_allRules_of_build built
  obtain ⟨all₀, hall₀, rfl⟩ := exists_allRules_of_build built₀
  rw [allRules_eq_regrade, hall₀] at hall
  obtain rfl : all₀.map (Rule.regrade s.severityOf) = all := Except.ok.inj hall
  have hnone : (all₀.filter fun r => !s.plain.disabled.contains r.id) = all₀ :=
    List.filter_eq_self.mpr fun _ _ => rfl
  simp only [hnone, List.filter_map]
  rfl

end RuleSettings

/-- Take the overrides out of settings that can be built. The settings can still be built, and the
overrides can be applied to what a scan reports then: the diagnostics of the rules that are left out
are dropped and severities are replaced. All else stays as it is. -/
theorem RuleSettings.scan_eq_scan_plain {s : RuleSettings} {g : Registry}
    (built : s.build = .ok g) :
    ∃ g₀, build { s with disabled := [], severity := .empty } = .ok g₀ ∧
      ∀ loc body, ∃ ds, g₀.scan ⟨loc, .module body⟩ = .ok ds ∧
        g.scan ⟨loc, .module body⟩ = .ok ((ds.filter fun d => !s.disabled.contains d.ruleId).map
          fun d => { d with severity := (s.severity.get? d.ruleId).getD d.severity }) := by
  have hvalid : s.IsValid := isValid_iff.mpr ((detects_build s).exists_ok_iff.mp ⟨g, built⟩)
  obtain ⟨g₀, built₀⟩ := exists_build hvalid.plain
  refine ⟨g₀, built₀, fun loc body => ⟨_, scan_of_build built₀ rfl, ?_⟩⟩
  rw [scan_of_build built rfl, rules_of_build built built₀, Rule.verdicts_map_regrade,
    ← Rule.filter_verdicts fun id => !s.disabled.contains id]
  rfl

/-- Of two findings in a function, an assertion is not reported and a call to `print` is reported as
severe. -/
theorem RuleSettings.scan_eq_scan_plain_blank :
    let print : Node := ⟨⟨2, 5⟩, .expr ⟨⟨2, 5⟩, .call ⟨⟨2, 5⟩, .name "print"⟩ [] []⟩⟩
    let assertion : Node := ⟨⟨3, 5⟩, .assertion ⟨⟨3, 12⟩, .name "x"⟩ none⟩
    let root : Node := ⟨⟨1, 1⟩, .module [⟨⟨1, 1⟩, .functionDef "f" [] [] [print, assertion] none⟩]⟩
    let s : RuleSettings :=
      { blank with
        disabled := ["assert_used"], severity := .ofList [("print_instead_of_logging", .high)] }
    ∃ g g₀, s.build = .ok g ∧ build { s with disabled := [], severity := .empty } = .ok g₀ ∧
      ∃ ds, g₀.scan root = .ok ds ∧
        g.scan root = .ok ((ds.filter fun d => !s.disabled.contains d.ruleId).map
          fun d => { d with severity := (s.severity.get? d.ruleId).getD d.severity }) := by
  intro print assertion root s
  have hvalid : s.IsValid := { isValid_blank with names := by decide }
  obtain ⟨g, hg⟩ := exists_build hvalid
  obtain ⟨g₀, hg₀, scans⟩ := scan_eq_scan_plain hg
  exact ⟨g, g₀, hg, hg₀, scans _ _⟩

end CodeAudit
