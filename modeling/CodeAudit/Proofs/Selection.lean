import CodeAudit.Proofs.Scan
import Mathlib.Data.List.Nodup

/-!
# Rules do not influence one another

To pick the diagnostics of some rules out of a scan is to scan with these rules only. Which other
rules are registered, and in which order, shows only in how the diagnostics of different rules are
mixed: those of a single rule are always what the rule reports alone.
-/

namespace CodeAudit

namespace Rule

variable (p : String → Bool)

/-- A rule puts its name on everything it says. -/
theorem ruleId_of_mem_verdict {r : Rule} {v : Visit} {d : Diagnostic} (h : d ∈ r.verdict v) :
    d.ruleId = r.id := by
  rw [verdict] at h
  split at h
  · obtain ⟨finding, -, rfl⟩ := List.mem_map.mp h
    rfl
  · cases h

theorem filter_verdict (r : Rule) (v : Visit) :
    (r.verdict v).filter (fun d => p d.ruleId) = if p r.id then r.verdict v else [] := by
  split
  · rename_i hp
    refine List.filter_eq_self.mpr fun d hd => ?_
    rw [ruleId_of_mem_verdict hd, hp]
  · rename_i hp
    refine List.filter_eq_nil_iff.mpr fun d hd => ?_
    rwa [ruleId_of_mem_verdict hd]

/-- To pick diagnostics by the names of their rules is to pick the rules. -/
theorem filter_verdicts (rules : List Rule) (root : Node) :
    (verdicts rules root).filter (fun d => p d.ruleId) =
      verdicts (rules.filter fun r => p r.id) root := by
  rw [verdicts, verdicts, List.filter_flatMap]
  refine List.flatMap_congr fun v _ => ?_
  rw [List.filter_flatMap]
  induction rules with
  | nil => rfl
  | cons r rules ih =>
    rw [List.flatMap_cons, ih, filter_verdict, List.filter_cons]
    split
    · rw [List.flatMap_cons]
    · rw [List.nil_append]

/-- Among rules with distinct names a rule is the only one with its name. -/
theorem filter_id_eq {rules : List Rule} (h : (rules.map Rule.id).Nodup) {r : Rule}
    (hr : r ∈ rules) : rules.filter (fun r' => r'.id == r.id) = [r] := by
  induction rules with
  | nil => cases hr
  | cons r' rules ih =>
    obtain ⟨hnew, hnodup⟩ := List.nodup_cons.mp h
    rw [List.filter_cons]
    rcases List.mem_cons.mp hr with rfl | hr
    · have hrest : rules.filter (fun r' => r'.id == r.id) = [] := by
        refine List.filter_eq_nil_iff.mpr fun s hs heq => hnew ?_
        exact List.mem_map.mpr ⟨s, hs, beq_iff_eq.mp heq⟩
      rw [if_pos (beq_self_eq_true _), hrest]
    · have hne : ¬ (r'.id == r.id) = true := by
        intro heq
        exact hnew (List.mem_map.mpr ⟨r, hr, (beq_iff_eq.mp heq).symm⟩)
      rw [if_neg hne, ih hnodup hr]

/-- What a rule reports among others is what it reports alone. -/
theorem filter_verdicts_eq_alone {rules : List Rule} (h : (rules.map Rule.id).Nodup) {r : Rule}
    (hr : r ∈ rules) (root : Node) :
    (verdicts rules root).filter (fun d => d.ruleId == r.id) = verdicts [r] root := by
  rw [filter_verdicts (· == r.id), filter_id_eq h hr]

end Rule

/-- Take some of the rules of a registry, each once and in any order. They make a registry too, and
every rule among them reports in it, diagnostic by diagnostic, what it reports in the full registry
and what it reports in a registry of its own. -/
theorem Registry.filter_scan_eq_alone {rules picked : List Rule}
    (distinct : (rules.map Rule.id).Nodup) (once : picked.Nodup) (taken : picked ⊆ rules) :
    ∃ full part, ofRules rules = .ok full ∧ ofRules picked = .ok part ∧
      ∀ r ∈ picked, ∃ alone, ofRules [r] = .ok alone ∧
        ∀ loc body, ∃ ds ds' ds'', full.scan ⟨loc, .module body⟩ = .ok ds ∧
          part.scan ⟨loc, .module body⟩ = .ok ds' ∧ alone.scan ⟨loc, .module body⟩ = .ok ds'' ∧
          ds'.filter (fun d => d.ruleId == r.id) = ds.filter (fun d => d.ruleId == r.id) ∧
          ds'' = ds.filter (fun d => d.ruleId == r.id) := by
  have distinct' : (picked.map Rule.id).Nodup := by
    refine once.map_on fun r hr r' hr' heq => ?_
    exact List.inj_on_of_nodup_map distinct (taken hr) (taken hr') heq
  refine ⟨_, _, ofRules_of_nodup distinct, ofRules_of_nodup distinct', fun r hr => ?_⟩
  refine ⟨_, ofRules_of_nodup (List.nodup_singleton _), fun loc body => ?_⟩
  refine ⟨_, _, _, scan_index _ rfl, scan_index _ rfl, scan_index _ rfl, ?_, ?_⟩
  · rw [Rule.filter_verdicts_eq_alone distinct (taken hr),
      Rule.filter_verdicts_eq_alone distinct' hr]
  · rw [Rule.filter_verdicts_eq_alone distinct (taken hr)]

/-- Two of three rules that all ask for names, in the opposite order. -/
theorem Registry.filter_scan_eq_alone_two_of_three :
    let ask (id : String) : Rule := ⟨⟨id, "", "", .low⟩, .single .name, fun n _ => [.on n id]⟩
    let rules := [ask "a", ask "b", ask "c"]
    let picked := [ask "c", ask "a"]
    let root : Node := ⟨⟨1, 1⟩, .module [⟨⟨1, 1⟩, .name "x"⟩]⟩
    (rules.map Rule.id).Nodup ∧ picked.Nodup ∧ picked ⊆ rules ∧
      ∃ full part alone, ofRules rules = .ok full ∧ ofRules picked = .ok part ∧
        ofRules [ask "a"] = .ok alone ∧ ∃ ds ds' ds'', full.scan root = .ok ds ∧
          part.scan root = .ok ds' ∧ alone.scan root = .ok ds'' ∧
          ds'.filter (fun d => d.ruleId == "a") = ds.filter (fun d => d.ruleId == "a") ∧
          ds'' = ds.filter (fun d => d.ruleId == "a") := by
  intro ask rules picked root
  have distinct : (rules.map Rule.id).Nodup := by decide
  have once : picked.Nodup := List.Nodup.of_map Rule.id (by decide)
  have taken : picked ⊆ rules := by simp [picked, rules]
  obtain ⟨full, part, hfull, hpart, each⟩ := filter_scan_eq_alone distinct once taken
  obtain ⟨alone, halone, scans⟩ := each (ask "a") (by simp [picked])
  exact ⟨distinct, once, taken, full, part, alone, hfull, hpart, halone, scans _ _⟩

end CodeAudit
