import CodeAudit.Command.Run
import Mathlib.Data.List.Induction
import Mathlib.Data.List.Sort
import Mathlib.Data.String.Basic
import Mathlib.Logic.Relation

/-!
# Audits in any order

While a search is still under way, the sources it has found are audited by many workers at once, and
what an audit comes to is collected when it ends. `ScanState.Step` is one thing that happens during such
a scan; nothing is said about which source comes next, nor about how many workers there are.

The other side is a scan without workers, `SequentialScan`. It goes through the sources in the order of
their paths and writes a line for a finding at once. Whatever happens in which order, both come to the
same lines, the same counts and the same end.
-/

namespace CodeAudit

open Relation

namespace Registry

variable (g : Registry) (files : FileTree)

/-- What is collected for a source; nothing if its audit has no result. -/
def record? (source : FoundSource) : Option (String × List Diagnostic) :=
  match g.auditFound files source with
  | .ok found => some (source.path, found)
  | .error _ => none

variable {g files}

theorem record?_of_ok {source : FoundSource} {found : List Diagnostic}
    (h : g.auditFound files source = .ok found) :
    g.record? files source = some (source.path, found) := by
  simp only [record?, h]

theorem record?_of_error {source : FoundSource} {e : AuditError}
    (h : g.auditFound files source = .error e) : g.record? files source = none := by
  simp only [record?, h]

theorem fst_of_record? {source : FoundSource} {entry : String × List Diagnostic}
    (h : g.record? files source = some entry) : entry.1 = source.path := by
  unfold record? at h
  split at h
  · exact (Option.some.inj h) ▸ rfl
  · exact absurd h nofun

theorem done_foldl_collect (found : List FoundSource) (c : Collected) :
    (found.foldl (g.collect files) c).done = c.done ++ found.filterMap (g.record? files) := by
  induction found generalizing c with
  | nil => simp
  | cons source found ih =>
    rw [List.foldl_cons, ih]
    cases h : g.auditFound files source with
    | ok ds => simp [collect, Collected.add, h, record?_of_ok h]
    | error e => simp [collect, Collected.add, h, record?_of_error h]

theorem failures_foldl_collect (found : List FoundSource) (c : Collected) :
    (found.foldl (g.collect files) c).failures =
      c.failures + found.countP fun source => (g.record? files source).isNone := by
  induction found generalizing c with
  | nil => simp
  | cons source found ih =>
    rw [List.foldl_cons, ih]
    cases h : g.auditFound files source with
    | ok ds => simp [collect, Collected.add, h, record?_of_ok h]
    | error e =>
      simp only [collect, Collected.add, h, List.countP_cons, record?_of_error h, Option.isNone_none,
        if_true]
      omega

end Registry

/-! ### The order in which audits end -/

/-- Findings in files, one after the other. -/
def located (entries : List (String × List Diagnostic)) : List LocatedDiagnostic :=
  entries.flatMap fun entry => entry.2.map fun d => ⟨entry.1, d⟩

/-- What the audits of sources come to if they end in a given order. -/
def Registry.summaryOf (g : Registry) (files : FileTree) (sources : List FoundSource) : ScanSummary where
  findings := located (sources.filterMap (g.record? files))
  files := (sources.filterMap (g.record? files)).length
  failures := sources.countP fun source => (g.record? files source).isNone

/-- Sources in the order of their paths, each path once. -/
def PathOrdered (sources : List FoundSource) : Prop := sources.Pairwise fun a b => a.path < b.path

theorem pairwise_lt_mergeSort {α : Type} (key : α → String) {l : List α}
    (distinct : l.Pairwise fun a b => key a ≠ key b) :
    (l.mergeSort fun a b => key a ≤ key b).Pairwise fun a b => key a < key b := by
  have hle : (l.mergeSort fun a b => key a ≤ key b).Pairwise fun a b =>
      decide (key a ≤ key b) = true :=
    List.pairwise_mergeSort (fun a b c => by simpa using le_trans)
      (fun a b => by simpa using le_total (key a) (key b)) l
  have hne : (l.mergeSort fun a b => key a ≤ key b).Pairwise fun a b => key a ≠ key b :=
    ((List.mergeSort_perm ..).pairwise_iff Ne.symm).mpr distinct
  exact (hle.and hne).imp fun h => lt_of_le_of_ne (of_decide_eq_true h.1) h.2

theorem exists_pathOrdered {found : List FoundSource}
    (distinct : (found.map FoundSource.path).Nodup) :
    ∃ sorted, sorted.Perm found ∧ PathOrdered sorted :=
  ⟨found.mergeSort fun a b => a.path ≤ b.path, List.mergeSort_perm ..,
    pairwise_lt_mergeSort FoundSource.path (List.pairwise_map.mp distinct)⟩

namespace PathOrdered

variable {sorted : List FoundSource}

theorem entries (h : PathOrdered sorted) (g : Registry) (files : FileTree) :
    (sorted.filterMap (g.record? files)).Pairwise fun a b => a.1 < b.1 :=
  h.filterMap _ fun _ _ hlt _ ha _ hb => by
    rwa [Registry.fst_of_record? ha, Registry.fst_of_record? hb]

/-- Entries with different paths have one order by their paths. -/
theorem mergeSort_eq {entries sorted : List (String × List Diagnostic)} (hperm : entries.Perm sorted)
    (h : sorted.Pairwise fun a b => a.1 < b.1) :
    (entries.mergeSort fun a b => a.1 ≤ b.1) = sorted := by
  have hne : entries.Pairwise fun a b => a.1 ≠ b.1 :=
    (hperm.pairwise_iff Ne.symm).mpr (h.imp ne_of_lt)
  refine ((List.mergeSort_perm ..).trans hperm).eq_of_pairwise ?_
    (pairwise_lt_mergeSort Prod.fst hne) h
  intro a b _ _ hab hba
  exact absurd hba (lt_asymm hab)

/-- Audits that end in any order come to what they come to in the order of the paths. -/
theorem summary_foldl_collect (h : PathOrdered sorted) {g : Registry} {files : FileTree}
    {ended : List FoundSource} (hperm : ended.Perm sorted) :
    (ended.foldl (g.collect files) {}).summary = g.summaryOf files sorted := by
  have hdone : ((ended.foldl (g.collect files) {}).done.mergeSort fun a b => a.1 ≤ b.1) =
      sorted.filterMap (g.record? files) := by
    rw [Registry.done_foldl_collect]
    exact mergeSort_eq (by simpa using hperm.filterMap _) (h.entries g files)
  have hfailures : (ended.foldl (g.collect files) {}).failures =
      sorted.countP fun source => (g.record? files source).isNone := by
    rw [Registry.failures_foldl_collect, hperm.countP_eq]
    exact Nat.zero_add _
  simp only [Collected.summary, hdone, hfailures, Registry.summaryOf, located]

end PathOrdered

/-! ### Scans with many workers -/

/-- A scan under way. -/
structure ScanState where
  /-- The sources that the search has not come to. -/
  ahead : List FoundSource
  /-- The sources that wait for a worker. -/
  waiting : List FoundSource
  /-- The sources that workers are busy with. -/
  busy : List FoundSource
  collected : Collected

namespace ScanState

/-- A scan that has not begun. -/
def start (found : List FoundSource) : ScanState := ⟨found, [], [], {}⟩

/-- One thing that happens during a scan. -/
inductive Step (g : Registry) (files : FileTree) : ScanState → ScanState → Prop
  /-- The search comes to a source. -/
  | find (before : List FoundSource) (source : FoundSource) {after waiting busy : List FoundSource}
      {c : Collected} :
    Step g files ⟨before ++ source :: after, waiting, busy, c⟩
      ⟨before ++ after, waiting ++ [source], busy, c⟩
  /-- A worker takes a source. -/
  | take (before : List FoundSource) (source : FoundSource) {ahead after busy : List FoundSource}
      {c : Collected} :
    Step g files ⟨ahead, before ++ source :: after, busy, c⟩
      ⟨ahead, before ++ after, busy ++ [source], c⟩
  /-- A worker has audited its source. -/
  | finish (before : List FoundSource) (source : FoundSource) {ahead waiting after : List FoundSource}
      {c : Collected} :
    Step g files ⟨ahead, waiting, before ++ source :: after, c⟩
      ⟨ahead, waiting, before ++ after, g.collect files c source⟩

/-- Whether everything has been audited. -/
def IsOver (s : ScanState) : Prop := s.ahead = [] ∧ s.waiting = [] ∧ s.busy = []

/-- How many steps are left. -/
def left (s : ScanState) : Nat := 3 * s.ahead.length + 2 * s.waiting.length + s.busy.length

/-- What is collected is what the audits that have ended came to, and every source is in one place. -/
def Accounts (g : Registry) (files : FileTree) (found : List FoundSource) (s : ScanState) : Prop :=
  ∃ ended, s.collected = ended.foldl (g.collect files) {} ∧
    (ended ++ (s.busy ++ (s.waiting ++ s.ahead))).Perm found

variable {g : Registry} {files : FileTree} {found : List FoundSource} {s t : ScanState}

theorem accounts_start : (start found).Accounts g files found := ⟨[], rfl, .refl _⟩

theorem Step.accounts (h : Step g files s t) (hs : s.Accounts g files found) :
    t.Accounts g files found := by
  obtain ⟨ended, hcollected, hperm⟩ := hs
  cases h with
  | find before source =>
    refine ⟨ended, hcollected, .trans (.append_left _ (.append_left _ ?_)) hperm⟩
    simpa using List.perm_middle.symm.append_left _
  | take before source =>
    refine ⟨ended, hcollected, .trans (.append_left _ ?_) hperm⟩
    simpa using (List.perm_middle.symm.append_right _).append_left _
  | finish before source =>
    refine ⟨ended ++ [source], ?_, .trans ?_ hperm⟩
    · rw [List.foldl_append, ← hcollected, List.foldl_cons, List.foldl_nil]
    · simpa using (List.perm_middle.symm.append_right _).append_left ended

theorem accounts_of_reachable (h : ReflTransGen (Step g files) (start found) s) :
    s.Accounts g files found := by
  induction h with
  | refl => exact accounts_start
  | tail _ hstep ih => exact hstep.accounts ih

/-- A scan that is not over goes on, and comes nearer to its end. -/
theorem exists_step (g : Registry) (files : FileTree) (h : ¬ s.IsOver) : ∃ t, Step g files s t ∧ t.left < s.left := by
  obtain ⟨ahead, waiting, busy, c⟩ := s
  cases ahead with
  | cons source after =>
    refine ⟨_, .find [] source, ?_⟩
    simp only [left, List.nil_append, List.length_append, List.length_cons, List.length_nil]
    omega
  | nil =>
    cases waiting with
    | cons source after =>
      refine ⟨_, .take [] source, ?_⟩
      simp only [left, List.nil_append, List.length_append, List.length_cons, List.length_nil]
      omega
    | nil =>
      cases busy with
      | cons source after =>
        refine ⟨_, .finish [] source, ?_⟩
        simp only [left, List.nil_append, List.length_cons]
        omega
      | nil => exact absurd ⟨rfl, rfl, rfl⟩ h

theorem exists_isOver (g : Registry) (files : FileTree) (s : ScanState) :
    ∃ t, ReflTransGen (Step g files) s t ∧ t.IsOver := by
  by_cases h : s.IsOver
  · exact ⟨s, .refl, h⟩
  · obtain ⟨next, hstep, hless⟩ := exists_step g files h
    obtain ⟨t, hrun, hover⟩ := exists_isOver g files next
    exact ⟨t, .head hstep hrun, hover⟩
termination_by s.left

theorem Accounts.summary (hs : s.Accounts g files found) (hover : s.IsOver)
    {sorted : List FoundSource} (hperm : sorted.Perm found) (h : PathOrdered sorted) :
    s.collected.summary = g.summaryOf files sorted := by
  obtain ⟨ended, hcollected, hended⟩ := hs
  obtain ⟨hahead, hwaiting, hbusy⟩ := hover
  rw [hcollected]
  refine h.summary_foldl_collect (.trans ?_ hperm.symm)
  simpa [hahead, hwaiting, hbusy] using hended

end ScanState

/-! ### Scans without workers -/

/-- A scan that takes one source after the other and writes as it goes. -/
structure SequentialScan where
  /-- The lines for findings that are shown. -/
  lines : List String := []
  files : Nat := 0
  failures : Nat := 0
  /-- Whether there was a finding for which the run fails. -/
  failed : Bool := false

namespace SequentialScan

variable (colors : Bool) (settings : Settings)

/-- Looks at a finding. It is shown if it is severe enough, as long as there is room. -/
def look (s : SequentialScan) (f : LocatedDiagnostic) : SequentialScan :=
  let severity := f.diagnostic.severity
  let hasRoom := settings.output.maxResults.all fun limit => s.lines.length < limit.toNat
  { s with
    lines :=
      if severity.atLeast settings.scanner.minSeverity && hasRoom then
        s.lines ++ [f.render colors settings.output.defaultFormat]
      else s.lines
    failed := s.failed || severity.atLeast settings.scanner.failOn }

/-- Audits a source. -/
def visit (g : Registry) (files : FileTree) (s : SequentialScan) (source : FoundSource) :
    SequentialScan :=
  match g.auditFound files source with
  | .ok found =>
    { found.foldl (fun s d => s.look colors settings ⟨source.path, d⟩) s with files := s.files + 1 }
  | .error _ => { s with failures := s.failures + 1 }

/-- What is printed at the end, and how the scan ends. -/
def report (s : SequentialScan) : Transcript × ExitStatus :=
  let scanned := Style.paint colors { bold := true } "Scanned:" ++ " " ++ toString s.lines.length ++
    " finding(s) in " ++ toString s.files ++ " file(s)"
  let warning := Style.paint colors { color := some .yellow, bold := true } "warning:" ++ " " ++
    toString s.failures ++ " file(s) could not be scanned"
  ({ out := if settings.output.quiet then [] else s.lines
     err := (if settings.output.quiet then [] else [scanned]) ++
       if s.failures = 0 then [] else [warning] },
    if s.failures ≠ 0 ∧ settings.scanner.ignoreFileErrors = false then .failure
    else if s.failed then .findings
    else .success)

/-- A scan is where a summary of its sources is. -/
structure Agrees (s : SequentialScan) (summary : ScanSummary) : Prop where
  lines : s.lines = (selectFindings settings summary.findings).map
    (·.render colors settings.output.defaultFormat)
  files : s.files = summary.files
  failures : s.failures = summary.failures
  failed : s.failed = summary.findings.any fun f =>
    f.diagnostic.severity.atLeast settings.scanner.failOn

variable {colors settings} {s : SequentialScan} {summary : ScanSummary}

/-- One more finding is shown if it is severe enough and there is room for it. -/
theorem selectFindings_concat (found : List LocatedDiagnostic) (f : LocatedDiagnostic) :
    selectFindings settings (found ++ [f]) =
      if f.diagnostic.severity.atLeast settings.scanner.minSeverity &&
          settings.output.maxResults.all fun limit =>
            (selectFindings settings found).length < limit.toNat then
        selectFindings settings found ++ [f]
      else selectFindings settings found := by
  unfold selectFindings
  cases settings.output.maxResults with
  | none => cases h : f.diagnostic.severity.atLeast settings.scanner.minSeverity <;> simp [h]
  | some limit =>
    cases h : f.diagnostic.severity.atLeast settings.scanner.minSeverity with
    | false => simp [h]
    | true =>
      generalize hkept : found.filter _ = kept
      by_cases hroom : kept.length < limit.toNat
      · have hone : List.take (limit.toNat - kept.length) [f] = [f] :=
          List.take_of_length_le (by simp only [List.length_singleton]; omega)
        simp [h, hkept, List.take_append, hone, hroom, List.take_of_length_le (Nat.le_of_lt hroom)]
      · have hnone : limit.toNat - kept.length = 0 := by omega
        simp [h, hkept, List.take_append, hnone, Nat.le_of_not_lt hroom]

theorem Agrees.look {found : List LocatedDiagnostic} {files failures : Nat}
    (h : s.Agrees colors settings ⟨found, files, failures⟩) (f : LocatedDiagnostic) :
    (s.look colors settings f).Agrees colors settings ⟨found ++ [f], files, failures⟩ where
  lines := by
    rw [selectFindings_concat, SequentialScan.look, h.lines, List.length_map]
    split <;> simp
  files := h.files
  failures := h.failures
  failed := by simp [SequentialScan.look, h.failed]

theorem Agrees.foldl_look {found : List LocatedDiagnostic} {files failures : Nat}
    (h : s.Agrees colors settings ⟨found, files, failures⟩) (path : String) (ds : List Diagnostic) :
    (ds.foldl (fun s d => s.look colors settings ⟨path, d⟩) s).Agrees colors settings
      ⟨found ++ ds.map (fun d => ⟨path, d⟩), files, failures⟩ := by
  induction ds generalizing s found with
  | nil => simpa using h
  | cons d ds ih => simpa using ih (h.look ⟨path, d⟩)

variable {g : Registry} {files : FileTree}

theorem Agrees.visit {seen : List FoundSource}
    (h : s.Agrees colors settings (g.summaryOf files seen)) (source : FoundSource) :
    (s.visit colors settings g files source).Agrees colors settings
      (g.summaryOf files (seen ++ [source])) := by
  unfold SequentialScan.visit
  cases haudit : g.auditFound files source with
  | ok found =>
    have hfound := h.foldl_look source.path found
    constructor
    · simpa [Registry.summaryOf, located, Registry.record?_of_ok haudit] using hfound.lines
    · simp [Registry.summaryOf, Registry.record?_of_ok haudit, h.files]
    · simpa [Registry.summaryOf, Registry.record?_of_ok haudit] using hfound.failures
    · simpa [Registry.summaryOf, located, Registry.record?_of_ok haudit] using hfound.failed
  | error e =>
    constructor
    · simpa [Registry.summaryOf, Registry.record?_of_error haudit] using h.lines
    · simpa [Registry.summaryOf, Registry.record?_of_error haudit] using h.files
    · simp [Registry.summaryOf, Registry.record?_of_error haudit, h.failures]
    · simpa [Registry.summaryOf, Registry.record?_of_error haudit] using h.failed

theorem agrees_foldl_visit (colors : Bool) (settings : Settings) (g : Registry) (files : FileTree)
    (sources : List FoundSource) :
    (sources.foldl (visit colors settings g files) {}).Agrees colors settings
      (g.summaryOf files sources) := by
  induction sources using List.reverseRecOn with
  | nil =>
    refine ⟨?_, rfl, rfl, rfl⟩
    cases h : settings.output.maxResults <;> simp [selectFindings, Registry.summaryOf, located, h]
  | append_singleton seen source ih => simpa using ih.visit source

theorem Agrees.report_eq (h : s.Agrees colors settings summary) :
    reportScan colors settings summary = s.report colors settings := by
  have hshown : (selectFindings settings summary.findings).length = s.lines.length := by
    rw [h.lines, List.length_map]
  obtain ⟨hlines, hfiles, hfailures, hfailed⟩ := h
  unfold reportScan report exitStatus Transcript.append
  simp only [hshown, ← hlines, ← hfiles, ← hfailures, ← hfailed]
  cases settings.output.quiet <;> by_cases h : s.failures = 0 <;>
    simp [h, Nat.pos_iff_ne_zero]

end SequentialScan

/-- Sources with different paths are audited by any number of workers in any order. Once all audits have
ended, what is printed and how the run ends is the same as for a scan that goes through the sources one
after the other, in the order of their paths; and it is what a scan of everything that a search finds
gives. Every scan can come to its end. -/
theorem reportScan_eq_sequential (g : Registry) (files : FileTree) (settings : Settings)
    (colors : Bool) {found : List FoundSource} (distinct : (found.map FoundSource.path).Nodup) :
    ∃ sorted : List FoundSource, sorted.Perm found ∧
      sorted.Pairwise (fun a b => a.path < b.path) ∧
      (∀ s, ReflTransGen (ScanState.Step g files) (.start found) s →
        (s.IsOver → reportScan colors settings s.collected.summary =
          (sorted.foldl (SequentialScan.visit colors settings g files) {}).report colors settings) ∧
        ∃ t, ReflTransGen (ScanState.Step g files) s t ∧ t.IsOver) ∧
      ∀ (search : SourceSearch) (shown : String) (start : Route), search.files = files →
        search.found shown start = found →
        reportScan colors settings (g.auditAll search shown start) =
          (sorted.foldl (SequentialScan.visit colors settings g files) {}).report colors settings := by
  obtain ⟨sorted, hperm, hsorted⟩ := exists_pathOrdered distinct
  have hreport := (SequentialScan.agrees_foldl_visit colors settings g files sorted).report_eq
  refine ⟨sorted, hperm, hsorted, ?_, ?_⟩
  · intro s hrun
    refine ⟨fun hover => ?_, ScanState.exists_isOver g files s⟩
    rw [(ScanState.accounts_of_reachable hrun).summary hover hperm hsorted, hreport]
  · intro search shown start hfiles hfound
    subst hfiles hfound
    rw [Registry.auditAll, hsorted.summary_foldl_collect hperm.symm, hreport]

/-- The source that is found first is the last in the order of the paths, and its audit ends last. -/
theorem reportScan_eq_sequential_crossed :
    let files : FileTree := .directory [("a.py", .file ⟨#[0xff]⟩), ("b.py", .file ⟨#[]⟩)]
    let found : List FoundSource := [⟨"b.py", ["b.py"]⟩, ⟨"a.py", ["a.py"]⟩, ⟨"c.py", ["c.py"]⟩]
    (found.map FoundSource.path).Nodup ∧
      ∃ sorted : List FoundSource, sorted.Perm found ∧
        sorted.Pairwise (fun a b => a.path < b.path) ∧
        ∃ s, ReflTransGen (ScanState.Step ⟨[], Registry.index []⟩ files) (.start found) s ∧
          s.IsOver ∧
          reportScan false {} s.collected.summary =
            (sorted.foldl (SequentialScan.visit false {} ⟨[], Registry.index []⟩ files) {}).report
              false {} := by
  intro files found
  have distinct : (found.map FoundSource.path).Nodup := by decide
  obtain ⟨sorted, hperm, hsorted, hrun, -⟩ :=
    reportScan_eq_sequential ⟨[], Registry.index []⟩ files {} false distinct
  refine ⟨distinct, sorted, hperm, hsorted, ?_⟩
  have reached := ReflTransGen.refl (r := ScanState.Step ⟨[], Registry.index []⟩ files)
    (a := .start found)
  replace reached := reached.tail (.find [] _)
  replace reached := reached.tail (.find [] _)
  replace reached := reached.tail (.take [] _)
  replace reached := reached.tail (.find [] _)
  replace reached := reached.tail (.take [] _)
  replace reached := reached.tail (.take [] _)
  replace reached := reached.tail (.finish [_, _] _)
  replace reached := reached.tail (.finish [_] _)
  replace reached := reached.tail (.finish [] _)
  exact ⟨_, reached, ⟨rfl, rfl, rfl⟩, (hrun _ reached).1 ⟨rfl, rfl, rfl⟩⟩

end CodeAudit
