import CodeAudit.Command.Run
import CodeAudit.Proofs.Encodings
import CodeAudit.Proofs.Tables
import CodeAudit.Proofs.Trees

/-!
# Settings laid over each other

The settings of a user keep everything but the exclusions. These are united with the exclusions that are there
already, as one list in strictly increasing order, and so it does not matter in which order a name was
written, how often, or on which side. `Settings.merge_eq_iff` determines the outcome, and the laws of merging
follow from it alone.
-/

namespace CodeAudit

namespace Settings

/-- The names of the directories whose contents are passed over. -/
def exclusions (s : Settings) : List String := s.scanner.excludedDirectories

/-- The same settings with other exclusions. -/
def withExclusions (s : Settings) (names : List String) : Settings :=
  { s with scanner := { s.scanner with excludedDirectories := names } }

@[simp] theorem exclusions_withExclusions (s : Settings) (names : List String) :
    (s.withExclusions names).exclusions = names := rfl

theorem merge_eq_withExclusions (d u : Settings) :
    merge d u = u.withExclusions (sortedDistinct (d.exclusions ++ u.exclusions)) := rfl

/-- Merging gives the settings of the user with the exclusions of both, in strictly increasing order. -/
theorem merge_eq_iff {d u s : Settings} :
    merge d u = s ↔ s = u.withExclusions s.exclusions ∧ s.exclusions.Pairwise (· < ·) ∧
      ∀ name, name ∈ s.exclusions ↔ name ∈ d.exclusions ∨ name ∈ u.exclusions := by
  have hsorted := @sortedDistinct_eq_iff (d.exclusions ++ u.exclusions) s.exclusions
  simp only [List.mem_append] at hsorted
  rw [merge_eq_withExclusions, ← hsorted]
  constructor
  · rintro rfl
    exact ⟨rfl, rfl⟩
  · rintro ⟨hother, hnames⟩
    rw [hnames]
    exact hother.symm

theorem merge_merge (d u : Settings) : merge (merge d u) u = merge d u := by
  obtain ⟨hother, hsorted, hmem⟩ := merge_eq_iff.mp (rfl : merge d u = merge d u)
  refine merge_eq_iff.mpr ⟨hother, hsorted, fun name => ?_⟩
  rw [hmem]
  exact ⟨Or.inl, fun h => h.elim id Or.inr⟩

/-- Only the members of the two lists of exclusions count. -/
theorem merge_withExclusions {d u : Settings} {names others : List String}
    (hnames : ∀ name, name ∈ names ↔ name ∈ d.exclusions) (hothers : ∀ name, name ∈ others ↔ name ∈ u.exclusions) :
    merge (d.withExclusions names) (u.withExclusions others) = merge d u := by
  obtain ⟨hother, hsorted, hmem⟩ := merge_eq_iff.mp (rfl : merge d u = merge d u)
  refine merge_eq_iff.mpr ⟨hother, hsorted, fun name => ?_⟩
  rw [hmem, exclusions_withExclusions, exclusions_withExclusions, hnames, hothers]

end Settings

/-- Loading takes the settings of the user, where there are any. -/
theorem loadSettings_of_user {w : Workplace} {user : Settings}
    (huser : Settings.userSettings? (Settings.writeExample w.files w.settingsDir) w.settingsDir = .ok (some user)) :
    loadSettings w = .ok ⟨Settings.merge {} user, settingsNote w true,
      Settings.writeExample w.files w.settingsDir⟩ := by
  rw [loadSettings, huser]
  rfl

namespace Settings

/-- Merging unites the exclusions in strictly increasing order and takes everything else from the user. So
merging again changes nothing, neither the order nor the repetition of names matters, and a run with settings
of the user's own keeps every exclusion of the defaults. -/
theorem merge_unites_exclusions (d u : Settings) :
    ((merge d u).exclusions.Pairwise (· < ·) ∧
      ∀ name, name ∈ (merge d u).exclusions ↔ name ∈ d.exclusions ∨ name ∈ u.exclusions) ∧
    merge d u = u.withExclusions (merge d u).exclusions ∧
    merge (merge d u) u = merge d u ∧
    (∀ names others, (∀ name, name ∈ names ↔ name ∈ d.exclusions) →
      (∀ name, name ∈ others ↔ name ∈ u.exclusions) →
        merge (d.withExclusions names) (u.withExclusions others) = merge d u) ∧
    ∀ w : Workplace, userSettings? (writeExample w.files w.settingsDir) w.settingsDir = .ok (some u) →
      ∃ loaded, loadSettings w = .ok loaded ∧ loaded.settings = merge {} u ∧
        ∀ name ∈ ({} : Settings).exclusions, name ∈ loaded.settings.exclusions := by
  obtain ⟨hother, hsorted, hmem⟩ := merge_eq_iff.mp (rfl : merge d u = merge d u)
  refine ⟨⟨hsorted, hmem⟩, hother, merge_merge d u, ?_, ?_⟩
  · intro names others hnames hothers
    exact merge_withExclusions hnames hothers
  · intro w huser
    obtain ⟨-, -, hloaded⟩ := merge_eq_iff.mp (rfl : merge {} u = merge {} u)
    refine ⟨_, loadSettings_of_user huser, rfl, ?_⟩
    intro name hname
    exact (hloaded name).mpr (.inl hname)

/-- A settings directory that holds nothing but the user's own file. -/
def ownPlace (content : ByteArray) : Workplace := ⟨.directory [(userFile, .file content)], "", [], [], false⟩

theorem userSettings?_ownPlace (content : ByteArray) :
    userSettings? (writeExample (ownPlace content).files []) [] = (ofContent content).map some := by
  have hown : FileTree.IsName userFile := by decide
  have hexample : FileTree.IsName exampleFile := by decide
  have hbefore : (ownPlace content).files.Plain :=
    .directory (List.nodup_singleton _) (List.forall_mem_singleton.mpr hown)
      (List.forall_mem_singleton.mpr (.file _))
  have hmissing : (ownPlace content).files.resolve? [] exampleFile = none := hbefore.resolve?_eq [] hexample
  rw [writeExample, hmissing]
  generalize exampleSettings.toUTF8 = shipped
  have hafter : (FileTree.directory [(userFile, .file content), (exampleFile, .file shipped)]).Plain := by
    refine .directory (show [userFile, exampleFile].Nodup by decide) ?_ ?_
    · exact List.forall_mem_cons.mpr ⟨hown, List.forall_mem_singleton.mpr hexample⟩
    · exact List.forall_mem_cons.mpr ⟨.file _, List.forall_mem_singleton.mpr (.file _)⟩
  have hfound : (FileTree.directory [(userFile, .file content), (exampleFile, .file shipped)]).resolve? []
      userFile = some [userFile] := hafter.resolve?_eq [] hown
  have hput : (ownPlace content).files.put (.file shipped) ([] ++ [exampleFile]) =
      .directory [(userFile, .file content), (exampleFile, .file shipped)] := rfl
  show userSettings? ((ownPlace content).files.put (.file shipped) ([] ++ [exampleFile])) [] = _
  rw [hput, userSettings?, hfound]
  rfl

theorem ofContent_toUTF8 {text : String} {s : Settings} (h : ofToml? text = some s) :
    ofContent text.toUTF8 = .ok s := by
  simp only [ofContent, Utf8.decode_toUTF8, String.ofList_toList, h]

/-- Settings that exclude one more directory, and one that is excluded already. -/
def ownText : String := "[scanner]\nexcluded_directories = [\"migrations\", \"build\", \"migrations\"]\n"

theorem exists_ownSettings :
    ∃ u, ofContent ownText.toUTF8 = .ok u ∧ u.exclusions = ["migrations", "build", "migrations"] := by
  have hread : (ofToml? ownText).map exclusions = some ["migrations", "build", "migrations"] := by
    decide +kernel
  obtain ⟨u, hu, hexclusions⟩ := Option.map_eq_some_iff.mp hread
  exact ⟨u, ofContent_toUTF8 hu, hexclusions⟩

/-- What the user excludes is added to the defaults, each name once. -/
theorem merge_unites_exclusions_own_file :
    let w := ownPlace ownText.toUTF8
    ∃ u, userSettings? (writeExample w.files w.settingsDir) w.settingsDir = .ok (some u) ∧
      u.exclusions = ["migrations", "build", "migrations"] ∧
      merge (({} : Settings).withExclusions ({} : Settings).exclusions.reverse)
        (u.withExclusions ["build", "migrations"]) = merge {} u ∧
      ∃ loaded, loadSettings w = .ok loaded ∧ ".git" ∈ loaded.settings.exclusions ∧
        "migrations" ∈ loaded.settings.exclusions := by
  intro w
  have hsame (name : String) :
      name ∈ ["build", "migrations"] ↔ name ∈ ["migrations", "build", "migrations"] := by
    simp only [List.mem_cons, List.not_mem_nil, or_false]
    tauto
  obtain ⟨u, hcontent, hexclusions⟩ := exists_ownSettings
  have huser : userSettings? (writeExample w.files w.settingsDir) w.settingsDir = .ok (some u) := by
    rw [show w.settingsDir = [] from rfl, userSettings?_ownPlace, hcontent]
    rfl
  obtain ⟨⟨-, hmem⟩, -, -, horder, hload⟩ := merge_unites_exclusions {} u
  obtain ⟨loaded, hloaded, hsettings, hdefaults⟩ := hload w huser
  refine ⟨u, huser, hexclusions, ?_, loaded, hloaded, hdefaults _ List.mem_cons_self, ?_⟩
  · refine horder _ _ (fun _ => List.mem_reverse) ?_
    rw [hexclusions]
    exact hsame
  · rw [hsettings, hmem, hexclusions]
    exact .inr List.mem_cons_self

end Settings

end CodeAudit
