import CodeAudit.Proofs.Exclusions
import CodeAudit.Proofs.Trees

/-!
# What a search finds

In a plain tree in which nothing is called `.git` and no list is called `.ignore`, a search depends on names
alone: `SourceSearch.sourcesIn_eq` says which of the files below a directory it finds. What it finds may be
shared out among any number of workers, who hand it on in batches. Every source arrives once.
-/

namespace CodeAudit

open FileTree

/-! ### Directories that say nothing -/

/-- A directory without a list of what to pass over, and not the top of a repository. -/
def FileTree.IsQuiet (t : FileTree) (route : Route) : Prop :=
  (∀ content, t.get? (route ++ [".ignore"]) ≠ some (.file content)) ∧ t.get? (route ++ [".git"]) = none

theorem FileTree.Plain.isQuiet {t : FileTree} (h : t.Plain) (hlist : ".ignore" ∉ t.allNames)
    (hgit : ".git" ∉ t.allNames) (route : Route) : t.IsQuiet route := by
  constructor
  · intro content hget
    exact hlist (h.mem_allNames hget _ (by simp))
  · rw [Option.eq_none_iff_forall_ne_some]
    intro child hget
    exact hgit (h.mem_allNames hget _ (by simp))

namespace Surroundings

/-- A directory that has nothing to say about the names below it. -/
def IsSilent (s : Surroundings) : Prop := s.rules = [] ∧ s.isRepository = false

theorem isSilent_ofDirectory {t : FileTree} (hplain : t.Plain) {route : Route} (hquiet : t.IsQuiet route)
    (below : Route) : (ofDirectory t route below).IsSilent := by
  obtain ⟨hlist, hgit⟩ := hquiet
  have hcontent : (t.resolve? route ".ignore").bind t.contentAt? = none := by
    rw [hplain.resolve?_eq route (by decide)]
    cases hget : t.get? (route ++ [".ignore"]) with
    | none => rfl
    | some child =>
      rw [Option.map_some, Option.bind_some, contentAt?, hget]
      cases child with
      | file content => exact absurd hget (hlist content)
      | link | directory => rfl
  constructor
  · simp only [ofDirectory, hcontent]
  · simp only [ofDirectory, hplain.resolve?_eq route (show IsName ".git" by decide), hgit, Option.map_none,
      Option.isSome_none]

theorem listedVerdict?_eq_none {levels : List Surroundings} (h : ∀ l ∈ levels, l.IsSilent) (name : String)
    (isDirectory : Bool) : listedVerdict? levels name isDirectory = none := by
  have hany : levels.any (·.isRepository) = false := List.any_eq_false.mpr fun l hl => by simp [(h l hl).2]
  have hrules : (levels.findSome? fun l => verdict? l.rules (l.pathTo name) isDirectory) = none := by
    rw [List.findSome?_eq_none_iff]
    intro l hl
    rw [(h l hl).1]
    rfl
  rw [listedVerdict?, repositoryLevels, hany, hrules]
  rfl

end Surroundings

namespace SourceSearch

variable {files : FileTree} {settings : ScannerSettings}

/-! ### Names that a search goes through -/

/-- A search goes down a route below some names that it has come through already. -/
def admits (settings : ScannerSettings) (above route : Route) : Bool :=
  (above ++ route).dropLast.all (fun n => !settings.excludedDirectories.contains n) &&
    (settings.scanHiddenFiles || route.all fun n => !n.startsWith ".")

/-- A name is passed over for what stands above it, or because it is hidden. -/
def passesOver (settings : ScannerSettings) (above : Route) (name : String) : Bool :=
  above.any (settings.excludedDirectories.contains ·) || (!settings.scanHiddenFiles && name.startsWith ".")

theorem passesOver_eq (above : Route) (name : String) :
    passesOver settings above name = !(above.all (fun n => !settings.excludedDirectories.contains n) &&
      (settings.scanHiddenFiles || !name.startsWith ".")) := by
  simp [passesOver, Bool.not_and, Bool.not_or, List.not_all_eq_any_not]

theorem admits_singleton (above : Route) (name : String) :
    admits settings above [name] = !passesOver settings above name := by
  rw [passesOver_eq, Bool.not_not, admits, List.dropLast_concat, List.all_cons, List.all_nil, Bool.and_true]

/-- One step down a route. -/
theorem admits_cons (above : Route) (name : String) (route : Route) :
    admits settings above (name :: route) =
      (!passesOver settings above name && admits settings (above ++ [name]) route) := by
  have hsame : above ++ [name] ++ route = above ++ name :: route := by simp
  rw [passesOver_eq, Bool.not_not, admits, admits, hsame,
    List.dropLast_append_of_ne_nil (List.cons_ne_nil _ _), List.all_append, List.all_cons]
  generalize above.all _ = noneAbove
  generalize (name :: route).dropLast.all _ = noneBelow
  cases noneAbove <;> cases noneBelow <;> cases settings.scanHiddenFiles <;> simp

theorem skips_eq (hexcluded : ∀ n ∈ settings.excludedDirectories, IsExcludable n)
    {d : SearchedDirectory} (hsilent : ∀ l ∈ d.levels, l.IsSilent) {name : String}
    (hnames : ∀ n ∈ d.fromStart ++ [name], '/' ∉ n.toList) (isDirectory : Bool) :
    (ofSettings files settings).skips d name isDirectory = passesOver settings d.fromStart name := by
  have hcovers : (ofSettings files settings).excluded.any
      (fun g => g.covers ("/".intercalate (d.fromStart ++ [name]))) =
        d.fromStart.any (settings.excludedDirectories.contains ·) := by
    rw [Bool.eq_iff_iff, any_covers_iff hexcluded hnames (by simp), List.dropLast_concat]
    simp
  rw [skips, hcovers, Surroundings.listedVerdict?_eq_none hsilent, passesOver]
  cases d.fromStart.any _ <;> rfl

/-! ### Going down -/

/-- A directory that a search comes to, with nothing around it or below that has a say. -/
structure IsCalm (files : FileTree) (d : SearchedDirectory) : Prop where
  names : ∀ n ∈ d.fromStart, IsName n
  silent : ∀ l ∈ d.levels, l.IsSilent
  quiet : ∀ route, files.IsQuiet (d.route ++ route)

theorem IsCalm.enter (s : SourceSearch) {d : SearchedDirectory} (h : IsCalm s.files d)
    (hplain : s.files.Plain) {name : String} (hname : IsName name) :
    IsCalm s.files (s.enter d name (d.route ++ [name])) where
  names := List.forall_mem_append.mpr ⟨h.names, List.forall_mem_singleton.mpr hname⟩
  silent := by
    refine List.forall_mem_cons.mpr ⟨Surroundings.isSilent_ofDirectory hplain (h.quiet [name]) [], ?_⟩
    exact List.forall_mem_map.mpr h.silent
  quiet route := by
    show s.files.IsQuiet (d.route ++ [name] ++ route)
    rw [List.append_assoc]
    exact h.quiet _

/-- What a search takes from the files below a directory. -/
def taken (s : SourceSearch) (d : SearchedDirectory) (below : List (Route × ByteArray)) :
    List FoundSource :=
  (below.filter fun f => admits s.settings d.fromStart f.1 && s.wants (f.1.foldl join d.path) f.2.size).map
    fun f => ⟨f.1.foldl join d.path, d.route ++ f.1⟩

theorem taken_file (s : SourceSearch) (d : SearchedDirectory) (name : String) (content : ByteArray) :
    s.taken d [([name], content)] =
      if !passesOver s.settings d.fromStart name && s.wants (join d.path name) content.size then
        [⟨join d.path name, d.route ++ [name]⟩]
      else [] := by
  simp only [taken, List.filter_cons, List.filter_nil, admits_singleton, List.foldl_cons, List.foldl_nil]
  split <;> rfl

/-- What is taken from the files in a directory is what is taken once the directory has been entered. -/
theorem taken_map_cons (s : SourceSearch) (d : SearchedDirectory) (name : String)
    (below : List (Route × ByteArray)) :
    s.taken d (below.map fun f => (name :: f.1, f.2)) =
      if passesOver s.settings d.fromStart name then []
      else s.taken (s.enter d name (d.route ++ [name])) below := by
  rw [taken, List.filter_map, List.map_map]
  split
  · next hpasses => simp [admits_cons, hpasses, Function.comp_def]
  · next hpasses => simp [taken, enter, admits_cons, hpasses, Function.comp_def]

/-- A search finds what it is to take from the files of the tree. -/
theorem sourcesIn_eq (hplain : files.Plain)
    (hexcluded : ∀ n ∈ settings.excludedDirectories, IsExcludable n) {fuel : Nat} {d : SearchedDirectory}
    {entries : List (String × FileTree)} (hcalm : IsCalm files d)
    (hget : files.get? d.route = some (.directory entries))
    (hfuel : (FileTree.directory entries).size < fuel) :
    (ofSettings files settings).sourcesIn fuel d =
      (ofSettings files settings).taken d (directory entries).files := by
  induction fuel generalizing d entries with
  | zero => exact absurd hfuel (Nat.not_lt_zero _)
  | succ fuel ih =>
    cases (hplain.of_get? hget).1 with
    | directory distinct isName plain =>
      rw [sourcesIn, show (ofSettings files settings).files = files from rfl, hget, files_directory, taken,
        List.filter_flatMap, List.map_flatMap]
      -- Both sides go through the entries, so that they can be compared entry by entry.
      refine List.flatMap_congr fun e he => ?_
      obtain ⟨name, child⟩ := e
      have hname : IsName name := isName _ he
      have hslashes : ∀ n ∈ d.fromStart ++ [name], '/' ∉ n.toList :=
        List.forall_mem_append.mpr
          ⟨fun n hn => (hcalm.names n hn).2.2.2, List.forall_mem_singleton.mpr hname.2.2.2⟩
      have hskips (isDirectory : Bool) :
          (ofSettings files settings).skips d name isDirectory = passesOver settings d.fromStart name :=
        skips_eq hexcluded hcalm.silent hslashes isDirectory
      have hchild : files.get? (d.route ++ [name]) = some child := by
        rw [get?_append, hget]
        exact (get?_directory_cons distinct).mpr ⟨child, he, rfl⟩
      cases plain _ he with
      | file content =>
        simp only [hskips]
        exact (taken_file (ofSettings files settings) d name content).symm
      | directory =>
        have hless := Nat.lt_of_lt_of_le (size_lt_of_mem he) (Nat.le_of_lt_succ hfuel)
        have hbelow := ih (hcalm.enter (ofSettings files settings) hplain hname) hchild hless
        simp only [hskips, isLink, Bool.false_and, Bool.false_or, hbelow]
        exact (taken_map_cons (ofSettings files settings) d name _).symm

/-- A route from a directory to a file goes through names, and through at least one. -/
theorem of_get?_append {t : FileTree} (h : t.Plain) {start route : Route}
    {entries : List (String × FileTree)} {content : ByteArray}
    (hstart : t.get? start = some (.directory entries))
    (hget : t.get? (start ++ route) = some (.file content)) :
    (∀ name ∈ route, IsName name) ∧ route ≠ [] := by
  refine ⟨fun name hname => (h.of_get? hget).2 name (List.mem_append_right start hname), ?_⟩
  rintro rfl
  rw [List.append_nil, hstart] at hget
  exact absurd (Option.some.inj hget) nofun

section

variable {start : Route} {entries : List (String × FileTree)} (hplain : files.Plain)
  (hstart : files.get? start = some (.directory entries))
  (hquiet : ∀ route, route <+: start ∨ start <+: route → files.IsQuiet route)
  (hexcluded : ∀ n ∈ settings.excludedDirectories, IsExcludable n)

include hplain hstart hquiet hexcluded

/-- What a search finds from a directory on, as the files stand in the tree. -/
theorem found_eq (shown : String) :
    (ofSettings files settings).found shown start =
      ((directory entries).files.filter fun f => admits settings [] f.1 &&
        (ofSettings files settings).wants (f.1.foldl join shown) f.2.size).map
          fun f => ⟨f.1.foldl join shown, start ++ f.1⟩ := by
  have hfuel : (directory entries).size < (files.size + 1) * (files.size + 1) := by
    have hsize := hplain.size_le hstart
    have hsquare := Nat.le_mul_self (files.size + 1)
    omega
  rw [found, show (ofSettings files settings).files = files from rfl, hstart]
  refine sourcesIn_eq hplain hexcluded ⟨nofun, ?_, ?_⟩ hstart hfuel
  · refine List.forall_mem_cons.mpr ⟨Surroundings.isSilent_ofDirectory hplain ?_ [], ?_⟩
    · exact hquiet start (.inl (List.prefix_refl _))
    · refine List.forall_mem_map.mpr fun n _ => Surroundings.isSilent_ofDirectory hplain ?_ _
      exact hquiet _ (.inl (List.take_prefix n start))
  · exact fun route => hquiet _ (.inr (List.prefix_append start route))

theorem nodup_paths (shown : String) :
    (((ofSettings files settings).found shown start).map FoundSource.path).Nodup := by
  have hdirectory := (hplain.of_get? hstart).1
  have hroute {f : Route × ByteArray} (hf : f ∈ (directory entries).files) :
      (∀ name ∈ f.1, IsName name) ∧ f.1 ≠ [] :=
    of_get?_append hdirectory (show (directory entries).get? [] = _ from rfl)
      (hdirectory.mem_files_iff.mp hf)
  rw [found_eq hplain hstart hquiet hexcluded, List.map_map]
  refine List.Nodup.map_on ?_ (hdirectory.nodup_routes.of_map.filter _)
  intro f hf f' hf' heq
  have hmem := (List.mem_filter.mp hf).1
  have hmem' := (List.mem_filter.mp hf').1
  obtain ⟨hnames, hne⟩ := hroute hmem
  obtain ⟨hnames', hne'⟩ := hroute hmem'
  have hsame := foldl_join_inj hnames hnames' hne hne' heq
  exact List.inj_on_of_nodup_map hdirectory.nodup_routes hmem hmem' hsame

theorem mem_paths_iff {shown path : String} :
    path ∈ ((ofSettings files settings).found shown start).map FoundSource.path ↔
      ∃ route content, files.get? (start ++ route) = some (.file content) ∧
        path = route.foldl join shown ∧ (ofSettings files settings).wants path content.size ∧
        admits settings [] route := by
  have hmem {route : Route} {content : ByteArray} : (route, content) ∈ (directory entries).files ↔
      files.get? (start ++ route) = some (.file content) := by
    rw [(hplain.of_get? hstart).1.mem_files_iff, get?_append, hstart, Option.bind_some]
  rw [found_eq hplain hstart hquiet hexcluded, List.map_map, List.mem_map]
  constructor
  · rintro ⟨f, hf, rfl⟩
    obtain ⟨hfile, htaken⟩ := List.mem_filter.mp hf
    obtain ⟨hadmits, hwants⟩ := Bool.and_eq_true_iff.mp htaken
    exact ⟨f.1, f.2, hmem.mp hfile, rfl, hwants, hadmits⟩
  · rintro ⟨route, content, hget, rfl, hwants, hadmits⟩
    have htaken := Bool.and_eq_true_iff.mpr ⟨hadmits, hwants⟩
    exact ⟨(route, content), List.mem_filter.mpr ⟨hmem.mpr hget, htaken⟩, rfl⟩

end

/-! ### Which files are wanted -/

theorem wants_of_noLimit (hlimit : settings.maxFileSizeMb.getD 0 = 0) (path : String) (size : Nat) :
    (ofSettings files settings).wants path size = (SourceExtension.ofPath? path).isSome := by
  simp [wants, ofSettings, hlimit]

/-- The extension of a joined path is that of the last name. -/
theorem isSome_ofPath?_iff {shown : String} {route : Route} (hroute : ∀ name ∈ route, IsName name)
    (hne : route ≠ []) :
    (SourceExtension.ofPath? (route.foldl join shown)).isSome ↔
      ∃ name ∈ route.getLast?, ((extension? name).bind SourceExtension.ofText?).isSome := by
  have hlast := List.getLast?_eq_some_getLast hne
  rw [SourceExtension.ofPath?, lastName?_foldl_join shown hroute hlast, hlast, Option.bind_some]
  simp

theorem admits_nil_iff {route : Route} :
    admits settings [] route ↔ (settings.scanHiddenFiles ∨ ∀ name ∈ route, ¬ name.startsWith ".") ∧
      ∀ name ∈ route.dropLast, name ∉ settings.excludedDirectories := by
  simp [admits, and_comm]

end SourceSearch

/-! ### Batches -/

namespace Batcher

variable {α : Type}

/-- All items that came in. -/
def contents (b : Batcher α) : List α := b.sent.flatten ++ b.batch

theorem contents_flush (b : Batcher α) : b.flush.contents = b.contents := by
  rw [flush]
  split
  · rfl
  · simp [contents]

theorem contents_push (b : Batcher α) (item : α) : (b.push item).contents = b.contents ++ [item] := by
  rw [push]
  split
  · rw [contents_flush]
    simp [contents]
  · simp [contents]

theorem contents_foldl_push (items : List α) (b : Batcher α) :
    (items.foldl push b).contents = b.contents ++ items := by
  induction items generalizing b with
  | nil => simp
  | cons item items ih => rw [List.foldl_cons, ih, contents_push, List.append_assoc, List.singleton_append]

theorem batch_flush (b : Batcher α) : b.flush.batch = [] := by
  rw [flush]
  split
  · next hempty => exact List.isEmpty_iff.mp hempty
  · rfl

theorem flatten_batches (items : List α) : (batches items).flatten = items := by
  have hcontents := contents_flush (items.foldl push ⟨[], []⟩)
  rw [contents_foldl_push, contents, batch_flush, List.append_nil] at hcontents
  exact hcontents

end Batcher

/-- What was found is shared out among workers. Each hands on its share in batches, and the batches arrive in
any order. -/
def IsDelivery {α : Type} (found : List α) (received : List (List α)) : Prop :=
  ∃ shares : List (List α), shares.flatten.Perm found ∧ received.Perm (shares.flatMap Batcher.batches)

theorem IsDelivery.flatten_perm {α : Type} {found : List α} {received : List (List α)}
    (h : IsDelivery found received) : received.flatten.Perm found := by
  obtain ⟨shares, hfound, hreceived⟩ := h
  have hshare : List.flatten ∘ Batcher.batches = (id : List α → List α) := funext Batcher.flatten_batches
  have hflatten : (shares.flatMap Batcher.batches).flatten = shares.flatten := by
    rw [List.flatMap_def, List.flatten_flatten, List.map_map, hshare, List.map_id]
  exact (hflatten ▸ hreceived.flatten).trans hfound

namespace SourceSearch

variable {files : FileTree} {settings : ScannerSettings}

/-- However a search is shared out, every path arrives once. It is the path of a file below the start whose
last name has the extension of a source; unless hidden names are looked at, no name on the way is hidden, and
none of the directories on the way is excluded. Names above the start do not matter, and neither do lists
called `.gitignore` while nothing is called `.git`. -/
theorem received_paths_iff {start : Route} {entries : List (String × FileTree)} {shown : String}
    {received : List (List FoundSource)} (hplain : files.Plain)
    (hstart : files.get? start = some (.directory entries))
    (hquiet : ∀ route, route <+: start ∨ start <+: route → files.IsQuiet route)
    (hexcluded : ∀ name ∈ settings.excludedDirectories, IsExcludable name)
    (hlimit : settings.maxFileSizeMb.getD 0 = 0)
    (hreceived : IsDelivery ((ofSettings files settings).found shown start) received) :
    (received.flatten.map FoundSource.path).Nodup ∧
      ∀ path, path ∈ received.flatten.map FoundSource.path ↔
        ∃ route content, files.get? (start ++ route) = some (.file content) ∧
          path = route.foldl join shown ∧
          (∃ name ∈ route.getLast?, ((extension? name).bind SourceExtension.ofText?).isSome) ∧
          (settings.scanHiddenFiles ∨ ∀ name ∈ route, ¬ name.startsWith ".") ∧
          ∀ name ∈ route.dropLast, name ∉ settings.excludedDirectories := by
  have hpaths := hreceived.flatten_perm.map FoundSource.path
  refine ⟨hpaths.nodup_iff.mpr (nodup_paths hplain hstart hquiet hexcluded shown), fun path => ?_⟩
  rw [hpaths.mem_iff, mem_paths_iff hplain hstart hquiet hexcluded]
  refine exists_congr fun route => exists_congr fun content => ?_
  refine and_congr_right fun hget => and_congr_right fun hpath => ?_
  obtain ⟨hnames, hne⟩ := of_get?_append hplain hstart hget
  rw [wants_of_noLimit hlimit, hpath, isSome_ofPath?_iff hnames hne, admits_nil_iff]

/-- A directory is searched that has an excluded name itself. Further down there is a directory with that
name, one whose name begins with it, and a file that is called like an excluded directory. -/
def nestedTree : FileTree :=
  .directory [("lib", .directory
    [(".gitignore", .file "*".toUTF8), ("lib", .directory [("c.py", .file ⟨#[]⟩)]),
      ("libs", .directory [("b.py", .file ⟨#[]⟩)])])]

theorem plain_nestedTree : nestedTree.Plain := by
  have hone (name : String) (hname : IsName name) : (FileTree.directory [(name, .file ⟨#[]⟩)]).Plain :=
    .directory (List.nodup_singleton _) (List.forall_mem_singleton.mpr hname)
      (List.forall_mem_singleton.mpr (.file _))
  refine .directory (by decide) (by decide) (List.forall_mem_singleton.mpr ?_)
  refine .directory (by decide) (by decide) ?_
  simp only [List.forall_mem_cons]
  exact ⟨.file _, hone _ (by decide), hone _ (by decide), List.forall_mem_nil _⟩

theorem received_paths_iff_nested :
    let settings : ScannerSettings := { excludedDirectories := ["lib", "b.py"] }
    let received := Batcher.batches ((ofSettings nestedTree settings).found "lib" ["lib"])
    nestedTree.Plain ∧ (∀ route, nestedTree.IsQuiet route) ∧
      "lib/libs/b.py" ∈ received.flatten.map FoundSource.path ∧
      "lib/lib/c.py" ∉ received.flatten.map FoundSource.path := by
  intro settings received
  have hquiet := plain_nestedTree.isQuiet (by decide) (by decide)
  have hreceived : IsDelivery ((ofSettings nestedTree settings).found "lib" ["lib"]) received :=
    ⟨[(ofSettings nestedTree settings).found "lib" ["lib"]], by simp, by simp [received]⟩
  obtain ⟨-, hpaths⟩ :=
    received_paths_iff plain_nestedTree rfl (fun route _ => hquiet route) (by decide) rfl hreceived
  have hjoin (directory name : String) (hlast : ("lib/" ++ directory).toList.getLast? ≠ some '/') :
      [directory, name].foldl join "lib" = "lib/" ++ directory ++ "/" ++ name := by
    rw [List.foldl_cons, join_eq_append (by decide)]
    exact join_eq_append hlast name
  refine ⟨plain_nestedTree, hquiet, (hpaths _).mpr ?_, fun h => ?_⟩
  · refine ⟨["libs", "b.py"], ⟨#[]⟩, rfl, ?_, ⟨"b.py", rfl, by decide⟩, .inr ?_, by decide⟩
    · rw [hjoin "libs" "b.py" (by decide)]
      rfl
    · simp [String.startsWith_string_iff]
  · obtain ⟨route, content, hget, hpath, -, -, hexcluded⟩ := (hpaths _).mp h
    obtain ⟨hnames, hne⟩ := of_get?_append plain_nestedTree rfl hget
    obtain rfl : ["lib", "c.py"] = route := by
      refine foldl_join_inj (by decide) hnames (by decide) hne (Eq.trans ?_ hpath)
      rw [hjoin "lib" "c.py" (by decide)]
      rfl
    exact hexcluded "lib" (by decide) (by decide)

/-! ### A file called `.git` -/

/-- A source in a directory that has a file called `.git` and a list for everything. -/
def worktree : FileTree :=
  .directory [(".git", .file ⟨#[]⟩), (".gitignore", .file "*".toUTF8), ("a.py", .file ⟨#[]⟩)]

theorem plain_worktree : worktree.Plain := by
  refine .directory (by decide) (by decide) ?_
  simp only [List.forall_mem_cons]
  exact ⟨.file _, .file _, .file _, List.forall_mem_nil _⟩

theorem get?_worktree {route : Route} {child : FileTree} (hne : route ≠ [])
    (hget : worktree.get? route = some child) : ∃ content, child = .file content := by
  obtain ⟨name, route, rfl⟩ := List.exists_cons_of_ne_nil hne
  obtain ⟨next, hmem, hget⟩ := (get?_directory_cons (by decide)).mp hget
  obtain ⟨content, rfl⟩ : ∃ content, next = .file content := by
    simp only [List.mem_cons, Prod.mk.injEq, List.not_mem_nil, or_false] at hmem
    rcases hmem with ⟨-, rfl⟩ | ⟨-, rfl⟩ | ⟨-, rfl⟩ <;> exact ⟨_, rfl⟩
  cases route with
  | nil => exact ⟨content, (Option.some.inj hget).symm⟩
  | cons => exact absurd hget.symm (Option.some_ne_none child)

/-- The line `*` is about every name. -/
def everything : IgnoreRule := ⟨.ofTokens [.leading, .someBytes], false, false⟩

theorem covers_everything {name : String} (hname : '/' ∉ name.toList) : everything.glob.covers name := by
  have hfree : (Glob.regexOfAll [.leading, .someBytes]).LookFree :=
    ⟨⟨trivial, trivial, trivial⟩, trivial, trivial⟩
  have hnone : ∀ c ∈ ([] : List Char), Glob.anyByte.contains c := by simp
  rw [everything, Glob.covers_ofTokens_iff hfree]
  exact ⟨[], _, rfl, (Glob.accepts_leading_iff hnone).mpr (.inl rfl),
    Glob.accepts_someBytes Glob.contains_anyByte (Glob.slash_notMem_bytesOf hname)⟩

theorem ofDirectory_worktree : Surroundings.ofDirectory worktree [] [] = ⟨[], [everything], true, []⟩ := by
  have hrules : ignoreRules "*".toUTF8 = [everything] := by
    rw [ignoreRules, readableLines, Utf8.decode_toUTF8]
    rfl
  have hresolve {name : String} (hname : IsName name) :
      worktree.resolve? [] name = (worktree.get? [name]).map fun _ => [name] :=
    plain_worktree.resolve?_eq [] hname
  have hlist : worktree.resolve? [] ".ignore" = none := hresolve (by decide)
  have hgitlist : worktree.resolve? [] ".gitignore" = some [".gitignore"] := hresolve (by decide)
  have hgit : worktree.resolve? [] ".git" = some [".git"] := hresolve (by decide)
  have hcontent : worktree.contentAt? [".gitignore"] = some "*".toUTF8 := rfl
  simp only [Surroundings.ofDirectory, hlist, hgitlist, hgit, Option.bind_some, Option.bind_none, hcontent,
    hrules, Option.isSome_some]

theorem skips_worktree {d : SearchedDirectory} (hlevels : d.levels = [.ofDirectory worktree [] []]) :
    (ofSettings worktree {}).skips d "a.py" false := by
  have hfits : everything.fits "a.py" false := by
    rw [IgnoreRule.fits, covers_everything (by decide)]
    rfl
  have hkeep : everything.keep = false := rfl
  have hverdict : listedVerdict? [.ofDirectory worktree [] []] "a.py" false = some .ignore := by
    rw [ofDirectory_worktree]
    simp [listedVerdict?, repositoryLevels, List.span, List.span.loop, verdict?, Surroundings.pathTo, hfits,
      hkeep]
  rw [skips, hlevels, hverdict]
  exact ite_self _

theorem found_worktree : (ofSettings worktree {}).found "." [] = [] := by
  have hwants {name : String} (hname : IsName name)
      (hextension : (extension? name).bind SourceExtension.ofText? = none) (size : Nat) :
      (ofSettings worktree {}).wants (join "." name) size = false := by
    have hlast : lastName? ([name].foldl join ".") = some name :=
      lastName?_foldl_join "." (List.forall_mem_singleton.mpr hname) List.getLast?_singleton
    rw [List.foldl_cons, List.foldl_nil] at hlast
    rw [wants_of_noLimit rfl, SourceExtension.ofPath?, hlast, Option.bind_some, hextension,
      Option.isSome_none]
  have hentries : ((worktree.get? []).map FileTree.entries).getD [] =
      [(".git", .file ⟨#[]⟩), (".gitignore", .file "*".toUTF8), ("a.py", .file ⟨#[]⟩)] := rfl
  change (ofSettings worktree {}).sourcesIn 16 ⟨".", [], [], [.ofDirectory worktree [] []], [[]]⟩ = []
  rw [sourcesIn, show (ofSettings worktree {}).files = worktree from rfl, hentries]
  simp only [List.flatMap_cons, List.flatMap_nil, skips_worktree,
    hwants (show IsName ".git" by decide) (by decide),
    hwants (show IsName ".gitignore" by decide) (by decide), Bool.and_false, Bool.not_true, Bool.false_and,
    Bool.false_eq_true, if_false, List.append_nil]

/-- A file called `.git` makes a repository as much as a directory does: lists called `.gitignore` count. A
source is not found although no list is called `.ignore` and no directory is called `.git`. -/
theorem git_file_hides_source :
    worktree.Plain ∧ (∀ route content, worktree.get? (route ++ [".ignore"]) ≠ some (.file content)) ∧
      (∀ route entries, worktree.get? (route ++ [".git"]) ≠ some (.directory entries)) ∧
      (∀ name ∈ ({} : ScannerSettings).excludedDirectories, IsExcludable name) ∧
      ({} : ScannerSettings).maxFileSizeMb = none ∧
      worktree.get? ["a.py"] = some (.file ⟨#[]⟩) ∧
      ((extension? "a.py").bind SourceExtension.ofText?).isSome ∧ ¬ "a.py".startsWith "." ∧
      ∀ received, IsDelivery ((ofSettings worktree {}).found "." []) received → received.flatten = [] := by
  refine ⟨plain_worktree, ?_, ?_, by decide, rfl, rfl, by decide, ?_, ?_⟩
  · intro route content hget
    exact absurd (plain_worktree.mem_allNames hget ".ignore" (by simp)) (by decide)
  · intro route entries hget
    obtain ⟨content, hfile⟩ := get?_worktree (by simp) hget
    exact absurd hfile nofun
  · simp [String.startsWith_string_iff]
  · intro received hreceived
    rw [found_worktree] at hreceived
    exact List.perm_nil.mp hreceived.flatten_perm

end SourceSearch

end CodeAudit
