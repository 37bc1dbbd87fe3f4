import CodeAudit.Files.Batches
import CodeAudit.Files.Extension
import CodeAudit.Files.Ignore
import CodeAudit.Settings.Basic

/-!
# Finding sources

From a start, all directories are searched for sources. Names that begin with a dot are passed over,
and so is what a list named `.ignore` says, in the same directory or further up. Inside a repository
lists named `.gitignore` count as well. What lies in an excluded directory is never found; exclusions
are patterns that begin at the start of the search.
-/

namespace CodeAudit

/-- A directory above what is looked at. -/
structure Surroundings where
  rules : List IgnoreRule
  repositoryRules : List IgnoreRule
  isRepository : Bool
  /-- The names that lead from this directory to the one that is searched. -/
  below : Route

namespace Surroundings

/-- What a directory says about the names below it. -/
def ofDirectory (t : FileTree) (route below : Route) : Surroundings :=
  let listAt (name : String) : List IgnoreRule :=
    match (t.resolve? route name).bind t.contentAt? with
    | some content => ignoreRules content
    | none => []
  { rules := listAt ".ignore"
    repositoryRules := listAt ".gitignore"
    isRepository := (t.resolve? route ".git").isSome
    below }

/-- The same directory, seen from one level further down. -/
def descend (s : Surroundings) (name : String) : Surroundings :=
  { s with below := s.below ++ [name] }

/-- The path of a name from this directory. -/
def pathTo (s : Surroundings) (name : String) : String :=
  "/".intercalate (s.below ++ [name])

end Surroundings

/-- The directories up to the innermost repository, if there is one. -/
def repositoryLevels (levels : List Surroundings) : List Surroundings :=
  if levels.any (·.isRepository) then
    let (inner, outer) := levels.span fun l => !l.isRepository
    inner ++ outer.take 1
  else []

/-- What all lists together say about a name, the innermost one first. -/
def listedVerdict? (levels : List Surroundings) (name : String) (isDirectory : Bool) :
    Option Verdict :=
  (levels.findSome? fun l => verdict? l.rules (l.pathTo name) isDirectory).or
    ((repositoryLevels levels).findSome? fun l =>
      verdict? l.repositoryRules (l.pathTo name) isDirectory)

/-- A source that was found. -/
structure FoundSource where
  /-- The path as it is shown. -/
  path : String
  /-- The route without links. -/
  route : Route

/-- A search: what is searched and what counts. -/
structure SourceSearch where
  files : FileTree
  settings : ScannerSettings
  /-- Patterns for what is never found. -/
  excluded : List Glob

/-- A directory that is searched. -/
structure SearchedDirectory where
  /-- The path as it is shown. -/
  path : String
  /-- The route without links. -/
  route : Route
  /-- The names that lead here from the start. -/
  fromStart : Route
  /-- The directories above, this one first. -/
  levels : List Surroundings
  /-- The routes of the searched directories above, this one first. -/
  above : List Route

namespace SourceSearch

/-- The search that settings ask for. An exclusion that is no pattern does not count. -/
def ofSettings (files : FileTree) (settings : ScannerSettings) : SourceSearch where
  files := files
  settings := settings
  excluded := settings.excludedDirectories.filterMap fun name =>
    (IgnoreRule.ofLine? ("!**/" ++ name ++ "/**")).map IgnoreRule.glob

/-- Whether a name in a directory is passed over. -/
def skips (s : SourceSearch) (d : SearchedDirectory) (name : String) (isDirectory : Bool) : Bool :=
  let path := "/".intercalate (d.fromStart ++ [name])
  if s.excluded.any fun g => g.covers path then true
  else
    match listedVerdict? d.levels name isDirectory with
    | some .ignore => true
    | some .keep => false
    | none => !s.settings.scanHiddenFiles && name.startsWith "."

/-- A path with a name behind it. -/
def join (path name : String) : String :=
  if path.endsWith "/" then path ++ name else path ++ "/" ++ name

/-- Whether a file is of a size and a kind to be looked at. The limit counts mebibytes, and zero is
no limit. -/
def wants (s : SourceSearch) (path : String) (size : Nat) : Bool :=
  let limit := s.settings.maxFileSizeMb.getD 0 * 1048576
  (SourceExtension.ofPath? path).isSome && (limit == 0 || size ≤ limit.toNat)

/-- A directory below one that is searched. -/
def enter (s : SourceSearch) (d : SearchedDirectory) (name : String) (route : Route) : SearchedDirectory :=
  { path := join d.path name
    route
    fromStart := d.fromStart ++ [name]
    levels := .ofDirectory s.files route [] :: d.levels.map (·.descend name)
    above := route :: d.above }

/-- The sources in a directory and below. A link to a directory above is not entered. -/
def sourcesIn (s : SourceSearch) : Nat → SearchedDirectory → List FoundSource
  | 0, _ => []
  | fuel + 1, d =>
    (((s.files.get? d.route).map FileTree.entries).getD []).flatMap fun (name, entry) =>
      let followed : Option (Route × FileTree) :=
        match entry with
        | .link _ =>
          if s.settings.followSymlinks then
            (s.files.resolve? d.route name).bind fun route =>
              (s.files.get? route).map (route, ·)
          else none
        | _ => some (d.route ++ [name], entry)
      match followed with
      | some (route, .file content) =>
        let path := join d.path name
        if !s.skips d name false && s.wants path content.size then [⟨path, route⟩] else []
      | some (route, .directory _) =>
        if (entry.isLink && d.above.contains route) || s.skips d name true then []
        else s.sourcesIn fuel (s.enter d name route)
      | _ => []

/-- The directories from the top of the tree to the one around a route, the innermost first. -/
def levelsAround (t : FileTree) (route : Route) : List Surroundings :=
  (List.range route.length).reverse.map fun n =>
    .ofDirectory t (route.take n) (route.drop n)

/-- The sources from a start on, as the search comes to them. A start that is a file is looked at in
any case. -/
def found (s : SourceSearch) (shown : String) (start : Route) : List FoundSource :=
  match s.files.get? start with
  | some (.file content) => if s.wants shown content.size then [⟨shown, start⟩] else []
  | some (.directory _) =>
    let d : SearchedDirectory :=
      { path := shown
        route := start
        fromStart := []
        levels := .ofDirectory s.files start [] :: levelsAround s.files start
        above := [start] }
    s.sourcesIn ((s.files.size + 1) * (s.files.size + 1)) d
  | _ => []

/-- The sources from a start on, which come in batches, in the order of their paths. -/
def sources (s : SourceSearch) (shown : String) (start : Route) : List FoundSource :=
  (Batcher.batches (s.found shown start)).flatten.mergeSort fun a b => a.path ≤ b.path

end SourceSearch

end CodeAudit
