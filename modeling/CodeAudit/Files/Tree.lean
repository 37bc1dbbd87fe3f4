import CodeAudit.Text.Search

/-!
# Trees of files

A `FileTree` is a directory with everything in it, as a value. A route is a list of names that leads
down from the top. Links are not followed by `get?`; `resolve?` follows them, and gives the route
without links to what a path means.
-/

namespace CodeAudit

/-- What a name in a directory stands for. -/
inductive FileTree where
  | file (content : ByteArray)
  /-- A symbolic link; its target is a path from the directory of the link. -/
  | link (target : String)
  | directory (entries : List (String × FileTree))

/-- Names that lead down from the top of a tree. -/
abbrev Route := List String

namespace FileTree

/-- The names in a path. -/
def names (path : String) : List String := (Search.splitAt '/' path.toList).map String.ofList

/-- What is in a directory; nothing is in anything else. -/
def entries : FileTree → List (String × FileTree)
  | directory entries => entries
  | _ => []

/-- Whether an entry leads elsewhere. -/
def isLink : FileTree → Bool
  | link _ => true
  | _ => false

/-- What is at the end of a route. -/
def get? (t : FileTree) : Route → Option FileTree
  | [] => some t
  | name :: route => (t.entries.lookup name).bind fun child => get? child route

/-- Gives a name an entry. -/
def setEntry (name : String) (child : FileTree) : List (String × FileTree) → List (String × FileTree)
  | [] => [(name, child)]
  | e :: rest => if e.1 == name then (name, child) :: rest else e :: setEntry name child rest

/-- Puts something at the end of a route, and makes directories on the way. -/
def put (t : FileTree) (new : FileTree) : Route → FileTree
  | [] => new
  | name :: route =>
    let child := (t.entries.lookup name).getD (directory [])
    directory (setEntry name (put child new route) t.entries)

/-- The number of links that a path may go through. -/
def linkLimit : Nat := 40

/-- Follows a path from a directory. Every name but the last one has to lead to a directory, and an
empty name or a dot stays in one. -/
def follow? (t : FileTree) (links : Nat) (here : Route) (path : List String) : Option Route :=
  match path with
  | [] => some here
  | name :: rest =>
    match t.get? here with
    | some (directory entries) =>
      if name == "" || name == "." then follow? t links here rest
      else if name == ".." then follow? t links here.dropLast rest
      else
        match entries.lookup name with
        | none => none
        | some (link target) =>
          match links with
          | 0 => none
          | links + 1 =>
            if target.startsWith "/" then none else follow? t links here (names target ++ rest)
        | some _ => follow? t links (here ++ [name]) rest
    | _ => none
termination_by (links, path.length)

/-- The route without links to what a path from a directory means. -/
def resolve? (t : FileTree) (here : Route) (path : String) : Option Route :=
  t.follow? linkLimit here (names path)

/-- The content of the file at the end of a route. -/
def contentAt? (t : FileTree) (route : Route) : Option ByteArray :=
  match t.get? route with
  | some (file content) => some content
  | _ => none

/-- The content of the file that a path from the top means. -/
def read? (t : FileTree) (path : String) : Option ByteArray :=
  (t.resolve? [] path).bind t.contentAt?

/-- The number of names in a tree. -/
def size : FileTree → Nat
  | directory entries => go entries
  | _ => 0
where
  go : List (String × FileTree) → Nat
    | [] => 0
    | (_, child) :: rest => 1 + size child + go rest

end FileTree

end CodeAudit
