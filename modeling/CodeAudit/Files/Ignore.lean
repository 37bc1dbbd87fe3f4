import CodeAudit.Files.Glob
import CodeAudit.Text.Blank
import CodeAudit.Text.Search
import CodeAudit.Text.Utf8

/-!
# Lists of what to pass over

A line of such a list is a pattern. With an exclamation mark in front it says what to keep after all.
A slash at the end restricts it to directories; a slash elsewhere ties it to the directory of the
list, and without one it is about names at any depth. Of several lines the last one that fits counts.
-/

namespace CodeAudit

/-- A line of a list. -/
structure IgnoreRule where
  glob : Glob
  /-- Whether what fits is kept and not passed over. -/
  keep : Bool
  directoriesOnly : Bool

namespace IgnoreRule

/-- Whether one text ends with another. -/
def endsWith (piece text : List Char) : Bool := Search.beginsWith piece.reverse text.reverse

/-- The written pattern without the slash at its end, if there is one. -/
def splitDirectory (pattern : List Char) : Bool × List Char :=
  match pattern.reverse with
  | '/' :: '\\' :: rest => (true, rest.reverse)
  | '/' :: rest => (true, rest.reverse)
  | _ => (false, pattern)

/-- The pattern that is meant by a written one. -/
def meant (anchored : Bool) (pattern : List Char) : List Char :=
  let pattern :=
    if anchored || pattern.contains '/' || pattern == ['*', '*'] then pattern
    else '*' :: '*' :: '/' :: pattern
  if endsWith ['/', '*', '*'] pattern then pattern ++ ['/', '*'] else pattern

/-- The rule of a line. Comments, empty lines and lines that are no patterns have none. -/
def ofLine? (line : String) : Option IgnoreRule :=
  let cs := line.toList
  let cs := if endsWith ['\\', ' '] cs then cs else Blank.trimEnd cs
  if cs.isEmpty || cs.head? == some '#' then none
  else
    let (keep, anchored, pattern) := match cs with
      | '\\' :: '!' :: rest => (false, false, '!' :: rest)
      | '\\' :: '#' :: rest => (false, false, '#' :: rest)
      | '!' :: '/' :: rest => (true, true, rest)
      | '!' :: rest => (true, false, rest)
      | '/' :: rest => (false, true, rest)
      | rest => (false, false, rest)
    let (directoriesOnly, pattern) := splitDirectory pattern
    (Glob.ofPattern? (String.ofList (meant anchored pattern))).map fun glob =>
      { glob, keep, directoriesOnly }

/-- Whether a rule is about a path. -/
def fits (r : IgnoreRule) (path : String) (isDirectory : Bool) : Bool :=
  (isDirectory || !r.directoriesOnly) && r.glob.covers path

end IgnoreRule

/-- What is to be done with a path. -/
inductive Verdict where
  | ignore
  | keep
deriving DecidableEq

/-- What some rules say about a path. -/
def verdict? (rules : List IgnoreRule) (path : String) (isDirectory : Bool) : Option Verdict :=
  (rules.reverse.find? fun r => r.fits path isDirectory).map fun r =>
    if r.keep then .keep else .ignore

/-- A line without the sign for a return at its end. -/
def withoutReturn (line : List Char) : List Char :=
  if line.getLast? == some '\r' then line.dropLast else line

/-- The lines of a file. From a line on that is no text, nothing is read. A byte order mark at the
beginning does not count. -/
def readableLines (content : ByteArray) : List String :=
  let lines := match Utf8.decode content with
    | .ok text => Search.splitAt '\n' (text.toList.dropWhile (· == '\ufeff'))
    | .error fault =>
      match Utf8.decode (content.extract 0 fault.start) with
      | .ok text => (Search.splitAt '\n' (text.toList.dropWhile (· == '\ufeff'))).dropLast
      | .error _ => []
  lines.map fun line => String.ofList (withoutReturn line)

/-- The rules of a list. -/
def ignoreRules (content : ByteArray) : List IgnoreRule :=
  (readableLines content).filterMap IgnoreRule.ofLine?

end CodeAudit
