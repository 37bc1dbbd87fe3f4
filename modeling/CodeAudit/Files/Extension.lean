import CodeAudit.Files.Tree

/-!
# Which files are sources

A file is a source by the extension of its name. Only some spellings in upper case count.
-/

namespace CodeAudit

/-- The kinds of sources. -/
inductive SourceExtension where
  | py
  | pyw
  | pyi
deriving DecidableEq

namespace SourceExtension

/-- The usual spelling. -/
def label : SourceExtension → String
  | py => "py"
  | pyw => "pyw"
  | pyi => "pyi"

/-- The kind with a spelling. -/
def ofText? : String → Option SourceExtension
  | "py" | "PY" | "Py" => some py
  | "pyw" | "PYW" => some pyw
  | "pyi" | "PYI" => some pyi
  | _ => none

end SourceExtension

/-- The last name in a path that is no sign for a directory. -/
def lastName? (path : String) : Option String :=
  match ((FileTree.names path).filter fun n => n != "" && n != ".").getLast? with
  | some ".." | none => none
  | some name => some name

/-- What stands behind the last dot of a name, unless the name begins with that dot. -/
def extension? (name : String) : Option String :=
  let (back, front) := name.toList.reverse.span (· != '.')
  match front with
  | '.' :: _ :: _ => some (String.ofList back.reverse)
  | _ => none

/-- The kind of source that a path leads to. -/
def SourceExtension.ofPath? (path : String) : Option SourceExtension :=
  ((lastName? path).bind extension?).bind ofText?

end CodeAudit
