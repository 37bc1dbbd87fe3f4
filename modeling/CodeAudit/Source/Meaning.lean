import CodeAudit.Source.Parse
import CodeAudit.Source.Reading.Statements
import CodeAudit.Text.Utf8

/-!
# What a source means

`Tree.read` reads a concrete tree from its leaves to its root. `Node.ofSource` goes all the way from
the bytes of a source to the tree that rules look at.
-/

namespace CodeAudit

namespace Reading

/-- The reading of a tree whose parts are read. -/
def ofParts (t : Tree) (cs : List Reading) : Reading :=
  let expr := expression t cs
  let stmt := match t.label with
    | .phrase p => statement t p cs
    | .token _ => expr
  let nodes := match t.label with
    | .token .comment => []
    | .token _ => [expr]
    | .phrase p =>
      if p = .block || p = .module then contents cs
      else if p.isStatement then [stmt]
      else [expr]
  { tree := t, expr, stmt, nodes, children := cs }

end Reading

namespace Tree

mutual

/-- Reads a tree. -/
def read : Tree → Reading
  | leaf label role lexeme => .ofParts (leaf label role lexeme) []
  | node label role children => .ofParts (node label role children) (readAll children)

/-- Reads some trees. -/
def readAll : List Tree → List Reading
  | [] => []
  | t :: ts => read t :: readAll ts

end

end Tree

/-- Why a source cannot be read. -/
inductive SourceError where
  | notUtf8 (fault : Utf8.Fault)
  | unparsable

namespace Node

/-- The module that a concrete tree stands for. -/
def ofTree (t : Tree) : Node := ⟨t.loc, .module (Reading.contents t.read.children)⟩

/-- The module that a source stands for. -/
def ofSource (bytes : ByteArray) : Except SourceError Node :=
  match Utf8.decode bytes with
  | .error fault => .error (.notUtf8 fault)
  | .ok chars =>
    match Tree.ofSource? (.ofChars chars) with
    | some tree => .ok (ofTree tree)
    | none => .error .unparsable

end Node

end CodeAudit
