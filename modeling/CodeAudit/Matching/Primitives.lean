import CodeAudit.Matching.Calls
import CodeAudit.Table

/-!
# Cryptographic primitives

For each primitive a table may hold the smallest key size and the operations that a constructor call
has to name, either as a string argument or as the name of an argument.
-/

namespace CodeAudit

namespace Node

/-- The string arguments of a call and the names of its named ones, in increasing order. -/
def observedNames (call : Node) : List String :=
  sortedDistinct (call.positional.filterMap asStr? ++ call.keywords.filterMap Keyword.name)

/-- The value of a named argument that is an integer literal. -/
def keywordInt? (call : Node) (name : String) : Option Int64 := (call.keyword? name).bind asInt?

end Node

/-- The required names that are not observed, in increasing order. -/
def missingNames (required observed : List String) : List String :=
  (sortedDistinct required).filter fun name => !observed.contains name

/-- What is demanded of primitives, by their names. -/
structure PrimitiveTable where
  minBits : Table Int64
  requiredOps : Table (List String)

namespace PrimitiveTable

/-- Whether anything is demanded of a primitive. -/
def knows (t : PrimitiveTable) (primitive : String) : Bool :=
  t.minBits.contains primitive || t.requiredOps.contains primitive

/-- The key size of a call and the smallest one allowed, if the first is below the second. -/
def weakKey? (t : PrimitiveTable) (primitive : String) (call : Node) (bitsKeyword : String) :
    Option (Int64 × Int64) := do
  let least ← t.minBits.get? primitive
  let bits ← call.keywordInt? bitsKeyword
  if bits < least then some (bits, least) else none

/-- The operations that a call ought to name and does not. -/
def missingOps (t : PrimitiveTable) (primitive : String) (call : Node) : List String :=
  match t.requiredOps.get? primitive with
  | some required => missingNames required call.observedNames
  | none => []

end PrimitiveTable

end CodeAudit
