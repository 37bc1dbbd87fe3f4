import CodeAudit.Node.Basic
import CodeAudit.Regex.Search

/-!
# Who is called, and with what

The name of a call is the last part of the callee, `c` in `a.b.c()`. Its path is the whole chain of
names and attributes, where the callee is such a chain, and the name otherwise.
-/

namespace CodeAudit

namespace Node

/-- The name of a callee: a bare name, or the last attribute of anything. -/
def calleeName? (func : Node) : Option String :=
  match func.shape with
  | .name id => some id
  | .member _ attr => some attr
  | _ => none

/-- The name of a call. -/
def callName? (call : Node) : Option String :=
  match call.shape with
  | .call func _ _ => func.calleeName?
  | _ => none

/-- A chain of a name and attributes, written with dots. -/
def dottedName? : Node → Option String
  | ⟨_, .name id⟩ => some id
  | ⟨_, .member value attr⟩ => (dottedName? value).map fun base => base ++ "." ++ attr
  | _ => none

/-- The path of a call. -/
def callPath? (call : Node) : Option String :=
  match call.shape with
  | .call func _ _ => func.dottedName?.or func.calleeName?
  | _ => none

/-- The name on which a method is called: `logging` in `logging.warn()`. -/
def receiverName? (call : Node) : Option String :=
  match call.shape with
  | .call func _ _ =>
    match func.shape with
    | .member value _ => value.asName?
    | _ => none
  | _ => none

/-- The name of a callee that is a bare name. -/
def bareCallee? (call : Node) : Option String :=
  match call.shape with
  | .call func _ _ => func.asName?
  | _ => none

/-- The positional arguments of a call. -/
def positional (call : Node) : List Node :=
  match call.shape with
  | .call _ args _ => args
  | _ => []

/-- The arguments that are passed by name. -/
def keywords (call : Node) : List (Keyword Node) :=
  match call.shape with
  | .call _ _ keywords => keywords
  | _ => []

/-- The value of the first argument that is passed by a name. -/
def keyword? (call : Node) (name : String) : Option Node :=
  (call.keywords.find? fun k => k.name == some name).map Keyword.value

/-- The text of a positional argument that is a string literal. -/
def strArg? (call : Node) (i : Nat) : Option String := call.positional[i]?.bind asStr?

end Node

/-- Which calls are meant. -/
inductive CallMatcher where
  /-- Those with one of some names. -/
  | names (list : List String)
  /-- Those whose path has a match. -/
  | pattern (regex : Regex)

/-- The name or path of a call that is meant. -/
def CallMatcher.matches? (m : CallMatcher) (call : Node) : Option String :=
  match m with
  | .names list => call.callName?.filter list.contains
  | .pattern regex => call.callPath?.filter regex.isMatch

end CodeAudit
