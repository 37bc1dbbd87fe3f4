import CodeAudit.Catalog.Basic

/-!
# Secrets in the source

The statements of a function are searched for credentials: an assignment of a literal to a telling
name, a byte string under a `bytes` type, or a bare string that matches a pattern.
-/

namespace CodeAudit.Secrets

/-- The parameters of this rule. -/
structure Settings where
  /-- Names that must not be bound to a literal. -/
  names : List String := ["username", "password", "secret_key", "api_key"]
  /-- Looked for in bare strings and in byte strings. -/
  pattern : String := "password|secret_key|api_key"

def hardcodedSecret : RuleInfo where
  id := "hardcoded_secret"
  description := "Credential literal in a function body"
  message := "has a hardcoded {what}"
  severity := .high

/-- The rules of this family. -/
def infos : List RuleInfo := [hardcodedSecret]

/-- The first target of an assignment that is one of the telling names. -/
def secretTarget? (names : List String) (targets : List Node) : Option String :=
  (targets.filterMap Node.asName?).find? names.contains

/-- How a value is put together from literal text, in the words of the message; `none` if it is
not. -/
def literalSource? (value : Node) : Option String :=
  match value.shape with
  | .str _ _ => some ""
  | .binOp left .add right =>
    if left.asStr?.isSome && right.asStr?.isSome then some " (using string concatenation)" else none
  | .other "interpolated_string" (text :: _) =>
    if text.asStr?.any fun t => !t.isEmpty then some " (using an f-string)" else none
  | _ => none

/-- What a statement gives away. The docstring of a function is not looked at. -/
def leak? (names : List String) (pattern : Regex) (stmt : Node) (docstring : Bool) :
    Option String :=
  match stmt.shape with
  | .assign targets value => do
    let target ← secretTarget? names targets
    let source ← literalSource? value
    some (target ++ source)
  | .annAssign _ type (some value) =>
    match value.shape with
    | .str text true =>
      if type.asName? = some "bytes" && pattern.isMatch text then
        some "secret (using bytes annotation)"
      else none
    | _ => none
  | .expr value =>
    if !docstring && value.asStr?.any pattern.isMatch then some "password or API key" else none
  | _ => none

def hardcodedSecretRule (info : RuleInfo) (names : List String) (pattern : Regex) : Rule where
  info := info
  kinds := .single .functionDef
  check n _ :=
    match n.shape with
    | .functionDef _ _ _ body docstring =>
      (body.mapIdx fun i stmt =>
        match leak? names pattern stmt (i == 0 && docstring.isSome) with
        | some what => Catalog.report info stmt [("what", what)]
        | none => []).flatten
    | _ => []

/-- The rule with its parameters; `adjust` sets the severity. -/
def rules (s : Settings) (adjust : RuleInfo → RuleInfo) : Except RuleSetError (List Rule) := do
  let pattern ← Catalog.compile "secrets.pattern" s.pattern
  return [hardcodedSecretRule (adjust hardcodedSecret) s.names pattern]

end CodeAudit.Secrets
