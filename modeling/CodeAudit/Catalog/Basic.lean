import CodeAudit.Matching.Calls
import CodeAudit.Regex.Pattern.Sequence
import CodeAudit.Rule.Registry

/-!
# Building blocks of the catalog

Patterns of the settings are compiled when the rules are built, and a malformed one is an error that
names its field. Many rules ask for calls by name or by path; they are made by `callRule`.
-/

namespace CodeAudit

namespace Catalog

/-- The expression of a settings field. -/
def compile (field pattern : String) : Except RuleSetError Regex :=
  match Regex.ofPattern? pattern with
  | some regex => .ok regex
  | none => .error (.pattern field)

/-- One finding on a node, with the message of a rule. -/
def report (info : RuleInfo) (n : Node) (vars : List (String × String)) : List Finding :=
  [.on n (info.render vars)]

/-- A rule about the calls that a matcher means and that satisfy a further condition. -/
def callRule (info : RuleInfo) (matcher : CallMatcher) (guard : Node → Bool := fun _ => true) :
    Rule where
  info := info
  kinds := .single .call
  check n _ :=
    match matcher.matches? n with
    | some name => if guard n then report info n [("name", name)] else []
    | none => []

end Catalog

end CodeAudit
