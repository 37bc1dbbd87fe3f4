import CodeAudit.Diagnostic
import CodeAudit.Text.Search
import CodeAudit.Walker

/-!
# Rules

A `Rule` looks at nodes of some kinds, each with the path that leads to it, and reports findings.
What it says is a template: `RuleInfo.render` fills its holes one key after the other.
-/

namespace CodeAudit

/-- The description of a rule. -/
structure RuleInfo where
  /-- The name of the rule, which no other rule has. -/
  id : String
  /-- What the rule looks for. -/
  description : String
  /-- What a finding says, with holes such as `{name}`. -/
  message : String
  /-- How bad a finding is. -/
  severity : Severity
deriving DecidableEq

namespace RuleInfo

/-- The hole of a key: the key in braces. -/
def hole (key : String) : String := "\x7b" ++ key ++ "\x7d"

/-- The message with its holes filled, one key after the other. -/
def render (info : RuleInfo) (vars : List (String × String)) : String :=
  vars.foldl (fun text var => Search.replaceIn (hole var.1) var.2 text) info.message

end RuleInfo

/-- What a rule reports. The registry adds the rule and the function. -/
structure Finding where
  loc : Location
  message : String
deriving DecidableEq

/-- A finding at the place of a node. -/
def Finding.on (n : Node) (message : String) : Finding := ⟨n.loc, message⟩

/-- A rule: its description, the kinds of nodes it asks for, and its verdict on a node in its place.
An empty list of findings means that there is nothing to say. -/
structure Rule where
  info : RuleInfo
  kinds : KindSet
  check : Node → Path → List Finding

/-- The name of a rule. -/
def Rule.id (r : Rule) : String := r.info.id

end CodeAudit
