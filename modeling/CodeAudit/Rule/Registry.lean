import CodeAudit.Rule.Basic

/-!
# Registries and scans

A `Registry` is a list of rules with distinct names, together with an index that tells for each kind
of node which rules ask for it. A scan walks a module once and shows every node to the rules that
ask for its kind, in the order in which they are registered.
-/

namespace CodeAudit

/-- Why a set of rules cannot be used. -/
inductive RuleSetError where
  | unknownRule (id : String)
  | duplicateRule (id : String)
  | keySize (name : String) (bits : Int64)
  | operation (name given : String)
  | pattern (field : String)
deriving DecidableEq

namespace RuleSetError

/-- The description of the cause. -/
def detail : RuleSetError → String
  | unknownRule id => "unknown rule id `" ++ id ++ "`"
  | duplicateRule id => "duplicate rule id `" ++ id ++ "`"
  | keySize name bits =>
    "`crypto.key_sizes." ++ name ++ "` must be positive, got " ++ toString bits.toInt
  | operation name given =>
    "`crypto.required_ops." ++ name ++ "`: unknown operation `" ++ given ++ "`"
  | pattern field => "`" ++ field ++ "`"

/-- The whole message. -/
def message (e : RuleSetError) : String := "invalid rule set: " ++ e.detail

end RuleSetError

/-- The first member of a list that has occurred before. -/
def firstRepeated? (seen : List String) : List String → Option String
  | [] => none
  | x :: xs => if seen.contains x then some x else firstRepeated? (x :: seen) xs

/-- Rules with distinct names, and an index by the kinds of nodes they ask for. -/
structure Registry where
  rules : List Rule
  /-- For each kind, by its position, the numbers of the rules that ask for it. -/
  byKind : Array (List (Fin rules.length))

namespace Registry

/-- The numbers of the rules that ask for a kind, in increasing order. -/
def subscribers (rules : List Rule) (k : Kind) : List (Fin rules.length) :=
  (List.finRange rules.length).filter fun i => (rules.get i).kinds.contains k

/-- The numbers of the rules that ask for each kind, in the order of the kinds. -/
def index (rules : List Rule) : Array (List (Fin rules.length)) :=
  (Kind.all.map (subscribers rules)).toArray

/-- A registry of some rules; two rules must not have the same name. -/
def ofRules (rules : List Rule) : Except RuleSetError Registry :=
  match firstRepeated? [] (rules.map Rule.id) with
  | some id => .error (.duplicateRule id)
  | none => .ok ⟨rules, index rules⟩

/-- The number of rules. -/
def size (g : Registry) : Nat := g.rules.length

/-- The rules that ask for a kind, in the order in which they are registered. -/
def rulesFor (g : Registry) (k : Kind) : List Rule :=
  (g.byKind.getD k.index.val []).map g.rules.get

/-- What the rules say about a node in its place. -/
def diagnose (g : Registry) (v : Visit) : List Diagnostic :=
  (g.rulesFor v.node.kind).flatMap fun rule =>
    (rule.check v.node v.path).map fun finding =>
      { ruleId := rule.info.id
        severity := rule.info.severity
        message := finding.message
        loc := finding.loc
        function := v.path.functionNameFor? v.node }

/-- Walks a module once and reports what the rules say, in the order of the walk. Any other node is
refused, with its kind. -/
def scan (g : Registry) (root : Node) : Except Kind (List Diagnostic) :=
  if root.kind = .module then
    let report := root.visits.foldl (fun r v => (g.diagnose v).foldl Report.record r) {}
    .ok report.toList
  else .error root.kind

end Registry

end CodeAudit
