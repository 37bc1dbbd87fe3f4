import CodeAudit.Matching.Calls

/-!
# Ranges of loops and conditions of branches

The bounds of a `range(...)` call follow the number of its positional arguments; without any, they
may be given by name. A condition counts as sound only if it is built from comparisons of integer
literals.
-/

namespace CodeAudit

/-- A bound of a range. -/
inductive Bound where
  /-- Left out, with a value of its own. -/
  | default (value : Int64)
  /-- Left out although it is needed. -/
  | missing
  | expr (node : Node)

namespace Bound

/-- The value of a bound that is known. -/
def literal? : Bound → Option Int64
  | default value => some value
  | missing => none
  | expr node => node.asInt?

/-- The value in a message, `?` if it is not known. -/
def describe (b : Bound) : String :=
  match b.literal? with
  | some value => toString value.toInt
  | none => "?"

end Bound

/-- The bounds of a range. -/
structure RangeArgs where
  start : Bound
  stop : Bound
  step : Bound

namespace Node

/-- The bounds of a call to `range`, by that bare name. -/
def rangeArgs? (iter : Node) : Option RangeArgs :=
  if iter.bareCallee? = some "range" then
    let named (name : String) (otherwise : Bound) : Bound :=
      match iter.keyword? name with
      | some value => .expr value
      | none => otherwise
    some <| match iter.positional with
      | [] => ⟨named "start" (.default 0), named "stop" .missing, named "step" (.default 1)⟩
      | [stop] => ⟨.default 0, .expr stop, .default 1⟩
      | [start, stop] => ⟨.expr start, .expr stop, .default 1⟩
      | start :: stop :: step :: _ => ⟨.expr start, .expr stop, .expr step⟩
  else none

/-- Whether a loop over a range has a bare name as its target and literal integers as its bounds. -/
def isSoundRange (target : Node) (range : RangeArgs) : Bool :=
  target.asName?.isSome && range.start.literal?.isSome && range.stop.literal?.isSome &&
    range.step.literal?.isSome

mutual

/-- Whether a condition is anything else than a single `<=` or `>=` of two integer literals, a
conjunction of such conditions, or the negation of one. -/
def isInvalidCondition : Node → Bool
  | ⟨_, .compare left ops comparators⟩ =>
    match ops, comparators with
    | [.ltE], [right] | [.gtE], [right] => left.asInt?.isNone || right.asInt?.isNone
    | _, _ => true
  | ⟨_, .boolOp .and values⟩ => anyInvalidCondition values
  | ⟨_, .unaryOp .not operand⟩ => isInvalidCondition operand
  | _ => true

/-- Whether one of some conditions is invalid. -/
def anyInvalidCondition : List Node → Bool
  | [] => false
  | cond :: conds => isInvalidCondition cond || anyInvalidCondition conds

end

/-- The name of a loop target in messages. -/
def targetLabel (target : Node) : String := target.calleeName?.getD "_"

end Node

end CodeAudit
