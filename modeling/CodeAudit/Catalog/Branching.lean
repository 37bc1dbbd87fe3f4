import CodeAudit.Catalog.Basic
import CodeAudit.Matching.Loops

/-!
# Loops and branches

Loops over a range have literal bounds and a plain target; the conditions of `while` and `if` compare
integer literals. Everything else is reported. A loop over anything but a range is reported only on
demand.
-/

namespace CodeAudit.Branching

/-- The parameters of these rules. -/
structure Settings where
  /-- Whether loops over anything but a range are reported. -/
  flagNonRangeIterables : Bool := false

def invalidRange : RuleInfo where
  id := "invalid_range_loop"
  description := "for loop over a range() that is not a literal integer range"
  message := "'{target}' cannot be used as loop variable in range({start}, {stop}, {step})"
  severity := .low

def invalidWhile : RuleInfo where
  id := "invalid_loop_condition"
  description := "while condition outside the accepted literal comparisons"
  message := "has an invalid while condition"
  severity := .low

def invalidIf : RuleInfo where
  id := "invalid_branch_condition"
  description := "if/elif condition outside the accepted literal comparisons"
  message := "has an invalid if condition"
  severity := .low

def nonRange : RuleInfo where
  id := "non_range_iterable"
  description := "for loop over anything but range() (opt-in)"
  message := "iterates over something other than range()"
  severity := .low

/-- The rules of this family. -/
def infos : List RuleInfo := [invalidRange, invalidWhile, invalidIf, nonRange]

def invalidRangeRule (info : RuleInfo) : Rule where
  info := info
  kinds := .single .forLoop
  check n _ :=
    match n.shape with
    | .forLoop target iter _ _ =>
      match iter.rangeArgs? with
      | some range =>
        if target.isSoundRange range then []
        else
          Catalog.report info n [("target", target.targetLabel), ("start", range.start.describe),
            ("stop", range.stop.describe), ("step", range.step.describe)]
      | none => []
    | _ => []

/-- A rule about the conditions of one kind of statement. -/
def conditionRule (info : RuleInfo) (kind : Kind) : Rule where
  info := info
  kinds := .single kind
  check n _ :=
    match n.shape with
    | .whileLoop test _ _ | .conditional test _ _ =>
      if test.isInvalidCondition then Catalog.report info n [] else []
    | _ => []

def nonRangeRule (info : RuleInfo) : Rule where
  info := info
  kinds := .single .forLoop
  check n _ :=
    match n.shape with
    | .forLoop _ iter _ _ => if iter.rangeArgs?.isNone then Catalog.report info n [] else []
    | _ => []

/-- The rules with their parameters; `adjust` sets the severities. -/
def rules (s : Settings) (adjust : RuleInfo → RuleInfo) : List Rule :=
  [invalidRangeRule (adjust invalidRange), conditionRule (adjust invalidWhile) .whileLoop,
    conditionRule (adjust invalidIf) .conditional] ++
    (if s.flagNonRangeIterables then [nonRangeRule (adjust nonRange)] else [])

end CodeAudit.Branching
