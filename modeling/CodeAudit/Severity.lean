import CodeAudit.Text.Lowercase

/-!
# Severities

Findings come in three degrees. On the command line a degree may be written in any mixture of cases;
in a settings file only three spellings of each are accepted.
-/

namespace CodeAudit

/-- How bad a finding is. -/
inductive Severity where
  | high
  | medium
  | low
deriving DecidableEq, Inhabited

namespace Severity

/-- The name in reports. -/
def label : Severity → String
  | high => "HIGH"
  | medium => "MEDIUM"
  | low => "LOW"

/-- The name in settings. -/
def settingsName : Severity → String
  | high => "high"
  | medium => "medium"
  | low => "low"

/-- The place in the order, the worst first. -/
def rank : Severity → Nat
  | high => 0
  | medium => 1
  | low => 2

/-- Whether a severity is as bad as a threshold or worse. -/
def atLeast (s threshold : Severity) : Bool := s.rank ≤ threshold.rank

/-- The severity with a name, in any mixture of cases. An unknown name is given back in lower case. -/
def ofText (text : String) : Except String Severity :=
  match Lowercase.ofString text with
  | "high" => .ok high
  | "medium" => .ok medium
  | "low" => .ok low
  | other => .error other

/-- The severity that a settings file names. -/
def ofSettings? : String → Option Severity
  | "high" | "HIGH" | "High" => some high
  | "medium" | "MEDIUM" | "Medium" => some medium
  | "low" | "LOW" | "Low" => some low
  | _ => none

end Severity

end CodeAudit
