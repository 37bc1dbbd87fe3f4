import CodeAudit.Catalog.Build
import CodeAudit.Command.Style

/-!
# Listing the rules

Every rule of the catalog has a line, with its severity if it is installed.
-/

namespace CodeAudit

/-- The line of a rule. The severity is the one it is installed with. -/
def ruleLine (colors : Bool) (g : Registry) (info : RuleInfo) : String :=
  let id := padTo 32 info.id
  match (g.rules.map Rule.info).find? fun i => i.id == info.id with
  | some active =>
    "  " ++ Style.paint colors { color := some .white, bold := true } id ++ " " ++
      active.severity.style.paint colors active.severity.label
  | none =>
    "  " ++ Style.paint colors { dim := true } id ++ " " ++
      Style.paint colors { dim := true } "disabled"

/-- The lines that explain a rule. -/
def ruleDetails (colors : Bool) (info : RuleInfo) : List String :=
  ["    " ++ padTo 10 "About" ++ " " ++ info.description,
    "    " ++ padTo 10 "Message" ++ " " ++ Style.paint colors { italic := true } info.message]

/-- The list of all rules. -/
def ruleListing (colors verbose : Bool) (g : Registry) : List String :=
  let title := Style.paint colors { color := some .blue, bold := true, underlined := true } "Rules"
  let lines := catalog.flatMap fun info =>
    ruleLine colors g info :: (if verbose then ruleDetails colors info else [])
  let installed := Style.paint colors { bold := true } (toString g.size)
  title :: lines ++
    ["", installed ++ " of " ++ toString catalog.length ++ " rules installed"]

end CodeAudit
