import CodeAudit.Catalog.Access
import CodeAudit.Catalog.Branching
import CodeAudit.Catalog.Cryptography
import CodeAudit.Catalog.Environment
import CodeAudit.Catalog.Literals
import CodeAudit.Catalog.Logging
import CodeAudit.Catalog.Network
import CodeAudit.Catalog.Requests
import CodeAudit.Catalog.Secrets

/-!
# The catalog and its settings

The catalog is the list of all rules, family by family. `RuleSettings` holds the parameters of every
family, the rules that are left out, and severities that replace those of the catalog. Building a
registry checks all of it: with a mistake anywhere no registry comes out.
-/

namespace CodeAudit

/-- The descriptions of all rules, in the order in which they are registered. -/
def catalog : List RuleInfo :=
  Cryptography.infos ++ Access.infos ++ Logging.infos ++ Secrets.infos ++ Network.infos ++
    Literals.infos ++ Branching.infos ++ Environment.infos ++ Requests.infos

/-- The description of a rule, by its name. -/
def lookup? (id : String) : Option RuleInfo := catalog.find? fun info => info.id == id

/-- The parameters of all rules. -/
structure RuleSettings where
  /-- The rules that are left out. -/
  disabled : List String := []
  /-- Severities that replace those of the catalog. -/
  severity : Table Severity := .empty
  cryptography : Cryptography.Settings := {}
  access : Access.Settings := {}
  logging : Logging.Settings := {}
  secrets : Secrets.Settings := {}
  network : Network.Settings := {}
  literals : Literals.Settings := {}
  branching : Branching.Settings := {}
  environment : Environment.Settings := {}
  requests : Requests.Settings := {}

namespace RuleSettings

/-- The description of a rule with the severity that the settings give it. -/
def adjust (s : RuleSettings) (info : RuleInfo) : RuleInfo :=
  match s.severity.get? info.id with
  | some severity => { info with severity }
  | none => info

/-- All rules with their parameters, also those that are to be left out. -/
def allRules (s : RuleSettings) : Except RuleSetError (List Rule) := do
  let cryptography ← Cryptography.rules s.cryptography s.adjust
  let access := Access.rules s.access s.adjust
  let logging ← Logging.rules s.logging s.adjust
  let secrets ← Secrets.rules s.secrets s.adjust
  let network ← Network.rules s.network s.adjust
  let literals ← Literals.rules s.literals s.adjust
  let branching := Branching.rules s.branching s.adjust
  let environment := Environment.rules s.environment s.adjust
  let requests ← Requests.rules s.requests s.adjust
  return cryptography ++ access ++ logging ++ secrets ++ network ++ literals ++ branching ++
    environment ++ requests

/-- The registry that the settings describe. Names of rules are checked first, then each family. -/
def build (s : RuleSettings) : Except RuleSetError Registry := do
  (s.disabled ++ s.severity.keys).forM fun id =>
    if (lookup? id).isSome then .ok () else .error (.unknownRule id)
  let rules ← s.allRules
  Registry.ofRules (rules.filter fun r => !s.disabled.contains r.id)

end RuleSettings

end CodeAudit
