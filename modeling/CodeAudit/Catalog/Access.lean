import CodeAudit.Catalog.Basic
import CodeAudit.Matching.Policies
import CodeAudit.Text.Quoted

/-!
# Authentication and authorization

Calls that log somebody in are checked for the scheme of the password hash; calls that grant rights
for the scheme of the session and for the policies that their dictionary states.
-/

namespace CodeAudit.Access

/-- The parameters of these rules. -/
structure Settings where
  authenticate : List String := ["authenticate"]
  authorize : List String := ["authorize"]
  /-- The schemes that count as salted hashes. -/
  strongHashes : List String := ["bcrypt", "scrypt", "argon2"]
  /-- The word that a session scheme must contain. -/
  secureMarker : String := "secure"
  /-- The words of which every key must mention one; the first allows, the second denies. -/
  policyWords : List String := ["allow", "deny"]

def unsaltedHash : RuleInfo where
  id := "unsalted_password_hash"
  description := "authenticate() with a scheme that is not a salted KDF"
  message := "uses unsalted password hashing"
  severity := .high

def insecureSession : RuleInfo where
  id := "insecure_session"
  description := "authorize() with a session scheme not marked secure"
  message := "uses insecure session management"
  severity := .medium

def incomplete : RuleInfo where
  id := "incomplete_authorization"
  description := "Authorization dict keys without an explicit allow/deny policy"
  message := "performs incomplete authorization checks for keys: {keys}"
  severity := .medium

def permissive : RuleInfo where
  id := "permissive_authorization"
  description := "Authorization dict grants one policy without its counterpart"
  message := "includes overly permissive '{policy}' rules in its authorization checks"
  severity := .medium

/-- The rules of this family. -/
def infos : List RuleInfo := [unsaltedHash, insecureSession, incomplete, permissive]

/-- A rule about calls with one of some names. -/
def entryRule (info : RuleInfo) (names : List String) (check : Node → List Finding) : Rule where
  info := info
  kinds := .single .call
  check n _ := if n.callName?.any names.contains then check n else []

/-- The second positional argument, if it is a dictionary. -/
def policyDict? (call : Node) : Option Node :=
  call.positional[1]?.filter fun n => n.kind == .dict

def unsaltedHashRule (info : RuleInfo) (s : Settings) : Rule :=
  entryRule info s.authenticate fun n =>
    match n.strArg? 0 with
    | some scheme =>
      if s.strongHashes.any fun h => Search.occursIn h scheme then []
      else Catalog.report info n []
    | none => []

def insecureSessionRule (info : RuleInfo) (s : Settings) : Rule :=
  entryRule info s.authorize fun n =>
    match n.strArg? 0 with
    | some scheme => if mentions scheme s.secureMarker then [] else Catalog.report info n []
    | none => []

def incompleteRule (info : RuleInfo) (s : Settings) : Rule :=
  entryRule info s.authorize fun n =>
    match policyDict? n with
    | some dict =>
      match dict.unpolicedKeys s.policyWords with
      | [] => []
      | keys => Catalog.report info n [("keys", Quoted.encodeList keys)]
    | none => []

def permissiveRule (info : RuleInfo) (s : Settings) : Rule :=
  entryRule info s.authorize fun n =>
    match policyDict? n, s.policyWords with
    | some dict, allow :: deny :: _ =>
      let granted := dict.grantedPolicies s.policyWords
      match granted.contains allow, granted.contains deny with
      | true, false => Catalog.report info n [("policy", allow)]
      | false, true => Catalog.report info n [("policy", deny)]
      | _, _ => []
    | _, _ => []

/-- The rules with their parameters; `adjust` sets the severities. -/
def rules (s : Settings) (adjust : RuleInfo → RuleInfo) : List Rule :=
  [unsaltedHashRule (adjust unsaltedHash) s, insecureSessionRule (adjust insecureSession) s,
    incompleteRule (adjust incomplete) s, permissiveRule (adjust permissive) s]

end CodeAudit.Access
