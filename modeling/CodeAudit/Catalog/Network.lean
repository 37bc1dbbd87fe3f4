import CodeAudit.Catalog.Basic
import CodeAudit.Matching.Policies

/-!
# Talking to the network

Calls whose path matches the pattern for network functions are checked for plain-text protocols and
for arguments that weaken the encryption of the connection.
-/

namespace CodeAudit.Network

/-- The parameters of these rules. -/
structure Settings where
  /-- Looked for in the path of a call. -/
  functions : String := "socket|httplib|urllib|requests"
  protocols : String := "http://|ftp://|telnet://"
  tlsKeywords : String :=
    "(cafile|capath|certfile|keyfile|cert_reqs|ssl_version|context|verify)"
  verifyKeyword : String := "verify"

def insecureProtocol : RuleInfo where
  id := "insecure_protocol"
  description := "Network call to a plain-text URL scheme"
  message := "uses insecure communication protocol ({scheme})"
  severity := .high

def verifyDisabled : RuleInfo where
  id := "tls_verification_disabled"
  description := "Network call with certificate verification turned off"
  message := "does not verify server certificates"
  severity := .high

def tlsKeywords : RuleInfo where
  id := "tls_keyword_arguments"
  description := "Network call overriding TLS settings"
  message := "uses insecure communication keyword arguments: {keywords}"
  severity := .low

/-- The rules of this family. -/
def infos : List RuleInfo := [insecureProtocol, verifyDisabled, tlsKeywords]

/-- A rule about network calls. -/
def networkRule (info : RuleInfo) (functions : Regex) (check : Node → List Finding) : Rule where
  info := info
  kinds := .single .call
  check n _ := if n.callPath?.any functions.isMatch then check n else []

def insecureProtocolRule (info : RuleInfo) (functions protocols : Regex) : Rule :=
  networkRule info functions fun n =>
    match (n.strArg? 0).bind protocols.findIn? with
    | some scheme => Catalog.report info n [("scheme", scheme)]
    | none => []

def verifyDisabledRule (info : RuleInfo) (functions : Regex) (keyword : String) : Rule :=
  networkRule info functions fun n =>
    if (n.keyword? keyword).any fun v => v.isBool false then Catalog.report info n [] else []

def tlsKeywordsRule (info : RuleInfo) (functions keywords : Regex) : Rule :=
  networkRule info functions fun n =>
    match (n.keywords.filterMap Keyword.name).filter keywords.isMatch with
    | [] => []
    | hits => Catalog.report info n [("keywords", ", ".intercalate hits)]

/-- The rules with their parameters; `adjust` sets the severities. -/
def rules (s : Settings) (adjust : RuleInfo → RuleInfo) : Except RuleSetError (List Rule) := do
  let functions ← Catalog.compile "comms.functions" s.functions
  let protocols ← Catalog.compile "comms.protocols" s.protocols
  let keywords ← Catalog.compile "comms.tls_keywords" s.tlsKeywords
  return [insecureProtocolRule (adjust insecureProtocol) functions protocols,
    verifyDisabledRule (adjust verifyDisabled) functions s.verifyKeyword,
    tlsKeywordsRule (adjust tlsKeywords) functions keywords]

end CodeAudit.Network
