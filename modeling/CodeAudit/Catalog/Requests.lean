import CodeAudit.Catalog.Basic
import CodeAudit.Catalog.Logging

/-!
# Answering requests

Keys and query parameters that are read without being compared with anything, answers that do not
state success, and views that rely on a login without looking at who is logged in.

A read is guarded when it stands in the test or in the body of an `if` that compares something with a
string literal. The branch that is taken when the comparison fails is not guarded by it.
-/

namespace CodeAudit.Requests

/-- The parameters of these rules. -/
structure Settings where
  keyPattern : String := "(?i)^(?:api|access)_?(?:key|token)$"
  /-- The method that reads a header or a parameter. -/
  accessor : String := "get"
  /-- The path on which query parameters are read. -/
  querySource : String := "(^|\\.)request\\.args$"
  jsonResponders : List String := ["jsonify", "JsonResponse"]
  statusKey : String := "status"
  statusValue : String := "success"
  /-- Decorators that only make sure that somebody is logged in. -/
  loginDecorators : List String := ["login_required"]
  /-- An operand of a comparison that makes it a check of who it is. -/
  identityPattern : String := "(^|\\.)(current_user|username|user)$"

def unvalidatedKey : RuleInfo where
  id := "unvalidated_api_key"
  description := "API key read without an enclosing equality check"
  message := "does not validate or weakly validates the {key} header"
  severity := .medium

def unvalidatedQuery : RuleInfo where
  id := "unvalidated_query_parameter"
  description := "Query parameter read without an enclosing equality check"
  message := "does not validate or weakly validates the {param} query parameter"
  severity := .medium

def jsonResponse : RuleInfo where
  id := "insecure_json_response"
  description := "JSON response built from a dict literal with no success status"
  message := "returns a JSON response from {name} without a {key}: {value} entry"
  severity := .low

def loginRequired : RuleInfo where
  id := "unchecked_login_required"
  description := "View guarded by login_required that never compares the caller's identity"
  message := "relies on {name} without checking who is logged in"
  severity := .medium

/-- The rules of this family. -/
def infos : List RuleInfo := [unvalidatedKey, unvalidatedQuery, jsonResponse, loginRequired]

/-- Whether a test compares something for equality with a string literal, on either side. -/
def isLiteralEquality (test : Node) : Bool :=
  match test.shape with
  | .compare left ops comparators =>
    ops.head? == some .eq &&
      (left.asStr?.isSome || comparators.head?.any fun c => c.asStr?.isSome)
  | _ => false

/-- Whether a step goes through the test or the body of an `if` with a literal equality. The test is
the first child and the body follows it. -/
def isGuardingStep (s : Step) : Bool :=
  match s.parent.shape with
  | .conditional test body _ => s.index ≤ body.length && isLiteralEquality test
  | _ => false

/-- Whether a place is guarded by an enclosing `if`. -/
def isGuarded (path : Path) : Bool := path.any isGuardingStep

/-- The receiver of a call of a method by its name. -/
def accessorReceiver? (accessor : String) (call : Node) : Option Node :=
  match call.shape with
  | .call func _ _ =>
    match func.shape with
    | .member value attr => if attr = accessor then some value else none
    | _ => none
  | _ => none

def unvalidatedKeyRule (info : RuleInfo) (keys : Regex) (accessor : String) : Rule where
  info := info
  kinds := .single .call
  check n path :=
    if (accessorReceiver? accessor n).isSome then
      match (n.strArg? 0).filter keys.isMatch with
      | some key => if isGuarded path then [] else Catalog.report info n [("key", key)]
      | none => []
    else []

def unvalidatedQueryRule (info : RuleInfo) (source : Regex) (accessor : String) : Rule where
  info := info
  kinds := .single .call
  check n path :=
    let fromQuery := ((accessorReceiver? accessor n).bind Node.dottedName?).any source.isMatch
    if fromQuery && !isGuarded path then
      Catalog.report info n [("param", (n.strArg? 0).getD "?")]
    else []

/-- Whether a dictionary has an entry with a given key and value. -/
def hasEntry (key value : String) (keys : List (Option Node)) (values : List Node) : Bool :=
  (keys.zip values).any fun entry =>
    entry.1.bind Node.asStr? == some key && entry.2.asStr? == some value

def jsonResponseRule (info : RuleInfo) (s : Settings) : Rule where
  info := info
  kinds := .single .call
  check n _ :=
    match n.callName?.filter s.jsonResponders.contains, n.positional with
    | some name, first :: _ =>
      match first.shape with
      | .dict keys values =>
        if hasEntry s.statusKey s.statusValue keys values then []
        else
          Catalog.report info n [("name", name), ("key", s.statusKey), ("value", s.statusValue)]
      | _ => []
    | _, _ => []

/-- The name of a decorator, also where it is called. -/
def decoratorName? (decorator : Node) : Option String :=
  match decorator.shape with
  | .call func _ _ => func.calleeName?
  | _ => decorator.calleeName?

/-- Whether a comparison has an operand that stands for somebody. -/
def isIdentityCheck (identity : Regex) (n : Node) : Bool :=
  match n.shape with
  | .compare left _ comparators =>
    ((left :: comparators).filterMap Node.dottedName?).any identity.isMatch
  | _ => false

/-- Whether a function compares somebody's identity in its own statements. -/
def checksIdentity (identity : Regex) (body : List Node) : Bool :=
  (Logging.ownStatements body).any fun s => s.descendants.any (isIdentityCheck identity)

def loginRequiredRule (info : RuleInfo) (names : List String) (identity : Regex) : Rule where
  info := info
  kinds := .single .functionDef
  check n _ :=
    match n.shape with
    | .functionDef _ _ decorators body _ =>
      match decorators.findSome? fun d => (decoratorName? d).filter names.contains with
      | some name =>
        if checksIdentity identity body then [] else Catalog.report info n [("name", name)]
      | none => []
    | _ => []

/-- The rules with their parameters; `adjust` sets the severities. -/
def rules (s : Settings) (adjust : RuleInfo → RuleInfo) : Except RuleSetError (List Rule) := do
  let keys ← Catalog.compile "api.key_pattern" s.keyPattern
  let source ← Catalog.compile "api.query_source" s.querySource
  let identity ← Catalog.compile "api.identity_pattern" s.identityPattern
  return [unvalidatedKeyRule (adjust unvalidatedKey) keys s.accessor,
    unvalidatedQueryRule (adjust unvalidatedQuery) source s.accessor,
    jsonResponseRule (adjust jsonResponse) s,
    loginRequiredRule (adjust loginRequired) s.loginDecorators identity]

end CodeAudit.Requests
