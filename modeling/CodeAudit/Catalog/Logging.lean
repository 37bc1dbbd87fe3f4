import CodeAudit.Catalog.Basic

/-!
# Handling errors and writing logs

A call is a logging call when its path matches the pattern for loggers. The rules look for handlers
that catch everything or never log, for deprecated functions and unknown levels, for `print` where
nothing is logged, for assertions, and for functions that are marked as unfinished.
-/

namespace CodeAudit.Logging

/-- The parameters of these rules. -/
structure Settings where
  /-- A call whose path matches this is a logging call. -/
  logger : String := "(^|\\.)(logging|logger|log|LOGGER)\\.\\w+$"
  /-- The name on which the deprecated functions are looked for. -/
  deprecatedReceiver : String := "logging"
  deprecated : List String := ["warn", "fatal", "captureWarnings"]
  levels : List String := ["DEBUG", "INFO", "WARNING", "ERROR", "CRITICAL"]
  /-- Exceptions that are as wide as no exception type at all. -/
  broadExceptions : List String := ["Exception", "BaseException"]
  todoMarker : String := "\\b(TODO|FIXME)\\b"

def broadHandler : RuleInfo where
  id := "broad_exception_handler"
  description := "try statement whose handlers only catch everything"
  message := "uses a broad exception handler"
  severity := .medium

def unloggedHandler : RuleInfo where
  id := "unlogged_exception_handler"
  description := "Exception handlers that never log"
  message := "handles an exception without logging it"
  severity := .low

def deprecatedCall : RuleInfo where
  id := "deprecated_logging_call"
  description := "Deprecated logging module function"
  message := "uses the deprecated logging function {name}"
  severity := .low

def withoutLevel : RuleInfo where
  id := "logging_without_level"
  description := "Logging call whose level argument is not a known level"
  message := "logs with an unknown level '{level}'"
  severity := .low

def printCall : RuleInfo where
  id := "print_instead_of_logging"
  description := "print() in a function that never logs"
  message := "uses print() instead of logging"
  severity := .low

def assertUsed : RuleInfo where
  id := "assert_used"
  description := "assert used for error handling"
  message := "uses assert for error handling (stripped under -O)"
  severity := .low

def todoUnlogged : RuleInfo where
  id := "todo_without_logging"
  description := "Function marked TODO/FIXME that does not log"
  message := "is marked {marker} and has no logging"
  severity := .low

/-- The rules of this family. -/
def infos : List RuleInfo :=
  [broadHandler, unloggedHandler, deprecatedCall, withoutLevel, printCall, assertUsed, todoUnlogged]

/-- Whether a node is a logging call. -/
def isLogCall (logger : Regex) (n : Node) : Bool := n.callPath?.any logger.isMatch

/-- Whether there is a logging call anywhere in a tree. -/
def logsIn (logger : Regex) (n : Node) : Bool := n.descendants.any (isLogCall logger)

/-- The handlers of a `try` statement. -/
def handlersOf (n : Node) : List Node :=
  match n.shape with
  | .tryBlock _ handlers _ _ => handlers
  | _ => []

/-- Whether a handler catches everything, or one of the exceptions that are as wide. -/
def isBroad (broad : List String) (handler : Node) : Bool :=
  match handler.shape with
  | .handler none _ _ => true
  | .handler (some type) _ _ => type.asName?.any broad.contains
  | _ => false

def broadHandlerRule (info : RuleInfo) (broad : List String) : Rule where
  info := info
  kinds := .single .tryBlock
  check n _ :=
    let handlers := handlersOf n
    if !handlers.isEmpty && handlers.all (isBroad broad) then Catalog.report info n [] else []

def unloggedHandlerRule (info : RuleInfo) (logger : Regex) : Rule where
  info := info
  kinds := .single .tryBlock
  check n _ :=
    let handlers := handlersOf n
    if handlers.isEmpty || handlers.any fun h => h.body.any (logsIn logger) then []
    else Catalog.report info n []

def deprecatedCallRule (info : RuleInfo) (receiver : String) (names : List String) : Rule :=
  Catalog.callRule info (.names names) fun n => n.receiverName? == some receiver

/-- Whether the callee of a call is an attribute. -/
def isMethodCall (n : Node) : Bool :=
  match n.shape with
  | .call func _ _ => func.kind == .member
  | _ => false

def withoutLevelRule (info : RuleInfo) (logger : Regex) (levels : List String) : Rule where
  info := info
  kinds := .single .call
  check n _ :=
    if isMethodCall n && isLogCall logger n then
      match n.strArg? 1 with
      | some level => if levels.contains level then [] else Catalog.report info n [("level", level)]
      | none => []
    else []

def printCallRule (info : RuleInfo) (logger : Regex) : Rule where
  info := info
  kinds := .single .call
  check n path :=
    if n.bareCallee? = some "print" then
      match path.enclosingFunction? with
      | some func => if logsIn logger func then [] else Catalog.report info n []
      | none => []
    else []

def assertUsedRule (info : RuleInfo) : Rule where
  info := info
  kinds := .single .assertion
  check n _ := Catalog.report info n []

/-- The statements of a function that are not function definitions themselves. -/
def ownStatements (body : List Node) : List Node := body.filter fun s => s.kind != .functionDef

def todoUnloggedRule (info : RuleInfo) (logger marker : Regex) : Rule where
  info := info
  kinds := .single .functionDef
  check n _ :=
    match n.shape with
    | .functionDef _ _ _ body (some doc) =>
      match marker.findIn? doc with
      | some found =>
        if (ownStatements body).any (logsIn logger) then []
        else Catalog.report info n [("marker", found)]
      | none => []
    | _ => []

/-- The rules with their parameters; `adjust` sets the severities. -/
def rules (s : Settings) (adjust : RuleInfo → RuleInfo) : Except RuleSetError (List Rule) := do
  let logger ← Catalog.compile "logging.logger" s.logger
  let marker ← Catalog.compile "logging.todo_marker" s.todoMarker
  return [broadHandlerRule (adjust broadHandler) s.broadExceptions,
    unloggedHandlerRule (adjust unloggedHandler) logger,
    deprecatedCallRule (adjust deprecatedCall) s.deprecatedReceiver s.deprecated,
    withoutLevelRule (adjust withoutLevel) logger s.levels,
    printCallRule (adjust printCall) logger,
    assertUsedRule (adjust assertUsed),
    todoUnloggedRule (adjust todoUnlogged) logger marker]

end CodeAudit.Logging
