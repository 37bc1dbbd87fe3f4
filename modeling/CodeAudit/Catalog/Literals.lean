import CodeAudit.Catalog.Basic
import CodeAudit.Matching.Disguise

/-!
# Suspicious strings, imports and built-in functions

String literals are searched for the names of functions that run code, also behind an encoding, and
are reported where they are handed to a dangerous callee. Imports are judged by the first part of
the module name.
-/

namespace CodeAudit.Literals

/-- The parameters of these rules. -/
structure Settings where
  malicious : String := "(?i)exec|eval|subprocess|shell|os\\."
  /-- Looked for in decoded text. -/
  rescan : String := "(?i)exec|eval|subprocess|shell|os\\.|input|__import__"
  base64Shape : String := "^[a-zA-Z0-9+/=]+\\s*$"
  rot13Shape : String := "^[a-zA-Z]+://[a-zA-Z0-9]+\\s*$"
  hexShape : String := "^(?:0x[0-9a-fA-F]\x7b2\x7d)+\\s*$"
  dangerousModules : List String := ["subprocess", "os", "shutil", "sys"]
  dangerousFunctions : List String := ["eval", "exec", "input", "open", "__import__"]
  badKeywords : List String :=
    ["import", "from", "exec", "eval", "print", "assert", "exit", "quit"]
  badBuiltins : List String :=
    ["eval", "exec", "open", "input", "print", "exit", "quit", "compile"]
  dangerousBuiltins : List String := ["eval", "exec", "open", "__import__", "compile"]

def maliciousString : RuleInfo where
  id := "malicious_string"
  description := "String literal naming code execution primitives"
  message := "contains a possibly malicious string ('{fragment}')"
  severity := .medium

def dangerousContext : RuleInfo where
  id := "dangerous_string_context"
  description := "String literal passed straight to a dangerous callee"
  message := "passes a string literal to {callee}"
  severity := .medium

def obfuscatedString : RuleInfo where
  id := "obfuscated_string"
  description := "Encoded literal that decodes to suspicious content"
  message := "contains a possibly obfuscated string ({encoding} hiding {hidden})"
  severity := .high

def suspiciousImport : RuleInfo where
  id := "suspicious_import"
  description := "Import of a keyword, builtin or dangerous module name"
  message := "imports '{module}' ({reason})"
  severity := .medium

def dangerousBuiltin : RuleInfo where
  id := "dangerous_builtin"
  description := "Call to a code-loading or file-opening builtin"
  message := "calls the dangerous builtin {name}()"
  severity := .medium

/-- The rules of this family. -/
def infos : List RuleInfo :=
  [maliciousString, dangerousContext, obfuscatedString, suspiciousImport, dangerousBuiltin]

/-- The text of a string literal, bytes or not. -/
def literalText? (n : Node) : Option String :=
  match n.shape with
  | .str value _ => some value
  | _ => none

def maliciousStringRule (info : RuleInfo) (malicious : Regex) : Rule where
  info := info
  kinds := .single .str
  check n _ :=
    match (literalText? n).bind malicious.findIn? with
    | some fragment => Catalog.report info n [("fragment", fragment)]
    | none => []

/-- What is dangerous about the callee of a call: a bare name that is a dangerous function, or a path
whose first part is a dangerous module. -/
def dangerousCallee? (modules functions : List String) (call : Node) : Option String :=
  match call.bareCallee? with
  | some name =>
    if functions.contains name then some ("dangerous function " ++ name ++ "()") else none
  | none =>
    call.callPath?.bind fun path =>
      let root := Search.before '.' path
      if modules.contains root then some (path ++ "() from dangerous module " ++ root) else none

def dangerousContextRule (info : RuleInfo) (modules functions : List String) : Rule where
  info := info
  kinds := .single .str
  check n path :=
    match path.parent?.bind (dangerousCallee? modules functions) with
    | some callee => Catalog.report info n [("callee", callee)]
    | none => []

/-- What came to light, in the words of the message. -/
def describeHidden : Hidden → String
  | .nulByte => "a NUL byte"
  | .fragment text => "'" ++ text ++ "'"

def obfuscatedStringRule (info : RuleInfo) (disguise : Disguise) : Rule where
  info := info
  kinds := .single .str
  check n _ :=
    match (literalText? n).bind disguise.inspect? with
    | some (encoding, hidden) =>
      Catalog.report info n [("encoding", encoding.label), ("hidden", describeHidden hidden)]
    | none => []

/-- Why a module should not be imported, judged by the first part of its name. -/
def importReason? (s : Settings) (module : String) : Option String :=
  let root := Search.before '.' module
  if s.badKeywords.contains root then some "malicious keyword"
  else if s.badBuiltins.contains root then some "built-in function name"
  else if s.dangerousModules.contains root then some "dangerous module"
  else none

/-- The modules that an import statement names. -/
def importedModules (n : Node) : List String :=
  match n.shape with
  | .importNames names => names.map ImportedName.name
  | .importFrom (some source) _ => [source]
  | _ => []

def suspiciousImportRule (info : RuleInfo) (s : Settings) : Rule where
  info := info
  kinds := .ofList [.importNames, .importFrom]
  check n _ :=
    (importedModules n).flatMap fun module =>
      match importReason? s module with
      | some reason => Catalog.report info n [("module", module), ("reason", reason)]
      | none => []

def dangerousBuiltinRule (info : RuleInfo) (names : List String) : Rule :=
  Catalog.callRule info (.names names) fun n => n.bareCallee?.isSome

/-- The rules with their parameters; `adjust` sets the severities. -/
def rules (s : Settings) (adjust : RuleInfo → RuleInfo) : Except RuleSetError (List Rule) := do
  let base64Shape ← Catalog.compile "strings.base64_shape" s.base64Shape
  let rot13Shape ← Catalog.compile "strings.rot13_shape" s.rot13Shape
  let hexShape ← Catalog.compile "strings.hex_shape" s.hexShape
  let rescan ← Catalog.compile "strings.rescan" s.rescan
  let malicious ← Catalog.compile "strings.malicious" s.malicious
  return [maliciousStringRule (adjust maliciousString) malicious,
    dangerousContextRule (adjust dangerousContext) s.dangerousModules s.dangerousFunctions,
    obfuscatedStringRule (adjust obfuscatedString) ⟨base64Shape, rot13Shape, hexShape, rescan⟩,
    suspiciousImportRule (adjust suspiciousImport) s,
    dangerousBuiltinRule (adjust dangerousBuiltin) s.dangerousBuiltins]

end CodeAudit.Literals
