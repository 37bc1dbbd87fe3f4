import CodeAudit.Catalog.Build
import CodeAudit.Proofs.Checks
import Mathlib.Data.List.Forall2

/-!
# The families of rules

`Rule.IsBuiltIn` lists the makers of rules, with parameters left open. Each family makes its rules
in the order in which the catalog describes them, item by item, so that a property of every built-in
rule is proved by cases on its maker and never has to look at the settings.

A family is made in vain only if one of its patterns cannot be read or, in cryptography, if
something senseless is demanded of a primitive.
-/

namespace CodeAudit

/-- The rules of the catalog, each with any description and any parameters. -/
inductive Rule.IsBuiltIn : Rule → Prop
  | call (info matcher) : IsBuiltIn (Catalog.callRule info matcher)
  | weakKeySize (info table keyword) : IsBuiltIn (Cryptography.weakKeySizeRule info table keyword)
  | missingOperations (info table) : IsBuiltIn (Cryptography.missingOperationsRule info table)
  | unsaltedHash (info s) : IsBuiltIn (Access.unsaltedHashRule info s)
  | insecureSession (info s) : IsBuiltIn (Access.insecureSessionRule info s)
  | incomplete (info s) : IsBuiltIn (Access.incompleteRule info s)
  | permissive (info s) : IsBuiltIn (Access.permissiveRule info s)
  | broadHandler (info broad) : IsBuiltIn (Logging.broadHandlerRule info broad)
  | unloggedHandler (info logger) : IsBuiltIn (Logging.unloggedHandlerRule info logger)
  | deprecatedCall (info receiver names) :
      IsBuiltIn (Logging.deprecatedCallRule info receiver names)
  | withoutLevel (info logger levels) : IsBuiltIn (Logging.withoutLevelRule info logger levels)
  | printCall (info logger) : IsBuiltIn (Logging.printCallRule info logger)
  | assertUsed (info) : IsBuiltIn (Logging.assertUsedRule info)
  | todoUnlogged (info logger marker) : IsBuiltIn (Logging.todoUnloggedRule info logger marker)
  | hardcodedSecret (info names pattern) :
      IsBuiltIn (Secrets.hardcodedSecretRule info names pattern)
  | insecureProtocol (info functions protocols) :
      IsBuiltIn (Network.insecureProtocolRule info functions protocols)
  | verifyDisabled (info functions keyword) :
      IsBuiltIn (Network.verifyDisabledRule info functions keyword)
  | tlsKeywords (info functions keywords) :
      IsBuiltIn (Network.tlsKeywordsRule info functions keywords)
  | maliciousString (info malicious) : IsBuiltIn (Literals.maliciousStringRule info malicious)
  | dangerousContext (info modules functions) :
      IsBuiltIn (Literals.dangerousContextRule info modules functions)
  | obfuscatedString (info disguise) : IsBuiltIn (Literals.obfuscatedStringRule info disguise)
  | suspiciousImport (info s) : IsBuiltIn (Literals.suspiciousImportRule info s)
  | dangerousBuiltin (info names) : IsBuiltIn (Literals.dangerousBuiltinRule info names)
  | invalidRange (info) : IsBuiltIn (Branching.invalidRangeRule info)
  | whileCondition (info) : IsBuiltIn (Branching.conditionRule info .whileLoop)
  | ifCondition (info) : IsBuiltIn (Branching.conditionRule info .conditional)
  | nonRange (info) : IsBuiltIn (Branching.nonRangeRule info)
  | iniFile (info suffixes) : IsBuiltIn (Environment.iniFileRule info suffixes)
  | shellCommand (info launchers tools) :
      IsBuiltIn (Environment.shellCommandRule info launchers tools)
  | unvalidatedKey (info keys accessor) :
      IsBuiltIn (Requests.unvalidatedKeyRule info keys accessor)
  | unvalidatedQuery (info source accessor) :
      IsBuiltIn (Requests.unvalidatedQueryRule info source accessor)
  | jsonResponse (info s) : IsBuiltIn (Requests.jsonResponseRule info s)
  | loginRequired (info names identity) :
      IsBuiltIn (Requests.loginRequiredRule info names identity)

/-- A built-in rule that has a description of the catalog, up to an adjustment. -/
structure Rule.Realizes (adjust : RuleInfo → RuleInfo) (info : RuleInfo) (r : Rule) : Prop where
  builtIn : r.IsBuiltIn
  info_eq : r.info = adjust info

/-- Rules that realize some descriptions item by item. -/
abbrev Realize (adjust : RuleInfo → RuleInfo) : List RuleInfo → List Rule → Prop :=
  List.Forall₂ (Rule.Realizes adjust)

/-- A list of rules of the catalog. -/
abbrev AllBuiltIn (rules : List Rule) : Prop := ∀ r ∈ rules, r.IsBuiltIn

namespace Realize

variable {adjust : RuleInfo → RuleInfo} {infos : List RuleInfo} {rules : List Rule}

theorem map_info (h : Realize adjust infos rules) : rules.map Rule.info = infos.map adjust := by
  induction h with
  | nil => rfl
  | cons first _ ih => rw [List.map_cons, List.map_cons, ih, first.info_eq]

theorem allBuiltIn (h : Realize adjust infos rules) : AllBuiltIn rules := by
  induction h with
  | nil => exact List.forall_mem_nil _
  | cons first _ ih => exact List.forall_mem_cons.mpr ⟨first.builtIn, ih⟩

end Realize

section Families

variable (adjust : RuleInfo → RuleInfo)

namespace Cryptography

/-- A key size that is demanded is not positive. -/
def Settings.BadSize (s : Settings) (e : RuleSetError) : Prop :=
  ∃ entry ∈ s.keySizes.entries, entry.2 ≤ 0 ∧ e = .keySize entry.1 entry.2

/-- An operation that is demanded does not exist. -/
def Settings.BadOperation (s : Settings) (e : RuleSetError) : Prop :=
  ∃ entry ∈ s.requiredOps.entries, ∃ op ∈ entry.2, op ∉ operations ∧ e = .operation entry.1 op

/-- The patterns, with the names of their fields. -/
def Settings.patternFields (s : Settings) : List (String × String) :=
  [("crypto.insecure_hash", s.insecureHash), ("crypto.insecure_mac", s.insecureMac),
    ("crypto.insecure_random", s.insecureRandom)]

theorem detects_table (s : Settings) :
    Detects (fun e => s.BadSize e ∨ s.BadOperation e) (fun _ => True) s.table := by
  have hsizes : Detects s.BadSize (fun _ => True) (s.keySizes.entries.forM fun entry =>
      if entry.2 ≤ 0 then .error (.keySize entry.1 entry.2) else .ok ()) := by
    refine .forM fun entry _ => ?_
    split
    · exact ⟨by assumption, rfl⟩
    · exact ⟨by simp_all, trivial⟩
  refine (hsizes.bind fun _ _ => Detects.bind (?_ : Detects s.BadOperation (fun _ => True) _)
    fun _ _ => .done trivial).mono (by simp) fun _ => id
  refine .forM fun entry _ => ?_
  split
  · rename_i op hop
    have hunknown : op ∉ operations := by simpa using List.find?_some hop
    exact ⟨op, List.mem_of_find?_eq_some hop, hunknown, rfl⟩
  · rename_i hnone
    refine ⟨fun e he => ?_, trivial⟩
    obtain ⟨op, hop, hunknown, -⟩ := he
    have hknown : op ∈ operations := by simpa using List.find?_eq_none.mp hnone op hop
    exact hunknown hknown

theorem detects_rules (s : Settings) :
    Detects (fun e => (s.BadSize e ∨ s.BadOperation e) ∨ Unreadable s.patternFields e)
      (Realize adjust infos) (rules s adjust) :=
  (detects_table s).bind fun _ _ => .compile fun _ => .compile fun _ => .compile fun _ =>
    .compiled <| .cons ⟨.call .., rfl⟩ <| .cons ⟨.call .., rfl⟩ <| .cons ⟨.call .., rfl⟩ <|
      .cons ⟨.weakKeySize .., rfl⟩ <| .cons ⟨.missingOperations .., rfl⟩ .nil

end Cryptography

theorem Access.realize_rules (s : Access.Settings) : Realize adjust infos (rules s adjust) :=
  .cons ⟨.unsaltedHash .., rfl⟩ <| .cons ⟨.insecureSession .., rfl⟩ <|
    .cons ⟨.incomplete .., rfl⟩ <| .cons ⟨.permissive .., rfl⟩ .nil

namespace Logging

/-- The patterns, with the names of their fields. -/
def Settings.patternFields (s : Settings) : List (String × String) :=
  [("logging.logger", s.logger), ("logging.todo_marker", s.todoMarker)]

theorem detects_rules (s : Settings) :
    Detects (Unreadable s.patternFields) (Realize adjust infos) (rules s adjust) :=
  .compile fun _ => .compile fun _ => .compiled <| .cons ⟨.broadHandler .., rfl⟩ <|
    .cons ⟨.unloggedHandler .., rfl⟩ <| .cons ⟨.deprecatedCall .., rfl⟩ <|
    .cons ⟨.withoutLevel .., rfl⟩ <| .cons ⟨.printCall .., rfl⟩ <| .cons ⟨.assertUsed .., rfl⟩ <|
    .cons ⟨.todoUnlogged .., rfl⟩ .nil

end Logging

namespace Secrets

/-- The patterns, with the names of their fields. -/
def Settings.patternFields (s : Settings) : List (String × String) :=
  [("secrets.pattern", s.pattern)]

theorem detects_rules (s : Settings) :
    Detects (Unreadable s.patternFields) (Realize adjust infos) (rules s adjust) :=
  .compile fun _ => .compiled <| .cons ⟨.hardcodedSecret .., rfl⟩ .nil

end Secrets

namespace Network

/-- The patterns, with the names of their fields. -/
def Settings.patternFields (s : Settings) : List (String × String) :=
  [("comms.functions", s.functions), ("comms.protocols", s.protocols),
    ("comms.tls_keywords", s.tlsKeywords)]

theorem detects_rules (s : Settings) :
    Detects (Unreadable s.patternFields) (Realize adjust infos) (rules s adjust) :=
  .compile fun _ => .compile fun _ => .compile fun _ => .compiled <|
    .cons ⟨.insecureProtocol .., rfl⟩ <| .cons ⟨.verifyDisabled .., rfl⟩ <|
    .cons ⟨.tlsKeywords .., rfl⟩ .nil

end Network

namespace Literals

/-- The patterns, with the names of their fields. -/
def Settings.patternFields (s : Settings) : List (String × String) :=
  [("strings.base64_shape", s.base64Shape), ("strings.rot13_shape", s.rot13Shape),
    ("strings.hex_shape", s.hexShape), ("strings.rescan", s.rescan),
    ("strings.malicious", s.malicious)]

theorem detects_rules (s : Settings) :
    Detects (Unreadable s.patternFields) (Realize adjust infos) (rules s adjust) :=
  .compile fun _ => .compile fun _ => .compile fun _ => .compile fun _ => .compile fun _ =>
    .compiled <| .cons ⟨.maliciousString .., rfl⟩ <| .cons ⟨.dangerousContext .., rfl⟩ <|
      .cons ⟨.obfuscatedString .., rfl⟩ <| .cons ⟨.suspiciousImport .., rfl⟩ <|
      .cons ⟨.dangerousBuiltin .., rfl⟩ .nil

end Literals

/-- The last rule about branches is made only on demand. -/
theorem Branching.realize_rules (s : Branching.Settings) :
    Realize adjust (infos.filter fun info => s.flagNonRangeIterables || info != nonRange)
      (rules s adjust) := by
  have hfirst (rest : List RuleInfo) (more : List Rule) (h : Realize adjust rest more) :
      Realize adjust ([invalidRange, invalidWhile, invalidIf] ++ rest)
        ([invalidRangeRule (adjust invalidRange), conditionRule (adjust invalidWhile) .whileLoop,
          conditionRule (adjust invalidIf) .conditional] ++ more) :=
    .cons ⟨.invalidRange .., rfl⟩ <| .cons ⟨.whileCondition .., rfl⟩ <|
      .cons ⟨.ifCondition .., rfl⟩ h
  cases h : s.flagNonRangeIterables with
  | false =>
    rw [rules, h]
    exact hfirst [] [] .nil
  | true =>
    rw [rules, h]
    exact hfirst [nonRange] _ (.cons ⟨.nonRange .., rfl⟩ .nil)

theorem Environment.realize_rules (s : Environment.Settings) :
    Realize adjust infos (rules s adjust) :=
  .cons ⟨.call .., rfl⟩ <| .cons ⟨.iniFile .., rfl⟩ <| .cons ⟨.shellCommand .., rfl⟩ <|
    .cons ⟨.call .., rfl⟩ .nil

namespace Requests

/-- The patterns, with the names of their fields. -/
def Settings.patternFields (s : Settings) : List (String × String) :=
  [("api.key_pattern", s.keyPattern), ("api.query_source", s.querySource),
    ("api.identity_pattern", s.identityPattern)]

theorem detects_rules (s : Settings) :
    Detects (Unreadable s.patternFields) (Realize adjust infos) (rules s adjust) :=
  .compile fun _ => .compile fun _ => .compile fun _ => .compiled <|
    .cons ⟨.unvalidatedKey .., rfl⟩ <| .cons ⟨.unvalidatedQuery .., rfl⟩ <|
    .cons ⟨.jsonResponse .., rfl⟩ <| .cons ⟨.loginRequired .., rfl⟩ .nil

end Requests

end Families

end CodeAudit
