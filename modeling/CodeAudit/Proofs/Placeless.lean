import CodeAudit.Proofs.Building
import CodeAudit.Proofs.Relocation

/-!
# Verdicts do not depend on locations

No built-in rule looks at locations. It finds in a tree whose nodes are moved what it finds in the
tree, at the places to which the findings are moved. That also holds when different parts of the
tree become equal: the rules that care about the branch of an `if` in which a node stands look at
the position of a statement and do not compare statements.
-/

namespace CodeAudit

/-- The finding at another place. -/
def Finding.relocate (f : Location → Location) (x : Finding) : Finding := ⟨f x.loc, x.message⟩

/-- A rule that finds the same things wherever nodes are. -/
def Rule.IsPlaceless (r : Rule) : Prop :=
  ∀ f n p, r.check (Node.relocate f n) (Path.relocate f p) =
    (r.check n p).map (Finding.relocate f)

section Questions

variable (f : Location → Location)

@[simp] theorem Catalog.report_relocate (info : RuleInfo) (n : Node)
    (vars : List (String × String)) :
    Catalog.report info (n.relocate f) vars =
      (Catalog.report info n vars).map (Finding.relocate f) := by
  simp [report, Finding.on, Finding.relocate]

namespace Logging

@[simp] theorem isLogCall_relocate (logger : Regex) (n : Node) :
    isLogCall logger (n.relocate f) = isLogCall logger n := by
  simp [isLogCall]

@[simp] theorem logsIn_relocate (logger : Regex) (n : Node) :
    logsIn logger (n.relocate f) = logsIn logger n := by
  simp [logsIn, Function.comp_def]

@[simp] theorem handlersOf_relocate (n : Node) :
    handlersOf (n.relocate f) = (handlersOf n).map (Node.relocate f) := by
  rw [handlersOf, handlersOf, Node.shape_relocate]
  cases n.shape <;> rfl

@[simp] theorem isBroad_relocate (broad : List String) (n : Node) :
    isBroad broad (n.relocate f) = isBroad broad n := by
  rw [isBroad, isBroad, Node.shape_relocate]
  cases n.shape with
  | handler type name body => cases type <;> simp [Shape.map]
  | _ => rfl

@[simp] theorem isMethodCall_relocate (n : Node) :
    isMethodCall (n.relocate f) = isMethodCall n := by
  rw [isMethodCall, isMethodCall, Node.shape_relocate]
  cases n.shape <;> simp [Shape.map]

@[simp] theorem ownStatements_relocate (body : List Node) :
    ownStatements (body.map (Node.relocate f)) = (ownStatements body).map (Node.relocate f) := by
  simp [ownStatements, List.filter_map, Function.comp_def]

end Logging

namespace Literals

@[simp] theorem literalText?_relocate (n : Node) :
    literalText? (n.relocate f) = literalText? n := by
  rw [literalText?, literalText?, Node.shape_relocate]
  cases n.shape <;> rfl

@[simp] theorem dangerousCallee?_relocate (modules functions : List String) (n : Node) :
    dangerousCallee? modules functions (n.relocate f) = dangerousCallee? modules functions n := by
  simp [dangerousCallee?]

@[simp] theorem importedModules_relocate (n : Node) :
    importedModules (n.relocate f) = importedModules n := by
  rw [importedModules, importedModules, Node.shape_relocate]
  cases n.shape <;> rfl

end Literals

namespace Secrets

@[simp] theorem secretTarget?_relocate (names : List String) (targets : List Node) :
    secretTarget? names (targets.map (Node.relocate f)) = secretTarget? names targets := by
  have hname : Node.asName? ∘ Node.relocate f = Node.asName? := funext (Node.asName?_relocate f)
  rw [secretTarget?, secretTarget?, List.filterMap_map, hname]

@[simp] theorem literalSource?_relocate (n : Node) :
    literalSource? (n.relocate f) = literalSource? n := by
  rw [literalSource?, literalSource?, Node.shape_relocate]
  cases n.shape with
  | binOp left op right => cases op <;> simp [Shape.map]
  | other label children =>
    by_cases h : label = "interpolated_string"
    · subst h
      cases children <;> simp [Shape.map]
    · simp [Shape.map, h]
  | _ => rfl

@[simp] theorem leak?_relocate (names : List String) (pattern : Regex) (n : Node)
    (docstring : Bool) :
    leak? names pattern (n.relocate f) docstring = leak? names pattern n docstring := by
  rw [leak?, leak?, Node.shape_relocate]
  cases n.shape with
  | assign targets value => simp [Shape.map]
  | annAssign target type value =>
    cases value with
    | none => rfl
    | some value =>
      simp only [Shape.map, Option.map_some, Node.shape_relocate, Node.asName?_relocate]
      cases value.shape <;> rfl
  | expr value => simp [Shape.map]
  | _ => rfl

end Secrets

@[simp] theorem Access.policyDict?_relocate (n : Node) :
    policyDict? (n.relocate f) = (policyDict? n).map (Node.relocate f) := by
  rw [policyDict?, policyDict?, Node.positional_relocate, List.getElem?_map, Option.filter_map]
  simp [Function.comp_def]

namespace Requests

@[simp] theorem isLiteralEquality_relocate (n : Node) :
    isLiteralEquality (n.relocate f) = isLiteralEquality n := by
  rw [isLiteralEquality, isLiteralEquality, Node.shape_relocate]
  cases n.shape with
  | compare left ops comparators => simp [Shape.map, Option.any_map]
  | _ => rfl

@[simp] theorem isGuardingStep_relocate (s : Step) :
    isGuardingStep (s.relocate f) = isGuardingStep s := by
  rw [isGuardingStep, isGuardingStep, Step.relocate, Node.shape_relocate]
  cases s.parent.shape <;> simp [Shape.map]

@[simp] theorem isGuarded_relocate (p : Path) : isGuarded (p.relocate f) = isGuarded p := by
  simp [isGuarded, Path.relocate, Function.comp_def]

@[simp] theorem accessorReceiver?_relocate (accessor : String) (n : Node) :
    accessorReceiver? accessor (n.relocate f) =
      (accessorReceiver? accessor n).map (Node.relocate f) := by
  rw [accessorReceiver?, accessorReceiver?, Node.shape_relocate]
  cases n.shape with
  | call func args keywords =>
    simp only [Shape.map, Node.shape_relocate]
    cases func.shape with
    | member value attr =>
      rw [apply_ite (Option.map (Node.relocate f))]
      rfl
    | _ => rfl
  | _ => rfl

@[simp] theorem hasEntry_relocate (key value : String) (keys : List (Option Node))
    (values : List Node) :
    hasEntry key value (keys.map (Option.map (Node.relocate f))) (values.map (Node.relocate f)) =
      hasEntry key value keys values := by
  simp [hasEntry, Node.zip_relocate, Function.comp_def, Node.bind_asStr?_relocate]

@[simp] theorem decoratorName?_relocate (n : Node) :
    decoratorName? (n.relocate f) = decoratorName? n := by
  rw [decoratorName?, decoratorName?, Node.shape_relocate]
  cases n.shape <;> simp [Shape.map]

@[simp] theorem isIdentityCheck_relocate (identity : Regex) (n : Node) :
    isIdentityCheck identity (n.relocate f) = isIdentityCheck identity n := by
  rw [isIdentityCheck, isIdentityCheck, Node.shape_relocate]
  cases n.shape with
  | compare left ops comparators =>
    simp only [Shape.map, ← List.map_cons, List.filterMap_map, Function.comp_def,
      Node.dottedName?_relocate]
  | _ => rfl

@[simp] theorem checksIdentity_relocate (identity : Regex) (body : List Node) :
    checksIdentity identity (body.map (Node.relocate f)) = checksIdentity identity body := by
  simp [checksIdentity, Function.comp_def]

end Requests

end Questions

section Rules

variable {info : RuleInfo}

/-- A way to complain about a node that does not look at locations. -/
def Placeless (complain : Node → List Finding) : Prop :=
  ∀ f n, complain (Node.relocate f n) = (complain n).map (Finding.relocate f)

theorem Catalog.callRule_isPlaceless (matcher : CallMatcher) {guard : Node → Bool}
    (hguard : ∀ f n, guard (Node.relocate f n) = guard n) :
    (callRule info matcher guard).IsPlaceless := by
  intro f n p
  simp only [callRule, CallMatcher.matches?_relocate, hguard, report_relocate]
  split
  · split <;> rfl
  · rfl

namespace Cryptography

theorem primitiveRule_isPlaceless (table : PrimitiveTable) {complain : String → Node → List Finding}
    (h : ∀ primitive, Placeless (complain primitive)) :
    (primitiveRule info table complain).IsPlaceless := by
  intro f n p
  simp only [primitiveRule, Node.bareCallee?_relocate, h _ f n]
  split
  · split <;> rfl
  · rfl

theorem weakKeySizeRule_isPlaceless (table : PrimitiveTable) (bitsKeyword : String) :
    (weakKeySizeRule info table bitsKeyword).IsPlaceless := by
  refine primitiveRule_isPlaceless table fun primitive f n => ?_
  simp only [PrimitiveTable.weakKey?_relocate, Catalog.report_relocate]
  split <;> rfl

theorem missingOperationsRule_isPlaceless (table : PrimitiveTable) :
    (missingOperationsRule info table).IsPlaceless := by
  refine primitiveRule_isPlaceless table fun primitive f n => ?_
  simp only [PrimitiveTable.missingOps_relocate, Catalog.report_relocate]
  split <;> rfl

end Cryptography

namespace Access

variable (s : Settings)

theorem entryRule_isPlaceless (names : List String) {complain : Node → List Finding}
    (h : Placeless complain) : (entryRule info names complain).IsPlaceless := by
  intro f n p
  simp only [entryRule, Node.callName?_relocate, h f n]
  split <;> rfl

theorem unsaltedHashRule_isPlaceless : (unsaltedHashRule info s).IsPlaceless := by
  refine entryRule_isPlaceless _ fun f n => ?_
  simp only [Node.strArg?_relocate, Catalog.report_relocate]
  split
  · split <;> rfl
  · rfl

theorem insecureSessionRule_isPlaceless : (insecureSessionRule info s).IsPlaceless := by
  refine entryRule_isPlaceless _ fun f n => ?_
  simp only [Node.strArg?_relocate, Catalog.report_relocate]
  split
  · split <;> rfl
  · rfl

theorem incompleteRule_isPlaceless : (incompleteRule info s).IsPlaceless := by
  refine entryRule_isPlaceless _ fun f n => ?_
  simp only [policyDict?_relocate, Catalog.report_relocate]
  cases policyDict? n with
  | none => rfl
  | some dict =>
    simp only [Option.map_some, Node.unpolicedKeys_relocate]
    split <;> rfl

theorem permissiveRule_isPlaceless : (permissiveRule info s).IsPlaceless := by
  refine entryRule_isPlaceless _ fun f n => ?_
  simp only [policyDict?_relocate, Catalog.report_relocate]
  cases policyDict? n with
  | none => rfl
  | some dict =>
    rcases s.policyWords with _ | ⟨allow, _ | ⟨deny, words⟩⟩
    · rfl
    · rfl
    · simp only [Option.map_some, Node.grantedPolicies_relocate]
      split <;> rfl

end Access

namespace Logging

variable (logger marker : Regex)

theorem broadHandlerRule_isPlaceless (broad : List String) :
    (broadHandlerRule info broad).IsPlaceless := by
  intro f n p
  simp only [broadHandlerRule, handlersOf_relocate, List.isEmpty_map, List.all_map,
    Function.comp_def, isBroad_relocate, Catalog.report_relocate]
  split <;> rfl

theorem unloggedHandlerRule_isPlaceless : (unloggedHandlerRule info logger).IsPlaceless := by
  intro f n p
  simp only [unloggedHandlerRule, handlersOf_relocate, List.isEmpty_map, List.any_map,
    Function.comp_def, Node.body_relocate, logsIn_relocate, Catalog.report_relocate]
  split <;> rfl

theorem deprecatedCallRule_isPlaceless (receiver : String) (names : List String) :
    (deprecatedCallRule info receiver names).IsPlaceless :=
  Catalog.callRule_isPlaceless _ fun f n => by rw [Node.receiverName?_relocate]

theorem withoutLevelRule_isPlaceless (levels : List String) :
    (withoutLevelRule info logger levels).IsPlaceless := by
  intro f n p
  simp only [withoutLevelRule, isMethodCall_relocate, isLogCall_relocate, Node.strArg?_relocate,
    Catalog.report_relocate]
  split
  · split
    · split <;> rfl
    · rfl
  · rfl

theorem printCallRule_isPlaceless : (printCallRule info logger).IsPlaceless := by
  intro f n p
  simp only [printCallRule, Node.bareCallee?_relocate, Path.enclosingFunction?_relocate,
    Catalog.report_relocate]
  split
  · cases p.enclosingFunction? with
    | none => rfl
    | some func =>
      simp only [Option.map_some, logsIn_relocate]
      split <;> rfl
  · rfl

theorem assertUsedRule_isPlaceless : (assertUsedRule info).IsPlaceless :=
  fun f n _ => Catalog.report_relocate f info n []

theorem todoUnloggedRule_isPlaceless : (todoUnloggedRule info logger marker).IsPlaceless := by
  intro f n p
  simp only [todoUnloggedRule, Node.shape_relocate, Catalog.report_relocate]
  cases n.shape with
  | functionDef name params decorators body docstring =>
    cases docstring with
    | none => rfl
    | some doc =>
      simp only [Shape.map, ownStatements_relocate, List.any_map, Function.comp_def,
        logsIn_relocate]
      split
      · split <;> rfl
      · rfl
  | _ => rfl

end Logging

theorem Secrets.hardcodedSecretRule_isPlaceless (names : List String) (pattern : Regex) :
    (hardcodedSecretRule info names pattern).IsPlaceless := by
  intro f n p
  simp only [hardcodedSecretRule, Node.shape_relocate]
  cases n.shape with
  | functionDef name params decorators body docstring =>
    simp only [Shape.map, List.mapIdx_eq_zipIdx_map, List.zipIdx_map, List.map_map,
      List.map_flatten]
    refine congrArg List.flatten (List.map_congr_left fun entry _ => ?_)
    obtain ⟨stmt, i⟩ := entry
    simp only [Function.comp_apply, Prod.map_apply, id_eq, leak?_relocate, Catalog.report_relocate]
    split <;> rfl
  | _ => rfl

namespace Network

variable (functions : Regex)

theorem networkRule_isPlaceless {complain : Node → List Finding} (h : Placeless complain) :
    (networkRule info functions complain).IsPlaceless := by
  intro f n p
  simp only [networkRule, Node.callPath?_relocate, h f n]
  split <;> rfl

theorem insecureProtocolRule_isPlaceless (protocols : Regex) :
    (insecureProtocolRule info functions protocols).IsPlaceless := by
  refine networkRule_isPlaceless functions fun f n => ?_
  rw [Node.strArg?_relocate]
  cases (n.strArg? 0).bind protocols.findIn? with
  | none => rfl
  | some scheme => exact Catalog.report_relocate ..

theorem verifyDisabledRule_isPlaceless (keyword : String) :
    (verifyDisabledRule info functions keyword).IsPlaceless := by
  refine networkRule_isPlaceless functions fun f n => ?_
  simp only [Node.keyword?_relocate, Option.any_map, Node.isBool_relocate, Catalog.report_relocate]
  split <;> rfl

theorem tlsKeywordsRule_isPlaceless (keywords : Regex) :
    (tlsKeywordsRule info functions keywords).IsPlaceless := by
  refine networkRule_isPlaceless functions fun f n => ?_
  rw [Node.keywordNames_relocate]
  split
  · rfl
  · exact Catalog.report_relocate ..

end Network

namespace Literals

theorem maliciousStringRule_isPlaceless (malicious : Regex) :
    (maliciousStringRule info malicious).IsPlaceless := by
  intro f n p
  dsimp only [maliciousStringRule]
  rw [literalText?_relocate]
  cases (literalText? n).bind malicious.findIn? with
  | none => rfl
  | some fragment => exact Catalog.report_relocate ..

theorem dangerousContextRule_isPlaceless (modules functions : List String) :
    (dangerousContextRule info modules functions).IsPlaceless := by
  intro f n p
  have hparent : (p.relocate f).parent?.bind (dangerousCallee? modules functions) =
      p.parent?.bind (dangerousCallee? modules functions) := by
    rw [Path.parent?_relocate]
    cases p.parent? <;> simp
  simp only [dangerousContextRule, hparent, Catalog.report_relocate]
  split <;> rfl

theorem obfuscatedStringRule_isPlaceless (disguise : Disguise) :
    (obfuscatedStringRule info disguise).IsPlaceless := by
  intro f n p
  dsimp only [obfuscatedStringRule]
  rw [literalText?_relocate]
  cases (literalText? n).bind disguise.inspect? with
  | none => rfl
  | some found => exact Catalog.report_relocate ..

theorem suspiciousImportRule_isPlaceless (s : Settings) :
    (suspiciousImportRule info s).IsPlaceless := by
  intro f n p
  simp only [suspiciousImportRule, importedModules_relocate, List.map_flatMap,
    Catalog.report_relocate]
  refine List.flatMap_congr fun module _ => ?_
  split <;> rfl

theorem dangerousBuiltinRule_isPlaceless (names : List String) :
    (dangerousBuiltinRule info names).IsPlaceless :=
  Catalog.callRule_isPlaceless _ fun f n => by rw [Node.bareCallee?_relocate]

end Literals

namespace Branching

theorem invalidRangeRule_isPlaceless : (invalidRangeRule info).IsPlaceless := by
  intro f n p
  simp only [invalidRangeRule, Node.shape_relocate, Catalog.report_relocate]
  cases n.shape with
  | forLoop target iter body orelse =>
    simp only [Shape.map, Node.rangeArgs?_relocate, Node.targetLabel_relocate]
    cases iter.rangeArgs? with
    | none => rfl
    | some range =>
      simp only [Option.map_some, Node.isSoundRange_relocate]
      split
      · rfl
      · simp [RangeArgs.relocate]
  | _ => rfl

theorem conditionRule_isPlaceless (kind : Kind) : (conditionRule info kind).IsPlaceless := by
  intro f n p
  simp only [conditionRule, Node.shape_relocate, Catalog.report_relocate]
  cases n.shape with
  | whileLoop test body orelse =>
    simp only [Shape.map, Node.isInvalidCondition_relocate]
    split <;> rfl
  | conditional test body orelse =>
    simp only [Shape.map, Node.isInvalidCondition_relocate]
    split <;> rfl
  | _ => rfl

theorem nonRangeRule_isPlaceless : (nonRangeRule info).IsPlaceless := by
  intro f n p
  simp only [nonRangeRule, Node.shape_relocate, Catalog.report_relocate]
  cases n.shape with
  | forLoop target iter body orelse =>
    simp only [Shape.map, Node.rangeArgs?_relocate, Option.isNone_map]
    split <;> rfl
  | _ => rfl

end Branching

namespace Environment

theorem iniFileRule_isPlaceless (suffixes : List String) :
    (iniFileRule info suffixes).IsPlaceless := by
  intro f n p
  simp only [iniFileRule, Node.callName?_relocate, Node.strArg?_relocate, Catalog.report_relocate]
  split
  · split
    · split <;> rfl
    · rfl
  · rfl

theorem shellCommandRule_isPlaceless (launchers tools : List String) :
    (shellCommandRule info launchers tools).IsPlaceless := by
  intro f n p
  simp only [shellCommandRule, Node.callPath?_relocate, Node.strArg?_relocate,
    Catalog.report_relocate]
  split
  · split
    · split <;> rfl
    · rfl
  · rfl

end Environment

namespace Requests

theorem unvalidatedKeyRule_isPlaceless (keys : Regex) (accessor : String) :
    (unvalidatedKeyRule info keys accessor).IsPlaceless := by
  intro f n p
  simp only [unvalidatedKeyRule, accessorReceiver?_relocate, Option.isSome_map,
    Node.strArg?_relocate, isGuarded_relocate, Catalog.report_relocate]
  split
  · split
    · split <;> rfl
    · rfl
  · rfl

theorem unvalidatedQueryRule_isPlaceless (source : Regex) (accessor : String) :
    (unvalidatedQueryRule info source accessor).IsPlaceless := by
  intro f n p
  simp only [unvalidatedQueryRule, accessorReceiver?_relocate, Option.bind_map, Function.comp_def,
    Node.dottedName?_relocate, Node.strArg?_relocate, isGuarded_relocate, Catalog.report_relocate]
  split <;> rfl

theorem jsonResponseRule_isPlaceless (s : Settings) : (jsonResponseRule info s).IsPlaceless := by
  intro f n p
  simp only [jsonResponseRule, Node.callName?_relocate, Node.positional_relocate,
    Catalog.report_relocate]
  cases n.callName?.filter s.jsonResponders.contains with
  | none => rfl
  | some name =>
    cases n.positional with
    | nil => rfl
    | cons first rest =>
      simp only [List.map_cons, Node.shape_relocate]
      cases first.shape with
      | dict keys values =>
        simp only [Shape.map, hasEntry_relocate]
        split <;> rfl
      | _ => rfl

theorem loginRequiredRule_isPlaceless (names : List String) (identity : Regex) :
    (loginRequiredRule info names identity).IsPlaceless := by
  intro f n p
  simp only [loginRequiredRule, Node.shape_relocate, Catalog.report_relocate]
  cases n.shape with
  | functionDef name params decorators body docstring =>
    simp only [Shape.map, List.findSome?_map, Function.comp_def, decoratorName?_relocate,
      checksIdentity_relocate]
    split
    · split <;> rfl
    · rfl
  | _ => rfl

end Requests

end Rules

/-- No built-in rule looks at locations. -/
theorem Rule.IsBuiltIn.isPlaceless {r : Rule} (h : r.IsBuiltIn) : r.IsPlaceless := by
  cases h with
  | call _ matcher => exact Catalog.callRule_isPlaceless matcher fun _ _ => rfl
  | weakKeySize _ table keyword => exact Cryptography.weakKeySizeRule_isPlaceless table keyword
  | missingOperations _ table => exact Cryptography.missingOperationsRule_isPlaceless table
  | unsaltedHash _ s => exact Access.unsaltedHashRule_isPlaceless s
  | insecureSession _ s => exact Access.insecureSessionRule_isPlaceless s
  | incomplete _ s => exact Access.incompleteRule_isPlaceless s
  | permissive _ s => exact Access.permissiveRule_isPlaceless s
  | broadHandler _ broad => exact Logging.broadHandlerRule_isPlaceless broad
  | unloggedHandler _ logger => exact Logging.unloggedHandlerRule_isPlaceless logger
  | deprecatedCall _ receiver names => exact Logging.deprecatedCallRule_isPlaceless receiver names
  | withoutLevel _ logger levels => exact Logging.withoutLevelRule_isPlaceless logger levels
  | printCall _ logger => exact Logging.printCallRule_isPlaceless logger
  | assertUsed => exact Logging.assertUsedRule_isPlaceless
  | todoUnlogged _ logger marker => exact Logging.todoUnloggedRule_isPlaceless logger marker
  | hardcodedSecret _ names pattern => exact Secrets.hardcodedSecretRule_isPlaceless names pattern
  | insecureProtocol _ functions protocols =>
    exact Network.insecureProtocolRule_isPlaceless functions protocols
  | verifyDisabled _ functions keyword =>
    exact Network.verifyDisabledRule_isPlaceless functions keyword
  | tlsKeywords _ functions keywords => exact Network.tlsKeywordsRule_isPlaceless functions keywords
  | maliciousString _ malicious => exact Literals.maliciousStringRule_isPlaceless malicious
  | dangerousContext _ modules functions =>
    exact Literals.dangerousContextRule_isPlaceless modules functions
  | obfuscatedString _ disguise => exact Literals.obfuscatedStringRule_isPlaceless disguise
  | suspiciousImport _ s => exact Literals.suspiciousImportRule_isPlaceless s
  | dangerousBuiltin _ names => exact Literals.dangerousBuiltinRule_isPlaceless names
  | invalidRange => exact Branching.invalidRangeRule_isPlaceless
  | whileCondition _ => exact Branching.conditionRule_isPlaceless _
  | ifCondition _ => exact Branching.conditionRule_isPlaceless _
  | nonRange => exact Branching.nonRangeRule_isPlaceless
  | iniFile _ suffixes => exact Environment.iniFileRule_isPlaceless suffixes
  | shellCommand _ launchers tools => exact Environment.shellCommandRule_isPlaceless launchers tools
  | unvalidatedKey _ keys accessor => exact Requests.unvalidatedKeyRule_isPlaceless keys accessor
  | unvalidatedQuery _ source accessor =>
    exact Requests.unvalidatedQueryRule_isPlaceless source accessor
  | jsonResponse _ s => exact Requests.jsonResponseRule_isPlaceless s
  | loginRequired _ names identity => exact Requests.loginRequiredRule_isPlaceless names identity

/-- The diagnostic at another place. -/
def Diagnostic.relocate (f : Location → Location) (d : Diagnostic) : Diagnostic :=
  { d with loc := f d.loc }

theorem Visit.function?_relocate (f : Location → Location) (v : Visit) :
    (v.relocate f).function? = v.function? := by
  simp only [function?, relocate, Path.ancestors_relocate, List.findSome?_cons,
    List.findSome?_map, Function.comp_def, Node.functionName?_relocate]

namespace Rule

variable {r : Rule} {rules : List Rule}

theorem IsPlaceless.verdict_relocate (h : r.IsPlaceless) (f : Location → Location) (v : Visit) :
    r.verdict (v.relocate f) = (r.verdict v).map (Diagnostic.relocate f) := by
  rw [verdict, verdict, v.function?_relocate]
  simp only [Visit.relocate, Node.kind_relocate, h f]
  split
  · rw [List.map_map, List.map_map]
    rfl
  · rfl

/-- Placeless rules say about a tree whose nodes are moved what they say about the tree. -/
theorem verdicts_relocate (h : ∀ r ∈ rules, r.IsPlaceless) (f : Location → Location)
    (root : Node) :
    verdicts rules (root.relocate f) = (verdicts rules root).map (Diagnostic.relocate f) := by
  rw [verdicts, verdicts, Node.preorder_relocate, List.flatMap_map, List.map_flatMap]
  refine List.flatMap_congr fun v _ => ?_
  rw [List.map_flatMap]
  exact List.flatMap_congr fun r hr => (h r hr).verdict_relocate f v

end Rule

/-- Whatever settings are built and wherever the nodes of a module are moved, a scan of the moved
module reports what a scan of the module reports, diagnostic by diagnostic, at the places to which
the diagnostics are moved. Nodes may be moved to the same place. -/
theorem RuleSettings.scan_relocate {s : RuleSettings} {g : Registry} (built : s.build = .ok g)
    (f : Location → Location) (loc : Location) (body : List Node) :
    ∃ ds, g.scan ⟨loc, .module body⟩ = .ok ds ∧
      g.scan (Node.relocate f ⟨loc, .module body⟩) =
        .ok (ds.map fun d => { d with loc := f d.loc }) := by
  have hplaceless : ∀ r ∈ g.rules, r.IsPlaceless :=
    fun r hr => (allBuiltIn_of_build built r hr).isPlaceless
  refine ⟨_, scan_of_build built rfl, ?_⟩
  rw [scan_of_build built (Node.kind_relocate f _), Rule.verdicts_relocate hplaceless]
  rfl

/-- The branches of a comparison read the same header on different lines, and are equal after
everything is moved to one place. -/
theorem RuleSettings.scan_relocate_blank :
    let get (l : Location) : Node := ⟨l, .member ⟨l, .name "headers"⟩ "get"⟩
    let read (l : Location) : Node := ⟨l, .expr ⟨l, .call (get l) [⟨l, .str "key" false⟩] []⟩⟩
    let test : Node := ⟨⟨1, 4⟩, .compare ⟨⟨1, 4⟩, .name "x"⟩ [.eq] [⟨⟨1, 9⟩, .str "a" false⟩]⟩
    let branch : Node := ⟨⟨1, 1⟩, .conditional test [read ⟨2, 5⟩] [read ⟨4, 5⟩]⟩
    let f : Location → Location := fun _ => ⟨1, 1⟩
    read ⟨2, 5⟩ ≠ read ⟨4, 5⟩ ∧ (read ⟨2, 5⟩).relocate f = (read ⟨4, 5⟩).relocate f ∧
      ∃ g, blank.build = .ok g ∧ ∃ ds, g.scan ⟨⟨1, 1⟩, .module [branch]⟩ = .ok ds ∧
        g.scan (Node.relocate f ⟨⟨1, 1⟩, .module [branch]⟩) =
          .ok (ds.map fun d => { d with loc := ⟨1, 1⟩ }) := by
  intro get read test branch f
  have hmove : ∀ l shape, Node.relocate f ⟨l, shape⟩ = ⟨⟨1, 1⟩, shape.map (Node.relocate f)⟩ :=
    fun l shape => Node.relocate_eq f ⟨l, shape⟩
  obtain ⟨g, hg⟩ := exists_build isValid_blank
  refine ⟨by simp [read], ?_, g, hg, scan_relocate hg f ⟨1, 1⟩ [branch]⟩
  simp [read, get, hmove, Shape.map]

end CodeAudit
