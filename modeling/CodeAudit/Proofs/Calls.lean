import CodeAudit.Proofs.Kept.Statements
import CodeAudit.Proofs.Walk

/-!
# Walks reach the calls of a source

Whatever is reached in a part is reached in the construct around the part. So an expression that is
inside the tree of a text, and in no part that is left out, is among the nodes of the module. A walk
hands out all of them.

What is left out is really lost: in a text with a call in every such part, the walk comes to none of
these calls.
-/

namespace CodeAudit

open Grammar

namespace Tree

/-- An expression is reached from all trees that keep it. -/
theorem Inside.reached {s : Tree} (hs : s.isEvaluated) {outer : Option Label} {t : Tree}
    (h : s.Inside leavesOut outer t) (hformed : t.WellFormed) : Reached s outer t := by
  induction h with
  | here outer => exact .self hs outer
  | @deeper outer t c pre post split taken rest ih =>
    have hc : c ∈ t.children := by
      rw [split]
      exact List.mem_append_right pre List.mem_cons_self
    have hpasses : Passes s outer t pre c post :=
      ⟨hs, hformed, split, taken, ih (hformed.of_mem_children hc)⟩
    exact hpasses.reaches

end Tree

namespace Node

/-- An expression that the tree of a text keeps is below the module. -/
theorem expr_mem_descendants {t s : Tree} (ht : t.IsModule) (hs : s.isEvaluated)
    (h : s.Inside Tree.leavesOut none t) : s.read.expr ∈ (ofTree t).descendants := by
  have hmodule : t.is .module := by
    rw [Tree.is, ht.label]
    rfl
  have hfound : Tree.Found s [ofTree t] :=
    Tree.Found.up ((h.reached hs ht.wellFormed).contents (.inr hmodule))
  obtain ⟨n, hn, hmem⟩ := hfound
  rwa [List.mem_singleton.mp hn] at hmem

/-- The walk of a module comes to every expression that the tree of the text keeps. -/
theorem exists_visit_of_inside {t s : Tree} (ht : t.IsModule) (hs : s.isEvaluated)
    (h : s.Inside Tree.leavesOut none t) :
    ∃ v ∈ (ofTree t).visits, v.node = s.read.expr ∧ v.node.loc = s.loc ∧
      (s.is .call → v.node.kind = .call) := by
  have hmem := expr_mem_descendants ht hs h
  rw [← map_node_preorder, ← visits_eq_preorder] at hmem
  obtain ⟨v, hv, hnode⟩ := List.mem_map.mp hmem
  refine ⟨v, hv, hnode, ?_, fun hcall => ?_⟩
  · rw [hnode, (Tree.expr_read_of_isEvaluated hs).1]
  · rw [hnode, Tree.kind_read_of_call hcall]

/-- A module that is made from a source comes from the tree of the source. -/
theorem exists_tree_of_ofSource {bytes : ByteArray} {root : Node} (h : ofSource bytes = .ok root) :
    ∃ chars t, Utf8.decode bytes = .ok chars ∧ Tree.ofSource? (.ofChars chars) = some t ∧
      root = ofTree t := by
  unfold ofSource at h
  split at h
  · cases h
  · rename_i chars hdecode
    split at h
    · rename_i t htree
      cases h
      exact ⟨chars, t, hdecode, htree, rfl⟩
    · cases h

end Node

/-- A walk of what is made from a source comes to every expression of the source that is evaluated, at
the place where it starts and, if it is a call, as a call. Only what `Tree.leavesOut` lists is excepted.
The same holds for all trees that follow the grammar, by whatever parser they are found. -/
theorem Node.walk_comes_to_calls :
    (∀ bytes root, ofSource bytes = .ok root →
      ∃ chars t, Utf8.decode bytes = .ok chars ∧ Tree.ofSource? (.ofChars chars) = some t ∧
        ∀ s : Tree, s.isEvaluated → s.Inside Tree.leavesOut none t →
          ∃ v ∈ root.visits, v.node = s.read.expr ∧ v.node.loc = s.loc ∧
            (s.is .call → v.node.kind = .call)) ∧
    ∀ t s : Tree, t.IsModule → s.isEvaluated → s.Inside Tree.leavesOut none t →
      ∃ v ∈ (ofTree t).visits, v.node = s.read.expr ∧ v.node.loc = s.loc ∧
        (s.is .call → v.node.kind = .call) := by
  constructor
  · intro bytes root h
    obtain ⟨chars, t, hdecode, htree, rfl⟩ := exists_tree_of_ofSource h
    have ht := Tree.isModule_of_ofSource? htree
    exact ⟨chars, t, hdecode, htree, fun s hs hinside => exists_visit_of_inside ht hs hinside⟩
  · intro t s ht hs hinside
    exact exists_visit_of_inside ht hs hinside

/-! ### What is left out

A text with a call in every kind of part that a reading makes no use of, with a call after a continued
line, and with one call more. Its tree is given by a derivation. -/

namespace Sample

def word (line : Nat) (gap : String) (col : Nat) (text : String) : Outline :=
  .token [] (.literal text) ⟨gap, ⟨line, col⟩, text⟩

/-- The end of a line. -/
def newline (line col : Nat) : Outline := .token [] .newline ⟨"", ⟨line, col⟩, ""⟩

def literal (text : String) : Symbol := .token (.literal text)

/-- A form without marks. -/
def plain (symbols : List Symbol) : Form := { steps := symbols.map fun s => ⟨s, {}⟩ }

/-- A construct that consists of another one. -/
def chain (head part : Symbol) (o : Outline) : Outline := .form head (plain [part]) [o]

/-- A part with a role. -/
def having (role : Role) (s : Symbol) : Grammar.Step := ⟨s, { role := some role }⟩

def name (line : Nat) (gap : String) (col : Nat) (text : String) : Outline :=
  .token [] .identifier ⟨gap, ⟨line, col⟩, text⟩

def nameExpression (line : Nat) (gap : String) (col : Nat) (text : String) : Outline :=
  chain (.phrase .expression) (.phrase .primaryExpression) <|
    chain (.phrase .primaryExpression) (.token .identifier) (name line gap col text)

/-- A name as an operand, after `extras`. -/
def operand (line : Nat) (gap : String) (col : Nat) (text : String)
    (extras : List (Terminal × Lexeme) := []) : Outline :=
  chain (.phrase .primaryExpression) (.token .identifier) (.token extras .identifier ⟨gap, ⟨line, col⟩, text⟩)

/-- An expression in brackets. -/
def bracketed (opening o closing : Outline) : Outline :=
  chain (.phrase .expression) (.phrase .primaryExpression) <|
    chain (.phrase .primaryExpression) (.phrase .parenthesizedExpression) <|
      .form (.phrase .parenthesizedExpression) { steps :=
          [literal "(", .phrase .expression, literal ")"].map fun s => ⟨s, { level := some 1 }⟩ }
        [opening, o, closing]

/-- A call without arguments, in the line `line` and after `extras`. -/
def call (line : Nat) (gap : String) (col : Nat) (text : String)
    (extras : List (Terminal × Lexeme) := []) : Outline :=
  chain (.phrase .expression) (.phrase .primaryExpression) <|
    chain (.phrase .primaryExpression) (.phrase .call) <|
      .form (.phrase .call) { steps :=
          [⟨.phrase .primaryExpression, { level := some 22, role := some .function }⟩,
            ⟨.phrase .argumentList, { level := some 22, role := some .arguments }⟩] }
        [chain (.phrase .primaryExpression) (.token .identifier)
            (.token extras .identifier ⟨gap, ⟨line, col⟩, text⟩),
          .form (.phrase .argumentList) (plain [literal "(", literal ")"])
            [word line "" (col + 1) "(", word line "" (col + 2) ")"]]

def type (o : Outline) : Outline :=
  .form (.phrase .type) { steps := [⟨.phrase .expression, { level := some 1 }⟩] } [o]

/-- A simple statement in a line of its own. -/
def simple (p : Phrase) (o : Outline) (line col : Nat) : Outline :=
  .form (.phrase .simpleStatements) (plain [.phrase p, .token .newline]) [o, newline line col]

/-- A simple statement as the body of another one. -/
def suite (role : Option Role) : Grammar.Step :=
  ⟨.phrase .simpleStatements, { label := some (.phrase .block), role := role }⟩

/-- `[T: a()]` -/
def typeParameters : Outline :=
  .form (.phrase .typeParameter) (plain [literal "[", .phrase .type, literal "]"])
    [word 1 "" 6 "[",
      chain (.phrase .type) (.phrase .constrainedType) <|
        .form (.phrase .constrainedType) { steps :=
            [.phrase .type, literal ":", .phrase .type].map fun s =>
              ⟨s, { level := some 0, assoc := some .right }⟩ }
          [type (nameExpression 1 "" 7 "T"), word 1 "" 8 ":", type (call 1 " " 10 "a")],
      word 1 "" 13 "]"]

/-- `(x=b())` -/
def parameters : Outline :=
  .form (.phrase .parameters) (plain [literal "(", .phrase .parameterList, literal ")"])
    [word 1 "" 14 "(",
      chain (.phrase .parameterList) (.phrase .parameter) <|
        chain (.phrase .parameter) (.phrase .defaultParameter) <|
          .form (.phrase .defaultParameter) { steps :=
              [having .name (.token .identifier), ⟨literal "=", {}⟩,
                having .value (.phrase .expression)] }
            [name 1 "" 15 "x", word 1 "" 16 "=", call 1 "" 17 "b"],
      word 1 "" 20 ")"]

/-- `def f[T: a()](x=b()) -> c(): return`, continued in the second line with `d()` -/
def function : Outline :=
  .form (.phrase .functionDefinition) { steps :=
      [⟨literal "def", {}⟩, having .name (.token .identifier),
        having .typeParameters (.phrase .typeParameter), having .parameters (.phrase .parameters),
        ⟨literal "->", {}⟩, having .returnType (.phrase .type), ⟨literal ":", {}⟩,
        suite (some .body)] }
    [word 1 "" 1 "def", name 1 " " 5 "f", typeParameters, parameters, word 1 " " 22 "->",
      type (call 1 " " 25 "c"), word 1 "" 28 ":",
      simple .returnStatement
        (.form (.phrase .returnStatement) (plain [literal "return", .phrase .expression])
          [word 1 " " 30 "return", call 2 "" 1 "d" [(.lineContinuation, ⟨" ", ⟨1, 37⟩, "\\\n"⟩)]])
        2 4]

/-- `assert x, x, e()` -/
def assertion : Outline :=
  .form (.phrase .assertStatement) (plain [literal "assert", .phrase .expression, .loop 5])
    [word 3 "\n" 1 "assert", nameExpression 3 " " 8 "x",
      .form (.loop 5) { steps := [.loop 5, .loop 5].map fun s =>
          ⟨s, { level := some 0, assoc := some .left }⟩ }
        [.form (.loop 5) (plain [literal ",", .phrase .expression])
            [word 3 "" 9 ",", nameExpression 3 " " 11 "x"],
          .form (.loop 5) (plain [literal ",", .phrase .expression])
            [word 3 "" 12 ",", call 3 " " 14 "e"]]]

/-- A hole of an f-string, perhaps with a format. -/
def hole (specifier : List Grammar.Step) (parts : List Outline) : Outline :=
  .form (.phrase .interpolation) { steps :=
      [⟨literal "\x7b", {}⟩, having .expression (.phrase .holeExpression)] ++ specifier ++
        [⟨literal "\x7d", {}⟩] }
    parts

/-- An f-string for `x`, with a format that is `g()` -/
def formatted : Outline :=
  let format := hole []
    [word 4 "" 6 "\x7b",
      chain (.phrase .holeExpression) (.phrase .expression) (call 4 "" 7 "g"),
      word 4 "" 10 "\x7d"]
  let specifier := .form (.phrase .formatSpecifier) (plain [literal ":", .loop 31])
    [word 4 "" 5 ":",
      .form (.loop 31) { steps :=
        [⟨.phrase .interpolation, { label := some (.phrase .formatExpression) }⟩] } [format]]
  let value := hole [having .formatSpecifier (.phrase .formatSpecifier)]
    [word 4 "" 3 "\x7b",
      chain (.phrase .holeExpression) (.phrase .expression) (nameExpression 4 "" 4 "x"),
      specifier, word 4 "" 11 "\x7d"]
  chain (.phrase .expressionStatement) (.phrase .expression) <|
    chain (.phrase .expression) (.phrase .primaryExpression) <|
      chain (.phrase .primaryExpression) (.phrase .string) <|
        .form (.phrase .string) (plain [.token .stringStart, .loop 29, .token .stringEnd])
          [.token [] .stringStart ⟨"\n", ⟨4, 1⟩, "f\""⟩, chain (.loop 29) (.phrase .interpolation) value,
            .token [] .stringEnd ⟨"", ⟨4, 12⟩, "\""⟩]

/-- `except E, h(): pass` -/
def handler : Outline :=
  .form (.phrase .exceptClause) { steps :=
      [⟨literal "except", {}⟩, having .value (.phrase .expression), ⟨literal ",", {}⟩,
        having .alias (.phrase .expression), ⟨literal ":", {}⟩, suite none] }
    [word 6 "\n" 1 "except", nameExpression 6 " " 8 "E", word 6 "" 9 ",", call 6 " " 11 "h",
      word 6 "" 14 ":",
      simple .passStatement
        (.form (.phrase .passStatement) { steps :=
            [⟨literal "pass", { level := some 0, assoc := some .left }⟩] }
          [word 6 " " 16 "pass"])
        6 20]

/-- `try: k()`, with the handler -/
def trial : Outline :=
  .form (.phrase .tryStatement) { steps :=
      [⟨literal "try", {}⟩, ⟨literal ":", {}⟩, suite (some .body), ⟨.loop 10, {}⟩] }
    [word 5 "\n" 1 "try", word 5 "" 4 ":",
      simple .expressionStatement
        (chain (.phrase .expressionStatement) (.phrase .expression) (call 5 " " 6 "k")) 5 9,
      chain (.loop 10) (.phrase .exceptClause) handler]

/-- A statement of the module. -/
def statement (p : Phrase) (o : Outline) : Outline :=
  chain (.loop 0) (.phrase .statement) (chain (.phrase .statement) (.phrase p) o)

/-- Statements one after another. -/
def followedBy (o o' : Outline) : Outline :=
  .form (.loop 0) { steps := [.loop 0, .loop 0].map fun s =>
    ⟨s, { level := some 0, assoc := some .left }⟩ } [o, o']

/-- All statements of the text. -/
def outline : Outline :=
  chain (.phrase .module) (.loop 0) <|
    followedBy
      (followedBy
        (followedBy
          (statement .functionDefinition function)
          (statement .simpleStatements (simple .assertStatement assertion 3 17)))
        (statement .simpleStatements (simple .expressionStatement formatted 4 13)))
      (statement .tryStatement trial)

theorem isValid_outline : outline.isValid Symbol.hasForm = true := by
  decide +kernel

/-- The tree of the text. -/
def module : Tree :=
  .node (.phrase .module) none
    (outline.fragment.lead ++ outline.fragment.trees ++ [] ++
      [.leaf (.token .endOfFile) none ⟨"\n", ⟨7, 1⟩, ""⟩])

theorem isModule_module : module.IsModule :=
  .statements outline.fragment [] .endOfFile _
    (outline.derived_fragment Symbol.ofForm_mem_allProductions isValid_outline) rfl
    fun _ ht => absurd ht List.not_mem_nil

/-- The places of the calls among some trees. -/
def places (ts : List Tree) : List Location := (ts.filter (·.is .call)).map Tree.loc

/-- The places where calls are left out. -/
def missed : List Location := [⟨1, 10⟩, ⟨1, 17⟩, ⟨1, 25⟩, ⟨2, 1⟩, ⟨3, 14⟩, ⟨4, 7⟩, ⟨6, 11⟩]

theorem mem_places_of_missed :
    ∀ loc ∈ missed, loc ∈ places (module.insides (fun _ _ _ _ => false) none) := by
  decide +kernel

theorem places_kept : places (module.insides Tree.leavesOut none) = [⟨5, 6⟩] := by
  decide +kernel

theorem loc_of_descendant :
    ∀ n ∈ (Node.ofTree module).descendants, n.kind = .call → n.loc = ⟨5, 6⟩ := by
  decide +kernel

theorem exists_call {skips : Option Label → Tree → List Tree → Tree → Bool} {loc : Location}
    (h : loc ∈ places (module.insides skips none)) :
    ∃ s : Tree, s.is .call ∧ s.loc = loc ∧ s.Inside skips none module := by
  obtain ⟨s, hs, rfl⟩ := List.mem_map.mp h
  obtain ⟨hinside, hcall⟩ := List.mem_filter.mp hs
  exact ⟨s, hcall, rfl, Tree.inside_of_mem_insides none module hinside⟩

end Sample

/-- The call in the body of the `try` is visited. -/
theorem Node.walk_comes_to_calls_in_body :
    ∃ s : Tree, Sample.module.IsModule ∧ s.isEvaluated ∧ s.Inside Tree.leavesOut none Sample.module ∧
      ∃ v ∈ (ofTree Sample.module).visits, v.node = s.read.expr ∧ v.node.loc = ⟨5, 6⟩ ∧
        v.node.kind = .call := by
  have hkept : ⟨5, 6⟩ ∈ Sample.places (Sample.module.insides Tree.leavesOut none) := by
    rw [Sample.places_kept]
    exact List.mem_singleton_self _
  obtain ⟨s, hcall, hplace, hinside⟩ := Sample.exists_call hkept
  have hs : s.isEvaluated := by
    rw [Tree.isEvaluated, Tree.label_eq hcall]
    rfl
  obtain ⟨v, hv, hnode, hloc, hkind⟩ :=
    walk_comes_to_calls.2 _ s Sample.isModule_module hs hinside
  exact ⟨s, Sample.isModule_module, hs, hinside, v, hv, hnode, hloc.trans hplace, hkind hcall⟩

/-- The calls that are left out are in the tree, but a walk comes to no call at their places. -/
theorem Node.walk_misses_calls :
    Sample.module.IsModule ∧ ∀ loc ∈ Sample.missed,
      (∃ s : Tree, s.is .call ∧ s.loc = loc ∧ s.Inside (fun _ _ _ _ => false) none Sample.module) ∧
        ∀ v ∈ (ofTree Sample.module).visits, v.node.kind = .call → v.node.loc ≠ loc := by
  refine ⟨Sample.isModule_module, fun loc hmissed =>
    ⟨Sample.exists_call (Sample.mem_places_of_missed loc hmissed), fun v hv hcall hloc => ?_⟩⟩
  have hmem : v.node ∈ (ofTree Sample.module).descendants := by
    rw [← map_node_preorder, ← visits_eq_preorder]
    exact List.mem_map_of_mem hv
  rw [← hloc, Sample.loc_of_descendant _ hmem hcall] at hmissed
  revert hmissed
  decide

end CodeAudit
