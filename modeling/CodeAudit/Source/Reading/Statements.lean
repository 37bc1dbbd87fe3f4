import CodeAudit.Source.Reading.Expressions

/-!
# Reading statements

Each branch of an `if` after the first is an `if` of its own in the alternative of the one before.
Assignments in a row are one node with several targets. A function is located at its own beginning,
also when decorators stand before it.
-/

namespace CodeAudit.Reading

/-- The name that a parameter binds, if it binds a single one. -/
def parameterName? (p : Reading) : Option String :=
  if p.tree.isToken .identifier then some p.text
  else if p.is .keywordSeparator || p.is .positionalSeparator then none
  else
    let name := (find? p.children .name).or
      ((named p.children).find? fun c => c.tree.isToken .identifier)
    name.map text

/-- The text of a statement that is nothing but a string. -/
def documentation? (stmt : Node) : Option String :=
  match stmt.shape with
  | .expr value => value.asStr?
  | _ => none

/-- The node of a function definition. -/
def function (t : Tree) (cs : List Reading) : Node :=
  let params := match find? cs .parameters with
    | some list => (named list.children).filterMap parameterName?
    | none => []
  let body := blockOf cs .body
  ⟨t.loc, .functionDef (textOf cs .name) params [] body (body.head?.bind documentation?)⟩

/-- A function definition with decorators. -/
def decorate (decorators : List Node) (function : Node) : Node :=
  match function.shape with
  | .functionDef name params _ body docstring =>
    ⟨function.loc, .functionDef name params decorators body docstring⟩
  | _ => function

/-- The node of a definition with decorators. -/
def decorated (t : Tree) (cs : List Reading) : Node :=
  let decorators := ((named cs).filter fun c => c.is .decorator).filterMap fun d =>
    (named d.children).head?.map expr
  match find? cs .definition with
  | some definition =>
    if definition.is .functionDefinition then decorate decorators definition.stmt
    else ⟨t.loc, .other t.label.text (decorators ++ definition.nodes)⟩
  | none => other t cs

/-- The node of an assignment. -/
def assignment (t : Tree) (cs : List Reading) : Node :=
  let target := exprOf t (find? cs .left)
  match find? cs .type, find? cs .right with
  | some type, value => ⟨t.loc, .annAssign target type.expr (value.map expr)⟩
  | none, some right =>
    let chained := right.is .assignment && (find? right.children .type).isNone
    match right.stmt.shape with
    | .assign targets value =>
      if chained then ⟨t.loc, .assign (target :: targets) value⟩
      else ⟨t.loc, .assign [target] right.expr⟩
    | _ => ⟨t.loc, .assign [target] right.expr⟩
  | none, none => ⟨t.loc, .assign [target] (exprOf t none)⟩

/-- The node of an expression that stands alone, or of an assignment. -/
def expressionStatement (t : Tree) (cs : List Reading) : Node :=
  match named cs with
  | [one] => if one.is .assignment then one.stmt else ⟨t.loc, .expr one.expr⟩
  | several => ⟨t.loc, .expr ⟨t.loc, .other "expression_list" (several.map expr)⟩⟩

/-- The alternative that a clause stands for, where `later` is the alternative after it. -/
def alternative (clause : Reading) (later : List Node) : List Node :=
  if clause.is .elseClause then clauseBody clause
  else if clause.is .elifClause then
    [⟨clause.loc, .conditional (exprOf clause.tree (find? clause.children .condition))
      (blockOf clause.children .consequence) later⟩]
  else later

/-- The node of an `if` with all its branches. -/
def conditional (t : Tree) (cs : List Reading) : Node :=
  ⟨t.loc, .conditional (exprOf t (find? cs .condition)) (blockOf cs .consequence)
    ((findAll cs .alternative).foldr alternative [])⟩

/-- The statements after `else` of a loop. -/
def loopElse (cs : List Reading) : List Node :=
  match find? cs .alternative with
  | some clause => clauseBody clause
  | none => []

/-- What a handler catches, and under which name. -/
def caught (parts : List Reading) : Option Node × Option String :=
  match parts with
  | [] => (none, none)
  | first :: rest =>
    if first.is .asPattern then
      let target := (find? first.children .alias).or
        ((named first.children).find? fun c => c.is .asPatternTarget)
      ((named first.children).head?.map expr, target.map text)
    else (some first.expr, rest.head?.map text)

/-- The node of a handler. -/
def handler (clause : Reading) : Node :=
  let (type, name) := caught ((named clause.children).filter fun c => !c.is .block)
  ⟨clause.loc, .handler type name (clauseBody clause)⟩

/-- The statements of the last clause of a kind. -/
def lastClause (cs : List Reading) (p : Phrase) : List Node :=
  match ((named cs).filter fun c => c.is p).getLast? with
  | some clause => clauseBody clause
  | none => []

/-- The node of a `try` statement. -/
def tryBlock (t : Tree) (cs : List Reading) : Node :=
  let handlers := ((named cs).filter fun c => c.is .exceptClause || c.is .exceptGroupClause).map
    handler
  ⟨t.loc, .tryBlock (blockOf cs .body) handlers (lastClause cs .elseClause)
    (lastClause cs .finallyClause)⟩

/-- A name of an import statement. -/
def importedName (c : Reading) : ImportedName :=
  if c.is .aliasedImport then
    ⟨textOf c.children .name, (find? c.children .alias).map text⟩
  else ⟨c.text, none⟩

/-- The names of an import statement. -/
def importedNames (cs : List Reading) : List ImportedName :=
  (findAll cs .name).map importedName ++
    (if (named cs).any fun c => c.is .wildcardImport then [⟨"*", none⟩] else [])

/-- The node of an assertion. -/
def assertion (t : Tree) (cs : List Reading) : Node :=
  let parts := named cs
  ⟨t.loc, .assertion (exprOf t parts.head?) ((parts.drop 1).head?.map expr)⟩

/-- The node of a construct where a statement is wanted. -/
def statement (t : Tree) (p : Phrase) (cs : List Reading) : Node :=
  match p with
  | .functionDefinition => function t cs
  | .decoratedDefinition => decorated t cs
  | .assignment => assignment t cs
  | .expressionStatement => expressionStatement t cs
  | .returnStatement => ⟨t.loc, .ret ((named cs).head?.map expr)⟩
  | .ifStatement => conditional t cs
  | .forStatement =>
    ⟨t.loc, .forLoop (exprOf t (find? cs .left)) (exprOf t (find? cs .right)) (blockOf cs .body)
      (loopElse cs)⟩
  | .whileStatement =>
    ⟨t.loc, .whileLoop (exprOf t (find? cs .condition)) (blockOf cs .body) (loopElse cs)⟩
  | .tryStatement => tryBlock t cs
  | .assertStatement => assertion t cs
  | .importStatement => ⟨t.loc, .importNames (importedNames cs)⟩
  | .importFromStatement =>
    ⟨t.loc, .importFrom ((find? cs .moduleName).map text) (importedNames cs)⟩
  | .futureImportStatement => ⟨t.loc, .importFrom (some "__future__") (importedNames cs)⟩
  | _ => other t cs

end CodeAudit.Reading
