import CodeAudit.Grammar.Rule

/-!
# The grammar of statements

The rules for modules, statements and the parts that only statements have. The grammar takes in more
than any single version of the analysed language: old statement forms such as `print x` are read next
to new ones.

Where two readings of a text compete, the marks of the rules decide: `print` before a bracket is a
name rather than a statement, and a declaration of a type alias is preferred to an expression.
-/

namespace CodeAudit.Grammar

open Rule

namespace Statement

open Phrase

/-- The strength of statements whose word can also be a name. -/
def wordAsName : Int := -3

def simpleStatement : Rule := splice <| choice
  [futureImportStatement, importStatement, importFromStatement, printStatement, assertStatement,
    expressionStatement, returnStatement, deleteStatement, raiseStatement, passStatement,
    breakStatement, continueStatement, globalStatement, nonlocalStatement, execStatement,
    typeAliasStatement]

def compoundStatement : Rule := splice <| choice
  [ifStatement, forStatement, whileStatement, tryStatement, withStatement, functionDefinition,
    classDefinition, decoratedDefinition, matchStatement]

/-- What belongs to a compound statement: statements on the same line, an indented block, or
nothing. -/
def suite : Rule := splice <| choice
  [relabel (.phrase block) simpleStatements, seq [token .indent, block],
    relabel (.phrase block) (token .newline)]

/-- One expression or several. -/
def expressions : Rule := splice <| choice [expression, expressionList]

/-- What a value is assigned to. -/
def leftHandSide : Rule := splice <| choice [pattern, patternList]

/-- A word that is a name here. -/
def wordName : Rule := splice <| choice
  [strength wordAsName <| relabel (.token .identifier) <|
      choice ["print", "exec", "async", "await"],
    relabel (.token .identifier) <| choice ["type", "match"]]

/-- The names after `import`, with or without brackets. -/
def importNames : Rule := choice [importList, seq ["(", importList, ")"]]

/-- The rule of a statement or of a part of one. -/
def rule? : Phrase → Option Rule
  | module => some <| many1 statement
  | statement => some <| choice [simpleStatements, compoundStatement]
  | simpleStatements => some <| seq [sepBy1 ";" simpleStatement, opt ";", token .newline]
  | importStatement => some <| seq ["import", importList]
  | importDots => some <| many1 "."
  | relativeImport => some <| seq [importDots, opt dottedName]
  | futureImportStatement => some <| seq ["from", "__future__", "import", importNames]
  | importFromStatement => some <| seq
      ["from", role .moduleName (choice [relativeImport, dottedName]), "import",
        choice [wildcardImport, importList, seq ["(", importList, ")"]]]
  | importList => some <| seq
      [commas (role .name (choice [dottedName, aliasedImport])), opt ","]
  | aliasedImport => some <| seq
      [role .name dottedName, "as", role .alias (token .identifier)]
  | wildcardImport => some "*"
  | printStatement => some <| choice
      [strength 1 <| seq
          ["print", chevron, many (seq [",", role .argument expression]), opt ","],
        strength wordAsName <| dynamic (-1) <| seq
          ["print", commas (role .argument expression), opt ","]]
  | chevron => some <| seq [">>", expression]
  | assertStatement => some <| seq ["assert", commas expression]
  | expressionStatement => some <| choice
      [expression, seq [commas expression, opt ","], assignment, augmentedAssignment, yield]
  | returnStatement => some <| seq ["return", opt expressions]
  | deleteStatement => some <| seq ["del", expressions]
  | raiseStatement => some <| seq
      ["raise", opt expressions, opt (seq ["from", role .cause expression])]
  | passStatement => some <| leaning 0 "pass"
  | breakStatement => some <| leaning 0 "break"
  | continueStatement => some <| leaning 0 "continue"
  | ifStatement => some <| seq
      ["if", role .condition expression, ":", role .consequence suite,
        many (role .alternative elifClause), opt (role .alternative elseClause)]
  | elifClause => some <| seq
      ["elif", role .condition expression, ":", role .consequence suite]
  | elseClause => some <| seq ["else", ":", role .body suite]
  | matchStatement => some <| seq
      ["match", commas (role .subject expression), opt ",", ":",
        role .body (relabel (.phrase block) matchBlock)]
  | matchBlock => some <| choice
      [seq [token .indent, many (role .alternative caseClause), token .dedent], token .newline]
  | caseClause => some <| seq
      ["case", commas casePattern, opt ",", opt (role .guard ifClause), ":",
        role .consequence suite]
  | forStatement => some <| seq
      [opt "async", "for", role .left leftHandSide, "in", role .right expressions, ":",
        role .body suite, role .alternative (opt elseClause)]
  | whileStatement => some <| seq
      ["while", role .condition expression, ":", role .body suite,
        opt (role .alternative elseClause)]
  | tryStatement => some <| seq
      ["try", ":", role .body suite, choice
        [seq [many1 exceptClause, opt elseClause, opt finallyClause],
          seq [many1 exceptGroupClause, opt elseClause, opt finallyClause],
          finallyClause]]
  | exceptClause => some <| seq
      ["except", opt (seq
        [role .value expression, opt (seq [choice ["as", ","], role .alias expression])]),
        ":", suite]
  | exceptGroupClause => some <| seq
      ["except*", seq [expression, opt (seq ["as", expression])], ":", suite]
  | finallyClause => some <| seq ["finally", ":", suite]
  | withStatement => some <| seq [opt "async", "with", withClause, ":", role .body suite]
  | withClause => some <| choice
      [seq [commas withItem, opt ","], seq ["(", commas withItem, opt ",", ")"]]
  | withItem => some <| dynamic 1 <| seq [role .value expression]
  | functionDefinition => some <| seq
      [opt "async", "def", role .name (token .identifier), role .typeParameters (opt typeParameter),
        role .parameters parameters, opt (seq ["->", role .returnType type]), ":",
        role .body suite]
  | parameters => some <| seq ["(", opt parameterList, ")"]
  | lambdaParameters => some parameterList
  | globalStatement => some <| seq ["global", commas (token .identifier)]
  | nonlocalStatement => some <| seq ["nonlocal", commas (token .identifier)]
  | execStatement => some <| seq
      ["exec", role .code (choice [string, token .identifier]),
        opt (seq ["in", commas expression])]
  | typeAliasStatement => some <| dynamic 1 <| seq
      ["type", role .left type, "=", role .right type]
  | classDefinition => some <| seq
      ["class", role .name (token .identifier), role .typeParameters (opt typeParameter),
        role .superclasses (opt argumentList), ":", role .body suite]
  | decoratedDefinition => some <| seq
      [many1 decorator, role .definition (choice [classDefinition, functionDefinition])]
  | decorator => some <| seq ["@", expression, token .newline]
  | block => some <| seq [many statement, token .dedent]
  | parameterList => some <| seq [commas parameter, opt ","]
  | parameter => some <| choice
      [token .identifier, typedParameter, defaultParameter, typedDefaultParameter,
        listSplatPattern, tuplePattern, keywordSeparator, positionalSeparator,
        dictionarySplatPattern]
  | defaultParameter => some <| seq
      [role .name (choice [token .identifier, tuplePattern]), "=", role .value expression]
  | typedDefaultParameter => some <| strength (-1) <| seq
      [role .name (token .identifier), ":", role .type type, "=", role .value expression]
  | typedParameter => some <| strength (-1) <| seq
      [choice [token .identifier, listSplatPattern, dictionarySplatPattern], ":",
        role .type type]
  | positionalSeparator => some "/"
  | keywordSeparator => some "*"
  | _ => none

end Statement

end CodeAudit.Grammar
