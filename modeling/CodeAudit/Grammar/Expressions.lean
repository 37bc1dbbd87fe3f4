import CodeAudit.Grammar.Patterns
import CodeAudit.Grammar.Statements

/-!
# The grammar of expressions

The rules for expressions, from the loosest operators to calls and brackets, and for string literals
with the holes in them. `ruleOf` puts all rules of the grammar together.
-/

namespace CodeAudit.Grammar

open Rule

namespace Expression

open Phrase Statement

/-- How strongly operators and brackets hold their parts together. -/
structure Strengths where
  lambda : Int := -2
  conditional : Int := -1
  brackets : Int := 1
  disjunction : Int := 10
  conjunction : Int := 11
  negation : Int := 12
  comparison : Int := 13
  bitOr : Int := 14
  bitAnd : Int := 15
  bitXor : Int := 16
  shift : Int := 17
  sum : Int := 18
  product : Int := 19
  unary : Int := 20
  power : Int := 21
  call : Int := 22

def strengths : Strengths := {}

/-- The operators between two operands, with their strengths. All but the power lean to the left. -/
def binaryOperators : List (String × Int × Assoc) :=
  let s := strengths
  [("+", s.sum, .left), ("-", s.sum, .left), ("*", s.product, .left), ("@", s.product, .left),
    ("/", s.product, .left), ("%", s.product, .left), ("//", s.product, .left),
    ("**", s.power, .right), ("|", s.bitOr, .left), ("&", s.bitAnd, .left), ("^", s.bitXor, .left),
    ("<<", s.shift, .left), (">>", s.shift, .left)]

/-- Two operands with an operator between them. -/
def infixed (operand : Phrase) (operator : String) : Rule :=
  seq [role .left operand, role .operator operator, role .right operand]

/-- The rule of an expression or of a part of one. -/
def rule? : Phrase → Option Rule
  | namedExpression => some <| seq
      [role .name namedExpressionTarget, ":=", role .value expression]
  | namedExpressionTarget => some <| choice [token .identifier, wordName]
  | listSplat => some <| seq ["*", expression]
  | dictionarySplat => some <| seq ["**", expression]
  | parenthesizedListSplat => some <| strength strengths.brackets <| seq
      ["(", choice [relabel (.phrase parenthesizedExpression) parenthesizedListSplat, listSplat],
        ")"]
  | argumentList => some <| seq
      ["(", opt (commas (choice
        [expression, listSplat, dictionarySplat,
          relabel (.phrase parenthesizedExpression) parenthesizedListSplat, keywordArgument])),
        opt ",", ")"]
  | expressionList => some <| leaningRight 0 <| seq
      [expression, choice [",", seq [many1 (seq [",", expression]), opt ","]]]
  | dottedName => some <| strength 1 <| sepBy1 "." (token .identifier)
  | asPattern => some <| leaning 0 <| seq
      [expression, "as", role .alias (relabel (.phrase asPatternTarget) expression)]
  | forInExpression => some <| choice
      [expression, relabel (.phrase lambda) forInLambda]
  | expression => some <| choice
      [comparisonOperator, notOperator, booleanOperator, lambda, primaryExpression,
        conditionalExpression, namedExpression, asPattern]
  | primaryExpression => some <| choice
      [await, binaryOperator, token .identifier, wordName, string, concatenatedString,
        token .integer, token .float, token .trueWord, token .falseWord, token .noneWord,
        unaryOperator, attributeAccess, subscript, call, list, listComprehension, dictionary,
        dictionaryComprehension, Phrase.set, setComprehension, tuple, parenthesizedExpression,
        generatorExpression, token .ellipsis, relabel (.phrase listSplat) listSplatPattern]
  | notOperator => some <| strength strengths.negation <| seq
      ["not", role .argument expression]
  | booleanOperator => some <| choice
      [leaning strengths.conjunction (infixed expression "and"),
        leaning strengths.disjunction (infixed expression "or")]
  | binaryOperator => some <| choice <| binaryOperators.map fun entry =>
      prec entry.2.1 (some entry.2.2) (infixed primaryExpression entry.1)
  | unaryOperator => some <| strength strengths.unary <| seq
      [role .operator (choice ["+", "-", "~"]), role .argument primaryExpression]
  | notIn => some <| seq ["not", "in"]
  | isNot => some <| seq ["is", "not"]
  | comparisonOperator => some <| leaning strengths.comparison <| seq
      [primaryExpression, many1 (seq [role .operators (choice
        ["<", "<=", "==", "!=", ">=", ">", "<>", "in",
          relabel (.token (.literal "not in")) notIn, "is",
          relabel (.token (.literal "is not")) isNot]), primaryExpression])]
  | lambda => some <| strength strengths.lambda <| seq
      ["lambda", role .parameters (opt lambdaParameters), ":", role .body expression]
  | forInLambda => some <| seq
      ["lambda", role .parameters (opt lambdaParameters), ":", role .body forInExpression]
  | assignment => some <| seq [role .left leftHandSide, choice
      [seq ["=", role .right rightHandSide], seq [":", role .type type],
        seq [":", role .type type, "=", role .right rightHandSide]]]
  | augmentedAssignment => some <| seq
      [role .left leftHandSide, role .operator (choice
        ["+=", "-=", "*=", "/=", "@=", "//=", "%=", "**=", ">>=", "<<=", "&=", "^=", "|="]),
        role .right rightHandSide]
  | rightHandSide => some <| choice
      [expression, expressionList, assignment, augmentedAssignment, patternList, yield]
  | yield => some <| leaningRight 0 <| seq
      ["yield", choice [seq ["from", expression], opt expressions]]
  | attributeAccess => some <| strength strengths.call <| seq
      [role .object primaryExpression, ".", role .memberName (token .identifier)]
  | subscript => some <| strength strengths.call <| seq
      [role .value primaryExpression, "[", commas (role .subscript (choice [expression, slice])),
        opt ",", "]"]
  | slice => some <| seq
      [opt expression, ":", opt expression, opt (seq [":", opt expression])]
  | call => some <| strength strengths.call <| seq
      [role .function primaryExpression, role .arguments (choice [generatorExpression, argumentList])]
  | keywordArgument => some <| seq
      [role .name (choice [token .identifier, wordName]), "=", role .value expression]
  | list => some <| seq ["[", opt collectionElements, "]"]
  | .set => some <| seq ["\x7b", collectionElements, "\x7d"]
  | tuple => some <| seq ["(", opt collectionElements, ")"]
  | dictionary => some <| seq
      ["\x7b", opt (commas (choice [pair, dictionarySplat])), opt ",", "\x7d"]
  | pair => some <| seq [role .key expression, ":", role .value expression]
  | listComprehension => some <| seq ["[", role .body expression, comprehensionClauses, "]"]
  | dictionaryComprehension => some <| seq
      ["\x7b", role .body pair, comprehensionClauses, "\x7d"]
  | setComprehension => some <| seq
      ["\x7b", role .body expression, comprehensionClauses, "\x7d"]
  | generatorExpression => some <| seq ["(", role .body expression, comprehensionClauses, ")"]
  | comprehensionClauses => some <| seq [forInClause, many (choice [forInClause, ifClause])]
  | parenthesizedExpression => some <| strength strengths.brackets <| seq
      ["(", choice [expression, yield], ")"]
  | collectionElements => some <| seq
      [commas (choice [expression, yield, listSplat, parenthesizedListSplat]), opt ","]
  | forInClause => some <| leaning 0 <| seq
      [opt "async", "for", role .left leftHandSide, "in", role .right (commas forInExpression),
        opt ","]
  | ifClause => some <| seq ["if", expression]
  | conditionalExpression => some <| leaningRight strengths.conditional <| seq
      [expression, "if", expression, "else", expression]
  | await => some <| strength strengths.unary <| seq ["await", primaryExpression]
  | _ => none

/-- The rule of a string literal or of a part of one. -/
def stringRule? : Phrase → Option Rule
  | concatenatedString => some <| seq [string, many1 string]
  | string => some <| seq
      [token .stringStart, many (choice [interpolation, stringContent]), token .stringEnd]
  | stringContent => some <| leaningRight 0 <| many1 <| choice
      [token .doubledBrace, token .escape, token .loneBackslash, token .stringText]
  | interpolation => some <| seq
      ["\x7b", role .expression holeExpression, opt "=",
        opt (role .typeConversion (token .conversion)), opt (role .formatSpecifier formatSpecifier),
        "\x7d"]
  | holeExpression => some <| choice [expression, expressionList, patternList, yield]
  | formatSpecifier => some <| seq
      [":", many (choice
        [token .formatText, relabel (.phrase formatExpression) interpolation])]
  | _ => none

end Expression

/-- The rule of a construct. The names under which other constructs appear have none. -/
def ruleOf (p : Phrase) : Rule :=
  (Statement.rule? p).orElse (fun _ => Expression.rule? p)
    |>.orElse (fun _ => Expression.stringRule? p)
    |>.orElse (fun _ => Pattern.caseRule? p)
    |>.orElse (fun _ => Pattern.targetRule? Statement.wordName p)
    |>.orElse (fun _ => Pattern.typeRule? p)
    |>.getD (.choice [])

end CodeAudit.Grammar
