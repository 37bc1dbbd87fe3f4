/-!
# The constructs of the analysed language

A `Phrase` is a construct that the grammar of the analysed language has a rule for. Most of them are
visible in a concrete tree under the name that `Phrase.label` gives. Others only group alternatives or
lists for the grammar, and a tree shows their parts in their place.
-/

namespace CodeAudit

/-- A construct with a rule of its own. The last two are names under which other constructs appear. -/
inductive Phrase where
  | module
  | statement
  | simpleStatements
  | importStatement
  | importDots
  | relativeImport
  | futureImportStatement
  | importFromStatement
  | importList
  | aliasedImport
  | wildcardImport
  | printStatement
  | chevron
  | assertStatement
  | expressionStatement
  | namedExpression
  | namedExpressionTarget
  | returnStatement
  | deleteStatement
  | raiseStatement
  | passStatement
  | breakStatement
  | continueStatement
  | ifStatement
  | elifClause
  | elseClause
  | matchStatement
  | matchBlock
  | caseClause
  | forStatement
  | whileStatement
  | tryStatement
  | exceptClause
  | exceptGroupClause
  | finallyClause
  | withStatement
  | withClause
  | withItem
  | functionDefinition
  | parameters
  | lambdaParameters
  | listSplat
  | dictionarySplat
  | globalStatement
  | nonlocalStatement
  | execStatement
  | typeAliasStatement
  | classDefinition
  | typeParameter
  | parenthesizedListSplat
  | argumentList
  | decoratedDefinition
  | decorator
  | block
  | expressionList
  | dottedName
  | casePattern
  | simplePattern
  | asCase
  | unionPattern
  | listCase
  | tupleCase
  | dictPattern
  | keyValueCase
  | keywordPattern
  | splatPattern
  | classPattern
  | complexPattern
  | parameterList
  | patterns
  | parameter
  | pattern
  | tuplePattern
  | listPattern
  | defaultParameter
  | typedDefaultParameter
  | listSplatPattern
  | dictionarySplatPattern
  | asPattern
  | forInExpression
  | expression
  | primaryExpression
  | notOperator
  | booleanOperator
  | binaryOperator
  | unaryOperator
  | notIn
  | isNot
  | comparisonOperator
  | lambda
  | forInLambda
  | assignment
  | augmentedAssignment
  | patternList
  | rightHandSide
  | yield
  | attributeAccess
  | subscript
  | slice
  | call
  | typedParameter
  | type
  | splatType
  | genericType
  | unionType
  | constrainedType
  | memberType
  | keywordArgument
  | list
  | set
  | tuple
  | dictionary
  | pair
  | listComprehension
  | dictionaryComprehension
  | setComprehension
  | generatorExpression
  | comprehensionClauses
  | parenthesizedExpression
  | collectionElements
  | forInClause
  | ifClause
  | conditionalExpression
  | concatenatedString
  | string
  | stringContent
  | interpolation
  | holeExpression
  | formatSpecifier
  | await
  | positionalSeparator
  | keywordSeparator
  | asPatternTarget
  | formatExpression
deriving DecidableEq, Inhabited

namespace Phrase

/-- Every construct, in order. -/
def all : List Phrase :=
  [module, statement, simpleStatements, importStatement, importDots, relativeImport,
    futureImportStatement, importFromStatement, importList, aliasedImport, wildcardImport,
    printStatement, chevron, assertStatement, expressionStatement, namedExpression,
    namedExpressionTarget, returnStatement, deleteStatement, raiseStatement, passStatement,
    breakStatement, continueStatement, ifStatement, elifClause, elseClause, matchStatement,
    matchBlock, caseClause, forStatement, whileStatement, tryStatement, exceptClause,
    exceptGroupClause, finallyClause, withStatement, withClause, withItem, functionDefinition,
    parameters, lambdaParameters, listSplat, dictionarySplat, globalStatement, nonlocalStatement,
    execStatement, typeAliasStatement, classDefinition, typeParameter, parenthesizedListSplat,
    argumentList, decoratedDefinition, decorator, block, expressionList, dottedName, casePattern,
    simplePattern, asCase, unionPattern, listCase, tupleCase, dictPattern, keyValueCase,
    keywordPattern, splatPattern, classPattern, complexPattern, parameterList, patterns,
    parameter, pattern, tuplePattern, listPattern, defaultParameter, typedDefaultParameter,
    listSplatPattern, dictionarySplatPattern, asPattern, forInExpression, expression,
    primaryExpression, notOperator, booleanOperator, binaryOperator, unaryOperator, notIn, isNot,
    comparisonOperator, lambda, forInLambda, assignment, augmentedAssignment, patternList,
    rightHandSide, yield, attributeAccess, subscript, slice, call, typedParameter, type,
    splatType, genericType, unionType, constrainedType, memberType, keywordArgument, list, set,
    tuple, dictionary, pair, listComprehension, dictionaryComprehension, setComprehension,
    generatorExpression, comprehensionClauses, parenthesizedExpression, collectionElements,
    forInClause, ifClause, conditionalExpression, concatenatedString, string, stringContent,
    interpolation, holeExpression, formatSpecifier, await, positionalSeparator, keywordSeparator,
    asPatternTarget, formatExpression]

/-- The position of a construct in `Phrase.all`. -/
def index (p : Phrase) : Nat := p.ctorIdx

theorem all_get_index (p : Phrase) : all[p.index]? = some p := by
  cases p <;> rfl

/-- The name in trees. -/
def label : Phrase → String
  | module => "module"
  | statement => "statement"
  | simpleStatements => "simple_statements"
  | importStatement => "import_statement"
  | importDots => "import_prefix"
  | relativeImport => "relative_import"
  | futureImportStatement => "future_import_statement"
  | importFromStatement => "import_from_statement"
  | importList => "import_list"
  | aliasedImport => "aliased_import"
  | wildcardImport => "wildcard_import"
  | printStatement => "print_statement"
  | chevron => "chevron"
  | assertStatement => "assert_statement"
  | expressionStatement => "expression_statement"
  | namedExpression => "named_expression"
  | namedExpressionTarget => "named_expression_target"
  | returnStatement => "return_statement"
  | deleteStatement => "delete_statement"
  | raiseStatement => "raise_statement"
  | passStatement => "pass_statement"
  | breakStatement => "break_statement"
  | continueStatement => "continue_statement"
  | ifStatement => "if_statement"
  | elifClause => "elif_clause"
  | elseClause => "else_clause"
  | matchStatement => "match_statement"
  | matchBlock => "match_block"
  | caseClause => "case_clause"
  | forStatement => "for_statement"
  | whileStatement => "while_statement"
  | tryStatement => "try_statement"
  | exceptClause => "except_clause"
  | exceptGroupClause => "except_group_clause"
  | finallyClause => "finally_clause"
  | withStatement => "with_statement"
  | withClause => "with_clause"
  | withItem => "with_item"
  | functionDefinition => "function_definition"
  | parameters => "parameters"
  | lambdaParameters => "lambda_parameters"
  | listSplat => "list_splat"
  | dictionarySplat => "dictionary_splat"
  | globalStatement => "global_statement"
  | nonlocalStatement => "nonlocal_statement"
  | execStatement => "exec_statement"
  | typeAliasStatement => "type_alias_statement"
  | classDefinition => "class_definition"
  | typeParameter => "type_parameter"
  | parenthesizedListSplat => "parenthesized_list_splat"
  | argumentList => "argument_list"
  | decoratedDefinition => "decorated_definition"
  | decorator => "decorator"
  | block => "block"
  | expressionList => "expression_list"
  | dottedName => "dotted_name"
  | casePattern => "case_pattern"
  | simplePattern => "simple_pattern"
  | asCase => "as_case"
  | unionPattern => "union_pattern"
  | listCase => "list_case"
  | tupleCase => "tuple_case"
  | dictPattern => "dict_pattern"
  | keyValueCase => "key_value_case"
  | keywordPattern => "keyword_pattern"
  | splatPattern => "splat_pattern"
  | classPattern => "class_pattern"
  | complexPattern => "complex_pattern"
  | parameterList => "parameter_list"
  | patterns => "patterns"
  | parameter => "parameter"
  | pattern => "pattern"
  | tuplePattern => "tuple_pattern"
  | listPattern => "list_pattern"
  | defaultParameter => "default_parameter"
  | typedDefaultParameter => "typed_default_parameter"
  | listSplatPattern => "list_splat_pattern"
  | dictionarySplatPattern => "dictionary_splat_pattern"
  | asPattern => "as_pattern"
  | forInExpression => "for_in_expression"
  | expression => "expression"
  | primaryExpression => "primary_expression"
  | notOperator => "not_operator"
  | booleanOperator => "boolean_operator"
  | binaryOperator => "binary_operator"
  | unaryOperator => "unary_operator"
  | notIn => "not_in"
  | isNot => "is_not"
  | comparisonOperator => "comparison_operator"
  | lambda => "lambda"
  | forInLambda => "lambda_within_for_in_clause"
  | assignment => "assignment"
  | augmentedAssignment => "augmented_assignment"
  | patternList => "pattern_list"
  | rightHandSide => "right_hand_side"
  | yield => "yield"
  | attributeAccess => "attribute"
  | subscript => "subscript"
  | slice => "slice"
  | call => "call"
  | typedParameter => "typed_parameter"
  | type => "type"
  | splatType => "splat_type"
  | genericType => "generic_type"
  | unionType => "union_type"
  | constrainedType => "constrained_type"
  | memberType => "member_type"
  | keywordArgument => "keyword_argument"
  | list => "list"
  | set => "set"
  | tuple => "tuple"
  | dictionary => "dictionary"
  | pair => "pair"
  | listComprehension => "list_comprehension"
  | dictionaryComprehension => "dictionary_comprehension"
  | setComprehension => "set_comprehension"
  | generatorExpression => "generator_expression"
  | comprehensionClauses => "comprehension_clauses"
  | parenthesizedExpression => "parenthesized_expression"
  | collectionElements => "collection_elements"
  | forInClause => "for_in_clause"
  | ifClause => "if_clause"
  | conditionalExpression => "conditional_expression"
  | concatenatedString => "concatenated_string"
  | string => "string"
  | stringContent => "string_content"
  | interpolation => "interpolation"
  | holeExpression => "hole_expression"
  | formatSpecifier => "format_specifier"
  | await => "await"
  | positionalSeparator => "positional_separator"
  | keywordSeparator => "keyword_separator"
  | asPatternTarget => "as_pattern_target"
  | formatExpression => "format_expression"

/-- Whether a tree shows the parts of a construct in its place. -/
def isHidden : Phrase → Bool
  | statement | simpleStatements | importList | namedExpressionTarget | matchBlock
  | simplePattern | asCase | listCase | tupleCase | keyValueCase | parameterList | patterns
  | parameter | pattern | forInExpression | expression | primaryExpression | notIn | isNot
  | rightHandSide | comprehensionClauses | collectionElements | holeExpression => true
  | _ => false

/-- Whether a construct is a statement by itself. -/
def isStatement : Phrase → Bool
  | statement | importStatement | futureImportStatement | importFromStatement | printStatement
  | assertStatement | expressionStatement | returnStatement | deleteStatement | raiseStatement
  | passStatement | breakStatement | continueStatement | ifStatement | matchStatement
  | forStatement | whileStatement | tryStatement | withStatement | functionDefinition
  | globalStatement | nonlocalStatement | execStatement | typeAliasStatement | classDefinition
  | decoratedDefinition => true
  | _ => false

end Phrase

end CodeAudit
