import CodeAudit.Grammar.Rule

/-!
# The grammar of patterns and types

The rules for what stands after `case`, for the targets of assignments and loops, and for types.
-/

namespace CodeAudit.Grammar

open Rule

namespace Pattern

open Phrase

/-- An integer or a fraction. -/
def number : Rule := choice [token .integer, token .float]

/-- Cases between brackets. -/
def cases (opening closing : String) : Rule :=
  seq [opening, opt (seq [commas casePattern, opt ","]), closing]

/-- The rule of a pattern of a `case`. -/
def caseRule? : Phrase → Option Rule
  | casePattern => some <| strength 1 <| choice
      [relabel (.phrase asPattern) asCase, keywordPattern, simplePattern]
  | simplePattern => some <| strength 1 <| choice
      [classPattern, splatPattern, unionPattern, relabel (.phrase listPattern) listCase,
        relabel (.phrase tuplePattern) tupleCase, dictPattern, string, concatenatedString,
        token .trueWord, token .falseWord, token .noneWord, seq [opt "-", number],
        complexPattern, dottedName, "_"]
  | asCase => some <| seq [casePattern, "as", token .identifier]
  | unionPattern => some <| leaningRight 0 <| seq
      [simplePattern, many1 (leaning 0 (seq ["|", simplePattern]))]
  | listCase => some <| cases "[" "]"
  | tupleCase => some <| cases "(" ")"
  | dictPattern => some <| seq
      ["\x7b", opt (seq [commas (choice [keyValueCase, splatPattern]), opt ","]), "\x7d"]
  | keyValueCase => some <| seq [role .key simplePattern, ":", role .value casePattern]
  | keywordPattern => some <| seq [token .identifier, "=", simplePattern]
  | splatPattern => some <| strength 1 <| seq
      [choice ["*", "**"], choice [token .identifier, "_"]]
  | classPattern => some <| seq
      [dottedName, "(", opt (seq [commas casePattern, opt ","]), ")"]
  | complexPattern => some <| strength 1 <| seq [opt "-", number, choice ["+", "-"], number]
  | _ => none

/-- The rule of a target. `wordName` stands for the words that can be names. -/
def targetRule? (wordName : Rule) : Phrase → Option Rule
  | patterns => some <| seq [commas pattern, opt ","]
  | pattern => some <| choice
      [token .identifier, wordName, subscript, attributeAccess, listSplatPattern, tuplePattern,
        listPattern]
  | tuplePattern => some <| seq ["(", opt patterns, ")"]
  | listPattern => some <| seq ["[", opt patterns, "]"]
  | listSplatPattern => some <| seq
      ["*", choice [token .identifier, wordName, subscript, attributeAccess]]
  | dictionarySplatPattern => some <| seq
      ["**", choice [token .identifier, wordName, subscript, attributeAccess]]
  | patternList => some <| seq
      [pattern, choice [",", seq [many1 (seq [",", pattern]), opt ","]]]
  | _ => none

/-- The rule of a type. -/
def typeRule? : Phrase → Option Rule
  | type => some <| choice
      [strength 1 expression, splatType, genericType, unionType, constrainedType, memberType]
  | splatType => some <| strength 1 <| seq [choice ["*", "**"], token .identifier]
  | genericType => some <| strength 1 <| seq
      [choice [token .identifier, relabel (.token .identifier) "type"], typeParameter]
  | unionType => some <| leaning 0 <| seq [type, "|", type]
  | constrainedType => some <| leaningRight 0 <| seq [type, ":", type]
  | memberType => some <| seq [type, ".", token .identifier]
  | typeParameter => some <| seq ["[", commas type, opt ",", "]"]
  | _ => none

end Pattern

end CodeAudit.Grammar
