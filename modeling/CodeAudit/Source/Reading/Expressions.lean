import CodeAudit.Source.Numeral
import CodeAudit.Source.Reading.Strings

/-!
# Reading expressions

Expressions with a shape of their own get it; all others keep their label and their parts. Brackets
vanish: what they enclose takes their place. Comparisons in a row are one node, and so are operands
joined by the same connective, unless brackets keep them apart.
-/

namespace CodeAudit

/-- The operator with a spelling. -/
def BinaryOperator.ofSpelling? : String → Option BinaryOperator
  | "+" => some add
  | "-" => some sub
  | "*" => some mult
  | "@" => some matMult
  | "/" => some div
  | "//" => some floorDiv
  | "%" => some mod
  | "**" => some pow
  | "<<" => some lShift
  | ">>" => some rShift
  | "|" => some bitOr
  | "^" => some bitXor
  | "&" => some bitAnd
  | _ => none

/-- The comparison with a spelling. -/
def Comparison.ofSpelling? : String → Option Comparison
  | "==" => some eq
  | "!=" | "<>" => some notEq
  | "<" => some lt
  | "<=" => some ltE
  | ">" => some gt
  | ">=" => some gtE
  | "in" => some isIn
  | "not in" => some notIn
  | "is" => some is
  | "is not" => some isNot
  | _ => none

/-- A word that may be the first half of a comparison. -/
inductive Comparison.Half where
  | is
  | not

/-- The comparisons that some words and signs stand for. After a half it depends on the next word whether
the two are one comparison; `is` is one by itself otherwise, and `not` is none. -/
def Comparison.ofSpellings (half : Option Half) : List String → List Comparison
  | [] =>
    match half with
    | some .is => [is]
    | _ => []
  | word :: words =>
    match half, word with
    | some .not, "in" => notIn :: ofSpellings none words
    | some .is, "not" => isNot :: ofSpellings none words
    | some .is, _ => is :: ((ofSpelling? word).toList ++ ofSpellings none words)
    | _, "not" => ofSpellings (some .not) words
    | _, "is" => ofSpellings (some .is) words
    | _, _ => (ofSpelling? word).toList ++ ofSpellings none words

/-- The connective with a spelling. -/
def Connective.ofSpelling? : String → Option Connective
  | "and" => some and
  | "or" => some or
  | _ => none

/-- The operator with a spelling before its operand. -/
def UnaryOperator.ofSpelling? : String → Option UnaryOperator
  | "-" => some neg
  | "+" => some pos
  | "~" => some invert
  | _ => none

namespace Reading

/-- The spelling of the operator of a construct. -/
def operator? (cs : List Reading) : Option String := (find? cs .operator).bind spelling?

/-- The value of a numeric literal. -/
def number? (t : Terminal) (text : String) : Option Number :=
  match t with
  | .integer =>
    ((Numeral.integer? text).map Number.int).or ((Numeral.fraction? text).map Number.float)
  | .float => (Numeral.fraction? text).map Number.float
  | _ => none

/-- The node of a token. -/
def token (t : Tree) (terminal : Terminal) : Node :=
  match terminal with
  | .identifier => ⟨t.loc, .name t.text⟩
  | .trueWord => ⟨t.loc, .constant (.bool true)⟩
  | .falseWord => ⟨t.loc, .constant (.bool false)⟩
  | .noneWord => ⟨t.loc, .constant .none⟩
  | _ =>
    match number? terminal t.text with
    | some n => ⟨t.loc, .num n⟩
    | none => other t []

/-- The arguments of a call. A lone generator stands without a list around it. -/
def arguments (list : Reading) : List Node × List (Keyword Node) :=
  if list.is .argumentList then
    (named list.children).foldr (fun a (args, keywords) =>
      if a.is .keywordArgument then
        let keyword := ⟨some (textOf a.children .name), exprOf a.tree (find? a.children .value)⟩
        (args, keyword :: keywords)
      else if a.is .dictionarySplat then
        (args, ⟨none, exprOf a.tree (named a.children).head?⟩ :: keywords)
      else (a.expr :: args, keywords)) ([], [])
  else ([list.expr], [])

/-- The node of a call. -/
def call (t : Tree) (cs : List Reading) : Node :=
  let (args, keywords) := match find? cs .arguments with
    | some list => arguments list
    | none => ([], [])
  ⟨t.loc, .call (exprOf t (find? cs .function)) args keywords⟩

/-- The node of comparisons in a row. -/
def comparison (t : Tree) (cs : List Reading) : Node :=
  let ops := Comparison.ofSpellings none (cs.filterMap spelling?)
  match named cs with
  | left :: comparators => ⟨t.loc, .compare left.expr ops (comparators.map expr)⟩
  | [] => ⟨t.loc, .compare (exprOf t none) ops []⟩

/-- The operands that one side of a connective contributes: those of the same connective itself, if
no brackets are around them. -/
def operands (op : Connective) (side : Reading) : List Node :=
  match side.expr.shape with
  | .boolOp inner values => if side.is .booleanOperator && inner = op then values else [side.expr]
  | _ => [side.expr]

/-- The node of operands with a connective between them. -/
def connective (t : Tree) (cs : List Reading) : Node :=
  match (operator? cs).bind Connective.ofSpelling? with
  | some op =>
    let sides := (find? cs .left).toList ++ (find? cs .right).toList
    ⟨t.loc, .boolOp op (sides.flatMap (operands op))⟩
  | none => other t cs

/-- The entry of a dictionary that a part is. -/
def entry? (c : Reading) : Option (Option Node × Node) :=
  if c.is .pair then
    some (some (exprOf c.tree (find? c.children .key)), exprOf c.tree (find? c.children .value))
  else if c.is .dictionarySplat then some (none, exprOf c.tree (named c.children).head?)
  else none

/-- The node of a dictionary. -/
def dictionary (t : Tree) (cs : List Reading) : Node :=
  let entries := (named cs).filterMap entry?
  ⟨t.loc, .dict (entries.map Prod.fst) (entries.map Prod.snd)⟩

/-- The node of a construct where an expression is wanted. -/
def phrase (t : Tree) (p : Phrase) (cs : List Reading) : Node :=
  match p with
  | .attributeAccess =>
    ⟨t.loc, .member (exprOf t (find? cs .object)) (textOf cs .memberName)⟩
  | .call => call t cs
  | .string => string t cs
  | .concatenatedString => concatenated t cs
  | .binaryOperator =>
    match (operator? cs).bind BinaryOperator.ofSpelling? with
    | some op =>
      ⟨t.loc, .binOp (exprOf t (find? cs .left)) op (exprOf t (find? cs .right))⟩
    | none => other t cs
  | .comparisonOperator => comparison t cs
  | .booleanOperator => connective t cs
  | .notOperator => ⟨t.loc, .unaryOp .not (exprOf t (find? cs .argument))⟩
  | .unaryOperator =>
    match (operator? cs).bind UnaryOperator.ofSpelling? with
    | some op => ⟨t.loc, .unaryOp op (exprOf t (find? cs .argument))⟩
    | none => other t cs
  | .dictionary => dictionary t cs
  | .parenthesizedExpression | .type =>
    match named cs with
    | inner :: _ => inner.expr
    | [] => other t cs
  | _ => other t cs

/-- The node of a tree where an expression is wanted. -/
def expression (t : Tree) (cs : List Reading) : Node :=
  match t.label with
  | .token terminal => token t terminal
  | .phrase p => phrase t p cs

end Reading

end CodeAudit
