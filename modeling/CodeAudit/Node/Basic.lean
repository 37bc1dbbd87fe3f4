import CodeAudit.Node.Kind

/-!
# The tree that rules look at

A `Node` is a location together with a `Shape`: which construct of the analysed language it is,
and its parts. `Shape` is a functor, so that the parts of a node are nodes again while everything
that only concerns one level (the kind, the list of children, a change of the parts) is defined
once and without recursion.

Children are derived from the parts, always in the same order, and no node stores its parent:
where a node stands in a tree is the business of a walk.
-/

namespace CodeAudit

/-- A position in a source text. Lines and columns count from one, columns in bytes. -/
structure Location where
  line : Nat
  col : Nat
deriving DecidableEq, Inhabited

namespace Location

/-- The written form, `line:col`. -/
def render (l : Location) : String :=
  toString l.line ++ ":" ++ toString l.col

end Location

/-- Arithmetic and bitwise operators. -/
inductive BinaryOperator where
  | add | sub | mult | matMult | div | floorDiv | mod | pow | lShift | rShift | bitOr | bitXor | bitAnd
deriving DecidableEq

/-- Comparison operators. -/
inductive Comparison where
  | eq | notEq | lt | ltE | gt | gtE | is | isNot | isIn | notIn
deriving DecidableEq

/-- The two connectives that chain any number of operands. -/
inductive Connective where
  | and | or
deriving DecidableEq

/-- Operators with a single operand. -/
inductive UnaryOperator where
  | not | neg | pos | invert
deriving DecidableEq

/-- A double-precision number, kept as the sixty-four bits of its encoding. -/
structure Binary64 where
  bits : UInt64
deriving DecidableEq

/-- The value of a numeric literal. -/
inductive Number where
  | int (value : Int64)
  | float (value : Binary64)
deriving DecidableEq

/-- A literal that is named by a word. -/
inductive Constant where
  | bool (value : Bool)
  | none
deriving DecidableEq

/-- One name of an import: `a.b as c` has the name `a.b` and the alias `c`. -/
structure ImportedName where
  name : String
  asName : Option String
deriving DecidableEq

/-- An argument passed by name; a mapping that is spread out has no name. -/
structure Keyword (α : Type) where
  name : Option String
  value : α

/-- One construct of the analysed language, with its parts in `α`. -/
inductive Shape (α : Type) where
  | module (body : List α)
  | functionDef (name : String) (params : List String) (decorators body : List α)
      (docstring : Option String)
  | call (func : α) (args : List α) (keywords : List (Keyword α))
  | assign (targets : List α) (value : α)
  | annAssign (target type : α) (value : Option α)
  | forLoop (target iter : α) (body orelse : List α)
  | whileLoop (test : α) (body orelse : List α)
  | conditional (test : α) (body orelse : List α)
  | importNames (names : List ImportedName)
  | importFrom (source : Option String) (names : List ImportedName)
  | str (value : String) (bytes : Bool)
  | num (value : Number)
  | constant (value : Constant)
  | name (id : String)
  | member (value : α) (attr : String)
  | binOp (left : α) (op : BinaryOperator) (right : α)
  | compare (left : α) (ops : List Comparison) (comparators : List α)
  | boolOp (op : Connective) (values : List α)
  | unaryOp (op : UnaryOperator) (operand : α)
  /-- A key of `none` marks a mapping that is spread out. -/
  | dict (keys : List (Option α)) (values : List α)
  | ret (value : Option α)
  | tryBlock (body handlers orelse finalbody : List α)
  | handler (type : Option α) (name : Option String) (body : List α)
  | assertion (test : α) (msg : Option α)
  | expr (value : α)
  /-- A construct without a shape of its own; its parts are kept so that a walk reaches them. -/
  | other (label : String) (children : List α)

namespace Shape

variable {α β : Type}

/-- The kind of a construct. -/
def kind : Shape α → Kind
  | module .. => .module
  | functionDef .. => .functionDef
  | call .. => .call
  | assign .. => .assign
  | annAssign .. => .annAssign
  | forLoop .. => .forLoop
  | whileLoop .. => .whileLoop
  | conditional .. => .conditional
  | importNames .. => .importNames
  | importFrom .. => .importFrom
  | str .. => .str
  | num .. => .num
  | constant .. => .constant
  | name .. => .name
  | member .. => .member
  | binOp .. => .binOp
  | compare .. => .compare
  | boolOp .. => .boolOp
  | unaryOp .. => .unaryOp
  | dict .. => .dict
  | ret .. => .ret
  | tryBlock .. => .tryBlock
  | handler .. => .handler
  | assertion .. => .assertion
  | expr .. => .expr
  | other .. => .other

/-- The parts that are themselves nodes. A dictionary contributes its entries pair by pair, as far
as keys and values go together. -/
def children : Shape α → List α
  | module body => body
  | functionDef _ _ decorators body _ => decorators ++ body
  | call func args keywords => func :: (args ++ keywords.map Keyword.value)
  | assign targets value => targets ++ [value]
  | annAssign target type value => target :: type :: value.toList
  | forLoop target iter body orelse => target :: iter :: (body ++ orelse)
  | whileLoop test body orelse => test :: (body ++ orelse)
  | conditional test body orelse => test :: (body ++ orelse)
  | importNames _ => []
  | importFrom _ _ => []
  | str _ _ => []
  | num _ => []
  | constant _ => []
  | name _ => []
  | member value _ => [value]
  | binOp left _ right => [left, right]
  | compare left _ comparators => left :: comparators
  | boolOp _ values => values
  | unaryOp _ operand => [operand]
  | dict keys values => (keys.zip values).flatMap fun entry => entry.1.toList ++ [entry.2]
  | ret value => value.toList
  | tryBlock body handlers orelse finalbody => body ++ (handlers ++ (orelse ++ finalbody))
  | handler type _ body => type.toList ++ body
  | assertion test msg => test :: msg.toList
  | expr value => [value]
  | other _ children => children

/-- The statements a construct owns; the empty list for constructs without a body. -/
def body : Shape α → List α
  | module body => body
  | functionDef _ _ _ body _ => body
  | forLoop _ _ body _ => body
  | whileLoop _ body _ => body
  | conditional _ body _ => body
  | tryBlock body _ _ _ => body
  | handler _ _ body => body
  | _ => []

/-- Changes every part, and nothing else. -/
def map (f : α → β) : Shape α → Shape β
  | module body => module (body.map f)
  | functionDef fn params decorators body docstring =>
      functionDef fn params (decorators.map f) (body.map f) docstring
  | call func args keywords =>
      call (f func) (args.map f) (keywords.map fun k => ⟨k.name, f k.value⟩)
  | assign targets value => assign (targets.map f) (f value)
  | annAssign target type value => annAssign (f target) (f type) (value.map f)
  | forLoop target iter body orelse => forLoop (f target) (f iter) (body.map f) (orelse.map f)
  | whileLoop test body orelse => whileLoop (f test) (body.map f) (orelse.map f)
  | conditional test body orelse => conditional (f test) (body.map f) (orelse.map f)
  | importNames names => importNames names
  | importFrom source names => importFrom source names
  | str value bytes => str value bytes
  | num value => num value
  | constant value => constant value
  | name id => name id
  | member value attr => member (f value) attr
  | binOp left op right => binOp (f left) op (f right)
  | compare left ops comparators => compare (f left) ops (comparators.map f)
  | boolOp op values => boolOp op (values.map f)
  | unaryOp op operand => unaryOp op (f operand)
  | dict keys values => dict (keys.map (Option.map f)) (values.map f)
  | ret value => ret (value.map f)
  | tryBlock body handlers orelse finalbody =>
      tryBlock (body.map f) (handlers.map f) (orelse.map f) (finalbody.map f)
  | handler type bound body => handler (type.map f) bound (body.map f)
  | assertion test msg => assertion (f test) (msg.map f)
  | expr value => expr (f value)
  | other label children => other label (children.map f)

@[simp] theorem kind_map (f : α → β) (s : Shape α) : (s.map f).kind = s.kind := by
  cases s <;> rfl

end Shape

/-- A node of a program tree. -/
structure Node where
  loc : Location
  shape : Shape Node

namespace Node

/-- The kind of a node. -/
def kind (n : Node) : Kind := n.shape.kind

/-- The direct children of a node, in source order as far as its shape keeps that order. -/
def children (n : Node) : List Node := n.shape.children

/-- The statements a node owns. -/
def body (n : Node) : List Node := n.shape.body

/-- The value of a string literal that is not a byte string. -/
def asStr? (n : Node) : Option String :=
  match n.shape with
  | .str value false => some value
  | _ => none

/-- The identifier of a bare name. -/
def asName? (n : Node) : Option String :=
  match n.shape with
  | .name id => some id
  | _ => none

/-- The name of a function definition. -/
def functionName? (n : Node) : Option String :=
  match n.shape with
  | .functionDef name .. => some name
  | _ => none

/-- Negation that refuses the one value whose negative does not fit. -/
def negate? (v : Int64) : Option Int64 :=
  if v = Int64.minValue then none else some (-v)

/-- The value of an integer literal, seen through any number of signs. -/
def asInt? : Node → Option Int64
  | ⟨_, .num (.int v)⟩ => some v
  | ⟨_, .unaryOp .neg operand⟩ => (asInt? operand).bind negate?
  | ⟨_, .unaryOp .pos operand⟩ => asInt? operand
  | _ => none

end Node

end CodeAudit
