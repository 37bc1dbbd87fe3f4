/-!
# Kinds of nodes and sets of kinds

Every node of a program tree is of one of twenty-six kinds. Their order is fixed: the position
of a kind in `Kind.all` is the number of its bit in a `KindSet`, the set of kinds that a rule
asks to see.
-/

namespace CodeAudit

/-- What a node of a program tree is. -/
inductive Kind where
  | module
  | functionDef
  | call
  | assign
  | annAssign
  | forLoop
  | whileLoop
  | conditional
  | importNames
  | importFrom
  | str
  | num
  | constant
  | name
  | member
  | binOp
  | compare
  | boolOp
  | unaryOp
  | dict
  | ret
  | tryBlock
  | handler
  | assertion
  | expr
  | other
deriving DecidableEq, Inhabited

namespace Kind

/-- Every kind, in the order of their bits. -/
def all : List Kind :=
  [module, functionDef, call, assign, annAssign, forLoop, whileLoop, conditional, importNames,
    importFrom, str, num, constant, name, member, binOp, compare, boolOp, unaryOp, dict, ret,
    tryBlock, handler, assertion, expr, other]

/-- The name a kind goes by in reports. -/
def label : Kind → String
  | module => "Module"
  | functionDef => "FunctionDef"
  | call => "Call"
  | assign => "Assign"
  | annAssign => "AnnAssign"
  | forLoop => "For"
  | whileLoop => "While"
  | conditional => "If"
  | importNames => "Import"
  | importFrom => "ImportFrom"
  | str => "Str"
  | num => "Num"
  | constant => "Constant"
  | name => "Name"
  | member => "Attribute"
  | binOp => "BinOp"
  | compare => "Compare"
  | boolOp => "BoolOp"
  | unaryOp => "UnaryOp"
  | dict => "Dict"
  | ret => "Return"
  | tryBlock => "Try"
  | handler => "ExceptHandler"
  | assertion => "Assert"
  | expr => "Expr"
  | other => "Other"

/-- The kind that goes by a name, if there is one. -/
def ofLabel? (label : String) : Option Kind :=
  all.find? fun k => k.label == label

/-- The position of a kind in `Kind.all`. -/
def index : Kind → Fin 26
  | module => 0
  | functionDef => 1
  | call => 2
  | assign => 3
  | annAssign => 4
  | forLoop => 5
  | whileLoop => 6
  | conditional => 7
  | importNames => 8
  | importFrom => 9
  | str => 10
  | num => 11
  | constant => 12
  | name => 13
  | member => 14
  | binOp => 15
  | compare => 16
  | boolOp => 17
  | unaryOp => 18
  | dict => 19
  | ret => 20
  | tryBlock => 21
  | handler => 22
  | assertion => 23
  | expr => 24
  | other => 25

theorem index_injective {a b : Kind} (h : a.index = b.index) : a = b := by
  cases a <;> cases b <;> first | rfl | exact absurd h (by decide)

theorem mem_all (k : Kind) : k ∈ all := by
  cases k <;> decide

theorem all_get_index (k : Kind) : all[k.index.val]? = some k := by
  cases k <;> rfl

end Kind

/-- A set of node kinds, one bit for each. -/
structure KindSet where
  bits : BitVec 26
deriving DecidableEq

namespace KindSet

/-- The set that holds one kind. -/
def single (k : Kind) : KindSet :=
  ⟨1#26 <<< k.index.val⟩

/-- The kinds of a list, as a set. -/
def ofList (ks : List Kind) : KindSet :=
  ⟨ks.foldl (fun acc k => acc ||| (single k).bits) 0⟩

/-- Membership of a kind. -/
def contains (s : KindSet) (k : Kind) : Bool :=
  s.bits.getLsb k.index

theorem contains_single (k l : Kind) : (single k).contains l = decide (k = l) := by
  cases k <;> cases l <;> rfl

end KindSet

end CodeAudit
