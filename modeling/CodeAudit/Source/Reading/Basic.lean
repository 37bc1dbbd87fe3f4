import CodeAudit.Source.Tree

/-!
# Readings

A `Reading` is a concrete tree in which every part is read already: as an expression, as a statement,
and as what it contributes to a list of nodes. What a construct means is worked out from the readings
of its parts, and never from the parts themselves, so that a tree is read in one go from its leaves to
its root.
-/

namespace CodeAudit

/-- A tree with the meanings of it and of its parts. -/
structure Reading where
  tree : Tree
  /-- The node for a place where an expression is wanted. -/
  expr : Node
  /-- The node for a place where a statement is wanted. -/
  stmt : Node
  /-- The nodes in a list; a block contributes its statements and a comment nothing. -/
  nodes : List Node
  children : List Reading

namespace Reading

def loc (r : Reading) : Location := r.tree.loc

def text (r : Reading) : String := r.tree.text

/-- Whether a reading is one of a given construct. -/
def is (r : Reading) (p : Phrase) : Bool := r.tree.is p

/-- The word or sign that a reading is. -/
def spelling? (r : Reading) : Option String :=
  match r.tree.label with
  | .token (.literal spelling) => some spelling
  | _ => none

/-- The parts of a construct, without comments and without literals. -/
def named (cs : List Reading) : List Reading :=
  cs.filter fun c => c.tree.label.isNamed && !c.tree.isToken .comment

/-- The first part with a role. -/
def find? (cs : List Reading) (role : Role) : Option Reading :=
  cs.find? fun c => c.tree.role == some role

/-- All parts with a role. -/
def findAll (cs : List Reading) (role : Role) : List Reading :=
  cs.filter fun c => c.tree.role == some role

/-- The source of the part with a role. -/
def textOf (cs : List Reading) (role : Role) : String := ((find? cs role).map text).getD ""

/-- The expression that a part is. A part that is not there is a node of its own kind. -/
def exprOf (t : Tree) (part : Option Reading) : Node :=
  match part with
  | some r => r.expr
  | none => ⟨t.loc, .other "missing" []⟩

/-- The nodes of all parts, one after the other. -/
def contents (cs : List Reading) : List Node := (named cs).flatMap nodes

/-- The node of a construct without a shape of its own. -/
def other (t : Tree) (cs : List Reading) : Node := ⟨t.loc, .other t.label.text (contents cs)⟩

/-- The statements of the block with a role. -/
def blockOf (cs : List Reading) (role : Role) : List Node :=
  match find? cs role with
  | some block => contents block.children
  | none => []

/-- The statements of a clause such as `else` or `finally`. -/
def clauseBody (clause : Reading) : List Node :=
  match find? clause.children .body with
  | some body => contents body.children
  | none =>
    ((named clause.children).filter fun c => c.is .block).flatMap fun b => contents b.children

end Reading

end CodeAudit
