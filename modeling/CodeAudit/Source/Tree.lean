import CodeAudit.Node.Basic
import CodeAudit.Source.Phrase
import CodeAudit.Source.Terminal

/-!
# Concrete trees

A `Tree` shows how a source text is built up, and it loses nothing: its leaves are all tokens, each
with the blank space before it, so that their texts one after the other are the source. The parts of
a construct can have a `Role` by which they are found whatever stands between them.
-/

namespace CodeAudit

/-- What a part is to the construct it belongs to. -/
inductive Role where
  | alias
  | alternative
  | argument
  | arguments
  | body
  | cause
  | code
  | condition
  | consequence
  | definition
  | expression
  | formatSpecifier
  | function
  | guard
  | key
  | left
  | memberName
  | moduleName
  | name
  | object
  | operator
  | operators
  | parameters
  | returnType
  | right
  | subject
  | subscript
  | superclasses
  | type
  | typeConversion
  | typeParameters
  | value
deriving DecidableEq

/-- What a tree is: a construct or a token. A token can appear under the name of a construct. -/
inductive Label where
  | phrase (p : Phrase)
  | token (t : Terminal)
deriving DecidableEq

namespace Label

/-- The name of a label. -/
def text : Label → String
  | phrase p => p.label
  | token t => t.label

/-- Whether a label counts as a part of the construct around it. -/
def isNamed : Label → Bool
  | phrase _ => true
  | token t => t.isNamed

/-- Whether a label can have a role. Tokens that may occur anywhere or are silent have none. -/
def takesRole : Label → Bool
  | phrase _ => true
  | token t => !t.isExtra && !t.isSilent

end Label

/-- A piece of the source: a token, where it starts, and the blank space before it. -/
structure Lexeme where
  gap : String
  loc : Location
  text : String

/-- A source text taken apart. -/
inductive Tree where
  | leaf (label : Label) (role : Option Role) (lexeme : Lexeme)
  | node (label : Label) (role : Option Role) (children : List Tree)

namespace Tree

def label : Tree → Label
  | leaf label _ _ => label
  | node label _ _ => label

def role : Tree → Option Role
  | leaf _ role _ => role
  | node _ role _ => role

def children : Tree → List Tree
  | leaf _ _ _ => []
  | node _ _ children => children

/-- Whether a tree is a given construct. -/
def is (t : Tree) (p : Phrase) : Bool := t.label == .phrase p

/-- Whether a tree is a given kind of token. -/
def isToken (t : Tree) (terminal : Terminal) : Bool := t.label == .token terminal

mutual

/-- The tokens of a tree, from left to right. -/
def lexemes : Tree → List Lexeme
  | leaf _ _ lexeme => [lexeme]
  | node _ _ children => lexemesOf children

/-- The tokens of some trees, from left to right. -/
def lexemesOf : List Tree → List Lexeme
  | [] => []
  | t :: ts => lexemes t ++ lexemesOf ts

end

mutual

/-- The first token of a tree. -/
def firstLexeme? : Tree → Option Lexeme
  | leaf _ _ lexeme => some lexeme
  | node _ _ children => firstLexemeOf? children

/-- The first token of some trees. -/
def firstLexemeOf? : List Tree → Option Lexeme
  | [] => none
  | t :: ts => (firstLexeme? t).or (firstLexemeOf? ts)

end

/-- Where a tree starts. -/
def loc (t : Tree) : Location :=
  match t.firstLexeme? with
  | some lexeme => lexeme.loc
  | none => ⟨1, 1⟩

/-- The source of a tree, from the start of its first token to the end of its last one. -/
def text (t : Tree) : String :=
  match t.lexemes with
  | [] => ""
  | first :: rest => rest.foldl (fun s lexeme => s ++ lexeme.gap ++ lexeme.text) first.text

/-- The parts of a construct, without comments and without literals. -/
def parts (t : Tree) : List Tree :=
  t.children.filter fun c => c.label.isNamed && !c.isToken .comment

/-- The first part with a role. -/
def part? (t : Tree) (r : Role) : Option Tree := t.children.find? fun c => c.role == some r

/-- All parts with a role. -/
def partsWith (t : Tree) (r : Role) : List Tree := t.children.filter fun c => c.role == some r

/-- Gives a role to a tree that can have one and has none yet. -/
def assign (r : Option Role) : Tree → Tree
  | leaf label none lexeme => leaf label (if label.takesRole then r else none) lexeme
  | node label none children => node label r children
  | t => t

end Tree

end CodeAudit
