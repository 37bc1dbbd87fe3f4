/-!
# Tokens

A `Terminal` is a kind of token. Words and signs of the language are literals and stand for
themselves. Three tokens come from the layout of the lines, four from the borders and the text of
string literals, and comments and continued lines may stand between any two tokens.

A `TokenSet` is a set of terminals, one bit for each.
-/

namespace CodeAudit

/-- A kind of token. -/
inductive Terminal where
  | endOfFile
  /-- The end of a logical line. -/
  | newline
  | indent
  | dedent
  /-- The letters and the opening quote of a string. -/
  | stringStart
  | stringText
  /-- Two equal braces in the text of a string with holes. -/
  | doubledBrace
  | stringEnd
  | identifier
  | integer
  | float
  | trueWord
  | falseWord
  | noneWord
  | ellipsis
  /-- A known escape in the text of a string. -/
  | escape
  /-- A backslash that starts no known escape. -/
  | loneBackslash
  /-- How the value of a hole is turned into text, such as `!r`. -/
  | conversion
  /-- The text of a format in a hole. -/
  | formatText
  | comment
  /-- A backslash at the end of a line. -/
  | lineContinuation
  /-- A word or a sign that stands for itself. -/
  | literal (spelling : String)
deriving DecidableEq, Inhabited

namespace Terminal

/-- The words of the language. -/
def words : List String :=
  ["_", "__future__", "and", "as", "assert", "async", "await", "break", "case", "class", "continue",
    "def", "del", "elif", "else", "except", "exec", "finally", "for", "from", "global", "if",
    "import", "in", "is", "lambda", "match", "nonlocal", "not", "or", "pass", "print", "raise",
    "return", "try", "type", "while", "with", "yield"]

/-- The signs of the language. -/
def signs : List String :=
  ["except*", "**=", "//=", "<<=", ">>=", "!=", "%=", "&=", "**", "*=", "+=", "-=", "->", "//", "/=",
    ":=", "<<", "<=", "<>", "==", ">=", ">>", "@=", "^=", "|=", "%", "&", "(", ")", "*", "+", ",",
    "-", ".", "/", ":", ";", "<", "=", ">", "@", "[", "]", "^", "\x7b", "|", "\x7d", "~"]

/-- The word that a spelling stands for, apart from names. -/
def ofWord? : String → Option Terminal
  | "True" => some trueWord
  | "False" => some falseWord
  | "None" => some noneWord
  | spelling => if words.contains spelling then some (literal spelling) else none

/-- Whether a token is a word that can also be a name where the word makes no sense. -/
def isWord : Terminal → Bool
  | trueWord | falseWord | noneWord => true
  | literal spelling => words.contains spelling
  | _ => false

/-- Whether a token may stand between any two others. -/
def isExtra : Terminal → Bool
  | comment | lineContinuation => true
  | _ => false

/-- Whether a token is no part of the construct it stands in, and is kept only for its text. -/
def isSilent : Terminal → Bool
  | endOfFile | newline | indent | dedent | stringText | loneBackslash => true
  | _ => false

/-- The number of a terminal. -/
def index : Terminal → Nat
  | endOfFile => 0
  | newline => 1
  | indent => 2
  | dedent => 3
  | stringStart => 4
  | stringText => 5
  | doubledBrace => 6
  | stringEnd => 7
  | identifier => 8
  | integer => 9
  | float => 10
  | trueWord => 11
  | falseWord => 12
  | noneWord => 13
  | ellipsis => 14
  | escape => 15
  | loneBackslash => 16
  | conversion => 17
  | formatText => 18
  | comment => 19
  | lineContinuation => 20
  | literal spelling => 21 + (words ++ signs).idxOf spelling

/-- The number of terminals. -/
def count : Nat := 21 + (words ++ signs).length

/-- The name in trees. -/
def label : Terminal → String
  | endOfFile => "end"
  | newline => "newline"
  | indent => "indent"
  | dedent => "dedent"
  | stringStart => "string_start"
  | stringText => "string_text"
  | doubledBrace => "escape_interpolation"
  | stringEnd => "string_end"
  | identifier => "identifier"
  | integer => "integer"
  | float => "float"
  | trueWord => "true"
  | falseWord => "false"
  | noneWord => "none"
  | ellipsis => "ellipsis"
  | escape => "escape_sequence"
  | loneBackslash => "backslash"
  | conversion => "type_conversion"
  | formatText => "format_text"
  | comment => "comment"
  | lineContinuation => "line_continuation"
  | literal spelling => spelling

/-- Whether a token counts as a part of the construct it stands in. Literals and the tokens of the
layout do not. -/
def isNamed : Terminal → Bool
  | identifier | integer | float | trueWord | falseWord | noneWord | ellipsis | escape | conversion
  | comment | lineContinuation | stringStart | stringEnd | doubledBrace => true
  | _ => false

end Terminal

/-- A set of terminals. -/
structure TokenSet where
  bits : Nat
deriving DecidableEq, Inhabited

namespace TokenSet

def empty : TokenSet := ⟨0⟩

def isEmpty (s : TokenSet) : Bool := s.bits == 0

/-- The set that holds the terminal with a number. -/
def single (index : Nat) : TokenSet := ⟨1 <<< index⟩

/-- Membership of the terminal with a number. -/
def contains (s : TokenSet) (index : Nat) : Bool := s.bits.testBit index

/-- Membership of a terminal. -/
def has (s : TokenSet) (t : Terminal) : Bool := s.contains t.index

def union (s t : TokenSet) : TokenSet := ⟨s.bits ||| t.bits⟩

end TokenSet

end CodeAudit
