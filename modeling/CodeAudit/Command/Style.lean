import CodeAudit.Severity

/-!
# Coloured output

A style is a colour and some attributes. On a terminal without colours all text stays plain. Padding
belongs to the styled text.
-/

namespace CodeAudit

/-- The colours in use. -/
inductive Color where
  | red
  | green
  | yellow
  | blue
  | cyan
  | white
deriving DecidableEq

/-- The number of a colour in control sequences. -/
def Color.code : Color → Nat
  | red => 31
  | green => 32
  | yellow => 33
  | blue => 34
  | cyan => 36
  | white => 37

/-- How a piece of text looks. -/
structure Style where
  color : Option Color := none
  bold : Bool := false
  dim : Bool := false
  italic : Bool := false
  underlined : Bool := false

namespace Style

/-- The control sequence with a number. -/
def sequence (code : Nat) : String := "\x1b[" ++ toString code ++ "m"

/-- The numbers that switch a style on: the colour, and then the attributes. -/
def codes (s : Style) : List Nat :=
  (s.color.map Color.code).toList ++ (if s.bold then [1] else []) ++ (if s.dim then [2] else []) ++
    (if s.italic then [3] else []) ++ (if s.underlined then [4] else [])

/-- A text in a style, if colours are on. -/
def paint (colors : Bool) (s : Style) (text : String) : String :=
  if colors && !s.codes.isEmpty then
    String.join (s.codes.map sequence) ++ text ++ sequence 0
  else text

end Style

/-- A text with blanks behind it up to a width. -/
def padTo (width : Nat) (text : String) : String :=
  text ++ String.ofList (List.replicate (width - text.length) ' ')

/-- The style of a severity. -/
def Severity.style : Severity → Style
  | high => { color := some .red, bold := true }
  | medium => { color := some .yellow, bold := true }
  | low => { color := some .cyan, bold := true }

end CodeAudit
