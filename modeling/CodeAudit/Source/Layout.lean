import CodeAudit.Source.Terminal
import CodeAudit.Source.Text

/-!
# Lines, indentation and the borders of strings

Some tokens depend on what is open where they stand: on the indentation of the enclosing blocks, and on
the quotes of the strings that have begun. `Nesting` keeps track of both. `Layout.token?` recognises
the ends of lines, changes of indentation, and the beginning, the text and the end of strings, in as
far as they are expected.

The ends of lines and the changes of indentation take up no text: the blank space after them belongs to
the next token.
-/

namespace CodeAudit

/-- A string that has begun. -/
structure Quote where
  mark : Char
  /-- Whether the quote is three marks. -/
  triple : Bool
  /-- Whether the string can have holes. -/
  format : Bool
  raw : Bool
  bytes : Bool
deriving DecidableEq

/-- What is open at a place of the source. -/
structure Nesting where
  /-- The indentation of the enclosing blocks, innermost first. -/
  indents : List Nat := [0]
  /-- The strings that have begun, innermost first. -/
  quotes : List Quote := []
  /-- Whether the last string that began, and has not ended yet, can have holes. -/
  formatting : Bool := false
deriving DecidableEq

/-- A token at its place, and what is open after it. -/
structure Token where
  terminal : Terminal
  start : Nat
  stop : Nat
  nesting : Nesting

namespace Layout

/-- Whether a character is one of the marks around a string. -/
def isQuote (c : Char) : Bool := c == '\x22' || c == '\x27' || c == '\x60'

def isBrace (c : Char) : Bool := c == '\x7b' || c == '\x7d'

/-- Where a text that has been read up to `i` goes on after a backslash of a raw string: a mark, a
backslash or the end of a line is taken with it. -/
def afterRawBackslash (src : SourceText) (mark : Char) (i : Nat) : Nat :=
  let i := if src.charAt i == mark || src.charAt i == '\\' then i + 1 else i
  if src.charAt i == '\x0d' then if src.charAt (i + 1) == '\n' then i + 2 else i + 1
  else if src.charAt i == '\n' then i + 1
  else i

/-- The text of a string up to the next thing that is not plain text, or the end of the string.
`begun` tells whether there is any text yet. -/
def stringPiece? (src : SourceText) (q : Quote) : Nat → Nat → Bool → Option (Terminal × Nat)
  | 0, _, _ => none
  | fuel + 1, i, begun =>
    let c := src.charAt i
    let textEnd := if begun then some (Terminal.stringText, i) else none
    if c == '\x00' then none
    else if isBrace c && q.format then textEnd
    else if c == '\\' then
      if q.raw then stringPiece? src q fuel (afterRawBackslash src q.mark (i + 1)) begun
      else if q.bytes && ['N', 'u', 'U'].contains (src.charAt (i + 1)) then
        stringPiece? src q fuel (i + 3) true
      else textEnd
    else if c == q.mark then
      if !q.triple then if begun then textEnd else some (.stringEnd, i + 1)
      else if src.charAt (i + 1) != q.mark then some (.stringText, i + 1)
      else if src.charAt (i + 2) != q.mark then some (.stringText, i + 2)
      else if begun then textEnd
      else some (.stringEnd, i + 3)
    else if c == '\n' && begun && !q.triple then none
    else stringPiece? src q fuel (i + 1) true

/-- The blank space from a place on: whether a line ends in it, how far the last line is indented, how
far the first comment in it is indented, and where it ends. -/
structure Gap where
  lineEnds : Bool := false
  indent : Nat := 0
  comment : Option Nat := none
  stop : Nat

/-- Looks ahead over blank space, also over whole comments if `comments` are to be passed. There is no
such space before a comment on a line that has begun, or before a backslash that does not end a
line. -/
def gap? (src : SourceText) (comments : Bool) : Nat → Gap → Option Gap
  | 0, _ => none
  | fuel + 1, g =>
    let i := g.stop
    if src.size ≤ i then some { g with lineEnds := true, indent := 0 }
    else match src.charAt i with
      | '\n' => gap? src comments fuel { g with lineEnds := true, indent := 0, stop := i + 1 }
      | ' ' => gap? src comments fuel { g with indent := g.indent + 1, stop := i + 1 }
      | '\x0d' | '\x0c' => gap? src comments fuel { g with indent := 0, stop := i + 1 }
      | '\t' => gap? src comments fuel { g with indent := g.indent + 8, stop := i + 1 }
      | '#' =>
        if !comments then some g
        else if !g.lineEnds then none
        else
          let lineEnd := src.endOf (fun c => c != '\n' && c != '\x00') i
          gap? src comments fuel
            { g with
              comment := g.comment.or (some g.indent)
              indent := 0
              stop := min (lineEnd + 1) src.size }
      | '\\' =>
        let i := if src.charAt (i + 1) == '\x0d' then i + 2 else i + 1
        if src.charAt i == '\n' || src.size ≤ i then
          gap? src comments fuel { g with stop := min (i + 1) src.size }
        else none
      | _ => some g

/-- The beginning of a string at a position: letters that say how it is to be read, and a quote. -/
def stringStart? (src : SourceText) (i : Nat) : Option (Quote × Nat) :=
  let q := src.endOf (fun c => "fFrRbBuU".toList.contains c) i
  let letters := (src.chars.extract i q).toList
  let mark := src.charAt q
  if isQuote mark then
    let triple := mark != '\x60' && src.charAt (q + 1) == mark && src.charAt (q + 2) == mark
    let has (a b : Char) := letters.contains a || letters.contains b
    some (⟨mark, triple, has 'f' 'F', has 'r' 'R', has 'b' 'B'⟩, if triple then q + 3 else q + 1)
  else none

/-- A change of indentation, or the end of a logical line, after a gap with a line end in it. -/
def lineToken? (src : SourceText) (expected : TokenSet) (n : Nesting) (g : Gap) :
    Option (Terminal × Nesting) :=
  let current := n.indents.head?.getD 0
  let inBrackets := expected.has (.literal "\x7d") || expected.has (.literal ")") ||
    expected.has (.literal "]")
  let beforeString := expected.has .stringStart && isQuote (src.charAt g.stop)
  let mayDedent := expected.has .dedent ||
    (!expected.has .newline && !beforeString && !inBrackets)
  let commentIsInside := match g.comment with
    | some indent => current ≤ indent
    | none => false
  if expected.has .indent && current < g.indent then
    some (.indent, { n with indents := g.indent :: n.indents })
  else if mayDedent && g.indent < current && !n.formatting && !commentIsInside then
    some (.dedent, { n with indents := n.indents.tail })
  else if expected.has .newline then some (.newline, n)
  else none

/-- A token of the layout of lines, or the beginning of a string. -/
def lineOrString? (src : SourceText) (expected : TokenSet) (n : Nesting) (i : Nat) : Option Token :=
  let comments := expected.has .indent || expected.has .dedent || expected.has .newline ||
    expected.has (.literal "except")
  match gap? src comments (src.size + 2 - i) { stop := i } with
  | none => none
  | some g =>
    match if g.lineEnds then lineToken? src expected n g else none with
    | some (terminal, nesting) => some ⟨terminal, i, i, nesting⟩
    | none =>
      if g.comment.isNone && expected.has .stringStart then
        (stringStart? src g.stop).map fun (quote, stop) =>
          ⟨.stringStart, g.stop, stop,
            { n with quotes := quote :: n.quotes, formatting := quote.format }⟩
      else none

/-- The token at a position that depends on what is open there. -/
def token? (src : SourceText) (expected : TokenSet) (n : Nesting) (i : Nat) : Option Token :=
  match n.quotes with
  | quote :: outer =>
    if expected.has .doubledBrace && quote.format && isBrace (src.charAt i) then
      if src.charAt (i + 1) == src.charAt i then some ⟨.doubledBrace, i, i + 2, n⟩ else none
    else if expected.has .stringText then
      (stringPiece? src quote (src.size + 2 - i) i false).map fun (terminal, stop) =>
        let nesting := if terminal = .stringEnd then { n with quotes := outer, formatting := false }
          else n
        ⟨terminal, i, stop, nesting⟩
    else lineOrString? src expected n i
  | [] => lineOrString? src expected n i

end Layout

end CodeAudit
