import CodeAudit.Source.Layout
import CodeAudit.Text.Identifier

/-!
# Recognising tokens

A token is looked for among those that are expected where it stands. Tokens of the layout come first;
among the others the longest one counts, and escapes, the text of formats and continued lines go before
everything else. A word is a name where the word itself is not expected.
-/

namespace CodeAudit

namespace Lexer

def isDigit (c : Char) : Bool := '0' ≤ c && c ≤ '9'

def isHexDigit (c : Char) : Bool := isDigit c || ('a' ≤ c && c ≤ 'f') || ('A' ≤ c && c ≤ 'F')

def isOctalDigit (c : Char) : Bool := '0' ≤ c && c ≤ '7'

def isBinaryDigit (c : Char) : Bool := c == '0' || c == '1'

/-- Whether a character is blank space between tokens. -/
def isSpace (c : Char) : Bool :=
  c == ' ' || c == '\t' || c == '\n' || c == '\x0d' || c == '\x0c' || c == '\x0b' ||
    c == '\ufeff' || c == '\u2060' || c == '\u200b'

/-- The end of a row of digits with single underscores after some of them. -/
def decimalEnd? (src : SourceText) : Nat → Nat → Option Nat
  | 0, _ => none
  | fuel + 1, i =>
    let stop := src.endOf isDigit i
    if stop = i then none
    else if src.charAt stop == '_' then some ((decimalEnd? src fuel (stop + 1)).getD (stop + 1))
    else some stop

/-- The end of a row of digits from a position on. -/
def decimal? (src : SourceText) (i : Nat) : Option Nat := decimalEnd? src (src.size + 1 - i) i

/-- The end of a row of digits with single underscores before some of them. -/
def groupsEnd? (src : SourceText) (digit : Char → Bool) : Nat → Nat → Option Nat
  | 0, _ => none
  | fuel + 1, i =>
    let start := if src.charAt i == '_' then i + 1 else i
    let stop := src.endOf digit start
    if stop = start then none else some ((groupsEnd? src digit fuel stop).getD stop)

/-- A position, or the next one if its character is one of the given ones. -/
def optional (src : SourceText) (cs : List Char) (i : Nat) : Nat :=
  if cs.contains (src.charAt i) then i + 1 else i

/-- An integer with a mark for its base. -/
def based? (src : SourceText) (marks : List Char) (digit : Char → Bool) (i : Nat) : Option Nat :=
  if src.charAt i == '0' && marks.contains (src.charAt (i + 1)) then
    (groupsEnd? src digit (src.size + 1 - i) (i + 2)).map (optional src ['L', 'l'])
  else none

/-- The greatest of some positions. -/
def furthest? (ends : List (Option Nat)) : Option Nat :=
  (ends.filterMap id).foldl (fun best stop => some (max (best.getD 0) stop)) none

/-- The end of an integer literal. -/
def integer? (src : SourceText) (i : Nat) : Option Nat :=
  furthest?
    [based? src ['x', 'X'] isHexDigit i, based? src ['o', 'O'] isOctalDigit i,
      based? src ['b', 'B'] isBinaryDigit i,
      (decimal? src i).map (optional src ['L', 'l', 'J', 'j'])]

/-- The end of an exponent. -/
def exponent? (src : SourceText) (i : Nat) : Option Nat :=
  if src.charAt i == 'e' || src.charAt i == 'E' then
    decimal? src (optional src ['+', '-'] (i + 1))
  else none

/-- The end of a literal with a fraction or an exponent. -/
def float? (src : SourceText) (i : Nat) : Option Nat :=
  let whole := decimal? src i
  let point (j : Nat) := if src.charAt j == '.' then some (j + 1) else none
  let withExponent (j : Nat) := (exponent? src j).getD j
  let ends :=
    [(whole.bind point).map fun j => withExponent ((decimal? src j).getD j),
      ((point (whole.getD i)).bind (decimal? src)).map withExponent,
      whole.bind (exponent? src)]
  (furthest? ends).map (optional src ['j', 'J'])

/-- Whether a number of characters from a position on are hexadecimal digits. -/
def areHex (src : SourceText) (n i : Nat) : Bool :=
  (List.range n).all fun k => isHexDigit (src.charAt (i + k))

/-- The end of a known escape that begins with the backslash at a position. -/
def escape? (src : SourceText) (i : Nat) : Option Nat :=
  if src.charAt i != '\\' || src.size ≤ i + 1 then none
  else match src.charAt (i + 1) with
    | 'u' => if areHex src 4 (i + 2) then some (i + 6) else none
    | 'U' => if areHex src 8 (i + 2) then some (i + 10) else none
    | 'x' => if areHex src 2 (i + 2) then some (i + 4) else none
    | 'N' =>
      if src.charAt (i + 2) == '\x7b' then
        let stop := src.endOf (fun c => c != '\x7d' && c != '\x00') (i + 3)
        if i + 3 < stop && src.charAt stop == '\x7d' then some (stop + 1) else none
      else none
    | '\n' => some (i + 2)
    | '\x0d' => if src.charAt (i + 2) == '\n' then some (i + 3) else none
    | c =>
      if isDigit c then some (min (src.endOf isDigit (i + 1)) (i + 4))
      else if ['\x27', '\x22', 'a', 'b', 'f', 'r', 'n', 't', 'v', '\\'].contains c then some (i + 2)
      else none

/-- The end of a backslash together with the end of its line. -/
def lineContinuation? (src : SourceText) (i : Nat) : Option Nat :=
  if src.charAt i != '\\' || src.size ≤ i then none
  else if src.size ≤ i + 1 then some (i + 1)
  else match src.charAt (i + 1) with
    | '\n' | '\x00' => some (i + 2)
    | '\x0d' => if src.charAt (i + 2) == '\n' then some (i + 3) else none
    | _ => none

/-- The signs with their characters. -/
def signTable : List (List Char × Terminal × Nat) :=
  Terminal.signs.map fun s => (s.toList, .literal s, Terminal.index (.literal s))

/-- The longest of some tokens, the first one in case of doubt. -/
def longest? (tokens : List (Terminal × Nat)) : Option (Terminal × Nat) :=
  tokens.foldl (fun best token =>
    match best with
    | some (_, stop) => if stop < token.2 then some token else best
    | none => some token) none

/-- A word or a name. -/
def word? (src : SourceText) (expected : TokenSet) (i : Nat) : Option (Terminal × Nat) :=
  if Identifier.isStart (src.charAt i) then
    let stop := src.endOf Identifier.isContinue (i + 1)
    match (Terminal.ofWord? (src.slice i stop)).filter expected.has with
    | some word => some (word, stop)
    | none => if expected.has .identifier then some (.identifier, stop) else none
  else none

/-- A kind of token with its end, if it is there. -/
def tokenTo (t : Terminal) (stop : Option Nat) : List (Terminal × Nat) := (stop.map (t, ·)).toList

/-- The text of a format up to a brace, a zero or the end of the line. -/
def formatText? (src : SourceText) (i : Nat) : Option Nat :=
  let stop := src.endOf (fun c => !Layout.isBrace c && c != '\n' && c != '\x00') i
  if i < stop then some stop else none

/-- Tokens that go before all others. An escape must follow the token before it immediately. -/
def urgent (src : SourceText) (expected : TokenSet) (immediate : Bool) (i : Nat) :
    List (Terminal × Nat) :=
  (if immediate && expected.has .escape then tokenTo .escape (escape? src i) else []) ++
    (if expected.has .formatText then tokenTo .formatText (formatText? src i) else []) ++
    tokenTo .lineContinuation (lineContinuation? src i)

/-- Literals with digits. -/
def numbers (src : SourceText) (expected : TokenSet) (i : Nat) : List (Terminal × Nat) :=
  let c := src.charAt i
  if isDigit c || c == '.' then
    (if expected.has .integer then tokenTo .integer (integer? src i) else []) ++
      (if expected.has .float then tokenTo .float (float? src i) else [])
  else []

/-- Signs of the language. -/
def signsAt (src : SourceText) (expected : TokenSet) (i : Nat) : List (Terminal × Nat) :=
  signTable.filterMap fun (chars, terminal, index) =>
    if src.startsWith i chars && expected.contains index then some (terminal, i + chars.length)
    else none

/-- Tokens among which the longest one counts. -/
def ordinary (src : SourceText) (expected : TokenSet) (immediate : Bool) (i : Nat) :
    List (Terminal × Nat) :=
  let c := src.charAt i
  let next := src.charAt (i + 1)
  (if immediate && c == '\\' && expected.has .loneBackslash then [(.loneBackslash, i + 1)]
    else []) ++
    (if c == '#' then [(.comment, src.endOf (fun c => c != '\n' && c != '\x00') i)] else []) ++
    (if c == '!' && 'a' ≤ next && next ≤ 'z' && expected.has .conversion then
      [(.conversion, i + 2)] else []) ++
    numbers src expected i ++
    (if src.startsWith i ['.', '.', '.'] && expected.has .ellipsis then [(.ellipsis, i + 3)]
      else []) ++
    signsAt src expected i ++
    (word? src expected i).toList

/-- The next token that does not depend on the layout. Blank space before it is passed over, unless it
is a token itself. -/
def plain? (src : SourceText) (expected : TokenSet) (n : Nesting) : Nat → Bool → Nat → Option Token
  | 0, _, _ => none
  | fuel + 1, immediate, i =>
    if src.size ≤ i then some ⟨.endOfFile, src.size, src.size, n⟩
    else
      match longest? (urgent src expected immediate i) with
      | some (terminal, stop) => some ⟨terminal, i, stop, n⟩
      | none =>
        match longest? (ordinary src expected immediate i) with
        | some (terminal, stop) => some ⟨terminal, i, stop, n⟩
        | none => if isSpace (src.charAt i) then plain? src expected n fuel false (i + 1) else none

/-- The next token from a position on, if it is one that is expected there. A byte order mark at the
beginning of the source is passed over. -/
def token? (src : SourceText) (expected : TokenSet) (n : Nesting) (i : Nat) : Option Token :=
  let start := if i = 0 && src.charAt 0 == '\ufeff' then 1 else i
  match Layout.token? src expected n start with
  | some token => some token
  | none => plain? src expected n (src.size + 1 - start) true start

end Lexer

end CodeAudit
