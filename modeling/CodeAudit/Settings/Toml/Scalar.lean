import CodeAudit.Settings.Value
import CodeAudit.Source.Numeral
import CodeAudit.Text.CharSet

/-!
# Scalars of TOML

Strings come in four forms: with escapes or without, on one line or on several. Everything else that
is no list and no record is a word without blanks, and what kind of value it is shows in its
characters: a truth value, an integer, a decimal number or a moment in time. Only a moment may have a
blank in it, between its date and its time.
-/

namespace CodeAudit.Toml

/-- Blanks within a line. -/
def isBlank (c : Char) : Bool := c == ' ' || c == '\t'

/-- Characters that stand for themselves in comments and strings. -/
def isPlain (c : Char) : Bool := c == '\t' || (' ' ≤ c && c != '\x7f')

/-- A form of strings. -/
structure StringForm where
  quote : Char
  /-- Whether a backslash begins an escape. -/
  escapes : Bool
  /-- Whether the string may go over several lines; it has three quotes at each end then. -/
  several : Bool

/-- The character that a single letter after a backslash stands for. -/
def letterEscape? : Char → Option Char
  | 'b' => some '\x08'
  | 'f' => some '\x0c'
  | 'n' => some '\n'
  | 'r' => some '\r'
  | 't' => some '\t'
  | '\\' => some '\\'
  | '\x22' => some '\x22'
  | _ => none

/-- The character with a hexadecimal code. -/
def coded? (digits : List Char) : Option Char := do
  let values ← digits.mapM CharSet.hexDigit?
  let code := values.foldl (fun n d => n * 16 + d) 0
  if code.isValidChar then some (Char.ofNat code) else none

/-- Whether only blanks are left on a line that another line follows. -/
def endsLine (cs : List Char) : Bool :=
  match cs.dropWhile isBlank with
  | '\n' :: _ | '\r' :: '\n' :: _ => true
  | _ => false

/-- Puts a character before a string that is read. -/
def push (c : Char) (read : Option (List Char × List Char)) : Option (List Char × List Char) :=
  read.map fun (text, rest) => (c :: text, rest)

/-- A string up to and with its closing quotes, and the text behind it. While `skip` is set, blanks
and line ends are passed over. Up to two quotes may stand directly before three closing ones. -/
def stringBody (form : StringForm) (skip : Bool) : List Char → Option (List Char × List Char)
  | [] => none
  | c :: rest =>
    if c == '\\' && form.escapes then
      match rest with
      | 'U' :: a :: b :: c :: d :: e :: f :: g :: h :: rest =>
        (coded? [a, b, c, d, e, f, g, h]).bind fun c => push c (stringBody form false rest)
      | 'u' :: a :: b :: c :: d :: rest =>
        (coded? [a, b, c, d]).bind fun c => push c (stringBody form false rest)
      | e :: rest =>
        match letterEscape? e with
        | some c => push c (stringBody form false rest)
        | none =>
          if form.several && endsLine (e :: rest) then stringBody form true rest else none
      | [] => none
    else if c == form.quote then
      if form.several then
        match rest.take 4 |>.takeWhile (· == form.quote) with
        | [_, _] => some ([], rest.drop 2)
        | [_, _, _] => some ([c], rest.drop 3)
        | [_, _, _, _] => some ([c, c], rest.drop 4)
        | _ => push c (stringBody form false rest)
      else some ([], rest)
    else if c == '\n' && form.several then
      if skip then stringBody form true rest else push c (stringBody form false rest)
    else if c == '\r' && form.several && rest.head? == some '\n' then stringBody form skip rest
    else if skip && isBlank c then stringBody form true rest
    else if isPlain c then push c (stringBody form false rest)
    else none

/-- The first line end of a string over several lines does not belong to it. -/
def dropLineEnd : List Char → List Char
  | '\n' :: rest => rest
  | '\r' :: '\n' :: rest => rest
  | rest => rest

/-- A string on one line whose opening quote is read. -/
def shortString? (quote : Char) (cs : List Char) : Option (String × List Char) :=
  (stringBody ⟨quote, quote == '\x22', false⟩ false cs).map fun (text, rest) =>
    (String.ofList text, rest)

/-- A string in any form. -/
def string? : List Char → Option (String × List Char)
  | '\x22' :: '\x22' :: '\x22' :: rest =>
    (stringBody ⟨'\x22', true, true⟩ false (dropLineEnd rest)).map fun (text, rest) =>
      (String.ofList text, rest)
  | '\x27' :: '\x27' :: '\x27' :: rest =>
    (stringBody ⟨'\x27', false, true⟩ false (dropLineEnd rest)).map fun (text, rest) =>
      (String.ofList text, rest)
  | '\x22' :: rest => shortString? '\x22' rest
  | '\x27' :: rest => shortString? '\x27' rest
  | _ => none

/-- The number that some digits in a base spell. Underscores may stand between two digits. -/
def digits? (base : Nat) (cs : List Char) : Option Nat :=
  let digit? (c : Char) : Option Nat := (CharSet.hexDigit? c).filter (· < base)
  let rec go (acc : Nat) (between : Bool) : List Char → Option Nat
    | [] => if between then some acc else none
    | c :: rest =>
      if c == '_' then if between then go acc false rest else none
      else (digit? c).bind fun d => go (acc * base + d) true rest
  go 0 false cs

/-- Splits off a sign. -/
def signed : List Char → Bool × List Char
  | '+' :: rest => (false, rest)
  | '-' :: rest => (true, rest)
  | rest => (false, rest)

/-- The digits of a decimal integer, which has no zeros in front. -/
def decimal? (cs : List Char) : Option Nat :=
  match cs with
  | ['0'] => some 0
  | '0' :: _ => none
  | _ => digits? 10 cs

/-- An integer. Only decimal ones have a sign, and all fit into sixty-four bits. -/
def integer? (word : List Char) : Option Int :=
  let value : Option Int := match word with
    | '0' :: 'x' :: rest => (digits? 16 rest).map Int.ofNat
    | '0' :: 'o' :: rest => (digits? 8 rest).map Int.ofNat
    | '0' :: 'b' :: rest => (digits? 2 rest).map Int.ofNat
    | _ =>
      let (negative, rest) := signed word
      (decimal? rest).map fun n => if negative then -(n : Int) else n
  value.filter fun n => Int64.minValue.toInt ≤ n && n ≤ Int64.maxValue.toInt

/-- Whether a word is an exponent with its mark. -/
def isExponent : List Char → Bool
  | 'e' :: rest | 'E' :: rest => (digits? 10 (signed rest).2).isSome
  | _ => false

/-- Whether a word without a sign is a number with a fraction or an exponent. -/
def isFraction (word : List Char) : Bool :=
  let (whole, rest) := word.span fun c => c.isDigit || c == '_'
  (decimal? whole).isSome &&
    match rest with
    | '.' :: rest =>
      let (fraction, rest) := rest.span fun c => c.isDigit || c == '_'
      (digits? 10 fraction).isSome && (rest.isEmpty || isExponent rest)
    | _ => isExponent rest

/-- Whether a number becomes infinite as a double. -/
def isTooLarge (digits : List Char) : Bool :=
  match Numeral.fraction? (String.ofList digits) with
  | some b => b.bits == 0x7FF0000000000000
  | none => false

/-- Whether a word is a decimal number. A positive one must not be too large for a double. -/
def isDecimal (word : List Char) : Bool :=
  let (negative, rest) := signed word
  rest == ['i', 'n', 'f'] || rest == ['n', 'a', 'n'] ||
    (isFraction rest && (negative || !isTooLarge (rest.filter (· != '_'))))

/-- The number that two digits spell. -/
def pair? (a b : Char) : Option Nat := if a.isDigit && b.isDigit then digits? 10 [a, b] else none

/-- Whether two digits spell a number between two bounds. -/
def isPair (least greatest : Nat) (a b : Char) : Bool :=
  match pair? a b with
  | some n => least ≤ n && n ≤ greatest
  | none => false

/-- The number of days of a month. -/
def daysOf (year month : Nat) : Nat :=
  if month == 2 then
    if year % 4 == 0 && (year % 100 != 0 || year % 400 == 0) then 29 else 28
  else if month == 4 || month == 6 || month == 9 || month == 11 then 30
  else 31

/-- Whether a date exists. -/
def isDate (year month day : Option Nat) : Bool :=
  match year, month, day with
  | some y, some m, some d => 1 ≤ m && m ≤ 12 && 1 ≤ d && d ≤ daysOf y m
  | _, _, _ => false

/-- Whether a word is empty or a difference to the universal time. -/
def isOffset : List Char → Bool
  | [] | ['Z'] | ['z'] => true
  | [sign, a, b, ':', c, d] => (sign == '+' || sign == '-') && isPair 0 23 a b && isPair 0 59 c d
  | _ => false

/-- Whether a word is a time of the day, and what is left behind it. -/
def time? : List Char → Option (List Char)
  | a :: b :: ':' :: c :: d :: ':' :: e :: f :: rest =>
    if isPair 0 23 a b && isPair 0 59 c d && isPair 0 60 e f then
      match rest with
      | '.' :: rest =>
        let (fraction, rest) := rest.span Char.isDigit
        if fraction.isEmpty then none else some rest
      | _ => some rest
    else none
  | _ => none

/-- Splits off a date. -/
def date? : List Char → Option (List Char)
  | a :: b :: c :: d :: '-' :: e :: f :: '-' :: g :: h :: rest =>
    let year := (pair? a b).bind fun m => (pair? c d).map fun n => m * 100 + n
    if isDate year (pair? e f) (pair? g h) then some rest else none
  | _ => none

/-- Whether a word is a date, a time, or both. -/
def isMoment (word : List Char) : Bool :=
  match date? word with
  | some [] => true
  | some (mark :: rest) => (mark == 'T' || mark == 't') && ((time? rest).map isOffset).getD false
  | none => time? word == some []

/-- What a word stands for. -/
def word? (word : List Char) : Option Value :=
  if word == ['t', 'r', 'u', 'e'] then some (.bool true)
  else if word == ['f', 'a', 'l', 's', 'e'] then some (.bool false)
  else
    match integer? word with
    | some n => some (.integer n)
    | none =>
      if isMoment word then some (.moment (String.ofList word))
      else if isDecimal word then some (.decimal (String.ofList word))
      else none

/-- Characters of words. -/
def isWordChar (c : Char) : Bool :=
  c.isAlphanum || c == '+' || c == '-' || c == '.' || c == '_' || c == ':'

/-- A value that is no list and no record. -/
def scalar? (cs : List Char) : Option (Value × List Char) :=
  if cs.head? == some '\x22' || cs.head? == some '\x27' then
    (string? cs).map fun (text, rest) => (.text text, rest)
  else
    let (word, rest) := cs.span isWordChar
    let (time, behind) := (rest.drop 1).span isWordChar
    if date? word == some [] && rest.head? == some ' ' && !time.isEmpty then
      (word? (word ++ 'T' :: time)).map fun v => (v, behind)
    else (word? word).map fun v => (v, rest)

end CodeAudit.Toml
