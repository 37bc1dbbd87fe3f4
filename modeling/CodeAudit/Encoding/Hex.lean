import CodeAudit.Text.Blank
import CodeAudit.Text.Search

/-!
# Bytes written as hexadecimal pairs

Each byte is a pair of digits, bare or after one of the marks `0x` and `\x`, with any blanks in
between. All marks are taken out first and the remaining characters are paired up, so the marks need
not stand in front of every byte. A sign may stand in for the first digit of a pair.
-/

namespace CodeAudit.Hex

/-- The value of a digit, in either case. -/
def digit? (c : Char) : Option Nat := CharSet.hexDigit? c

/-- The value of a pair: two digits, or a plus sign and a digit. -/
def pair? (a b : Char) : Option UInt8 :=
  if a = '+' then (digit? b).map UInt8.ofNat
  else do
    let high ← digit? a
    let low ← digit? b
    some (UInt8.ofNat (high * 16 + low))

/-- The values of all pairs. -/
def pairs? : List Char → Option (List UInt8)
  | [] => some []
  | a :: b :: rest => do
    let byte ← pair? a b
    let bytes ← pairs? rest
    some (byte :: bytes)
  | [_] => none

/-- What is left of a text once marks and blanks are taken out. -/
def digitsOf (text : List Char) : List Char :=
  (Search.replace ['\\', 'x'] [] (Search.replace ['0', 'x'] [] text)).filter fun c =>
    !Blank.isBlank c

/-- The bytes a text stands for, if it stands for at least one. -/
def decode? (text : List Char) : Option (List UInt8) :=
  match digitsOf text with
  | [] => none
  | digits => pairs? digits

/-- The two digits of a byte, in lower case. -/
def encodeByte (b : UInt8) : List Char :=
  [Nat.digitChar (b.toNat / 16), Nat.digitChar (b.toNat % 16)]

/-- The digits of a byte sequence, in lower case. -/
def encode (bytes : List UInt8) : List Char := bytes.flatMap encodeByte

end CodeAudit.Hex
