import CodeAudit.Node.Basic
import CodeAudit.Text.CharSet

/-!
# Values of numeric literals

An integer literal has a value if it fits into sixty-four bits with a sign; a decimal one that does not
fit is read as a fraction instead. A fraction stands for the double that is nearest to it, and halfway
between two doubles for the one whose last bit is zero. Literals with letters at their end have no
value.
-/

namespace CodeAudit

namespace Binary64

/-- The bits of positive infinity, which stands for everything that is too large. -/
def infinity : Nat := 0x7FF0000000000000

/-- The leading bit of a significand, which is not stored. -/
def leadingBit : Nat := 1 <<< 52

/-- A quotient rounded to the nearest integer, and to the even one of two that are equally near. -/
def roundDiv (n d : Nat) : Nat :=
  let q := n / d
  let r := n % d
  if d < 2 * r then q + 1
  else if 2 * r < d then q
  else q + q % 2

/-- The quotient `n / (d * 2 ^ q)`, as numerator and denominator. -/
def scale (n d : Nat) (q : Int) : Nat × Nat :=
  if 0 ≤ q then (n, d <<< q.toNat) else (n <<< (-q).toNat, d)

/-- The exponent of the last bit of the double nearest to `n / d`. The significand has fifty-three
bits, unless the exponent would fall below the least one. -/
def lastBit (n d : Nat) : Int :=
  let guess : Int := max (n.log2 - d.log2 - 53 : Int) (-1074)
  let (n, d) := scale n d guess
  if 2 * leadingBit ≤ n / d then guess + 1 else guess

/-- The bits of the double nearest to `n / d`. -/
def bitsOfQuotient (n d : Nat) : Nat :=
  let q := lastBit n d
  let (n, d) := scale n d q
  let m := roundDiv n d
  let bits := if m < leadingBit then m else (q + 1075).toNat * leadingBit + (m - leadingBit)
  min bits infinity

/-- The double nearest to `m * 10 ^ e`. Exponents far out of range are not worked out. -/
def ofDecimal (m : Nat) (e : Int) : Binary64 :=
  let magnitude := (toString m).length + e
  let bits :=
    if m = 0 ∨ magnitude < -330 then 0
    else if 310 < magnitude then infinity
    else if 0 ≤ e then bitsOfQuotient (m * Nat.pow 10 e.toNat) 1
    else bitsOfQuotient m (Nat.pow 10 (-e).toNat)
  ⟨UInt64.ofNat bits⟩

end Binary64

namespace Numeral

/-- The value of a digit in a base up to sixteen. -/
def digit? (base : Nat) (c : Char) : Option Nat := (CharSet.hexDigit? c).filter (· < base)

/-- The value of a row of digits, which must not be empty. -/
def digits? (base : Nat) (cs : List Char) : Option Nat :=
  if cs.isEmpty then none
  else cs.foldlM (fun n c => (digit? base c).map fun d => n * base + d) 0

/-- The characters of a literal without underscores. -/
def bare (text : String) : List Char := text.toList.filter (· != '_')

/-- The value of an integer literal of any size. -/
def natural? : List Char → Option Nat
  | '0' :: 'x' :: cs | '0' :: 'X' :: cs => digits? 16 cs
  | '0' :: 'o' :: cs | '0' :: 'O' :: cs => digits? 8 cs
  | '0' :: 'b' :: cs | '0' :: 'B' :: cs => digits? 2 cs
  | cs => digits? 10 cs

/-- The value of an integer literal, if it fits into sixty-four bits with a sign. -/
def integer? (text : String) : Option Int64 :=
  (natural? (bare text)).bind fun n => if n < 1 <<< 63 then some (Int64.ofNat n) else none

/-- The value of an exponent: its letter, a sign and digits, or nothing at all. -/
def exponent? : List Char → Option Int
  | [] => some 0
  | c :: cs =>
    if c == 'e' || c == 'E' then
      match cs with
      | '-' :: cs => (digits? 10 cs).map fun n => -(n : Int)
      | '+' :: cs => (digits? 10 cs).map Int.ofNat
      | cs => (digits? 10 cs).map Int.ofNat
    else none

/-- The value of a literal with an optional fraction and an optional exponent. -/
def fraction? (text : String) : Option Binary64 :=
  let (whole, rest) := (bare text).span Char.isDigit
  let (part, rest) := match rest with
    | '.' :: rest => rest.span Char.isDigit
    | rest => ([], rest)
  match digits? 10 (whole ++ part), exponent? rest with
  | some m, some e => some (.ofDecimal m (e - part.length))
  | _, _ => none

end Numeral

end CodeAudit
