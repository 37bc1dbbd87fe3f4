/-!
# Base 64

Three bytes are written as four digits of six bits; a text that ends within a group of three is
filled up with `=`. Decoding is strict: the length is a multiple of four, the fill stands at the end
and nowhere else, and the bits that the fill leaves over are zero. So every byte sequence has one
written form.
-/

namespace CodeAudit.Base64

/-- The digit for a value below sixty-four. -/
def digit (v : Nat) : Char :=
  if v < 26 then Char.ofNat (65 + v)
  else if v < 52 then Char.ofNat (97 + (v - 26))
  else if v < 62 then Char.ofNat (48 + (v - 52))
  else if v = 62 then '+' else '/'

/-- The value of a digit. -/
def value? (c : Char) : Option Nat :=
  if 'A' ≤ c ∧ c ≤ 'Z' then some (c.toNat - 65)
  else if 'a' ≤ c ∧ c ≤ 'z' then some (c.toNat - 97 + 26)
  else if '0' ≤ c ∧ c ≤ '9' then some (c.toNat - 48 + 52)
  else if c = '+' then some 62
  else if c = '/' then some 63
  else none

/-- The written form of a byte sequence. -/
def encode : List UInt8 → List Char
  | [] => []
  | [a] => [digit (a.toNat / 4), digit (a.toNat % 4 * 16), '=', '=']
  | [a, b] =>
    [digit (a.toNat / 4), digit (a.toNat % 4 * 16 + b.toNat / 16), digit (b.toNat % 16 * 4), '=']
  | a :: b :: c :: rest =>
    digit (a.toNat / 4) :: digit (a.toNat % 4 * 16 + b.toNat / 16) ::
      digit (b.toNat % 16 * 4 + c.toNat / 64) :: digit (c.toNat % 64) :: encode rest

/-- The byte sequence with a written form, if there is one. -/
def decode? : List Char → Option (List UInt8)
  | [] => some []
  | p :: q :: r :: s :: rest => do
    let a ← value? p
    let b ← value? q
    let first := UInt8.ofNat (a * 4 + b / 16)
    if s = '=' ∧ rest = [] then
      if r = '=' then
        if b % 16 = 0 then some [first] else none
      else
        let c ← value? r
        if c % 4 = 0 then some [first, UInt8.ofNat (b % 16 * 16 + c / 4)] else none
    else
      let c ← value? r
      let d ← value? s
      let tail ← decode? rest
      some (first :: UInt8.ofNat (b % 16 * 16 + c / 4) :: UInt8.ofNat (c % 4 * 64 + d) :: tail)
  | _ => none

end CodeAudit.Base64
