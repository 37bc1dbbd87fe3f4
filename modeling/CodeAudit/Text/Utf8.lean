/-!
# Reading bytes as text

`Utf8.decode` reads a whole byte sequence or reports the first fault: where the faulty sequence
starts, and how many bytes of it are wrong beyond doubt. A sequence that is cut off by the end of
the input has no such number.
-/

namespace CodeAudit.Utf8

/-- The first fault of a byte sequence. -/
structure Fault where
  /-- Where the faulty sequence starts. -/
  start : Nat
  /-- The length of its longest part that no further bytes could mend; `none` when the input ends
  within the sequence. -/
  length : Option Nat
deriving DecidableEq

/-- The description of a fault. -/
def Fault.message (f : Fault) : String :=
  match f.length with
  | some n => "invalid utf-8 sequence of " ++ toString n ++ " bytes from index " ++ toString f.start
  | none => "incomplete utf-8 byte sequence from index " ++ toString f.start

/-- Whether a byte continues a sequence. -/
def isTail (b : Nat) : Bool := 0x80 ≤ b && b ≤ 0xBF

/-- The bytes that may follow a lead byte of a sequence of three. -/
def second3 (lead b : Nat) : Bool :=
  if lead == 0xE0 then 0xA0 ≤ b && b ≤ 0xBF
  else if lead == 0xED then 0x80 ≤ b && b ≤ 0x9F
  else isTail b

/-- The bytes that may follow a lead byte of a sequence of four. -/
def second4 (lead b : Nat) : Bool :=
  if lead == 0xF0 then 0x90 ≤ b && b ≤ 0xBF
  else if lead == 0xF4 then 0x80 ≤ b && b ≤ 0x8F
  else isTail b

/-- What stands at a position of the input: a character and its length in bytes, or a fault. -/
def charAt (bytes : ByteArray) (i : Nat) : Except Fault (Char × Nat) :=
  let byte? (k : Nat) : Option Nat := if h : i + k < bytes.size then some (bytes[i + k]).toNat else none
  let cut : Except Fault (Char × Nat) := .error ⟨i, none⟩
  let bad (n : Nat) : Except Fault (Char × Nat) := .error ⟨i, some n⟩
  match byte? 0 with
  | none => cut
  | some a =>
    if a < 0x80 then .ok (Char.ofNat a, 1)
    else if 0xC2 ≤ a ∧ a ≤ 0xDF then
      match byte? 1 with
      | none => cut
      | some b => if isTail b then .ok (Char.ofNat ((a - 0xC0) * 64 + (b - 0x80)), 2) else bad 1
    else if 0xE0 ≤ a ∧ a ≤ 0xEF then
      match byte? 1 with
      | none => cut
      | some b =>
        if !second3 a b then bad 1
        else
          match byte? 2 with
          | none => cut
          | some c =>
            if !isTail c then bad 2
            else .ok (Char.ofNat ((a - 0xE0) * 4096 + (b - 0x80) * 64 + (c - 0x80)), 3)
    else if 0xF0 ≤ a ∧ a ≤ 0xF4 then
      match byte? 1 with
      | none => cut
      | some b =>
        if !second4 a b then bad 1
        else
          match byte? 2 with
          | none => cut
          | some c =>
            if !isTail c then bad 2
            else
              match byte? 3 with
              | none => cut
              | some d =>
                if !isTail d then bad 3
                else
                  .ok (Char.ofNat ((a - 0xF0) * 262144 + (b - 0x80) * 4096 + (c - 0x80) * 64 +
                    (d - 0x80)), 4)
    else bad 1

/-- Reads from a position on; `fuel` bounds the number of characters. -/
def decodeFrom (bytes : ByteArray) : Nat → Nat → Array Char → Except Fault (Array Char)
  | 0, _, acc => .ok acc
  | fuel + 1, i, acc =>
    if i < bytes.size then
      match charAt bytes i with
      | .error f => .error f
      | .ok (c, n) => decodeFrom bytes fuel (i + n) (acc.push c)
    else .ok acc

/-- The characters of a byte sequence, or its first fault. -/
def decode (bytes : ByteArray) : Except Fault (Array Char) :=
  decodeFrom bytes bytes.size 0 (Array.emptyWithCapacity bytes.size)

end CodeAudit.Utf8
