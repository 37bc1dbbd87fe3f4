import CodeAudit.Encoding.Base64
import CodeAudit.Encoding.Hex
import CodeAudit.Encoding.Rot13
import CodeAudit.Regex.Search
import CodeAudit.Text.Utf8

/-!
# Disguised text

A string literal may hide text in an encoding. Each encoding has a shape, a pattern that tells which
literals are worth decoding. The encodings are tried in a fixed order and the first that brings
something suspicious to light counts: a zero byte, or a match of the pattern for plain text.
-/

namespace CodeAudit

/-- The ways to disguise a text. -/
inductive Encoding where
  | base64
  | rot13
  | hex
deriving DecidableEq

namespace Encoding

/-- The name in messages. -/
def label : Encoding → String
  | base64 => "base64"
  | rot13 => "rot13"
  | hex => "hex"

/-- The bytes behind a literal, if it can be decoded. -/
def decode? (e : Encoding) (literal : String) : Option ByteArray :=
  match e with
  | base64 => (Base64.decode? (Blank.trimEnd literal.toList)).map fun bytes => ⟨bytes.toArray⟩
  | rot13 => some (String.ofList (Rot13.decode literal.toList)).toUTF8
  | hex => (Hex.decode? literal.toList).map fun bytes => ⟨bytes.toArray⟩

end Encoding

/-- What came to light. -/
inductive Hidden where
  | nulByte
  | fragment (text : String)
deriving DecidableEq

/-- The shapes of the encodings, and the pattern for what is suspicious. -/
structure Disguise where
  base64Shape : Regex
  rot13Shape : Regex
  hexShape : Regex
  rescan : Regex

namespace Disguise

/-- The shape of an encoding. -/
def shape (d : Disguise) : Encoding → Regex
  | .base64 => d.base64Shape
  | .rot13 => d.rot13Shape
  | .hex => d.hexShape

/-- What is suspicious about some bytes. -/
def reveal? (d : Disguise) (bytes : ByteArray) : Option Hidden :=
  if bytes.data.contains 0 then some .nulByte
  else
    match Utf8.decode bytes with
    | .ok text => (d.rescan.find? text).map fun m =>
        .fragment (String.ofList (text.extract m.1 m.2).toList)
    | .error _ => none

/-- The first encoding that brings something to light, and what that is. -/
def inspect? (d : Disguise) (literal : String) : Option (Encoding × Hidden) :=
  [Encoding.base64, .rot13, .hex].findSome? fun e =>
    if (d.shape e).isMatch literal then
      ((e.decode? literal).bind d.reveal?).map fun hidden => (e, hidden)
    else none

end Disguise

end CodeAudit
