import CodeAudit.Text.Property.Category
import CodeAudit.Text.Property.Binary

/-!
# Quoted text

A text is quoted so that every character of it can be seen. Quotes and backslashes get a backslash,
the common control characters a letter, and whatever has no glyph of its own (control, format,
private and unassigned code points, separators other than the blank, and marks that attach to the
character before them) its code point in braces.
-/

namespace CodeAudit.Quoted

/-- The code points without a visible form. -/
def unprintable : CharSet :=
  (CharSet.unions (["cc", "cf", "co", "cn", "zl", "zp", "zs"].map Category.ofShort)).diff
    (.single ' ')

/-- The marks that attach to the character before them. -/
def extending : CharSet := (BinaryProperty.find? "graphemeextend").getD .empty

/-- The quoted form of a character. -/
def encodeChar (c : Char) : List Char :=
  match c with
  | '\x00' => ['\\', '0']
  | '\t' => ['\\', 't']
  | '\n' => ['\\', 'n']
  | '\r' => ['\\', 'r']
  | '\\' => ['\\', '\\']
  | '"' => ['\\', '"']
  | _ =>
    if c.toNat < 0x7F && 0x20 ≤ c.toNat then [c]
    else if extending.contains c || unprintable.contains c then
      ['\\', 'u', '\x7b'] ++ Nat.toDigits 16 c.toNat ++ ['\x7d']
    else [c]

/-- The quoted form of a text, quotes included. -/
def encode (s : String) : String :=
  String.ofList ('"' :: s.toList.flatMap encodeChar ++ ['"'])

/-- The quoted form of a list of texts. -/
def encodeList (xs : List String) : String :=
  "[" ++ ", ".intercalate (xs.map encode) ++ "]"

end CodeAudit.Quoted
