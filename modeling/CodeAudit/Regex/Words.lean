import CodeAudit.Text.Blank
import CodeAudit.Text.Property.Binary
import CodeAudit.Text.Property.Category

/-!
# Word characters, digits and blanks

The three classes that patterns name by a letter, each for ASCII alone and for all of Unicode. The
word characters are the alphabetic ones, marks, decimal digits, connectors and joiners.
-/

namespace CodeAudit.Words

/-- The ASCII word characters. -/
def wordAscii : CharSet := ⟨[(0x30, 0x39), (0x41, 0x5A), (0x5F, 0x5F), (0x61, 0x7A)]⟩

/-- The word characters of all scripts. -/
def wordUnicode : CharSet :=
  .unions [(BinaryProperty.find? "alphabetic").getD .empty, (Category.find? "m").getD .empty,
    Category.ofShort "nd", Category.ofShort "pc", (BinaryProperty.find? "joincontrol").getD .empty]

/-- The word characters. -/
def word (unicode : Bool) : CharSet := if unicode then wordUnicode else wordAscii

/-- The decimal digits. -/
def digit (unicode : Bool) : CharSet :=
  if unicode then Category.ofShort "nd" else ⟨[(0x30, 0x39)]⟩

/-- The blanks. -/
def blank (unicode : Bool) : CharSet :=
  if unicode then Blank.table else ⟨[(0x9, 0xD), (0x20, 0x20)]⟩

/-- Whether a character belongs to a word. ASCII characters are decided without the tables. -/
def isWord (unicode : Bool) (c : Char) : Bool :=
  if c.toNat < 128 then c.isAlphanum || c == '_' else unicode && wordUnicode.contains c

end CodeAudit.Words
