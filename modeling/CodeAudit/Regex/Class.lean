import CodeAudit.Regex.Words
import CodeAudit.Text.CaseOrbit
import CodeAudit.Text.Property.Script

/-!
# Named classes of characters

The classes that a pattern can refer to by name: `[:alpha:]` and its like, which are ASCII only, and
`\p{name}`, which asks for a general category, a script or another property. Names of the second
sort are compared loosely: case, blanks, dashes, underscores and a leading `is` do not matter.
-/

namespace CodeAudit.CharClass

/-- The members of a class that is written `[:name:]`. -/
def ascii? (name : String) : Option CharSet :=
  (fun ranges => ⟨ranges⟩) <$> match name with
  | "alnum" => some [(0x30, 0x39), (0x41, 0x5A), (0x61, 0x7A)]
  | "alpha" => some [(0x41, 0x5A), (0x61, 0x7A)]
  | "ascii" => some [(0x00, 0x7F)]
  | "blank" => some [(0x09, 0x09), (0x20, 0x20)]
  | "cntrl" => some [(0x00, 0x1F), (0x7F, 0x7F)]
  | "digit" => some [(0x30, 0x39)]
  | "graph" => some [(0x21, 0x7E)]
  | "lower" => some [(0x61, 0x7A)]
  | "print" => some [(0x20, 0x7E)]
  | "punct" => some [(0x21, 0x2F), (0x3A, 0x40), (0x5B, 0x60), (0x7B, 0x7E)]
  | "space" => some [(0x09, 0x0D), (0x20, 0x20)]
  | "upper" => some [(0x41, 0x5A)]
  | "word" => some [(0x30, 0x39), (0x41, 0x5A), (0x5F, 0x5F), (0x61, 0x7A)]
  | "xdigit" => some [(0x30, 0x39), (0x41, 0x46), (0x61, 0x66)]
  | _ => none

/-- The loose form of a name. The name `isc` belongs to no class and must not be taken for `c`. -/
def loose (name : List Char) : String :=
  let name := name.filter fun c => c.toNat < 128
  let fold (cs : List Char) := (cs.filter fun c => !([' ', '_', '-'].contains c)).map Char.toLower
  match name with
  | a :: b :: rest =>
    if a.toLower == 'i' && b.toLower == 's' then
      let tail := String.ofList (fold rest)
      if tail == "c" then "isc" else tail
    else String.ofList (fold name)
  | _ => String.ofList (fold name)

/-- The characters of a property that is named alone. Three short names are read as categories
although properties go by them too. -/
def property? (name : List Char) : Option CharSet :=
  let name := loose name
  let plain := if ["cf", "sc", "lc"].contains name then none else BinaryProperty.find? name
  plain.or ((Category.find? name).or (Script.find? name))

/-- The characters for which a property has a value. -/
def valued? (name value : List Char) : Option CharSet :=
  let value := loose value
  match loose name with
  | "gc" | "generalcategory" => Category.find? value
  | "sc" | "script" | "scx" | "scriptextensions" => Script.find? value
  | _ => none

/-- The number of code points a negation ranges over when only bytes are meant. -/
def byteTop : Nat := 0xFF

/-- The members of a set with both cases of every ASCII letter. -/
def closeAscii (s : CharSet) : CharSet :=
  let letters := s.ranges.flatMap fun r =>
    [(max r.1 0x41 + 32, min r.2 0x5A + 32), (max r.1 0x61 - 32, min r.2 0x7A - 32)]
  s.union (.ofRanges (letters.filter fun r => r.1 ≤ r.2))

end CodeAudit.CharClass
