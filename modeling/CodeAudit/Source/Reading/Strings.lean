import CodeAudit.Source.Escape
import CodeAudit.Source.Reading.Basic
import CodeAudit.Text.Search

/-!
# Reading string literals

The text pieces of a literal are joined before anything in them is decoded. A literal with holes is a
node whose first child is the text around the holes. Literals in a row are one literal, unless one of
them has holes.
-/

namespace CodeAudit.Reading

/-- The letters before the quote of a string, in lower case. -/
def quoteLetters (start : String) : List Char :=
  let letters := (start.toList.reverse.dropWhile fun c => c == '\x22' || c == '\x27').reverse
  letters.map Char.toLower

/-- The letters of a string literal. -/
def lettersOf (cs : List Reading) : List Char :=
  match (cs.filter fun c => c.tree.isToken .stringStart).getLast? with
  | some start => quoteLetters start.text
  | none => []

/-- The text of a string literal as it is written, without the holes. -/
def writtenText (cs : List Reading) : List Char :=
  (cs.filter fun c => c.is .stringContent || c.tree.isToken .escape).flatMap fun c => c.text.toList

/-- The expressions in the holes of a string literal. -/
def holes (cs : List Reading) : List Node :=
  (cs.filter fun c => c.is .interpolation).filterMap fun c =>
    ((find? c.children .expression).or (named c.children).head?).map expr

/-- What the text of a literal stands for. Doubled braces are single ones in a literal that can have
holes. -/
def decodeText (letters written : List Char) : List Char :=
  let text := if letters.contains 'r' then written else Escape.decode written
  if letters.contains 'f' then
    Search.replace ['\x7d', '\x7d'] ['\x7d'] (Search.replace ['\x7b', '\x7b'] ['\x7b'] text)
  else text

/-- The label of a string literal with holes. -/
def interpolated : String := "interpolated_string"

/-- The node of a string literal. -/
def string (t : Tree) (cs : List Reading) : Node :=
  let letters := lettersOf cs
  let value := String.ofList (decodeText letters (writtenText cs))
  let literal : Node := ⟨t.loc, .str value (letters.contains 'b')⟩
  match holes cs with
  | [] => literal
  | nodes => ⟨t.loc, .other interpolated (literal :: nodes)⟩

/-- The text and the kind of a string literal without holes. -/
def plain? (n : Node) : Option (String × Bool) :=
  match n.shape with
  | .str value bytes => some (value, bytes)
  | _ => none

/-- The node of string literals in a row. -/
def concatenated (t : Tree) (cs : List Reading) : Node :=
  let parts := (named cs).map fun c => string c.tree c.children
  match parts.mapM plain? with
  | some plain =>
    ⟨t.loc, .str (plain.foldl (fun s p => s ++ p.1) "") (plain.any Prod.snd)⟩
  | none => ⟨t.loc, .other t.label.text parts⟩

end CodeAudit.Reading
