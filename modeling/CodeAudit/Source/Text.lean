import CodeAudit.Node.Basic

/-!
# Source texts

The characters of a source and where each of them stands. Beyond the end of a source there are NUL
characters, so that looking ahead always finds something.
-/

namespace CodeAudit

/-- A source and the locations of its characters. -/
structure SourceText where
  chars : Array Char
  /-- Where each character starts; the last entry is the end of the source. -/
  locs : Array Location

namespace SourceText

/-- Where the next character starts, after a character at some place. -/
def advance (l : Location) (c : Char) : Location :=
  if c = '\n' then ⟨l.line + 1, 1⟩ else ⟨l.line, l.col + c.utf8Size⟩

/-- The source with some characters. -/
def ofChars (chars : Array Char) : SourceText :=
  let start : Array Location × Location := (#[], ⟨1, 1⟩)
  let (locs, last) := chars.foldl (fun (locs, l) c => (locs.push l, advance l c)) start
  ⟨chars, locs.push last⟩

/-- The number of characters. -/
def size (s : SourceText) : Nat := s.chars.size

/-- The character at a position. -/
def charAt (s : SourceText) (i : Nat) : Char := s.chars.getD i '\x00'

/-- The location of a position. -/
def locAt (s : SourceText) (i : Nat) : Location := s.locs.getD i ⟨1, 1⟩

/-- The text between two positions. -/
def slice (s : SourceText) (start stop : Nat) : String :=
  String.ofList (s.chars.extract start stop).toList

/-- Whether a text stands at a position. -/
def startsWith (s : SourceText) (i : Nat) : List Char → Bool
  | [] => true
  | c :: cs => s.charAt i == c && i < s.size && startsWith s (i + 1) cs

/-- The first position from `i` on, in at most `fuel` steps, whose character does not satisfy `p`. -/
def skipWhile (s : SourceText) (p : Char → Bool) (fuel i : Nat) : Nat :=
  match fuel with
  | 0 => i
  | fuel + 1 => if i < s.size && p (s.charAt i) then skipWhile s p fuel (i + 1) else i

/-- The first position from `i` on whose character does not satisfy `p`. -/
def endOf (s : SourceText) (p : Char → Bool) (i : Nat) : Nat := s.skipWhile p (s.size - i) i

end SourceText

end CodeAudit
