/-!
# Finding and replacing pieces of text

Texts are lists of characters here. `replace` goes from left to right and never looks again at what
it has put in; the piece to be replaced must not be empty.
-/

namespace CodeAudit.Search

/-- What follows a piece at the front of a text, if the text begins with it. -/
def after? : List Char → List Char → Option (List Char)
  | [], text => some text
  | _ :: _, [] => none
  | p :: ps, c :: cs => if p == c then after? ps cs else none

theorem after?_eq_some_iff {piece text rest : List Char} :
    after? piece text = some rest ↔ text = piece ++ rest := by
  induction piece generalizing text with
  | nil => simp [after?, eq_comm]
  | cons p ps ih =>
    cases text with
    | nil => simp [after?]
    | cons c cs =>
      by_cases h : p = c
      · simp [after?, h, ih]
      · simp [after?, h, Ne.symm h]

/-- Whether a text begins with a piece. -/
def beginsWith (piece text : List Char) : Bool := (after? piece text).isSome

/-- Whether a piece occurs in a text. The empty piece occurs everywhere. -/
def occurs (piece : List Char) : List Char → Bool
  | [] => piece.isEmpty
  | c :: cs => beginsWith piece (c :: cs) || occurs piece cs

/-- A text with every occurrence of a piece replaced, after some characters that are left out. -/
def replaceFrom (piece new : List Char) : Nat → List Char → List Char
  | _, [] => []
  | skip + 1, _ :: cs => replaceFrom piece new skip cs
  | 0, c :: cs =>
    if beginsWith piece (c :: cs) then new ++ replaceFrom piece new (piece.length - 1) cs
    else c :: replaceFrom piece new 0 cs

/-- A text with every occurrence of a piece replaced, from left to right and without overlaps. -/
def replace (piece new text : List Char) : List Char := replaceFrom piece new 0 text

/-- Whether a piece occurs in a string. -/
def occursIn (piece text : String) : Bool := occurs piece.toList text.toList

/-- A string with every occurrence of a piece replaced. -/
def replaceIn (piece new text : String) : String :=
  String.ofList (replace piece.toList new.toList text.toList)

/-- The pieces of a text between the occurrences of a character; a text without it is one piece. -/
def splitAt (sep : Char) : List Char → List (List Char)
  | [] => [[]]
  | c :: cs =>
    if c == sep then [] :: splitAt sep cs
    else
      match splitAt sep cs with
      | [] => [[c]]
      | first :: others => (c :: first) :: others

/-- The part of a text before the first occurrence of a character, or all of it. -/
def before (sep : Char) (text : String) : String :=
  String.ofList (text.toList.takeWhile (· != sep))

end CodeAudit.Search
