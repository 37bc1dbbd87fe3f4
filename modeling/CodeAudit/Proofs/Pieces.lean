import CodeAudit.Text.Search
import Mathlib.Data.List.Induction

/-!
# Texts that are cut at a character

A text that is cut at a character falls into pieces, and the pieces joined by the character are the text
again. Pieces that are joined can be told apart as long as the character is in none of them. What stands
behind the last occurrence of the character is the last piece.
-/

namespace CodeAudit.Search

variable {sep : Char}

theorem splitAt_eq_splitOn (sep : Char) (text : List Char) : splitAt sep text = text.splitOn sep := by
  induction text with
  | nil => rfl
  | cons c cs ih =>
    obtain ⟨first, others, h⟩ := List.exists_cons_of_ne_nil (List.splitOn_ne_nil sep cs)
    have hcons : (c :: cs).splitOn sep =
        if c == sep then [] :: cs.splitOn sep else (cs.splitOn sep).modifyHead (c :: ·) :=
      List.splitOnP_cons_eq_if_modifyHead c cs
    rw [splitAt, ih, hcons, h]
    rfl

/-- The pieces of a string between the occurrences of a character. -/
def pieces (sep : Char) (text : String) : List String := (splitAt sep text.toList).map String.ofList

theorem map_toList_pieces (sep : Char) (text : String) :
    (pieces sep text).map String.toList = text.toList.splitOn sep := by
  rw [pieces, splitAt_eq_splitOn, List.map_map]
  exact List.map_id'' (fun cs => String.toList_ofList) _

theorem pieces_ne_nil (sep : Char) (text : String) : pieces sep text ≠ [] := by
  rw [pieces, splitAt_eq_splitOn]
  exact mt List.map_eq_nil_iff.mp (List.splitOn_ne_nil sep text.toList)

/-- A string without the character is one piece. -/
theorem pieces_of_notMem {text : String} (h : sep ∉ text.toList) : pieces sep text = [text] := by
  rw [pieces, splitAt_eq_splitOn, List.splitOn_eq_singleton h, List.map_singleton, String.ofList_toList]

/-- What is added behind the character is a piece of its own. -/
theorem pieces_append (front : String) {last : String} (h : sep ∉ last.toList) :
    pieces sep (front ++ String.singleton sep ++ last) = pieces sep front ++ [last] := by
  have htext : (front ++ String.singleton sep ++ last).toList = front.toList ++ sep :: last.toList := by
    simp
  simp only [pieces, splitAt_eq_splitOn, htext, List.splitOn_append_cons_self,
    List.splitOn_eq_singleton h, List.map_append, List.map_singleton, String.ofList_toList]

/-- The pieces joined by the character are the string. -/
theorem intercalate_pieces (sep : Char) (text : String) :
    (String.singleton sep).intercalate (pieces sep text) = text := by
  rw [← String.toList_inj, String.toList_intercalate, map_toList_pieces, String.toList_singleton]
  exact List.intercalate_splitOn sep

/-- Strings without the character can be told apart after they are joined by it. -/
theorem pieces_intercalate {texts : List String} (hne : texts ≠ [])
    (h : ∀ text ∈ texts, sep ∉ text.toList) :
    pieces sep ((String.singleton sep).intercalate texts) = texts := by
  have hlists : ∀ cs ∈ texts.map String.toList, sep ∉ cs := List.forall_mem_map.mpr h
  have hcut := List.splitOn_intercalate sep hlists (mt List.map_eq_nil_iff.mp hne)
  rw [pieces, splitAt_eq_splitOn, String.toList_intercalate, String.toList_singleton, hcut, List.map_map]
  exact List.map_id'' (fun text => String.ofList_toList) _

/-- The last piece is the whole string, or what stands behind the character at the end of something. -/
theorem getLast?_pieces_eq_some_iff {text last : String} (h : sep ∉ last.toList) :
    (pieces sep text).getLast? = some last ↔
      text = last ∨ ∃ front, text = front ++ String.singleton sep ++ last := by
  constructor
  · intro hlast
    obtain ⟨init, hinit⟩ := List.getLast?_eq_some_iff.mp hlast
    have htext := intercalate_pieces sep text
    rw [hinit] at htext
    by_cases hnil : init = []
    · rw [hnil, List.nil_append, String.intercalate_singleton] at htext
      exact .inl htext.symm
    · rw [String.intercalate_append_of_ne_nil hnil (List.cons_ne_nil _ _),
        String.intercalate_singleton] at htext
      exact .inr ⟨_, htext.symm⟩
  · rintro (rfl | ⟨front, rfl⟩)
    · rw [pieces_of_notMem h]
      rfl
    · rw [pieces_append front h, List.getLast?_concat]

end CodeAudit.Search
