import CodeAudit.Text.Search
import Mathlib.Data.List.Infix

/-!
# What a replacement does to a text

A piece at the front of a text is replaced, and a character at which no piece begins stays as it is. A text
falls into segments between the occurrences of a piece, and replacing the piece keeps all segments.
-/

namespace CodeAudit.Search

variable {piece : List Char}

theorem replaceFrom_append (piece new skipped rest : List Char) :
    replaceFrom piece new skipped.length (skipped ++ rest) = replace piece new rest := by
  induction skipped with
  | nil => rfl
  | cons c skipped ih => exact ih

theorem replace_piece_append (hpiece : piece ≠ []) (new rest : List Char) :
    replace piece new (piece ++ rest) = new ++ replace piece new rest := by
  obtain ⟨p, ps, rfl⟩ := List.exists_cons_of_ne_nil hpiece
  have hbegins : beginsWith (p :: ps) (p :: (ps ++ rest)) = true := by
    rw [beginsWith, after?_eq_some_iff.mpr (List.cons_append ..).symm]
    rfl
  rw [List.cons_append, replace, replaceFrom, if_pos hbegins]
  exact congrArg (new ++ ·) (replaceFrom_append ..)

theorem replace_cons_of_absent {c : Char} {cs : List Char} (h : ¬ piece <+: c :: cs) (new : List Char) :
    replace piece new (c :: cs) = c :: replace piece new cs := by
  have hbegins : ¬ beginsWith piece (c :: cs) := by
    rw [beginsWith, Option.isSome_iff_exists]
    rintro ⟨rest, hrest⟩
    exact h ⟨rest, (after?_eq_some_iff.mp hrest).symm⟩
  rw [replace, replaceFrom, if_neg hbegins]
  rfl

theorem replace_append_of_notMem {p : Char} {ps cs : List Char} (h : p ∉ cs) (new rest : List Char) :
    replace (p :: ps) new (cs ++ rest) = cs ++ replace (p :: ps) new rest := by
  induction cs with
  | nil => rfl
  | cons c cs ih =>
    rw [List.mem_cons, not_or] at h
    have habsent : ¬ p :: ps <+: c :: (cs ++ rest) := by
      rw [List.cons_prefix_cons]
      exact fun hboth => h.1 hboth.1
    rw [List.cons_append, replace_cons_of_absent habsent, ih h.2, List.cons_append]

/-- The segments of a text between occurrences of a piece. The piece occurs in none of them, and replacing it
changes nothing else. -/
theorem exists_segments (hpiece : piece ≠ []) (text : List Char) :
    ∃ first others, text = piece.intercalate (first :: others) ∧
      (∀ segment ∈ first :: others, ¬ piece <:+: segment) ∧
      ∀ new, replace piece new text = new.intercalate (first :: others) := by
  by_cases hbegins : piece <+: text
  · obtain ⟨rest, hrest⟩ := hbegins
    have hless : rest.length < text.length := by
      have hpos : 0 < piece.length := List.length_pos_iff.mpr hpiece
      rw [← hrest, List.length_append]
      omega
    obtain ⟨first, others, htext, hfree, hreplace⟩ := exists_segments hpiece rest
    refine ⟨[], first :: others, ?_, ?_, fun new => ?_⟩
    · rw [List.intercalate_cons_cons, List.nil_append, ← htext, hrest]
    · rw [List.forall_mem_cons]
      exact ⟨fun h => hpiece (List.infix_nil.mp h), hfree⟩
    · rw [← hrest, replace_piece_append hpiece, hreplace, List.intercalate_cons_cons, List.nil_append]
  · cases text with
    | nil =>
      refine ⟨[], [], by simp, ?_, fun new => by simp [replace, replaceFrom]⟩
      exact List.forall_mem_singleton.mpr fun h => hpiece (List.infix_nil.mp h)
    | cons c cs =>
      obtain ⟨first, others, htext, hfree, hreplace⟩ := exists_segments hpiece cs
      have hcons (new : List Char) :
          new.intercalate ((c :: first) :: others) = c :: new.intercalate (first :: others) := by
        cases others <;> simp
      rw [List.forall_mem_cons] at hfree
      refine ⟨c :: first, others, by rw [hcons, ← htext], ?_, fun new => ?_⟩
      · rw [List.forall_mem_cons]
        refine ⟨fun h => ?_, hfree.2⟩
        rcases List.infix_cons_iff.mp h with h | h
        · -- The text begins with its first segment, and so the piece would stand in front of it.
          have hfirst : c :: first <+: c :: cs := by
            rw [htext, ← hcons]
            cases others with
            | nil => simp
            | cons => simp
          exact hbegins (h.trans hfirst)
        · exact hfree.1 h
      · rw [replace_cons_of_absent hbegins, hreplace, hcons]
termination_by text.length

end CodeAudit.Search
