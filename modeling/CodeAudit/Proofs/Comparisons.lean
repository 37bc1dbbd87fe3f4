import CodeAudit.Proofs.Calls
import CodeAudit.Proofs.Complete

/-!
# Comparisons in a row

A comparison with any number of signs is one node. A `Chain` tells how it is written: a first operand, and
then signs and operands in turn, with comments and continued lines wherever they like. The node has one
operator for every sign and in the same order, although an `is` is held back when it is met, since it may
be the first half of another comparison. The operands are those of the chain; a continued line between
them is taken for one.
-/

namespace CodeAudit

open Grammar

/-! ### Operators -/

namespace Comparison

variable {word : String}

/-- A word that is no half stands for itself. -/
theorem ofSpellings_of_ne (hnot : word ≠ "not") (his : word ≠ "is") (words : List String) :
    ofSpellings none (word :: words) = (ofSpelling? word).toList ++ ofSpellings none words := by
  simp only [ofSpellings]

/-- An `is` that is held back comes first, whatever is met after it. -/
theorem ofSpellings_after_is (hnot : word ≠ "not") (words : List String) :
    ofSpellings (some .is) (word :: words) = is :: ((ofSpelling? word).toList ++ ofSpellings none words) := by
  simp only [ofSpellings]

/-- The words of a chain stand for its operators, and an `is` that is held back comes before them. -/
theorem ofSpellings_links (links : List Link) :
    ofSpellings none (links.map Link.word) = links.map Link.op ∧
      ofSpellings (some .is) (links.map Link.word) = is :: links.map Link.op := by
  induction links with
  | nil => exact ⟨rfl, rfl⟩
  | cons l links ih =>
    obtain ⟨hnone, his⟩ := ih
    have hword : ofSpelling? l.word = some l.op := ofSpelling?_eq_some_iff.mpr l.isSpelling
    have hnot : l.word ≠ "not" := by
      intro heq
      rw [heq] at hword
      cases hword
    rw [List.map_cons, List.map_cons]
    constructor
    · by_cases hhalf : l.word = "is"
      · rw [hhalf] at hword ⊢
        rw [← Option.some.inj hword]
        exact his
      · rw [ofSpellings_of_ne hnot hhalf, hword, hnone]
        rfl
    · rw [ofSpellings_after_is hnot, hword, hnone]
      rfl

end Comparison

/-! ### Operands -/

namespace Tree

/-- The number of continued lines among the parts of a construct. -/
def continuedLines (t : Tree) : Nat := t.children.countP (·.isToken .lineContinuation)

theorem spelling?_eq_none {t : Tree} (h : t.isOperand ∨ t.isExtra) : Reading.spelling? t.read = none := by
  rw [Reading.spelling?, tree_read]
  unfold isOperand isExtra at h
  cases hlabel : t.label with
  | phrase p => rfl
  | token terminal =>
    rw [hlabel] at h
    cases terminal with
    | literal word => exact absurd h (by simp [Label.isPart, Terminal.isNamed, Terminal.isExtra])
    | _ => rfl

/-- What counts as a part is an operand or a continued line. -/
theorem isOperand_eq (t : Tree) : t.isOperand =
    (t.label.isNamed && !t.isToken .comment && !t.isToken .lineContinuation) := by
  unfold isOperand isToken
  cases t.label with
  | phrase p => rfl
  | token terminal => cases terminal <;> rfl

end Tree

namespace Link

variable (l : Link)

theorem isOperand_sign : l.sign.isOperand = false := by
  rw [Tree.isOperand, l.isSign]
  rfl

theorem spelling?_sign : Reading.spelling? l.sign.read = some l.word := by
  rw [Reading.spelling?, Tree.tree_read, l.isSign]

end Link

namespace Chain

variable (c : Chain)

/-- The words among the parts of a chain are those of its links. -/
theorem filterMap_spelling? :
    (c.tree.children.map Tree.read).filterMap Reading.spelling? = c.links.map Link.word := by
  have hcontent : (c.tree.children.map Tree.read).filterMap Reading.spelling? =
      (content c.tree.children).filterMap fun t => Reading.spelling? t.read := by
    rw [List.filterMap_map, content, List.filterMap_filter]
    refine List.filterMap_congr fun t _ => ?_
    cases hextra : t.isExtra with
    | false => rfl
    | true => exact Tree.spelling?_eq_none (.inr hextra)
  have hfirst : Reading.spelling? c.first.read = none := Tree.spelling?_eq_none (.inl c.isOperand)
  rw [hcontent, c.parts, List.filterMap_cons, hfirst, List.filterMap_flatMap, List.map_eq_flatMap]
  refine congrArg (c.links.flatMap ·) (funext fun l => ?_)
  simp [Link.trees, l.spelling?_sign, Tree.spelling?_eq_none (.inl l.isOperand)]

/-- Without the continued lines, the parts of a chain are its operands. -/
theorem filter_parts : c.tree.parts.filter (fun t => !t.isToken .lineContinuation) =
    c.first :: c.links.map Link.operand := by
  have hcontent : c.tree.parts.filter (fun t => !t.isToken .lineContinuation) =
      (content c.tree.children).filter Tree.isOperand := by
    rw [Tree.parts, content, List.filter_filter, List.filter_filter]
    refine List.filter_congr fun t _ => ?_
    cases hoperand : t.isOperand with
    | false => rw [Bool.and_comm, ← t.isOperand_eq, hoperand]; rfl
    | true => rw [Bool.and_comm, ← t.isOperand_eq, hoperand, Tree.isExtra_of_isOperand hoperand]; rfl
  rw [hcontent, c.parts, List.filter_cons_of_pos c.isOperand, List.filter_flatMap, List.map_eq_flatMap]
  refine congrArg (c.first :: c.links.flatMap ·) (funext fun l => ?_)
  simp [Link.trees, l.isOperand_sign, l.isOperand]

/-- The parts of a chain are its operands and the continued lines. -/
theorem length_parts : c.tree.parts.length = c.links.length + 1 + c.tree.continuedLines := by
  have hlines : c.tree.parts.countP (·.isToken .lineContinuation) = c.tree.continuedLines := by
    rw [Tree.parts, List.countP_filter, Tree.continuedLines]
    refine List.countP_congr fun t _ => ?_
    constructor
    · intro h
      exact (Bool.and_eq_true_iff.mp h).1
    · intro h
      rw [h, Tree.isToken, eq_of_beq h]
      rfl
  have hoperands := congrArg List.length c.filter_parts
  rw [← List.countP_eq_length_filter, List.length_cons, List.length_map] at hoperands
  have hsum := c.tree.parts.length_eq_countP_add_countP (·.isToken .lineContinuation)
  simp only [hlines, Bool.not_eq_true, Bool.decide_eq_false] at hsum
  omega

/-- A chain is read as a node with its operators. -/
theorem exists_expr_read (h : c.tree.is .comparisonOperator) :
    ∃ left comparators, c.tree.read.expr = ⟨c.tree.loc, .compare left (c.links.map Link.op) comparators⟩ ∧
      left :: comparators = c.tree.parts.map fun t => t.read.expr := by
  have hexpr : c.tree.read.expr = Reading.comparison c.tree (c.tree.children.map Tree.read) := by
    rw [Tree.expr_read, Reading.expression, Tree.label_eq h]
    rfl
  have hpos : 0 < c.tree.parts.length := by
    rw [c.length_parts]
    omega
  obtain ⟨left, comparators, hparts⟩ := List.exists_cons_of_length_pos hpos
  refine ⟨left.read.expr, comparators.map fun t => t.read.expr, ?_, by rw [hparts]; rfl⟩
  rw [hexpr, Reading.comparison, c.filterMap_spelling?, (Comparison.ofSpellings_links c.links).1,
    Tree.named_read, hparts]
  simp

end Chain

/-! ### All comparisons of a text -/

namespace Tree

end Tree

namespace Commented

open Sample

/-- `a is b is not c`, with a comment and the end of a line after the first sign -/
def comparison : Outline :=
  .form (.phrase .comparisonOperator) { steps := [.phrase .primaryExpression, .loop 22].map fun s =>
      ⟨s, { level := some 13, assoc := some .left }⟩ }
    [operand 1 "" 2 "a",
      .form (.loop 22) { steps := [.loop 22, .loop 22].map fun s => ⟨s, { level := some 0, assoc := some .left }⟩ }
        [.form (.loop 22) { steps := [having .operators (literal "is"), ⟨.phrase .primaryExpression, {}⟩] }
            [word 1 " " 4 "is", operand 2 "\n " 2 "b" [(.comment, ⟨" ", ⟨1, 7⟩, "# b"⟩)]],
          .form (.loop 22) { steps :=
              [⟨.phrase .isNot, { label := some (.token (.literal "is not")), role := some .operators }⟩,
                ⟨.phrase .primaryExpression, {}⟩] }
            [.form (.phrase .isNot) (plain [literal "is", literal "not"]) [word 2 " " 4 "is", word 2 " " 7 "not"],
              operand 2 " " 11 "c"]]]

/-- The comparison in brackets, as the only statement of a text. -/
def outline : Outline :=
  chain (.phrase .module) (.loop 0) <| statement .simpleStatements <|
    simple .expressionStatement
      (chain (.phrase .expressionStatement) (.phrase .expression) <|
        bracketed (word 1 "" 1 "(") (chain (.phrase .expression) (.phrase .comparisonOperator) comparison)
          (word 2 "" 12 ")"))
      2 13

/-- The tree of the text. -/
def module : Tree := outline.text ⟨"", ⟨2, 13⟩, ""⟩

theorem isModule_module : module.IsModule := Outline.isModule_text (by decide +kernel) rfl _

end Commented

end CodeAudit
