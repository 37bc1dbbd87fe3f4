import CodeAudit.Proofs.Formed.Expressions
import CodeAudit.Proofs.Ordered.Basic

/-!
# Expressions in source order

One lemma for each construct that has a shape of its own where an expression is wanted. Most of them ask
for their parts in the order of the layout, or take all parts one after the other. A text with holes is
told apart from its holes, and stands where the literal begins. A call takes all unnamed arguments
before it takes the named ones, however they are written: this is where the order can get lost.
-/

namespace CodeAudit

open Grammar Node

namespace Reading

/-- Whether an argument is passed by name. The names of a mapping that is spread out are in the mapping. -/
def isNamedArgument (a : Reading) : Bool := a.is .keywordArgument || a.is .dictionarySplat

/-- A call is given its unnamed arguments and its named ones, each in the order of the list. -/
theorem arguments_eq {list : Reading} (hlist : list.is .argumentList) :
    (arguments list).1 = ((named list.children).filter fun a => !a.isNamedArgument).map passed ∧
      (arguments list).2.map Keyword.value = ((named list.children).filter isNamedArgument).map passed := by
  rw [arguments, if_pos hlist]
  generalize named list.children = as
  induction as with
  | nil => exact ⟨rfl, rfl⟩
  | cons a as ih =>
    rw [List.foldr_cons]
    generalize List.foldr _ ([], []) as = rest at ih ⊢
    obtain ⟨args, keywords⟩ := rest
    obtain ⟨hargs, hkeywords⟩ := ih
    cases hkeyword : a.is .keywordArgument <;> cases hsplat : a.is .dictionarySplat <;>
      simp_all [isNamedArgument, passed]

end Reading

/-- Where things come one after the other, those without a mark come before those with one if and only
if no marked one comes strictly before an unmarked one. -/
theorem forall_le_iff_pairwise {α : Type} {f : α → Location} {marks : α → Bool} {xs : List α}
    (h : xs.Pairwise fun a b => f a ≤ f b) :
    (∀ a ∈ xs, marks a = false → ∀ b ∈ xs, marks b → f a ≤ f b) ↔
      xs.Pairwise fun a b => marks a → marks b = false → f a = f b := by
  induction xs with
  | nil => simp
  | cons x xs ih =>
    obtain ⟨hx, hxs⟩ := List.pairwise_cons.mp h
    rw [List.pairwise_cons, ← ih hxs]
    constructor
    · intro hall
      refine ⟨fun b hb hmarked hunmarked => ?_, fun a ha hunmarked b hb => ?_⟩
      · exact le_antisymm (hx b hb)
          (hall b (List.mem_cons_of_mem x hb) hunmarked x List.mem_cons_self hmarked)
      · exact hall a (List.mem_cons_of_mem x ha) hunmarked b (List.mem_cons_of_mem x hb)
    · rintro ⟨hfirst, hall⟩ a ha hunmarked b hb hmarked
      rcases List.mem_cons.mp ha with rfl | halater
      · rcases List.mem_cons.mp hb with rfl | hblater
        · exact le_rfl
        · exact hx b hblater
      · rcases List.mem_cons.mp hb with rfl | hblater
        · exact (hfirst a halater hmarked hunmarked).ge
        · exact hall a halater hunmarked b hblater hmarked

/-- Two lists of nodes after a first one. -/
theorem Node.successive_cons_append {n : Node} {ns ms : List Node} (hns : Successive (n :: ns))
    (hms : Successive (n :: ms)) :
    Successive (n :: (ns ++ ms)) ↔ ∀ a ∈ ns, ∀ b ∈ ms, a.loc ≤ b.loc := by
  obtain ⟨hns, hns'⟩ := List.pairwise_cons.mp hns
  obtain ⟨hms, hms'⟩ := List.pairwise_cons.mp hms
  constructor
  · intro h
    exact (List.pairwise_append.mp (List.pairwise_cons.mp h).2).2.2
  · intro h
    refine List.pairwise_cons.mpr ⟨fun m hm => ?_, List.pairwise_append.mpr ⟨hns', hms', h⟩⟩
    exact (List.mem_append.mp hm).elim (hns m) (hms m)

namespace Tree

/-- Whether an argument is passed by name. -/
def isNamedArgument (t : Tree) : Bool := t.is .keywordArgument || t.is .dictionarySplat

/-- The arguments of a call in which no named one stands before an unnamed one. -/
def ArgumentsInOrder (t : Tree) : Prop :=
  ∀ list ∈ t.part? .arguments, list.is .argumentList → list.parts.Pairwise fun a b =>
    a.isNamedArgument → b.isNamedArgument = false → a.read.passed.loc = b.read.passed.loc

instance (t : Tree) : Decidable t.ArgumentsInOrder :=
  inferInstanceAs (Decidable (∀ list ∈ t.part? .arguments, _))

/-- The arguments of a call, those that are passed by name and those that are not. -/
theorem arguments_read {t : Tree} (ht : t.is .argumentList) :
    (Reading.arguments t.read).1 = (t.parts.filter fun a => !a.isNamedArgument).map (·.read.passed) ∧
      (Reading.arguments t.read).2.map Keyword.value =
        (t.parts.filter isNamedArgument).map (·.read.passed) := by
  have hlist : t.read.is .argumentList := by rwa [is_read]
  obtain ⟨hargs, hkeywords⟩ := Reading.arguments_eq hlist
  rw [hargs, hkeywords, children_read, named_read]
  simp only [List.filter_map, List.map_map, Function.comp_def, Reading.isNamedArgument, is_read]
  exact ⟨rfl, rfl⟩

end Tree

namespace Tree.Joined

variable {Q : Node → Prop} {t c : Tree} {p : Phrase} {r : Role}

theorem token (h : t.Joined Q) (terminal : Terminal) : (Reading.token t terminal).Within Q t.lexemes := by
  unfold Reading.token
  split
  · exact h.leaf rfl rfl
  · exact h.leaf rfl rfl
  · exact h.leaf rfl rfl
  · exact h.leaf rfl rfl
  · split
    · exact h.leaf rfl rfl
    · exact h.leaf rfl rfl

/-- A part that is found by its role is within the construct, also if it is missing. -/
theorem within_find? (h : t.Joined Q) (r : Role) :
    (Reading.exprOf t (Reading.find? (t.children.map read) r)).Within Q t.lexemes := by
  refine h.within_exprOf fun x hx => ?_
  obtain ⟨c, hc, -, rfl⟩ := exists_of_find? hx
  exact ⟨c, hc, rfl⟩

/-- The first part is within the construct, also if it is missing. -/
theorem within_head? (h : t.Joined Q) :
    (Reading.exprOf t (Reading.named (t.children.map read)).head?).Within Q t.lexemes :=
  h.within_exprOf fun _ hx => exists_of_mem_named (List.mem_of_head? hx)

/-- What a call is given for an argument is within the argument. -/
theorem passed (h : t.Joined Q) (hexpr : t.read.expr.Within Q t.lexemes) :
    t.read.passed.Within Q t.lexemes := by
  rw [Reading.passed, is_read, is_read, tree_read, children_read]
  split
  · exact h.within_find? .value
  · split
    · exact h.within_head?
    · exact hexpr

/-- What a call is given for some of the arguments in a list, in the order of the list. -/
theorem spread_passed (h : t.Joined Q) {cs : List Tree} (hsub : cs.Sublist t.parts) :
    Spread Q t.lexemes (cs.map (·.read.passed)) := by
  rw [List.map_eq_flatMap]
  refine h.flatMap (hsub.trans List.filter_sublist) fun c hc => .single ?_
  have hc := List.mem_of_mem_filter (hsub.subset hc)
  exact (h.part hc).passed (h.arranged hc).expr

/-- The part that holds the arguments of a call. -/
theorem exists_arguments (h : t.Joined Q) (hlabel : t.label = .phrase .call) :
    ∃ list ∈ t.children, t.part? .arguments = some list ∧
      ∀ {ns : List Node}, Spread Q list.lexemes ns → Spread Q t.lexemes
        (Reading.exprOf t (Reading.find? (t.children.map read) .function) :: ns) := by
  obtain ⟨_, -, hfind⟩ := h.grows.complete.exists_find? (r := .arguments) hlabel rfl rfl
  rw [find?_read] at hfind
  obtain ⟨list, hpart, -⟩ := Option.map_eq_some_iff.mp hfind
  have hlist : list ∈ t.children := List.mem_of_find?_eq_some hpart
  have hrole : list.role = some .arguments := by
    rw [part?] at hpart
    have hpicked := List.find?_some hpart
    exact eq_of_beq hpicked
  refine ⟨list, hlist, hpart, fun {ns} hns => ?_⟩
  exact h.slices hlabel rfl (.cons (h.exprOf hlabel rfl rfl) (.one (spread_role hlist hrole hns))) rfl

/-- A call: what is called stands first, and both the unnamed and the named arguments stand one after
the other. All of them do if and only if the arguments are in order. -/
theorem call_order (h : t.Joined Q) (hlabel : t.label = .phrase .call) :
    ∃ func args keywords, t.read.expr = ⟨t.loc, .call func args keywords⟩ ∧
      Spread Q t.lexemes (func :: args) ∧ Spread Q t.lexemes (func :: keywords.map Keyword.value) ∧
      (Successive t.read.expr.children ↔ t.ArgumentsInOrder) := by
  obtain ⟨list, hlist, hpart, hspread⟩ := h.exists_arguments hlabel
  have hexpr : t.read.expr = ⟨t.loc, .call (Reading.exprOf t (Reading.find? (t.children.map read) .function))
      (Reading.arguments list.read).1 (Reading.arguments list.read).2⟩ := by
    rw [expr_read, Reading.expression, hlabel]
    show Reading.call t (t.children.map read) = _
    rw [Reading.call, find?_read t .arguments, hpart]
    rfl
  refine ⟨_, _, _, hexpr, ?_⟩
  rw [hexpr]
  cases hargumentList : list.is .argumentList with
  | false =>
    have harguments : Reading.arguments list.read = ([list.read.expr], []) := by
      rw [Reading.arguments, is_read, hargumentList]
      rfl
    rw [harguments]
    have hone := hspread (.single (h.arranged hlist).expr)
    refine ⟨hone, hspread .nil, iff_of_true hone.successive fun other hother hlabel => ?_⟩
    obtain rfl := Option.some.inj (hpart.symm.trans hother)
    rw [hargumentList] at hlabel
    cases hlabel
  | true =>
    obtain ⟨hargs, hkeywords⟩ := arguments_read hargumentList
    have hpassed (q : Tree → Bool) := hspread ((h.part hlist).spread_passed (list.parts.filter_sublist (p := q)))
    have hunnamed := hpassed fun a => !a.isNamedArgument
    have hnamed := hpassed isNamedArgument
    have hparts : list.parts.Pairwise fun a b => a.read.passed.loc ≤ b.read.passed.loc := by
      have hsuccessive := ((h.part hlist).spread_passed (List.Sublist.refl list.parts)).successive
      rwa [Successive, List.pairwise_map] at hsuccessive
    rw [← hargs] at hunnamed
    rw [← hkeywords] at hnamed
    refine ⟨hunnamed, hnamed, ?_⟩
    calc
      _ ↔ ∀ a ∈ (Reading.arguments list.read).1, ∀ b ∈ (Reading.arguments list.read).2.map Keyword.value,
          a.loc ≤ b.loc := successive_cons_append hunnamed.successive hnamed.successive
      _ ↔ ∀ a ∈ list.parts, a.isNamedArgument = false → ∀ b ∈ list.parts, b.isNamedArgument →
          a.read.passed.loc ≤ b.read.passed.loc := by
        simp only [hargs, hkeywords, List.forall_mem_map, List.mem_filter, Bool.not_eq_true', and_imp]
      _ ↔ t.ArgumentsInOrder := by
        rw [forall_le_iff_pairwise hparts]
        simp [ArgumentsInOrder, hpart, hargumentList]

theorem expr_call (h : t.Joined Q) (hlabel : t.label = .phrase .call) (hQ : Q t.read.expr) :
    t.read.expr.Within Q t.lexemes := by
  obtain ⟨func, args, keywords, hexpr, hargs, hkeywords, -⟩ := h.call_order hlabel
  rw [hexpr] at hQ ⊢
  refine .intro h.exists_loc ⟨fun hkind => absurd rfl hkind, fun _ => hQ⟩ fun c hc => ?_
  rcases List.mem_cons.mp hc with rfl | hc
  · exact hargs.within c List.mem_cons_self
  · rcases List.mem_append.mp hc with hc | hc
    · exact hargs.within c (List.mem_cons_of_mem func hc)
    · exact hkeywords.within c (List.mem_cons_of_mem func hc)

theorem expr_comparison (h : t.Joined Q) :
    (Reading.comparison t (t.children.map read)).Within Q t.lexemes := by
  have hparts := h.expr_named
  unfold Reading.comparison
  dsimp only
  split
  · rename_i left comparators hnamed
    rw [hnamed] at hparts
    exact h.node rfl hparts
  · exact h.node rfl (.single (h.leaf rfl rfl))

/-- The operands of a connective within another one take its place. -/
theorem operands {side : Reading} {ls : List Lexeme} (hside : side.expr.Within Q ls) (op : Connective) :
    Spread Q ls (Reading.operands op side) := by
  rcases Reading.operands_cases op side with heq | ⟨inner, values, hshape, heq⟩
  · rw [heq]
    exact .single hside
  · have hvalues := hside.children (by rw [Node.kind, hshape]; rfl)
    rw [Node.children, hshape] at hvalues
    rw [heq]
    exact hvalues

theorem operands_find? (h : t.Joined Q) (op : Connective) (r : Role) : Spread Q (t.region (.role r))
    ((Reading.find? (t.children.map read) r).toList.flatMap (Reading.operands op)) := by
  cases hx : Reading.find? (t.children.map read) r with
  | none => exact .nil
  | some x =>
    obtain ⟨c, hc, hrole, rfl⟩ := exists_of_find? hx
    rw [Option.toList_some, List.flatMap_singleton]
    exact spread_role hc hrole (operands (h.arranged hc).expr op)

theorem expr_connective (h : t.Joined Q) (hlabel : t.label = .phrase .booleanOperator) :
    (Reading.connective t (t.children.map read)).Within Q t.lexemes := by
  unfold Reading.connective
  split
  · rename_i op _
    refine h.node rfl ?_
    have hvalues := h.slices hlabel rfl (.cons (h.operands_find? op .left) (.one (h.operands_find? op .right)))
      rfl
    rwa [← List.flatMap_append] at hvalues
  · exact h.other

/-- The expression of a hole is within the hole. -/
theorem hole (h : t.Joined Q) : Spread Q t.lexemes t.read.holeExpr := by
  rw [Reading.holeExpr, children_read]
  cases hx : (Reading.find? (t.children.map read) .expression).or
      (Reading.named (t.children.map read)).head? with
  | none => exact .nil
  | some x =>
    have hmem : ∃ c ∈ t.children, x = c.read := by
      rcases Option.or_eq_some_iff.mp hx with hx | ⟨-, hx⟩
      · obtain ⟨c, hc, -, rfl⟩ := exists_of_find? hx
        exact ⟨c, hc, rfl⟩
      · exact exists_of_mem_named (List.mem_of_head? hx)
    obtain ⟨c, hc, rfl⟩ := hmem
    exact .single ((h.arranged hc).expr.mono fun _ => mem_lexemes_of_mem_children hc)

theorem holes (h : t.Joined Q) : Spread Q t.lexemes (Reading.holes (t.children.map read)) := by
  rw [Reading.holes, List.filterMap_eq_flatMap_toList, List.filter_map, List.flatMap_map]
  exact h.flatMap List.filter_sublist fun c hc => (h.part (List.mem_of_mem_filter hc)).hole

/-- A string literal stands where it begins, before everything in its holes. -/
theorem string (h : t.Joined Q) : (Reading.string t (t.children.map read)).Within Q t.lexemes := by
  have literal (text : String) (bytes : Bool) : Within Q t.lexemes ⟨t.loc, .str text bytes⟩ :=
    h.leaf rfl rfl
  unfold Reading.string
  dsimp only
  split
  · exact literal _ _
  · refine h.node rfl ⟨List.pairwise_cons.mpr ⟨fun n hn => ?_, h.holes.successive⟩, ?_⟩
    · obtain ⟨l, hl, hloc⟩ := (h.holes.within n hn).exists_loc
      rw [← hloc]
      exact h.inOrder.loc_le hl
    · exact List.forall_mem_cons.mpr ⟨literal _ _, h.holes.within⟩

theorem expr_concatenated (h : t.Joined Q) :
    (Reading.concatenated t (t.children.map read)).Within Q t.lexemes := by
  have hparts : Spread Q t.lexemes ((Reading.named (t.children.map read)).map
      fun c => Reading.string c.tree c.children) := by
    rw [named_read, List.map_map, List.map_eq_flatMap]
    refine h.flatMap List.filter_sublist fun c hc => .single ?_
    rw [Function.comp_apply, tree_read, children_read]
    exact (h.part (List.mem_of_mem_filter hc)).string
  unfold Reading.concatenated
  dsimp only
  split
  · exact h.leaf rfl rfl
  · exact h.node rfl hparts

/-- A key stands before its value. -/
theorem entry (h : t.Joined Q) : Spread Q t.lexemes t.read.entryNodes := by
  unfold Reading.entryNodes
  split
  · rename_i entry hentry
    rcases entry?_cases hentry with ⟨hpair, rfl⟩ | ⟨-, rfl⟩
    · exact h.slices (label_eq hpair) rfl (.cons (h.exprOf (label_eq hpair) rfl rfl)
        (.one (h.exprOf (label_eq hpair) rfl rfl))) rfl
    · exact .single h.within_head?
  · exact .nil

theorem expr_dictionary (h : t.Joined Q) :
    (Reading.dictionary t (t.children.map read)).Within Q t.lexemes := by
  have hentries : (Reading.dictionary t (t.children.map read)).children = t.parts.flatMap (·.read.entryNodes) := by
    rw [Reading.dictionary, Passes.children_dict, List.filterMap_eq_flatMap_toList, List.flatMap_assoc,
      named_read, List.flatMap_map]
    refine List.flatMap_congr fun c _ => ?_
    rw [Reading.entryNodes]
    cases Reading.entry? c.read with
    | none => rfl
    | some entry => exact List.flatMap_singleton _ _
  refine h.node rfl ?_
  show Spread Q t.lexemes (Reading.dictionary t (t.children.map read)).children
  rw [hentries]
  exact h.flatMap List.filter_sublist fun c hc => (h.part (List.mem_of_mem_filter hc)).entry

/-- A construct of which the parts are in order is in order where an expression is wanted. -/
theorem expr (h : t.Joined Q) (hQ : t.is .call → Q t.read.expr) : t.read.expr.Within Q t.lexemes := by
  cases hlabel : t.label with
  | token terminal =>
    rw [expr_read, Reading.expression, hlabel]
    exact h.token terminal
  | phrase p =>
    have hother := h.other
    have hexpr : t.read.expr = Reading.phrase t p (t.children.map read) := by
      rw [expr_read, Reading.expression, hlabel]
    cases p with
    | call => exact h.expr_call hlabel (hQ (beq_iff_eq.mpr hlabel))
    | attributeAccess =>
      rw [hexpr]
      exact h.node rfl (.single (h.within_find? .object))
    | string =>
      rw [hexpr]
      exact h.string
    | concatenatedString =>
      rw [hexpr]
      exact h.expr_concatenated
    | binaryOperator =>
      rw [hexpr, Reading.phrase]
      split
      · exact h.node rfl (h.slices hlabel rfl (.cons (h.exprOf hlabel rfl rfl)
          (.one (h.exprOf hlabel rfl rfl))) rfl)
      · exact hother
    | comparisonOperator =>
      rw [hexpr]
      exact h.expr_comparison
    | booleanOperator =>
      rw [hexpr]
      exact h.expr_connective hlabel
    | notOperator =>
      rw [hexpr]
      exact h.node rfl (.single (h.within_find? .argument))
    | unaryOperator =>
      rw [hexpr, Reading.phrase]
      split
      · exact h.node rfl (.single (h.within_find? .argument))
      · exact hother
    | dictionary =>
      rw [hexpr]
      exact h.expr_dictionary
    | parenthesizedExpression | type =>
      rw [hexpr, Reading.phrase]
      split
      · rename_i inner rest hnamed
        have hparts := h.expr_named
        rw [hnamed] at hparts
        exact hparts.within inner.expr List.mem_cons_self
      · exact hother
    | _ =>
      rw [hexpr]
      exact hother

end Tree.Joined

end CodeAudit
