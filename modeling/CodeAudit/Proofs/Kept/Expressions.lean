import CodeAudit.Proofs.Kept.Basic

/-!
# Expressions in expressions

Each construct that has a shape of its own where an expression is wanted passes on what is reached in
its parts. Where a construct looks at the parts of a part (the arguments of a call, the
entries of a dictionary, the holes of a string), there is a lemma about that part as well.
-/

namespace CodeAudit.Tree.Passes

open Grammar Reading

variable {s : Tree} {outer : Option Label} {t : Tree} {pre : List Tree} {c : Tree} {post : List Tree}
variable {p : Phrase} {slots : List Slot}

theorem expr_attributeAccess (h : Passes s outer t pre c post)
    (hlabel : t.label = .phrase .attributeAccess) :
    Found s [phrase t .attributeAccess (t.children.map read)] := by
  have hrole : c.role = some .object :=
    admitted_having.mp (h.place hlabel rfl (a := Allowed.having .object) rfl)
  exact (h.exprOf hlabel rfl hrole rfl).of_child List.mem_cons_self

theorem children_call (t : Tree) (cs : List Reading) :
    (Reading.call t cs).children =
      Reading.exprOf t (find? cs .function) :: ((find? cs .arguments).map allPassed).getD [] := by
  rw [Reading.call]
  cases find? cs .arguments with
  | none => rfl
  | some list => rfl

theorem expr_call (h : Passes s outer t pre c post) (hlabel : t.label = .phrase .call) :
    Found s [Reading.call t (t.children.map read)] := by
  refine Found.up ?_
  rw [children_call]
  rcases admitted_append.mp (h.place hlabel rfl (a := Allowed.having .function ++
    Allowed.phrasesAs .arguments [.generatorExpression, .argumentList]) rfl) with hplace | hplace
  · have hrole := admitted_having.mp hplace
    exact (h.exprOf hlabel rfl hrole rfl).of_mem List.mem_cons_self
  · have hrole := (admitted_phrasesAs hplace).2
    rw [h.part?_eq hlabel rfl hrole rfl]
    exact h.reached.allPassed.mono fun n hn => List.mem_cons_of_mem _ hn

theorem expr_notOperator (h : Passes s outer t pre c post) (hlabel : t.label = .phrase .notOperator) :
    Found s [phrase t .notOperator (t.children.map read)] := by
  have hrole : c.role = some .argument :=
    admitted_having.mp (h.place hlabel rfl (a := Allowed.having .argument) rfl)
  exact (h.exprOf hlabel rfl hrole rfl).of_child List.mem_cons_self

/-- A part in which an expression is reached is not the operator of a construct whose operator is
known, because an operator is a token. -/
theorem role_ne_operator (h : Passes s outer t pre c post) {β : Type} {f : String → Option β} {op : β}
    (hop : (operator? (t.children.map read)).bind f = some op) (hlabel : t.label = .phrase p)
    (hlayout : p.layout? = some slots) (honce : Slot.once (Allowed.mayHave .operator) slots) :
    c.role ≠ some .operator := by
  intro hrole
  obtain ⟨q, hq⟩ := exists_phrase_of_isFertile h.reached.fertile
  rw [operator?, h.part?_eq hlabel hlayout hrole honce, Option.bind_some, spelling?, tree_read, hq] at hop
  cases hop

theorem expr_unaryOperator (h : Passes s outer t pre c post)
    (hlabel : t.label = .phrase .unaryOperator) :
    Found s [phrase t .unaryOperator (t.children.map read)] := by
  rw [phrase]
  split
  · rename_i op hop
    rcases admitted_append.mp (h.place hlabel rfl (a := Allowed.having .operator ++
      Allowed.having .argument) rfl) with hplace | hplace
    · exact absurd (admitted_having.mp hplace) (h.role_ne_operator hop hlabel rfl rfl)
    · have hrole := admitted_having.mp hplace
      exact (h.exprOf hlabel rfl hrole rfl).of_child List.mem_cons_self
  · exact h.other

/-- The operands of an operator between two of them. -/
theorem role_operand (h : Passes s outer t pre c post) {β : Type} {f : String → Option β} {op : β}
    (hop : (operator? (t.children.map read)).bind f = some op) (hlabel : t.label = .phrase p)
    (hlayout : p.layout? = Phrase.layout? .binaryOperator) :
    c.role = some .left ∨ c.role = some .right := by
  rcases admitted_append.mp (h.place hlabel hlayout (a := Allowed.having .left ++
    (Allowed.having .operator ++ Allowed.having .right)) rfl) with hplace | hplace
  · exact .inl (admitted_having.mp hplace)
  rcases admitted_append.mp hplace with hplace | hplace
  · exact absurd (admitted_having.mp hplace) (h.role_ne_operator hop hlabel hlayout rfl)
  · exact .inr (admitted_having.mp hplace)

theorem expr_binaryOperator (h : Passes s outer t pre c post)
    (hlabel : t.label = .phrase .binaryOperator) :
    Found s [phrase t .binaryOperator (t.children.map read)] := by
  rw [phrase]
  split
  · rename_i op hop
    rcases h.role_operand hop hlabel rfl with hrole | hrole
    · exact (h.exprOf hlabel rfl hrole rfl).of_child List.mem_cons_self
    · exact (h.exprOf hlabel rfl hrole rfl).of_child (List.mem_cons_of_mem _ List.mem_cons_self)
  · exact h.other

theorem expr_comparison (h : Passes s outer t pre c post) :
    Found s [comparison t (t.children.map read)] := by
  have hmem := h.mem_named
  rw [comparison]
  generalize named (t.children.map read) = parts at hmem
  cases parts with
  | nil => cases hmem
  | cons left comparators =>
    refine h.reached.expr.of_child (m := ⟨t.loc, .compare left.expr _ (comparators.map Reading.expr)⟩) ?_
    exact List.mem_map_of_mem (f := Reading.expr) hmem

/-- What is below an operand of a connective is below the operands that it contributes. -/
theorem operands_of_expr {side : Reading} (hs : s.isEvaluated) (hexpr : Found s [side.expr])
    (op : Connective) : Found s (operands op side) := by
  rcases operands_cases op side with heq | ⟨inner, values, hshape, heq⟩
  · rw [heq]
    exact hexpr
  · have hkind : side.expr.kind.isTakenApart := by
      rw [Node.kind, hshape]
      rfl
    have hchildren := hexpr.down hs hkind
    rw [Node.children, hshape] at hchildren
    rw [heq]
    exact hchildren

theorem expr_connective (h : Passes s outer t pre c post)
    (hlabel : t.label = .phrase .booleanOperator) :
    Found s [connective t (t.children.map read)] := by
  rw [connective]
  split
  · rename_i op hop
    have hoperands := operands_of_expr h.evaluated h.reached.expr op
    have side (hside : c.read ∈ (find? (t.children.map read) .left).toList ++
        (find? (t.children.map read) .right).toList) :
        Found s [⟨t.loc, .boolOp op (((find? (t.children.map read) .left).toList ++
          (find? (t.children.map read) .right).toList).flatMap (operands op))⟩] :=
      Found.up (hoperands.mono fun n hn => List.mem_flatMap.mpr ⟨c.read, hside, hn⟩)
    rcases h.role_operand hop hlabel rfl with hrole | hrole
    · exact side (List.mem_append_left _ (by simp [h.part?_eq hlabel rfl hrole rfl]))
    · exact side (List.mem_append_right _ (by simp [h.part?_eq hlabel rfl hrole rfl]))
  · exact h.other

theorem mem_children_string {t : Tree} {cs : List Reading} {n : Node} (hn : n ∈ holes cs) :
    n ∈ (Reading.string t cs).children := by
  rw [Reading.string]
  split
  · rename_i hnil
    rw [hnil] at hn
    cases hn
  · exact List.mem_cons_of_mem _ hn

theorem expr_string (h : Passes s outer t pre c post) (hlabel : t.label = .phrase .string) :
    Found s [Reading.string t (t.children.map read)] := by
  have his := is_of_admitted (h.place hlabel rfl (a := Allowed.phrases [.interpolation]) rfl)
  obtain ⟨n, hn, hs⟩ := h.reached.hole his
  have hhole : n ∈ holes (t.children.map read) := by
    refine List.mem_filterMap.mpr ⟨c.read, List.mem_filter.mpr
      ⟨List.mem_map_of_mem h.mem_children, by rwa [is_read]⟩, ?_⟩
    exact Option.mem_toList.mp hn
  exact Found.up ⟨n, mem_children_string hhole, hs⟩

theorem isSome_of_mapM {α β : Type} {f : α → Option β} {xs : List α} {ys : List β}
    (h : xs.mapM f = some ys) {x : α} (hx : x ∈ xs) : (f x).isSome := by
  induction xs generalizing ys with
  | nil => cases hx
  | cons a xs ih =>
    rw [List.mapM_cons] at h
    obtain ⟨b, hb, h⟩ := Option.bind_eq_some_iff.mp h
    obtain ⟨bs, hbs, -⟩ := Option.bind_eq_some_iff.mp h
    rcases List.mem_cons.mp hx with rfl | hx
    · rw [hb]
      rfl
    · exact ih hbs hx

/-- Nothing is found in a literal without holes. -/
theorem plain?_eq_none {n : Node} (hs : s.isEvaluated) (h : Found s [n]) : plain? n = none := by
  rw [plain?]
  split
  · rename_i value bytes hshape
    have hchildren := h.down hs (by rw [Node.kind, hshape]; rfl)
    rw [Node.children, hshape] at hchildren
    obtain ⟨m, hm, -⟩ := hchildren
    cases hm
  · rfl

theorem expr_concatenated (h : Passes s outer t pre c post)
    (hlabel : t.label = .phrase .concatenatedString) :
    Found s [concatenated t (t.children.map read)] := by
  have his := is_of_admitted (h.place hlabel rfl (a := Allowed.phrases [.string]) rfl)
  have hexpr : c.read.expr = Reading.string c.read.tree c.read.children := by
    rw [expr_read, expression, label_eq his, tree_read, children_read]
    rfl
  have hmem : c.read.expr ∈ (named (t.children.map read)).map fun d => Reading.string d.tree d.children :=
    List.mem_map.mpr ⟨c.read, h.mem_named, hexpr.symm⟩
  rw [concatenated]
  split
  · rename_i plain hplain
    have hsome := isSome_of_mapM hplain hmem
    rw [plain?_eq_none h.evaluated h.reached.expr] at hsome
    cases hsome
  · exact h.reached.expr.of_child hmem

theorem children_dict (loc : Location) (entries : List (Option Node × Node)) :
    (⟨loc, .dict (entries.map Prod.fst) (entries.map Prod.snd)⟩ : Node).children =
      entries.flatMap fun entry => entry.1.toList ++ [entry.2] := by
  rw [Node.children, Shape.children, List.zip_map', List.map_id']

theorem expr_dictionary (h : Passes s outer t pre c post) (hlabel : t.label = .phrase .dictionary) :
    Found s [dictionary t (t.children.map read)] := by
  have hentry :=
    is_or_is_of_admitted (h.place hlabel rfl (a := Allowed.phrases [.pair, .dictionarySplat]) rfl)
  refine Found.up ?_
  rw [dictionary, children_dict]
  refine (h.reached.entry hentry).mono fun n hn => ?_
  rw [entryNodes] at hn
  split at hn
  · rename_i entry hentry
    exact List.mem_flatMap.mpr ⟨entry, List.mem_filterMap.mpr ⟨c.read, h.mem_named, hentry⟩, hn⟩
  · cases hn

/-- Brackets around an expression. -/
theorem expr_parenthesized (h : Passes s outer t pre c post)
    (hlabel : t.label = .phrase .parenthesizedExpression) :
    Found s [phrase t .parenthesizedExpression (t.children.map read)] := by
  have hclear : pre.any (·.isToken .lineContinuation) = false := by
    have hclear := h.not_obscures
    rwa [obscures, hlabel] at hclear
  have hhead := h.head?_named_of_single hlabel rfl (fun _ => Slot.noConfusion) hclear
  obtain ⟨rest, hnamed⟩ := List.head?_eq_some_iff.mp hhead
  rw [phrase, hnamed]
  exact h.reached.expr

/-- A construct that begins with its only part has it as its first part. -/
theorem pre_eq_nil (h : Passes s outer t pre c post) (hbegins : t.label.beginsWithPart)
    (hpart : ∀ x ∈ pre, ¬ x.label.isPart) : pre = [] := by
  obtain ⟨x, rest, hchildren, hx⟩ := h.formed.exists_first h.mem_children hbegins
  rw [h.split] at hchildren
  cases pre with
  | nil => rfl
  | cons y pre =>
    obtain rfl : y = x := (List.cons.inj hchildren).1
    exact absurd hx (hpart y List.mem_cons_self)

theorem expr_type (h : Passes s outer t pre c post) (hlabel : t.label = .phrase .type) :
    Found s [phrase t .type (t.children.map read)] := by
  have hpart := h.formed.not_isPart_before h.split h.reached.fertile
    (by rw [hlabel]; rfl) (fun _ => Slot.noConfusion)
  obtain rfl := h.pre_eq_nil (by rw [hlabel]; rfl) hpart
  obtain ⟨rest, hnamed⟩ := List.head?_eq_some_iff.mp (h.head?_named hpart rfl)
  rw [phrase, hnamed]
  exact h.reached.expr

/-- What is reached in a part is reached where an expression is wanted. -/
theorem expr (h : Passes s outer t pre c post) : Found s [t.read.expr] := by
  obtain ⟨p, hlabel⟩ := exists_phrase_of_isFertile h.fertile
  rw [expr_read, expression, hlabel]
  cases p with
  | attributeAccess => exact h.expr_attributeAccess hlabel
  | call => exact h.expr_call hlabel
  | string => exact h.expr_string hlabel
  | concatenatedString => exact h.expr_concatenated hlabel
  | binaryOperator => exact h.expr_binaryOperator hlabel
  | comparisonOperator => exact h.expr_comparison
  | booleanOperator => exact h.expr_connective hlabel
  | notOperator => exact h.expr_notOperator hlabel
  | unaryOperator => exact h.expr_unaryOperator hlabel
  | dictionary => exact h.expr_dictionary hlabel
  | parenthesizedExpression => exact h.expr_parenthesized hlabel
  | type => exact h.expr_type hlabel
  | _ => exact h.other

theorem exprOf_keywordArgument (h : Passes s outer t pre c post)
    (hlabel : t.label = .phrase .keywordArgument) :
    Found s [Reading.exprOf t (find? (t.children.map read) .value)] := by
  have hrole : c.role = some .value :=
    admitted_having.mp (h.place hlabel rfl (a := Allowed.having .value) rfl)
  exact h.exprOf hlabel rfl hrole rfl

theorem exprOf_dictionarySplat (h : Passes s outer t pre c post)
    (hlabel : t.label = .phrase .dictionarySplat) :
    Found s [Reading.exprOf t (named (t.children.map read)).head?] := by
  have hclear : pre.any (·.isToken .lineContinuation) = false := by
    have hclear := h.not_obscures
    rwa [obscures, hlabel] at hclear
  rw [h.head?_named_of_single hlabel rfl (fun _ => Slot.noConfusion) hclear]
  exact h.reached.expr

/-- What is reached in a part of an argument is reached in the argument. -/
theorem passed (h : Passes s outer t pre c post) : Found s [t.read.passed] := by
  rw [Reading.passed, is_read, is_read, tree_read, children_read]
  split
  · rename_i hkeyword
    exact h.exprOf_keywordArgument (label_eq hkeyword)
  · split
    · rename_i hsplat
      exact h.exprOf_dictionarySplat (label_eq hsplat)
    · exact h.expr

theorem allPassed (h : Passes s outer t pre c post) : Found s t.read.allPassed := by
  cases hlist : t.is .argumentList with
  | false =>
    rw [allPassed_read hlist]
    exact h.expr
  | true =>
    have hmem : c.read ∈ named t.read.children := by
      rw [children_read]
      exact h.mem_named
    exact h.reached.passed.of_mem (passed_mem_allPassed (by rw [is_read, hlist]) hmem)

/-- What is reached in a part of an entry is reached in the entry. -/
theorem entry (h : Passes s outer t pre c post) (ht : t.is .pair ∨ t.is .dictionarySplat) :
    Found s t.read.entryNodes := by
  rw [entryNodes, entry?, is_read, is_read, tree_read, children_read]
  rcases ht with ht | ht
  · have hlabel := label_eq ht
    rw [if_pos ht]
    rcases admitted_append.mp (h.place hlabel rfl (a := Allowed.having .key ++ Allowed.having .value)
      rfl) with hplace | hplace
    · have hrole := admitted_having.mp hplace
      exact (h.exprOf hlabel rfl hrole rfl).of_mem List.mem_cons_self
    · have hrole := admitted_having.mp hplace
      exact (h.exprOf hlabel rfl hrole rfl).of_mem (List.mem_cons_of_mem _ List.mem_cons_self)
  · have hpair : ¬ t.is .pair := by
      rw [is, label_eq ht]
      decide
    rw [if_neg hpair, if_pos ht]
    exact h.exprOf_dictionarySplat (label_eq ht)

/-- What is reached in a hole, apart from its format, is reached in the string around it. -/
theorem hole (h : Passes s outer t pre c post) (ht : t.is .interpolation) :
    Found s t.read.holeExpr := by
  have hlabel := label_eq ht
  rcases admitted_append.mp (h.place hlabel rfl
    (a := Allowed.having .expression ++ Allowed.having .formatSpecifier) rfl) with hplace | hplace
  · have hrole := admitted_having.mp hplace
    rw [holeExpr, children_read, h.part?_eq hlabel rfl hrole rfl]
    exact h.reached.expr
  · have htaken := h.not_omits
    rw [omits, hlabel, admitted_having.mp hplace] at htaken
    cases htaken

end CodeAudit.Tree.Passes
