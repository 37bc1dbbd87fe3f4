import CodeAudit.Proofs.Parts
import CodeAudit.Proofs.Preorder

/-!
# What a reading keeps

A reading picks the parts of a construct that it has a use for. Most constructs use all their parts;
`Tree.omits` lists the ones that do not. A function keeps the names of its parameters, but neither
their defaults nor any annotations. A hole in a string keeps its expression without the format. A
handler keeps what it catches, and of the name that it binds only the text. An assertion keeps a
condition and a message.

A second list, `Tree.obscures`, is of another kind. A few constructs use their first part, or their
first two, whatever they are, and a continued line counts as a part. What is crowded out by a continued
line in one of them is not spoken of here.

`Reached` says of an expression and a tree around it that the expression is among the nodes that the
tree contributes, in each of the ways in which the construct around the tree may use it. It is passed
on from the parts of a construct to the construct itself.
-/

namespace CodeAudit

open Grammar

/-- Whether a construct is an expression that is evaluated and always has a node of its own. Brackets
have none, and a connective or a text can be merged with the one next to it. -/
def Phrase.isEvaluated : Phrase → Bool
  | call | await | yield | attributeAccess | subscript | binaryOperator | unaryOperator | notOperator
  | comparisonOperator | conditionalExpression | namedExpression | lambda | list | set | tuple
  | dictionary | listComprehension | dictionaryComprehension | setComprehension
  | generatorExpression => true
  | _ => false

/-- Whether the node of a construct can be taken apart, so that its children take its place. -/
def Kind.isTakenApart : Kind → Bool
  | .boolOp | .str | .functionDef | .assign => true
  | _ => false

/-- Whether a label is that of a handler of exceptions. -/
def Label.isHandler : Label → Bool
  | .phrase .exceptClause | .phrase .exceptGroupClause => true
  | _ => false

/-- No clause, statement or block is evaluated. -/
theorem Phrase.ordinary_of_isEvaluated {p : Phrase} (h : p.isEvaluated) :
    p.isStatement = false ∧ p ≠ .assignment ∧ p ≠ .block ∧ p ≠ .module ∧ p.isBarren = false ∧
      (Label.phrase p).isHandler = false := by
  revert h
  cases p <;> decide

namespace Tree

/-- A tree inside another one, at the end of a path none of whose steps is skipped. A step leads from
a construct `t` to a part `c` of it. What `skips` is told about is the label of the construct around
`t`, and what comes before `c` in `t`. -/
inductive Inside (skips : Option Label → Tree → List Tree → Tree → Bool) (s : Tree) :
    Option Label → Tree → Prop
  | here (outer : Option Label) : Inside skips s outer s
  | deeper {outer : Option Label} {t c : Tree} {pre post : List Tree}
      (split : t.children = pre ++ c :: post) (taken : skips outer t pre c = false)
      (rest : Inside skips s (some t.label) c) : Inside skips s outer t

section

variable (skips : Option Label → Tree → List Tree → Tree → Bool)

mutual

/-- All trees inside a tree, as far as steps are not skipped. -/
def insides (outer : Option Label) : Tree → List Tree
  | leaf label role lexeme => [leaf label role lexeme]
  | node label role children =>
    node label role children :: insidesOf outer (node label role children) [] children

/-- All trees inside the last parts of a construct, where `pre` are the parts before them. -/
def insidesOf (outer : Option Label) (t : Tree) (pre : List Tree) : List Tree → List Tree
  | [] => []
  | c :: cs =>
    (if skips outer t pre c then [] else insides (some t.label) c) ++
      insidesOf outer t (pre ++ [c]) cs

end

variable {skips}

mutual

theorem inside_of_mem_insides {s : Tree} (outer : Option Label) :
    (t : Tree) → s ∈ insides skips outer t → s.Inside skips outer t
  | leaf label role lexeme, h => by
    obtain rfl := List.mem_singleton.mp h
    exact .here outer
  | node label role children, h => by
    rcases List.mem_cons.mp h with rfl | h
    · exact .here outer
    · exact inside_of_mem_insidesOf outer children rfl h

theorem inside_of_mem_insidesOf {s t : Tree} {pre : List Tree} (outer : Option Label) :
    (cs : List Tree) → t.children = pre ++ cs → s ∈ insidesOf skips outer t pre cs →
      s.Inside skips outer t
  | [], _, h => absurd h List.not_mem_nil
  | c :: cs, hsplit, h => by
    rcases List.mem_append.mp h with h | h
    · split at h
      · cases h
      · rename_i htaken
        exact .deeper hsplit (Bool.eq_false_iff.mpr htaken) (inside_of_mem_insides _ c h)
    · exact inside_of_mem_insidesOf outer cs (by rw [hsplit, List.append_assoc]; rfl) h

end

end

/-- Whether the reading of a construct makes no use of a part. -/
def omits (outer : Option Label) (t : Tree) (pre : List Tree) (c : Tree) : Bool :=
  match t.label with
  | .phrase .functionDefinition =>
    [some Role.parameters, some .returnType, some .typeParameters].contains c.role
  | .phrase .interpolation => c.role == some .formatSpecifier
  | .phrase .exceptClause | .phrase .exceptGroupClause =>
    !c.is .block && pre.any fun x => x.label.isPart && !x.is .block
  | .phrase .asPattern => outer.any Label.isHandler && pre.any fun x => x.label.isPart
  | .phrase .assertStatement => 2 ≤ (pre.filter fun x => x.label.isPart).length
  | _ => false

/-- Whether a continued line before a part is taken for the part. -/
def obscures (t : Tree) (pre : List Tree) (c : Tree) : Bool :=
  match t.label with
  | .phrase .returnStatement | .phrase .parenthesizedExpression | .phrase .decorator
  | .phrase .dictionarySplat => pre.any (·.isToken .lineContinuation)
  | .phrase .assertStatement =>
    2 ≤ (pre.filter fun x => x.label.isPart || x.isToken .lineContinuation).length
  | .phrase .exceptClause | .phrase .exceptGroupClause =>
    !c.is .block && pre.any (·.isToken .lineContinuation)
  | _ => false

/-- Whether a part of a construct is omitted or obscured. -/
def leavesOut (outer : Option Label) (t : Tree) (pre : List Tree) (c : Tree) : Bool :=
  omits outer t pre c || obscures t pre c

/-- Whether a tree is an expression that is evaluated and always has a node of its own. -/
def isEvaluated (t : Tree) : Bool :=
  match t.label with
  | .phrase p => p.isEvaluated
  | .token _ => false

/-- Whether a tree is read as a statement. -/
def isStatement (t : Tree) : Bool :=
  match t.label with
  | .phrase p => p.isStatement || p = .assignment
  | .token _ => false

/-- The node of an expression is in the trees below some nodes. -/
def Found (s : Tree) (ns : List Node) : Prop := ∃ n ∈ ns, s.read.expr ∈ n.descendants

theorem label_eq {t : Tree} {p : Phrase} (h : t.is p) : t.label = .phrase p := eq_of_beq h

theorem exists_phrase_of_isEvaluated {s : Tree} (hs : s.isEvaluated) :
    ∃ p, s.label = .phrase p ∧ p.isEvaluated := by
  unfold isEvaluated at hs
  split at hs
  · rename_i p hlabel
    exact ⟨p, hlabel, hs⟩
  · cases hs

/-- A call is read as a call. -/
theorem kind_read_of_call {s : Tree} (hs : s.is .call) : s.read.expr.kind = .call := by
  rw [expr_read, Reading.expression, label_eq hs]
  rfl

/-- An expression is read as a node at the place where it starts, and of a kind that is not taken
apart. -/
theorem expr_read_of_isEvaluated {s : Tree} (hs : s.isEvaluated) :
    s.read.expr.loc = s.loc ∧ s.read.expr.kind.isTakenApart = false := by
  obtain ⟨p, hlabel, hp⟩ := exists_phrase_of_isEvaluated hs
  rw [expr_read, Reading.expression, hlabel]
  cases p with
  | binaryOperator | unaryOperator =>
    simp only [Reading.phrase]
    split <;> exact ⟨rfl, rfl⟩
  | comparisonOperator =>
    simp only [Reading.phrase, Reading.comparison]
    split <;> exact ⟨rfl, rfl⟩
  | _ => first | exact ⟨rfl, rfl⟩ | cases hp

namespace Found

variable {s : Tree} {n : Node} {ns ms : List Node}

theorem mono (h : Found s ns) (hsub : ∀ n ∈ ns, n ∈ ms) : Found s ms := by
  obtain ⟨n, hn, hs⟩ := h
  exact ⟨n, hsub n hn, hs⟩

theorem of_mem (h : Found s [n]) (hn : n ∈ ns) : Found s ns :=
  h.mono fun _ hm => List.mem_singleton.mp hm ▸ hn

/-- What is below the children of a node is below the node. -/
theorem up (h : Found s n.children) : Found s [n] := by
  obtain ⟨c, hc, hs⟩ := h
  refine ⟨n, List.mem_singleton_self n, ?_⟩
  rw [Node.descendants_eq]
  exact List.mem_cons_of_mem n (List.mem_flatMap.mpr ⟨c, hc, hs⟩)

/-- An expression below a node that is taken apart is below one of its children. -/
theorem down (hs : s.isEvaluated) (h : Found s [n])
    (hn : n.kind.isTakenApart) : Found s n.children := by
  obtain ⟨m, hm, hmem⟩ := h
  obtain rfl := List.mem_singleton.mp hm
  rw [Node.descendants_eq] at hmem
  rcases List.mem_cons.mp hmem with heq | hmem
  · rw [← heq, (expr_read_of_isEvaluated hs).2] at hn
    cases hn
  · obtain ⟨c, hc, hmem⟩ := List.mem_flatMap.mp hmem
    exact ⟨c, hc, hmem⟩

/-- What is below a child of a node is below the node. -/
theorem of_child (h : Found s [n]) {m : Node} (hn : n ∈ m.children) : Found s [m] := (h.of_mem hn).up

theorem self (s : Tree) : Found s [s.read.expr] := by
  refine ⟨_, List.mem_singleton_self _, ?_⟩
  rw [Node.descendants_eq]
  exact List.mem_cons_self

end Found

end Tree

namespace Reading

/-- What a call is given for an argument. -/
def passed (a : Reading) : Node :=
  if a.is .keywordArgument then exprOf a.tree (find? a.children .value)
  else if a.is .dictionarySplat then exprOf a.tree (named a.children).head?
  else a.expr

/-- What a call is given for a list of arguments, the unnamed ones first. -/
def allPassed (list : Reading) : List Node :=
  (arguments list).1 ++ (arguments list).2.map Keyword.value

theorem passed_mem_allPassed {list a : Reading} (hlist : list.is .argumentList)
    (ha : a ∈ named list.children) : a.passed ∈ allPassed list := by
  rw [allPassed, arguments, if_pos hlist]
  generalize named list.children = as at ha
  induction as with
  | nil => cases ha
  | cons b as ih =>
    rw [List.foldr_cons]
    generalize List.foldr _ ([], []) as = rest at ih ⊢
    obtain ⟨args, keywords⟩ := rest
    rcases List.mem_cons.mp ha with rfl | ha
    · dsimp only [passed]
      split
      · simp
      · split <;> simp
    · have hmem := ih ha
      rw [List.mem_append] at hmem ⊢
      dsimp only at hmem ⊢
      split
      · exact hmem.imp_right (List.mem_cons_of_mem _)
      · split
        · exact hmem.imp_right (List.mem_cons_of_mem _)
        · exact hmem.imp_left (List.mem_cons_of_mem _)

/-- One side of a connective contributes itself, or the operands that it has. -/
theorem operands_cases (op : Connective) (side : Reading) :
    operands op side = [side.expr] ∨
      ∃ inner values, side.expr.shape = .boolOp inner values ∧ operands op side = values := by
  cases hshape : side.expr.shape with
  | boolOp inner values =>
    rw [operands, hshape]
    dsimp only
    split
    · exact .inr ⟨inner, values, rfl, rfl⟩
    · exact .inl rfl
  | _ =>
    left
    rw [operands, hshape]

/-- The nodes of an entry of a dictionary. -/
def entryNodes (c : Reading) : List Node :=
  match entry? c with
  | some entry => entry.1.toList ++ [entry.2]
  | none => []

/-- The expression of the first part of a construct. -/
def firstExpr (r : Reading) : List Node := ((named r.children).head?.map expr).toList

/-- The expression of a hole in a string literal. -/
def holeExpr (r : Reading) : List Node :=
  (((find? r.children .expression).or (named r.children).head?).map expr).toList

end Reading

namespace Tree

/-- An expression is among the nodes that a tree contributes to the construct around it. Each field is
about one way of making use of the tree. -/
structure Reached (s : Tree) (outer : Option Label) (t : Tree) : Prop where
  fertile : t.label.isFertile
  expr : Found s [t.read.expr]
  stmt : t.isStatement → Found s [t.read.stmt]
  nodes : Found s t.read.nodes
  contents : t.is .block ∨ t.is .module → Found s (Reading.contents t.read.children)
  passed : Found s [t.read.passed]
  allPassed : Found s t.read.allPassed
  entry : t.is .pair ∨ t.is .dictionarySplat → Found s t.read.entryNodes
  first : t.is .decorator ∨ t.is .asPattern ∧ outer.any Label.isHandler → Found s t.read.firstExpr
  hole : t.is .interpolation → Found s t.read.holeExpr
  clause : t.is .elseClause ∨ t.is .finallyClause → Found s (Reading.clauseBody t.read)
  alternative : t.is .elifClause ∨ t.is .elseClause → ∀ later, Found s (Reading.alternative t.read later)
  handler : t.label.isHandler → Found s [Reading.handler t.read]

/-- A step from a construct to a part of it in which an expression is reached. -/
structure Passes (s : Tree) (outer : Option Label) (t : Tree) (pre : List Tree) (c : Tree)
    (post : List Tree) : Prop where
  evaluated : s.isEvaluated
  formed : t.WellFormed
  split : t.children = pre ++ c :: post
  taken : leavesOut outer t pre c = false
  reached : Reached s (some t.label) c

theorem nodes_read {t : Tree} {p : Phrase} (hlabel : t.label = .phrase p) :
    t.read.nodes =
      if p = .block || p = .module then Reading.contents (t.children.map read)
      else if p.isStatement then [t.read.stmt] else [t.read.expr] := by
  rw [read_eq]
  simp only [Reading.ofParts, hlabel]

theorem allPassed_read {t : Tree} (ht : t.is .argumentList = false) :
    t.read.allPassed = [t.read.expr] := by
  rw [Reading.allPassed, Reading.arguments, is_read, ht]
  rfl

theorem passed_read {t : Tree} (hkeyword : t.is .keywordArgument = false)
    (hsplat : t.is .dictionarySplat = false) : t.read.passed = t.read.expr := by
  rw [Reading.passed, is_read, is_read, hkeyword, hsplat]
  rfl

/-- An expression is reached from where it is. -/
theorem Reached.self {s : Tree} (hs : s.isEvaluated) (outer : Option Label) : Reached s outer s := by
  obtain ⟨p, hlabel, hp⟩ := exists_phrase_of_isEvaluated hs
  have hnot {q : Phrase} (hq : q.isEvaluated = false) : ¬ s.is q := by
    intro h
    rw [is, hlabel] at h
    obtain rfl := Label.phrase.inj (eq_of_beq h)
    rw [hp] at hq
    cases hq
  have hfalse {q : Phrase} (hq : q.isEvaluated = false) : s.is q = false :=
    Bool.eq_false_iff.mpr (hnot hq)
  obtain ⟨hstatement, hassignment, hblock, hmodule, hbarren, hhandler⟩ :=
    Phrase.ordinary_of_isEvaluated hp
  have hexpr := Found.self s
  exact {
    fertile := by
      rw [hlabel, Label.isFertile, hbarren]
      rfl
    expr := hexpr
    stmt := fun h => by
      rw [isStatement, hlabel] at h
      simp [hstatement, hassignment] at h
    nodes := by
      rw [nodes_read hlabel]
      simpa [hstatement, hblock, hmodule] using hexpr
    contents := fun h => h.elim (absurd · (hnot rfl)) (absurd · (hnot rfl))
    passed := by
      rw [passed_read (hfalse rfl) (hfalse rfl)]
      exact hexpr
    allPassed := by
      rw [allPassed_read (hfalse rfl)]
      exact hexpr
    entry := fun h => h.elim (absurd · (hnot rfl)) (absurd · (hnot rfl))
    first := fun h => h.elim (absurd · (hnot rfl)) (absurd ·.1 (hnot rfl))
    hole := (absurd · (hnot rfl))
    clause := fun h => h.elim (absurd · (hnot rfl)) (absurd · (hnot rfl))
    alternative := fun h => h.elim (absurd · (hnot rfl)) (absurd · (hnot rfl))
    handler := fun h => by
      rw [hlabel, hhandler] at h
      cases h }

namespace Passes

variable {s : Tree} {outer : Option Label} {t : Tree} {pre : List Tree} {c : Tree} {post : List Tree}
variable {p : Phrase} {slots : List Slot} {a : List Allowed} {r : Role}

theorem mem_children (h : Passes s outer t pre c post) : c ∈ t.children := by
  rw [h.split]
  exact List.mem_append_right pre List.mem_cons_self

theorem mem_named (h : Passes s outer t pre c post) : c.read ∈ Reading.named (t.children.map read) := by
  rw [named_read]
  exact List.mem_map_of_mem (mem_parts_of_isFertile h.mem_children h.reached.fertile)

theorem layout (h : Passes s outer t pre c post) (hlabel : t.label = .phrase p)
    (hlayout : p.layout? = some slots) : Follows slots (marked t.children) :=
  h.formed.follows h.mem_children (by rw [hlabel]; exact hlayout)

/-- The part is one of those that the layout of the construct allows. -/
theorem place (h : Passes s outer t pre c post) (hlabel : t.label = .phrase p)
    (hlayout : p.layout? = some slots) (ha : Slot.fertile slots = a) : admitted a c := by
  rw [← ha]
  exact h.formed.admitted_fertile h.mem_children h.reached.fertile (by rw [hlabel]; exact hlayout)

/-- Only constructs in which expressions can stand have parts in which expressions are reached. -/
theorem fertile (h : Passes s outer t pre c post) : t.label.isFertile := by
  cases hlabel : t.label with
  | token terminal =>
    have hnone := h.formed.admitted_fertile h.mem_children h.reached.fertile
      (show t.label.layout? = some [] by rw [hlabel]; rfl)
    cases hnone
  | phrase p =>
    cases hbarren : p.isBarren with
    | false => simp [Label.isFertile, hbarren]
    | true =>
      have hlayout : p.layout? = some [.many Allowed.barren] := by
        cases p <;> first | rfl | cases hbarren
      exact absurd (h.place hlabel hlayout (a := []) rfl) Bool.false_ne_true

theorem contents (h : Passes s outer t pre c post) :
    Found s (Reading.contents (t.children.map read)) :=
  h.reached.nodes.mono fun _ hn => List.mem_flatMap.mpr ⟨c.read, h.mem_named, hn⟩

/-- A construct without a shape of its own keeps everything. -/
theorem other (h : Passes s outer t pre c post) : Found s [Reading.other t (t.children.map read)] :=
  Found.up h.contents

theorem part?_eq (h : Passes s outer t pre c post) (hlabel : t.label = .phrase p)
    (hlayout : p.layout? = some slots) (hr : c.role = some r)
    (honce : Slot.once (Allowed.mayHave r) slots) :
    Reading.find? (t.children.map read) r = some c.read := by
  rw [find?_read, h.formed.part?_eq h.mem_children (by rw [hlabel]; exact hlayout) hr honce]
  rfl

/-- The part is found by its role. -/
theorem exprOf (h : Passes s outer t pre c post) (hlabel : t.label = .phrase p)
    (hlayout : p.layout? = some slots) (hr : c.role = some r)
    (honce : Slot.once (Allowed.mayHave r) slots) :
    Found s [Reading.exprOf t (Reading.find? (t.children.map read) r)] := by
  rw [h.part?_eq hlabel hlayout hr honce]
  exact h.reached.expr

/-- The part is the first one of a kind if no other one of the kind comes before it. -/
theorem head?_filter_named (h : Passes s outer t pre c post) {q : Tree → Bool} (hq : q c)
    (hpart : ∀ x ∈ pre, q x → ¬ x.label.isPart)
    (hclear : pre.any (·.isToken .lineContinuation) = false) :
    ((Reading.named (t.children.map read)).filter fun d => q d.tree).head? = some c.read := by
  have hhead := head?_filter_parts h.split h.reached.fertile hq hpart hclear
  rw [named_read, List.filter_map, List.head?_map]
  simp only [Function.comp_def, tree_read, hhead, Option.map_some]

/-- The part is the first one if only signs and comments come before it. -/
theorem head?_named (h : Passes s outer t pre c post) (hpart : ∀ x ∈ pre, ¬ x.label.isPart)
    (hclear : pre.any (·.isToken .lineContinuation) = false) :
    (Reading.named (t.children.map read)).head? = some c.read := by
  have hhead := h.head?_filter_named (q := fun _ => true) rfl (fun x hx _ => hpart x hx) hclear
  rwa [List.filter_true] at hhead

theorem not_omits (h : Passes s outer t pre c post) : omits outer t pre c = false :=
  (Bool.or_eq_false_iff.mp h.taken).1

theorem not_obscures (h : Passes s outer t pre c post) : obscures t pre c = false :=
  (Bool.or_eq_false_iff.mp h.taken).2

/-- The only part of a construct is the first one. -/
theorem head?_named_of_single (h : Passes s outer t pre c post) (hlabel : t.label = .phrase p)
    {slot : Slot} (hlayout : p.layout? = some [slot]) (hslot : ∀ a, slot ≠ .many a)
    (hclear : pre.any (·.isToken .lineContinuation) = false) :
    (Reading.named (t.children.map read)).head? = some c.read :=
  h.head?_named (h.formed.not_isPart_before h.split h.reached.fertile (by rw [hlabel]; exact hlayout)
    hslot) hclear

end Passes

end Tree

end CodeAudit
