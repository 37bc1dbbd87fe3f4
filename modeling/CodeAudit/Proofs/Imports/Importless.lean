import CodeAudit.Proofs.Complete
import CodeAudit.Proofs.Origins

/-!
# Where no import statement can be

An import statement stands where a statement can stand: in a module, in a block, and in the statements
and clauses that have blocks. `Phrase.mayImport` lists these constructs. All others are made of tokens
and of constructs of their own kind, which is checked production by production, and so are the parts
with certain roles in whatever construct. The node of such a tree has no import statement below it.
-/

namespace CodeAudit

open Grammar

/-! ### Nodes -/

/-- Whether nodes of a kind are import statements. -/
def Kind.isImport : Kind → Bool
  | .importNames | .importFrom => true
  | _ => false

namespace Node

/-- No node of a tree is an import statement. -/
def Importless (n : Node) : Prop := ∀ m ∈ n.descendants, m.kind.isImport = false

/-- No node of some trees is an import statement. -/
def AllImportless (ns : List Node) : Prop := ∀ n ∈ ns, n.Importless

variable {n : Node} {ns ms : List Node}

/-- A tree has no import statements if it is none itself and its children have none. -/
theorem Importless.of_children {loc : Location} {shape : Shape Node} (hkind : shape.kind.isImport = false)
    (h : AllImportless shape.children) : Importless ⟨loc, shape⟩ := by
  intro m hm
  rw [descendants_eq] at hm
  rcases List.mem_cons.mp hm with rfl | hm
  · exact hkind
  · obtain ⟨c, hc, hm⟩ := List.mem_flatMap.mp hm
    exact h c hc m hm

theorem Importless.children (h : n.Importless) : AllImportless n.children :=
  fun _ hc m hm => h m (mem_descendants_trans hm (mem_descendants_of_mem_children hc))

namespace AllImportless

theorem nil : AllImportless [] := fun _ hn => absurd hn List.not_mem_nil

theorem cons (hn : n.Importless) (hns : AllImportless ns) : AllImportless (n :: ns) :=
  List.forall_mem_cons.mpr ⟨hn, hns⟩

theorem single (hn : n.Importless) : AllImportless [n] := cons hn nil

theorem append (hns : AllImportless ns) (hms : AllImportless ms) : AllImportless (ns ++ ms) :=
  List.forall_mem_append.mpr ⟨hns, hms⟩

end AllImportless

end Node

/-! ### Constructs -/

namespace Phrase

/-- Whether a construct is an import statement. -/
def isImport : Phrase → Bool
  | importStatement | importFromStatement | futureImportStatement => true
  | _ => false

/-- Whether an import statement can stand in a construct, or can be one. -/
def mayImport : Phrase → Bool
  | module | block | statement | simpleStatements | importStatement | importFromStatement
  | futureImportStatement | ifStatement | elifClause | elseClause | forStatement | whileStatement
  | tryStatement | exceptClause | exceptGroupClause | finallyClause | withStatement
  | functionDefinition | classDefinition | decoratedDefinition | matchStatement | matchBlock
  | caseClause => true
  | _ => false

end Phrase

namespace Label

/-- Whether a label is that of an import statement. -/
def isImport : Label → Bool
  | .phrase p => p.isImport
  | .token _ => false

/-- Whether an import statement can stand in what has a label. -/
def mayImport : Label → Bool
  | .phrase p => p.mayImport
  | .token _ => false

theorem isImport_eq_false {label : Label} (h : label.mayImport = false) : label.isImport = false := by
  cases label with
  | token terminal => rfl
  | phrase p =>
    revert h
    cases p <;> decide

end Label

/-- Whether an import statement can stand in a part with a role. -/
def Role.mayImport : Role → Bool
  | .alternative | .body | .consequence | .definition => true
  | _ => false

namespace Grammar

/-- Whether an import statement can stand in what a symbol stands for. The loops are those of statements
and of the clauses that have blocks. -/
def Symbol.mayImport : Symbol → Bool
  | .token _ => false
  | .phrase p => p.mayImport
  | .loop i => [0, 1, 6, 8, 10, 11].contains i

/-- Whether an import statement can stand in what a step shows. -/
def Step.mayImport (s : Step) : Bool := s.symbol.mayImport || s.marks.label.any Label.mayImport

/-- Whether a step keeps to where import statements can stand, in a production of a symbol. -/
def Step.isConfined (head : Symbol) (s : Step) : Bool :=
  !s.mayImport || head.mayImport && s.marks.role.all Role.mayImport

theorem isConfined_productions :
    (allProductions.all fun p => p.steps.toList.all (Step.isConfined p.head)) = true :=
  all_productions (by decide +kernel)

/-- There is no import statement in what a step shows if there is none in the construct, or if there is
none in parts with the role of the step. -/
theorem Production.Derives.mayImport_eq_false {p : Production} {parts : List Fragment} (h : p.Derives parts)
    {s : Step} (hs : s ∈ p.steps.toList)
    (hnone : p.head.mayImport = false ∨ s.marks.role.all Role.mayImport = false) : s.mayImport = false := by
  have hconfined := List.all_eq_true.mp (List.all_eq_true.mp isConfined_productions p h.known) s hs
  rw [Step.isConfined, Bool.or_eq_true, Bool.and_eq_true] at hconfined
  rcases hconfined with hconfined | ⟨hhead, hrole⟩
  · rwa [Bool.not_eq_true'] at hconfined
  · rw [hhead, hrole] at hnone
    simp at hnone

/-- A construct appears under the label of a construct in which an import statement can stand if one can
stand in it, and not otherwise. -/
theorem mayImport_appearances :
    (Phrase.all.all fun p => p.appearances.all fun label => label.mayImport == p.mayImport) = true := by
  decide +kernel

theorem mayImport_of_mem_appearances {p : Phrase} {label : Label} (h : label ∈ p.appearances) :
    label.mayImport = p.mayImport :=
  eq_of_beq (List.all_eq_true.mp (List.all_eq_true.mp mayImport_appearances p p.mem_all) label h)

end Grammar

namespace Tree

/-- No construct in which an import statement can stand is inside a tree. -/
def Importless (t : Tree) : Prop := t.Everywhere fun s => s.label.mayImport = false

variable {t c : Tree}

theorem Importless.leaf {label : Label} (h : label.mayImport = false) (role : Option Role) (lexeme : Lexeme) :
    (Tree.leaf label role lexeme).Importless :=
  .intro h fun _ hc => absurd hc List.not_mem_nil

theorem Importless.assign (h : t.Importless) (r : Option Role) : (t.assign r).Importless :=
  Everywhere.assign h r (by rw [label_assign]; exact h.self)

theorem IsExtra.importless (h : t.IsExtra) : t.Importless := by
  obtain ⟨terminal, lexeme, -, rfl⟩ := h
  exact .leaf rfl _ _

/-- A tree that gets another role than the one it has keeps its own. -/
theorem assign_eq_self {r : Role} {role : Option Role} (h : (t.assign role).role = some r) (hne : role ≠ some r) :
    t.assign role = t := by
  cases t with
  | leaf label old lexeme =>
    cases old with
    | some old => rfl
    | none =>
      have h : (if label.takesRole then role else none) = some r := h
      split at h
      · exact absurd h hne
      · cases h
  | node label old children =>
    cases old with
    | some old => rfl
    | none => exact absurd h hne

end Tree

namespace Fragment

variable {f : Fragment} {s : Grammar.Step}

/-- What a step shows has no import statements in it if none can stand there. -/
theorem importless_shown (hs : f.symbol = s.symbol) (hproper : s.isProper) (hnone : s.mayImport = false)
    (htrees : ∀ t ∈ f.trees, t.Importless) : ∀ t ∈ f.shown s.marks, t.Importless := by
  intro t ht
  rw [Step.mayImport, Bool.or_eq_false_iff] at hnone
  obtain ⟨hsymbol, hlabels⟩ := hnone
  rcases mem_shown hs hproper ht with ⟨u, hu, rfl⟩ | ⟨label, terminal, old, role, lexeme, hlabel, -, -,
    rfl⟩ | ⟨p, label, hphrase, happears, rfl⟩
  · exact (htrees u hu).assign _
  · rw [hlabel, Option.any_some] at hlabels
    exact (Tree.Importless.leaf hlabels role lexeme).assign _
  · rw [← hs, hphrase] at hsymbol
    exact .intro ((mayImport_of_mem_appearances happears).trans hsymbol) htrees

/-- What follows the grammar has no import statements in it where none can stand. -/
theorem Derived.importless (h : f.Derived) (hnone : f.symbol.mayImport = false) :
    ∀ t ∈ f.trees, t.Importless := by
  induction h with
  | token terminal lead lexeme ordinary extras =>
    intro t ht
    rw [List.mem_singleton.mp ht]
    exact .leaf rfl _ _
  | production p parts known symbols derived ih =>
    have hderives : p.Derives parts := ⟨known, symbols, derived⟩
    refine hderives.forall_trees (fun t ht => ht.importless) fun g hg _ s hs hsymbol => ?_
    have hstep : s.mayImport = false := hderives.mayImport_eq_false hs (.inl hnone)
    refine importless_shown hsymbol (hderives.filled.isProper hs) hstep (ih g hg ?_)
    rw [hsymbol]
    exact (Bool.or_eq_false_iff.mp hstep).1

/-- What follows the grammar has no import statements in a part with a role for which there are none. -/
theorem Derived.importless_of_role (h : f.Derived) {r : Role} (hr : r.mayImport = false) :
    ∀ t ∈ f.trees, t.role = some r → t.Importless := by
  induction h with
  | token terminal lead lexeme ordinary extras =>
    intro t ht _
    rw [List.mem_singleton.mp ht]
    exact .leaf rfl _ _
  | production p parts known symbols derived ih =>
    have hderives : p.Derives parts := ⟨known, symbols, derived⟩
    refine hderives.forall_trees (fun t ht _ => ht.importless) fun g hg hderived s hs hsymbol t ht hrole => ?_
    have hproper := hderives.filled.isProper hs
    -- The role is that of the step, or it belongs to a tree that the step shows as it is.
    by_cases hmarks : s.marks.role = some r
    · have hstep : s.mayImport = false := by
        refine hderives.mayImport_eq_false hs (.inr ?_)
        rw [hmarks, Option.all_some, hr]
      refine importless_shown hsymbol hproper hstep (hderived.importless ?_) t ht
      rw [hsymbol]
      exact (Bool.or_eq_false_iff.mp hstep).1
    · rcases mem_shown hsymbol hproper ht with ⟨u, hu, rfl⟩ | ⟨label, terminal, old, role, lexeme, -, htoken,
        hold, rfl⟩ | ⟨q, label, -, -, rfl⟩
      · have hsame := Tree.assign_eq_self hrole hmarks
        rw [hsame] at hrole ⊢
        exact ih g hg u hu hrole
      · obtain ⟨lexeme', htrees⟩ := hderived.laidOut.token (hsymbol.trans htoken)
        rw [htrees, List.mem_singleton] at hold
        cases hold
        rw [Tree.assign_eq_self hrole hmarks] at hrole
        cases hrole
      · exact absurd hrole hmarks

end Fragment

namespace Tree.Grows

variable {t c : Tree}

/-- A tree has no import statements in it if its label says so. -/
theorem importless (h : t.Grows) (hlabel : t.label.mayImport = false) : t.Importless := by
  cases h with
  | leaf known role lexeme => exact .leaf hlabel role lexeme
  | @node p parts q label derives head appears role =>
    have hderived : (Fragment.ofProduction p parts).Derived :=
      .production p parts derives.known derives.symbols derives.derived
    refine .intro hlabel (hderived.importless ?_)
    show p.head.mayImport = false
    rw [head]
    exact (mayImport_of_mem_appearances appears).symm.trans hlabel

/-- A part of a construct has no import statements in it if its role says so. -/
theorem importless_of_role (h : t.Grows) (hc : c ∈ t.children) {r : Role} (hrole : c.role = some r)
    (hr : r.mayImport = false) : c.Importless := by
  cases h with
  | leaf known role lexeme => cases hc
  | @node p parts q label derives head appears role =>
    have hderived : (Fragment.ofProduction p parts).Derived :=
      .production p parts derives.known derives.symbols derives.derived
    exact hderived.importless_of_role hr c hc hrole

end Tree.Grows

/-! ### Readings -/

open Node

namespace Tree

/-- A tree without import statements among its nodes, wherever it is made use of. -/
structure ReadsImportless (t : Tree) : Prop where
  expr : t.read.expr.Importless
  stmt : t.read.stmt.Importless
  nodes : AllImportless t.read.nodes

/-- A construct without import statements among the nodes of its parts. -/
def Spared (t : Tree) : Prop := ∀ c ∈ t.children, c.Everywhere ReadsImportless

namespace Spared

variable {t c : Tree}

theorem part (h : t.Spared) (hc : c ∈ t.children) : c.Spared := fun _ hd => (h c hc).child hd

theorem reads (h : t.Spared) (hc : c ∈ t.children) : c.ReadsImportless := (h c hc).self

theorem contents (h : t.Spared) : AllImportless (Reading.contents (t.children.map read)) := by
  intro n hn
  obtain ⟨c, hc, hn⟩ := exists_of_mem_contents hn
  exact (h.reads hc).nodes n hn

theorem other (h : t.Spared) : (Reading.other t (t.children.map read)).Importless :=
  .of_children rfl h.contents

theorem expr_find? (h : t.Spared) (r : Role) :
    AllImportless ((Reading.find? (t.children.map read) r).map Reading.expr).toList := by
  intro n hn
  obtain ⟨c, hc, rfl⟩ := exists_of_mem_expr_find? hn
  exact (h.reads hc).expr

theorem expr_named (h : t.Spared) : AllImportless ((Reading.named (t.children.map read)).map Reading.expr) := by
  intro n hn
  obtain ⟨c, hc, rfl⟩ := exists_of_mem_expr_named hn
  exact (h.reads hc).expr

theorem expr_head? (h : t.Spared) :
    AllImportless ((Reading.named (t.children.map read)).head?.map Reading.expr).toList := by
  intro n hn
  obtain ⟨c, hc, rfl⟩ := exists_of_mem_expr_head? hn
  exact (h.reads hc).expr

/-- A part that is missing has no import statements in it either. -/
theorem exprOf {x : Option Reading} (h : AllImportless (x.map Reading.expr).toList) :
    (Reading.exprOf t x).Importless := by
  cases x with
  | none => exact .of_children rfl .nil
  | some y => exact h y.expr (by simp)

theorem exprOf_find? (h : t.Spared) (r : Role) :
    (Reading.exprOf t (Reading.find? (t.children.map read) r)).Importless :=
  exprOf (h.expr_find? r)

theorem token (t : Tree) (terminal : Terminal) : (Reading.token t terminal).Importless := by
  unfold Reading.token
  split
  · exact .of_children rfl .nil
  · exact .of_children rfl .nil
  · exact .of_children rfl .nil
  · exact .of_children rfl .nil
  · split
    · exact .of_children rfl .nil
    · exact .of_children rfl .nil

theorem passed (h : t.Spared) (hexpr : t.read.expr.Importless) : t.read.passed.Importless := by
  rw [Reading.passed, is_read, is_read, tree_read, children_read]
  split
  · exact h.exprOf_find? .value
  · split
    · exact exprOf h.expr_head?
    · exact hexpr

theorem expr_call (h : t.Spared) : (Reading.call t (t.children.map read)).Importless := by
  refine @Importless.of_children t.loc (Reading.call t (t.children.map read)).shape rfl ?_
  intro n hn
  rcases exists_of_mem_call hn with rfl | ⟨c, hc, rfl | ⟨a, ha, rfl⟩⟩
  · exact h.exprOf_find? .function
  · exact (h.reads hc).expr
  · exact ((h.part hc).part ha).passed ((h.part hc).reads ha).expr

theorem expr_comparison (h : t.Spared) : (Reading.comparison t (t.children.map read)).Importless := by
  have hparts := h.expr_named
  unfold Reading.comparison
  dsimp only
  split
  · rename_i left comparators hnamed
    rw [hnamed] at hparts
    exact .of_children rfl hparts
  · exact .of_children rfl (.single (.of_children rfl .nil))

theorem operands {side : Reading} (hside : side.expr.Importless) (op : Connective) :
    AllImportless (Reading.operands op side) := by
  rcases Reading.operands_cases op side with heq | ⟨inner, values, hshape, heq⟩
  · rw [heq]
    exact .single hside
  · have hvalues := hside.children
    rw [Node.children, hshape] at hvalues
    rw [heq]
    exact hvalues

theorem expr_connective (h : t.Spared) : (Reading.connective t (t.children.map read)).Importless := by
  unfold Reading.connective
  split
  · rename_i op _
    refine .of_children rfl fun n hn => ?_
    obtain ⟨side, hside, hn⟩ := List.mem_flatMap.mp hn
    refine operands ?_ op n hn
    rcases List.mem_append.mp hside with hside | hside
    · exact h.expr_find? .left _ (by simpa using ⟨side, Option.mem_toList.mp hside, rfl⟩)
    · exact h.expr_find? .right _ (by simpa using ⟨side, Option.mem_toList.mp hside, rfl⟩)
  · exact h.other

theorem string (t : Tree) {cs : List Reading} (hholes : AllImportless (Reading.holes cs)) :
    (Reading.string t cs).Importless := by
  unfold Reading.string
  split
  · exact .of_children rfl .nil
  · exact .of_children rfl (.cons (.of_children rfl .nil) hholes)

theorem holes (h : t.Spared) : AllImportless (Reading.holes (t.children.map read)) := by
  intro n hn
  obtain ⟨c, hc, d, hd, rfl⟩ := exists_of_mem_holes hn
  exact ((h.part hc).reads hd).expr

theorem expr_concatenated (h : t.Spared) : (Reading.concatenated t (t.children.map read)).Importless := by
  rw [Reading.concatenated]
  split
  · exact .of_children rfl .nil
  · refine .of_children rfl fun n hn => ?_
    obtain ⟨x, hx, rfl⟩ := List.mem_map.mp hn
    obtain ⟨c, hc, rfl⟩ := exists_of_mem_named hx
    rw [tree_read, children_read]
    exact string c (h.part hc).holes

theorem entry (h : t.Spared) {entry : Option Node × Node} (hentry : Reading.entry? t.read = some entry) :
    AllImportless (entry.1.toList ++ [entry.2]) := by
  rcases entry?_cases hentry with ⟨-, rfl⟩ | ⟨-, rfl⟩
  · exact .cons (h.exprOf_find? .key) (.single (h.exprOf_find? .value))
  · exact .single (exprOf h.expr_head?)

theorem expr_dictionary (h : t.Spared) : (Reading.dictionary t (t.children.map read)).Importless := by
  refine @Importless.of_children t.loc (Reading.dictionary t (t.children.map read)).shape rfl ?_
  intro n hn
  obtain ⟨c, hc, entry, hentry, hn⟩ := exists_of_mem_dictionary hn
  exact (h.part hc).entry hentry n hn

/-- A construct of which the parts have no import statements has none where an expression is wanted. -/
theorem expr (h : t.Spared) : t.read.expr.Importless := by
  rw [expr_read, Reading.expression]
  split
  · exact token t _
  · rename_i p _
    have hother := h.other
    cases p with
    | attributeAccess => exact .of_children rfl (.single (h.exprOf_find? .object))
    | call => exact h.expr_call
    | string => exact string t h.holes
    | concatenatedString => exact h.expr_concatenated
    | binaryOperator =>
      rw [Reading.phrase]
      split
      · exact .of_children rfl (.cons (h.exprOf_find? .left) (.single (h.exprOf_find? .right)))
      · exact hother
    | comparisonOperator => exact h.expr_comparison
    | booleanOperator => exact h.expr_connective
    | notOperator => exact .of_children rfl (.single (h.exprOf_find? .argument))
    | unaryOperator =>
      rw [Reading.phrase]
      split
      · exact .of_children rfl (.single (h.exprOf_find? .argument))
      · exact hother
    | dictionary => exact h.expr_dictionary
    | parenthesizedExpression | type =>
      rw [Reading.phrase]
      split
      · rename_i inner rest hnamed
        have hparts := h.expr_named
        rw [hnamed] at hparts
        exact hparts inner.expr List.mem_cons_self
      · exact hother
    | _ => exact hother

theorem stmt_assignment (h : t.Spared) : (Reading.assignment t (t.children.map read)).Importless := by
  have htarget := h.exprOf_find? .left
  rcases t.assignment_cases with ⟨c, hc, -, heq⟩ | ⟨c, hc, -, heq | ⟨targets, value, hshape, heq⟩⟩ |
    ⟨-, -, heq⟩
  · rw [heq]
    exact .of_children rfl (.cons htarget (.cons (h.reads hc).expr (h.expr_find? .right)))
  · rw [heq]
    exact .of_children rfl (.cons htarget (.single (h.reads hc).expr))
  · have hchildren := (h.reads hc).stmt.children
    rw [Node.children, hshape] at hchildren
    rw [heq]
    exact .of_children rfl (.cons htarget hchildren)
  · rw [heq]
    exact .of_children rfl (.cons htarget (.single (.of_children rfl .nil)))

theorem stmt_expressionStatement (h : t.Spared) :
    (Reading.expressionStatement t (t.children.map read)).Importless := by
  rcases t.expressionStatement_cases with ⟨c, hc, heq | heq⟩ | heq
  · rw [heq]
    exact (h.reads hc).stmt
  · rw [heq]
    exact .of_children rfl (.single (h.reads hc).expr)
  · rw [heq]
    exact .of_children rfl (.single (.of_children rfl h.expr_named))

theorem stmt_assertion (h : t.Spared) : (Reading.assertion t (t.children.map read)).Importless := by
  refine .of_children rfl (.cons (exprOf h.expr_head?) fun n hn => h.expr_named n ?_)
  obtain ⟨x, hx, rfl⟩ := Option.map_eq_some_iff.mp (Option.mem_toList.mp hn)
  exact List.mem_map_of_mem (List.mem_of_mem_drop (List.mem_of_head? hx))

/-- A construct in which no import statement can stand has none where a statement is wanted. -/
theorem stmt (h : t.Spared) (hlabel : t.label.mayImport = false) : t.read.stmt.Importless := by
  cases hphrase : t.label with
  | token terminal =>
    rw [stmt_read_of_token hphrase]
    exact h.expr
  | phrase p =>
    rw [hphrase] at hlabel
    rw [Passes.stmt_read hphrase]
    cases p with
    | assignment => exact h.stmt_assignment
    | expressionStatement => exact h.stmt_expressionStatement
    | returnStatement => exact .of_children rfl h.expr_head?
    | assertStatement => exact h.stmt_assertion
    | _ => first | exact h.other | cases hlabel

theorem nodes (h : t.Spared) (hlabel : t.label.mayImport = false) : AllImportless t.read.nodes := by
  cases hphrase : t.label with
  | token terminal =>
    exact fun n hn => AllImportless.single h.expr n ((nodes_read_sublist hphrase).subset hn)
  | phrase p =>
    rw [nodes_read hphrase]
    split
    · exact h.contents
    · split
      · exact .single (h.stmt hlabel)
      · exact .single h.expr

end Spared

/-- A tree in which no import statement can stand has none among its nodes. -/
theorem Importless.reads {t : Tree} (h : t.Importless) : t.Everywhere ReadsImportless :=
  h.of_step fun _ hlabel inside => ⟨Spared.expr inside, Spared.stmt inside hlabel, Spared.nodes inside hlabel⟩

end Tree

end CodeAudit
