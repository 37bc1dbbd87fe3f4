import CodeAudit.Proofs.Imports.Importless
import CodeAudit.Proofs.Ordered.Statements
import CodeAudit.Proofs.Scan

/-!
# Import statements in source order

A module has a node for every import statement of its text, in the order of the text and in the same
functions, and it has no others. Blocks and constructs without a shape of their own keep their parts as
they are. For the other ones it is checked against the layout that the parts that a reading asks for are
in order, and that no import statement can stand in a part that is not asked for.
-/

namespace CodeAudit

open Grammar

theorem flatMap_filter_eq {α β : Type} {l : List α} {p : α → Bool} {f : α → List β}
    (h : ∀ a ∈ l, p a = false → f a = []) : (l.filter p).flatMap f = l.flatMap f := by
  induction l with
  | nil => rfl
  | cons a l ih =>
    obtain ⟨ha, hl⟩ := List.forall_mem_cons.mp h
    rw [List.flatMap_cons, ← ih hl]
    cases hp : p a with
    | true => rw [List.filter_cons_of_pos hp, List.flatMap_cons]
    | false => rw [List.filter_cons_of_neg (by simp [hp]), ha hp, List.nil_append]

/-! ### Import statements of a tree -/

namespace Node

/-- The import statements of a tree in pre-order, each with the function that it stands in, where `outer`
is the function that the tree stands in. -/
def importsIn (outer : Option String) (n : Node) : List (Option String × Node) :=
  (if n.kind.isImport then [(n.functionName?.or outer, n)] else []) ++
    n.children.attach.flatMap fun c => c.1.importsIn (n.functionName?.or outer)
termination_by sizeOf n
decreasing_by exact sizeOf_lt_of_mem_children c.2

variable {outer : Option String}

theorem importsIn_eq (outer : Option String) (n : Node) :
    n.importsIn outer = (if n.kind.isImport then [(n.functionName?.or outer, n)] else []) ++
      n.children.flatMap (importsIn (n.functionName?.or outer)) := by
  rw [importsIn]
  congr 1
  simp [List.flatMap]

/-- A node that is neither an import statement nor a function passes on what is below it. -/
theorem importsIn_of_kind {n : Node} (hkind : n.kind.isImport = false) (hname : n.functionName? = none) :
    n.importsIn outer = n.children.flatMap (importsIn outer) := by
  rw [importsIn_eq, hname, hkind]
  rfl

theorem Importless.importsIn_eq_nil {n : Node} (h : n.Importless) (outer : Option String) :
    n.importsIn outer = [] := by
  rw [importsIn_eq, h n n.mem_descendants_self]
  exact List.flatMap_eq_nil_iff.mpr fun c hc => (h.children c hc).importsIn_eq_nil _
termination_by sizeOf n
decreasing_by exact sizeOf_lt_of_mem_children hc

theorem AllImportless.flatMap_importsIn {ns : List Node} (h : AllImportless ns) :
    ns.flatMap (importsIn outer) = [] :=
  List.flatMap_eq_nil_iff.mpr fun n hn => (h n hn).importsIn_eq_nil outer

/-- The node of a branch passes on what is in its statements and in what comes after it. -/
theorem importsIn_conditional {loc : Location} {test : Node} {body orelse : List Node} (htest : test.Importless) :
    importsIn outer ⟨loc, .conditional test body orelse⟩ =
      body.flatMap (importsIn outer) ++ orelse.flatMap (importsIn outer) := by
  rw [importsIn_of_kind rfl rfl]
  show (test :: (body ++ orelse)).flatMap _ = _
  rw [List.flatMap_cons, htest.importsIn_eq_nil, List.nil_append, List.flatMap_append]

end Node

namespace Tree

/-- The name of the function that a tree defines. -/
def functionName? (t : Tree) : Option String :=
  if t.is .functionDefinition then some (((t.part? .name).map text).getD "") else none

mutual

/-- The import statements inside a tree, each with the function that it stands in, where `outer` is the
function that the tree stands in. -/
def importsIn (outer : Option String) : Tree → List (Option String × Tree)
  | leaf label role lexeme => if label.isImport then [(outer, leaf label role lexeme)] else []
  | node label role children =>
    (if label.isImport then [(outer, node label role children)] else []) ++
      importsInAll ((functionName? (node label role children)).or outer) children

/-- The import statements inside some trees. -/
def importsInAll (outer : Option String) : List Tree → List (Option String × Tree)
  | [] => []
  | t :: ts => importsIn outer t ++ importsInAll outer ts

end

variable {outer : Option String} {t c : Tree}

theorem importsInAll_eq_flatMap (outer : Option String) (ts : List Tree) :
    importsInAll outer ts = ts.flatMap (importsIn outer) := by
  induction ts with
  | nil => rfl
  | cons t ts ih => rw [importsInAll, ih, List.flatMap_cons]

theorem importsIn_eq (outer : Option String) (t : Tree) :
    t.importsIn outer = (if t.label.isImport then [(outer, t)] else []) ++
      t.children.flatMap (importsIn (t.functionName?.or outer)) := by
  cases t with
  | leaf label role lexeme => exact (List.append_nil _).symm
  | node label role children => rw [importsIn, importsInAll_eq_flatMap]; rfl

/-- The import statements inside a tree are those among all trees inside it. -/
theorem map_snd_importsIn (outer : Option String) (t : Tree) :
    (t.importsIn outer).map Prod.snd = t.subtrees.filter fun s => s.label.isImport := by
  induction t using induct generalizing outer with
  | step t ih =>
    rw [importsIn_eq, subtrees_eq, List.map_append, List.map_flatMap, List.filter_cons, List.filter_flatMap,
      List.flatMap_congr fun c hc => ih c hc _]
    split <;> rfl

theorem Importless.importsIn_eq_nil (h : t.Importless) : t.importsIn outer = [] := by
  refine List.map_eq_nil_iff.mp ((map_snd_importsIn outer t).trans (List.filter_eq_nil_iff.mpr ?_))
  intro s hs
  rw [Label.isImport_eq_false (h s hs)]
  exact Bool.false_ne_true

/-- A construct that is neither an import statement nor a function passes on what is in its parts. -/
theorem importsIn_of_label {p : Phrase} (hlabel : t.label = .phrase p) (himport : p.isImport = false)
    (hfunction : p ≠ .functionDefinition) : t.importsIn outer = t.children.flatMap (importsIn outer) := by
  have hname : t.functionName? = none := by
    rw [functionName?, is, hlabel, if_neg]
    exact fun h => hfunction (Label.phrase.inj (eq_of_beq h))
  have hlabels : t.label.isImport = false := by
    rw [hlabel]
    exact himport
  rw [importsIn_eq, hname, hlabels]
  rfl

end Tree

/-! ### Parts in which import statements stand -/

namespace Allowed

/-- Whether no import statement can be inside what may stand at a place. -/
def isImportless (a : Allowed) : Bool :=
  a.labels.any (fun labels => labels.all fun label => !label.mayImport) ||
    a.role.any fun role => role.any fun r => !r.mayImport

theorem mayImport_eq_false_of_admits {a : Allowed} (h : a.isImportless) {t : Tree} (ht : a.admits t) :
    t.label.mayImport = false ∨ ∃ r, t.role = some r ∧ r.mayImport = false := by
  obtain ⟨labels, role⟩ := a
  obtain ⟨hlabel, hrole⟩ := Bool.and_eq_true_iff.mp ht
  rcases Bool.or_eq_true_iff.mp h with h | h
  · cases labels with
    | none => cases h
    | some labels =>
      have hnone := List.all_eq_true.mp h t.label (List.contains_iff_mem.mp hlabel)
      exact .inl (Bool.not_eq_true' _ ▸ hnone)
  · cases role with
    | none => cases h
    | some role =>
      cases role with
      | none => cases h
      | some r => exact .inr ⟨r, eq_of_beq hrole, Bool.not_eq_true' _ ▸ h⟩

end Allowed

/-- Whether a key asks for all that may stand at a place. -/
def Key.takes : Key → Allowed → Bool
  | role r, a => a.role == some (some r)
  | phrases ps, a => a.labels.any fun labels => labels.all fun label => ps.any fun p => label == .phrase p

theorem Key.picks_of_takes {key : Key} {a : Allowed} (h : key.takes a) {t : Tree} (ht : a.admits t) :
    key.picks t := by
  obtain ⟨labels, role⟩ := a
  obtain ⟨hlabel, hrole⟩ := Bool.and_eq_true_iff.mp ht
  cases key with
  | role r =>
    obtain rfl : role = some (some r) := eq_of_beq h
    exact hrole
  | phrases ps =>
    cases labels with
    | none => cases h
    | some labels => exact List.all_eq_true.mp h t.label (List.contains_iff_mem.mp hlabel)

/-- Whether no import statement can be inside a part that no key asks for. -/
def Slot.spares (keys : List Key) (slots : List Slot) : Bool :=
  slots.all fun slot => slot.allowed.all fun a => a.isImportless || keys.any fun key => key.takes a

/-- Whether all parts with a role are some constructs. -/
def Slot.gives (r : Role) (ps : List Phrase) (slots : List Slot) : Bool :=
  slots.all fun slot => slot.allowed.all fun a =>
    !a.mayHave r || a.within ⟨some (ps.map Label.phrase), none⟩

theorem Follows.exists_is {slots : List Slot} {ts : List Tree} {r : Role} {ps : List Phrase} {c : Tree}
    (h : Follows slots (marked ts)) (hgives : Slot.gives r ps slots) (hc : c ∈ ts)
    (hrole : c.role == some r) : ∃ q ∈ ps, c.is q := by
  obtain ⟨slot, hslot, hadmitted⟩ := h.exists_of_mem (List.mem_filter.mpr ⟨hc, Tree.isMarked_of_role hrole⟩)
  obtain ⟨a, ha, hac⟩ := List.any_eq_true.mp hadmitted
  have hwithin := List.all_eq_true.mp (List.all_eq_true.mp hgives slot hslot) a ha
  rw [Allowed.mayHave_of_admits hac hrole] at hwithin
  exact exists_is_of_contains (Bool.and_eq_true_iff.mp (Allowed.admits_of_within hwithin hac)).1

/-- Whether at most one part has a role, and is one of some constructs. -/
def Slot.only (r : Role) (ps : List Phrase) (slots : List Slot) : Bool :=
  Slot.once (Allowed.mayHave r) slots && Slot.gives r ps slots

namespace Tree

variable {outer : Option String} {t c : Tree} {p : Phrase} {slots : List Slot} {keys : List Key}

/-- A part that a key asks for is the only one if the layout says so. -/
theorem Complete.filter_picks_of_once (h : t.Complete) (hlabel : t.label = .phrase p)
    (hlayout : p.layout? = some slots) {key : Key} (honce : Slot.once key.mayPick slots) (hc : c ∈ t.children)
    (hpicks : key.picks c) : t.children.filter key.picks = [c] := by
  have hfollows := h.layout (by rw [hlabel]; exact hlayout)
  rw [← filter_marked fun c hc => Key.isMarked_of_picks hc]
  exact hfollows.filter_of_once key.mayPick_of_admits honce
    (List.mem_filter.mpr ⟨hc, Key.isMarked_of_picks hpicks⟩) hpicks

/-- A part with a role is missing, or it is the only one and one of some constructs. -/
theorem Complete.partsWith_of_only (h : t.Complete) (hlabel : t.label = .phrase p)
    (hlayout : p.layout? = some slots) (r : Role) (ps : List Phrase) (honly : Slot.only r ps slots) :
    (t.part? r = none ∧ t.partsWith r = []) ∨
      ∃ c ∈ t.children, t.part? r = some c ∧ t.partsWith r = [c] ∧ ∃ q ∈ ps, c.is q := by
  obtain ⟨honce, hgives⟩ := Bool.and_eq_true_iff.mp honly
  cases hpart : t.part? r with
  | none =>
    refine .inl ⟨rfl, List.filter_eq_nil_iff.mpr fun c hc hrole => ?_⟩
    exact List.find?_eq_none.mp hpart c hc hrole
  | some c =>
    have hc : c ∈ t.children := List.mem_of_find?_eq_some hpart
    rw [part?] at hpart
    have hrole := List.find?_some hpart
    have hfollows := h.layout (by rw [hlabel]; exact hlayout)
    have hparts : t.children.filter (Key.role r).picks = [c] :=
      h.filter_picks_of_once hlabel hlayout honce hc hrole
    exact .inr ⟨c, hc, rfl, hparts, hfollows.exists_is hgives hc hrole⟩

/-- Only the last one of the branches of an `if` can be an `else`. -/
theorem Complete.exists_branches (h : t.Complete) (hlabel : t.label = .phrase .ifStatement) :
    ∃ clauses rest, t.partsWith .alternative = clauses ++ rest ∧ (∀ c ∈ clauses, c.is .elifClause) ∧
      (rest = [] ∨ ∃ c, rest = [c] ∧ c.is .elseClause) := by
  have hfollows := h.layout (by rw [hlabel]; rfl)
  obtain ⟨a, _, hmarked, ha, b, _, rfl, hb, clauses, rest, rfl, hclauses, hrest⟩ := hfollows
  have hlast : (∀ c ∈ rest, c.role = some .alternative) ∧ (rest = [] ∨ ∃ c, rest = [c] ∧ c.is .elseClause) := by
    rcases hrest with rfl | ⟨c, _, rfl, hc, rfl⟩
    · exact ⟨fun _ hc => absurd hc List.not_mem_nil, .inl rfl⟩
    · obtain ⟨helse, hrole⟩ := is_of_admittedAs hc
      exact ⟨List.forall_mem_singleton.mpr hrole, .inr ⟨c, rfl, helse⟩⟩
  refine ⟨clauses, rest, ?_, fun c hc => (is_of_admittedAs (hclauses c hc)).1, hlast.2⟩
  rw [partsWith_eq_filter, hmarked, List.filter_cons_of_neg (by simp [admitted_having.mp ha]),
    List.filter_cons_of_neg (by simp [(is_of_admittedAs hb).2])]
  refine List.filter_eq_self.mpr fun c hc => beq_iff_eq.mpr ?_
  rcases List.mem_append.mp hc with hc | hc
  · exact (is_of_admittedAs (hclauses c hc)).2
  · exact hlast.1 c hc

/-- There is no import statement in a part that no key asks for if the layout says so. -/
theorem Grows.importless_of_spares (h : t.Everywhere Grows) (hlabel : t.label = .phrase p)
    (hlayout : p.layout? = some slots) (hspares : Slot.spares keys slots) (hc : c ∈ t.children)
    (hpicks : (keys.any fun key => key.picks c) = false) : c.Importless := by
  have hgrows := (h.child hc).self
  by_cases hmarked : c.isMarked
  · have hfollows := h.self.complete.layout (by rw [hlabel]; exact hlayout)
    obtain ⟨slot, hslot, hadmitted⟩ := hfollows.exists_of_mem (List.mem_filter.mpr ⟨hc, hmarked⟩)
    obtain ⟨a, ha, hac⟩ := List.any_eq_true.mp hadmitted
    rcases Bool.or_eq_true_iff.mp (List.all_eq_true.mp (List.all_eq_true.mp hspares slot hslot) a ha) with
      hnone | htaken
    · rcases Allowed.mayImport_eq_false_of_admits hnone hac with hnone | ⟨r, hrole, hnone⟩
      · exact hgrows.importless hnone
      · exact h.self.importless_of_role hc hrole hnone
    · obtain ⟨key, hkey, htakes⟩ := List.any_eq_true.mp htaken
      exact absurd (Key.picks_of_takes htakes hac) (List.any_eq_false.mp hpicks key hkey)
  · refine hgrows.importless ?_
    cases hc : c.label with
    | token terminal => rfl
    | phrase q => exact absurd (isMarked_of_isPart (by rw [hc]; rfl)) hmarked

/-- The import statements of a construct stand in the parts that some keys ask for, one key after the
other, if the layout says so. -/
theorem Grows.flatMap_importsIn (h : t.Everywhere Grows) (hlabel : t.label = .phrase p)
    (hlayout : p.layout? = some slots) (keys : List Key) (hspares : Slot.spares keys slots)
    (hsorts : Slot.sorts keys slots) :
    t.children.flatMap (importsIn outer) =
      keys.flatMap fun key => (t.children.filter key.picks).flatMap (importsIn outer) := by
  rw [← List.flatMap_assoc, h.self.complete.flatMap_filter_picks hlabel hlayout hsorts]
  exact (flatMap_filter_eq fun c hc hpicks =>
    (Grows.importless_of_spares h hlabel hlayout hspares hc hpicks).importsIn_eq_nil).symm

end Tree

/-! ### Handlers

What a handler of a group catches is not told by its layout, so the productions are asked. -/

namespace Grammar

/-- Whether import statements can stand in the block of what a production makes only, if it makes a
handler. -/
def Production.keepsToBlock (p : Production) : Bool :=
  match p.head with
  | .phrase q => !q.appearances.any Label.isHandler ||
      p.steps.toList.all fun s => !s.mayImport || s.label? = some (.phrase .block)
  | _ => true

theorem keepsToBlock_productions : allProductions.all Production.keepsToBlock = true :=
  all_productions (by decide +kernel)

end Grammar

/-- There is no import statement in what a handler catches. -/
theorem Tree.Grows.importless_of_handler {t c : Tree} (h : t.Grows) (ht : t.label.isHandler)
    (hc : c ∈ t.children) (hblock : c.is .block = false) : c.Importless := by
  cases h with
  | leaf known role lexeme => cases hc
  | @node p parts q label derives head appears role =>
    have hkeeps := List.all_eq_true.mp keepsToBlock_productions p derives.known
    have hhandler : q.appearances.any Label.isHandler := List.any_eq_true.mpr ⟨label, appears, ht⟩
    simp only [Production.keepsToBlock, head, hhandler, Bool.not_true, Bool.false_or] at hkeeps
    have hall : ∀ c ∈ (Fragment.ofProduction p parts).trees, c.is .block = false → c.Importless := by
      refine derives.forall_trees (fun c hc _ => hc.importless) fun f _ hderived s hs hsymbol c hc hblock => ?_
      rcases Bool.or_eq_true_iff.mp (List.all_eq_true.mp hkeeps s hs) with hnone | hlabel
      · rw [Bool.not_eq_true'] at hnone
        refine Fragment.importless_shown hsymbol (derives.filled.isProper hs) hnone (hderived.importless ?_) c hc
        rw [hsymbol]
        exact (Bool.or_eq_false_iff.mp hnone).1
      · obtain ⟨b, hshown, hb, -⟩ := hderived.laidOut.exists_shown_of_label? hsymbol (of_decide_eq_true hlabel)
        rw [hshown, List.mem_singleton] at hc
        rw [hc, is, label_assign, hb] at hblock
        cases hblock
    exact hall c hc hblock

/-! ### Readings -/

open Node

namespace Tree

variable {outer : Option String} {t c : Tree} {p : Phrase} {r : Role} {slots : List Slot}

/-- An import statement with the function that it stands in, and with its node in its place. -/
def stated (x : Option String × Tree) : Option String × Node := (x.1, x.2.read.stmt)

/-- A tree that has the import statements inside it among its nodes, in order. -/
def Gathers (t : Tree) : Prop :=
  ∀ outer, t.read.nodes.flatMap (Node.importsIn outer) = (t.importsIn outer).map stated

/-- The nodes of the import statements in the parts that a key asks for. -/
def importsAt (outer : Option String) (t : Tree) (key : Key) : List (Option String × Node) :=
  ((t.children.filter key.picks).flatMap (importsIn outer)).map stated

theorem importless_of_token {terminal : Terminal} (hlabel : t.label = .token terminal) :
    AllImportless t.read.nodes := by
  have hexpr : t.read.expr.Importless := by
    rw [expr_read, Reading.expression, hlabel]
    exact Spared.token t terminal
  exact fun n hn => AllImportless.single hexpr n ((nodes_read_sublist hlabel).subset hn)

/-- What the parts of a construct contribute has the import statements inside them. -/
theorem flatMap_contents (h : ∀ c ∈ t.children, c.Gathers) :
    (Reading.contents (t.children.map read)).flatMap (Node.importsIn outer) =
      (t.children.flatMap (importsIn outer)).map stated := by
  rw [Reading.contents, named_read, List.flatMap_map, List.flatMap_assoc, List.map_flatMap]
  refine (List.flatMap_congr fun c hc => h c (List.mem_of_mem_filter hc) outer).trans
    (flatMap_filter_eq fun c hc hnot => ?_)
  cases hlabel : c.label with
  | token terminal =>
    rw [← h c hc outer]
    exact (importless_of_token hlabel).flatMap_importsIn
  | phrase p =>
    rw [isToken, hlabel] at hnot
    cases hnot

/-- The parts that are some constructs are looked for among all parts. -/
theorem filter_named (t : Tree) (ps : List Phrase) {q : Reading → Bool}
    (hq : ∀ c : Tree, q c.read = ps.any c.is) :
    (Reading.named (t.children.map read)).filter q = (t.children.filter (Key.phrases ps).picks).map read := by
  rw [named_read, List.filter_map, Tree.parts, List.filter_filter]
  refine congrArg (List.map read) (List.filter_congr fun c _ => ?_)
  rw [Function.comp_apply, hq, Key.picks]
  cases hany : ps.any c.is with
  | false => rfl
  | true =>
    obtain ⟨p, -, hp⟩ := List.any_eq_true.mp hany
    rw [isToken, label_eq hp]
    rfl

/-- A construct of which the parts have the import statements inside them among their nodes. -/
structure Gathering (t : Tree) : Prop where
  grows : t.Everywhere Grows
  parts : ∀ c ∈ t.children, c.Everywhere Gathers

namespace Gathering

theorem part (h : t.Gathering) (hc : c ∈ t.children) : c.Gathering :=
  ⟨h.grows.child hc, fun _ hd => (h.parts c hc).child hd⟩

theorem contents (h : t.Gathering) (hlabel : t.label = .phrase p) (himport : p.isImport = false)
    (hfunction : p ≠ .functionDefinition) :
    (Reading.contents (t.children.map read)).flatMap (Node.importsIn outer) =
      (t.importsIn outer).map stated := by
  rw [flatMap_contents fun c hc => (h.parts c hc).self, importsIn_of_label hlabel himport hfunction]

theorem block (h : t.Gathering) (ht : t.is .block) :
    (Reading.contents (t.children.map read)).flatMap (Node.importsIn outer) =
      (t.importsIn outer).map stated :=
  h.contents (label_eq ht) rfl (by decide)

theorem other (h : t.Gathering) (hlabel : t.label = .phrase p) (himport : p.isImport = false)
    (hfunction : p ≠ .functionDefinition) :
    (Reading.other t (t.children.map read)).importsIn outer = (t.importsIn outer).map stated := by
  rw [importsIn_of_kind rfl rfl]
  exact h.contents hlabel himport hfunction

/-- The statements of a block that is found by its role. -/
theorem blockOf (h : t.Gathering) (hlabel : t.label = .phrase p) (hlayout : p.layout? = some slots)
    (honly : Slot.only r [.block] slots) :
    (Reading.blockOf (t.children.map read) r).flatMap (Node.importsIn outer) =
      t.importsAt outer (.role r) := by
  rw [Reading.blockOf, find?_read, importsAt]
  rcases h.grows.self.complete.partsWith_of_only hlabel hlayout r [.block] honly with ⟨hpart, hparts⟩ |
    ⟨c, hc, hpart, hparts, q, hq, hblock⟩
  · rw [hpart, show t.children.filter (Key.role r).picks = [] from hparts]
    rfl
  · rw [hpart, show t.children.filter (Key.role r).picks = [c] from hparts, List.flatMap_singleton]
    show (Reading.contents c.read.children).flatMap _ = _
    rw [children_read]
    rw [List.mem_singleton.mp hq] at hblock
    exact (h.part hc).block hblock

/-- The statements of a clause whose block has no role. -/
theorem clauseBody_of_block (h : t.Gathering) (hbody : Reading.find? (t.children.map read) .body = none) :
    (Reading.clauseBody t.read).flatMap (Node.importsIn outer) = t.importsAt outer (.phrases [.block]) := by
  rw [Reading.clauseBody, children_read, hbody]
  dsimp only
  rw [t.filter_named [.block] fun c => by simp, List.flatMap_map, List.flatMap_assoc, importsAt,
    List.map_flatMap]
  refine List.flatMap_congr fun c hc => ?_
  obtain ⟨hc, hblock⟩ := List.mem_filter.mp hc
  rw [children_read]
  exact (h.part hc).block ((Bool.or_false _).symm.trans hblock)

/-- The import statements of a construct, taken from the parts that some keys ask for. -/
theorem importsIn_eq_of_keys (h : t.Gathering) (hlabel : t.label = .phrase p) (hlayout : p.layout? = some slots)
    (himport : p.isImport = false) (hfunction : p ≠ .functionDefinition) (keys : List Key)
    (hspares : Slot.spares keys slots) (hsorts : Slot.sorts keys slots) :
    (t.importsIn outer).map stated = keys.flatMap (t.importsAt outer) := by
  rw [importsIn_of_label hlabel himport hfunction, Grows.flatMap_importsIn h.grows hlabel hlayout keys hspares hsorts,
    List.map_flatMap]
  rfl

theorem clauseBody_elseClause (h : t.Gathering) (ht : t.is .elseClause) :
    (Reading.clauseBody t.read).flatMap (Node.importsIn outer) = (t.importsIn outer).map stated := by
  have hlabel := label_eq ht
  obtain ⟨c, -, hfind⟩ := h.grows.self.complete.exists_find? hlabel rfl (r := .body) rfl
  have hbody : Reading.clauseBody t.read = Reading.blockOf (t.children.map read) .body := by
    rw [Reading.clauseBody, Reading.blockOf, children_read, hfind]
  rw [hbody, h.blockOf hlabel rfl rfl, h.importsIn_eq_of_keys hlabel rfl rfl (by decide) [.role .body] rfl rfl,
    List.flatMap_singleton]

theorem clauseBody_finallyClause (h : t.Gathering) (ht : t.is .finallyClause) :
    (Reading.clauseBody t.read).flatMap (Node.importsIn outer) = (t.importsIn outer).map stated := by
  have hlabel := label_eq ht
  rw [h.clauseBody_of_block (h.grows.self.complete.find?_eq_none hlabel rfl rfl),
    h.importsIn_eq_of_keys hlabel rfl rfl (by decide) [.phrases [.block]] rfl rfl, List.flatMap_singleton]

/-- What a handler catches has no import statements among its nodes. -/
theorem caught (h : t.Gathering) (ht : t.label.isHandler) :
    AllImportless (Reading.caught ((Reading.named (t.children.map read)).filter fun c => !c.is .block)).1.toList := by
  intro n hn
  obtain ⟨c, hc, hblock, horigin⟩ := exists_of_mem_caught hn
  have hreads := (h.grows.self.importless_of_handler ht hc hblock).reads
  rcases horigin with rfl | ⟨d, hd, rfl⟩
  · exact hreads.self.expr
  · exact (hreads.child hd).self.expr

theorem handler (h : t.Gathering) (ht : t.label.isHandler) :
    (Reading.handler t.read).importsIn outer = (t.importsIn outer).map stated := by
  have hbody : Reading.find? (t.children.map read) .body = none ∧
      t.importsIn outer = t.children.flatMap (importsIn outer) := by
    rcases Passes.isHandler_cases ht with hlabel | hlabel
    · exact ⟨h.grows.self.complete.find?_eq_none hlabel rfl rfl, importsIn_of_label hlabel rfl (by decide)⟩
    · exact ⟨h.grows.self.complete.find?_eq_none hlabel rfl rfl, importsIn_of_label hlabel rfl (by decide)⟩
  have hblocks : (t.children.filter (Key.phrases [.block]).picks).flatMap (importsIn outer) =
      t.children.flatMap (importsIn outer) := by
    refine flatMap_filter_eq fun c hc hpicks => ?_
    exact (h.grows.self.importless_of_handler ht hc (Bool.or_eq_false_iff.mp hpicks).1).importsIn_eq_nil
  rw [importsIn_of_kind rfl rfl, Passes.children_handler, List.flatMap_append, children_read,
    (h.caught ht).flatMap_importsIn, List.nil_append, h.clauseBody_of_block hbody.1, importsAt, hblocks, hbody.2]

/-- The part with a role for which there are no import statements. -/
theorem exprOf (h : t.Gathering) (hr : r.mayImport = false) :
    (Reading.exprOf t (Reading.find? (t.children.map read) r)).Importless := by
  cases hfind : Reading.find? (t.children.map read) r with
  | none => exact .of_children rfl .nil
  | some x =>
    obtain ⟨c, hc, hrole, rfl⟩ := exists_of_find? hfind
    exact (h.grows.self.importless_of_role hc hrole hr).reads.self.expr

theorem stmt_function (h : t.Gathering) (hlabel : t.label = .phrase .functionDefinition) :
    (Reading.function t (t.children.map read)).importsIn outer = (t.importsIn outer).map stated := by
  have hname : (Reading.function t (t.children.map read)).functionName? = t.functionName? := by
    have hfunction : t.is .functionDefinition := beq_iff_eq.mpr hlabel
    rw [Tree.functionName?, if_pos hfunction]
    show some (Reading.textOf (t.children.map read) .name) = _
    simp only [Reading.textOf, find?_read, Option.map_map, Function.comp_def, Reading.text, tree_read]
  have himport : t.label.isImport = false := by
    rw [hlabel]
    rfl
  rw [Node.importsIn_eq, Tree.importsIn_eq, hname, himport,
    Grows.flatMap_importsIn h.grows hlabel rfl [.role .body] rfl rfl, List.flatMap_singleton]
  exact h.blockOf hlabel rfl rfl

/-- The decorators of a definition have no import statements among their nodes. -/
theorem decorators (h : t.Gathering) : AllImportless (Passes.decorators (t.children.map read)) := by
  intro n hn
  obtain ⟨x, hx, hn⟩ := List.mem_filterMap.mp hn
  obtain ⟨hx, hdecorator⟩ := List.mem_filter.mp hx
  obtain ⟨c, hc, rfl⟩ := exists_of_mem_named hx
  rw [is_read] at hdecorator
  have hreads := ((h.grows.child hc).self.importless (by rw [label_eq hdecorator]; rfl)).reads
  rw [children_read] at hn
  exact Spared.expr_head? (fun _ hd => hreads.child hd) n (Option.mem_toList.mpr hn)

/-- A function has the same import statements with and without decorators. -/
theorem importsIn_decorate {ds : List Node} (hds : AllImportless ds) (t : Tree) (cs : List Reading) :
    (Reading.decorate ds (Reading.function t cs)).importsIn outer = (Reading.function t cs).importsIn outer := by
  rw [Node.importsIn_eq, Node.importsIn_eq outer (Reading.function t cs)]
  show _ ++ (ds ++ Reading.blockOf cs .body).flatMap _ = _
  rw [List.flatMap_append, hds.flatMap_importsIn]
  rfl

theorem stmt_decorated (h : t.Gathering) (hlabel : t.label = .phrase .decoratedDefinition) :
    (Reading.decorated t (t.children.map read)).importsIn outer = (t.importsIn outer).map stated := by
  rw [Reading.decorated, find?_read]
  rcases h.grows.self.complete.partsWith_of_only hlabel rfl .definition
    [.classDefinition, .functionDefinition] rfl with ⟨hpart, hparts⟩ | ⟨c, hc, hpart, hparts, -⟩
  · rw [hpart]
    exact h.other hlabel rfl (by decide)
  · rw [h.importsIn_eq_of_keys hlabel rfl rfl (by decide) [.role .definition] rfl rfl, List.flatMap_singleton,
      importsAt, show t.children.filter (Key.role .definition).picks = [c] from hparts, List.flatMap_singleton,
      ← (h.parts c hc).self outer, hpart]
    dsimp only [Option.map_some]
    rw [is_read]
    split
    · rename_i hfunction
      have hstmt := Passes.stmt_read (label_eq hfunction)
      have hnodes : c.read.nodes = [c.read.stmt] := by
        rw [nodes_read (label_eq hfunction)]
        rfl
      rw [hnodes, List.flatMap_singleton, hstmt]
      exact importsIn_decorate h.decorators c _
    · rw [importsIn_of_kind rfl rfl]
      show (Passes.decorators (t.children.map read) ++ _).flatMap _ = _
      rw [List.flatMap_append, h.decorators.flatMap_importsIn, List.nil_append]

/-- The import statements of the branches of an `if`, of which only the last one can be an `else`. -/
theorem flatMap_alternatives {clauses rest : List Tree} (h : ∀ c ∈ clauses ++ rest, c.Gathering)
    (hclauses : ∀ c ∈ clauses, c.is .elifClause) (hrest : rest = [] ∨ ∃ c, rest = [c] ∧ c.is .elseClause) :
    (((clauses ++ rest).map read).foldr Reading.alternative []).flatMap (Node.importsIn outer) =
      ((clauses ++ rest).flatMap (importsIn outer)).map stated := by
  induction clauses with
  | nil =>
    rcases hrest with rfl | ⟨c, rfl, helse⟩
    · rfl
    · show (Reading.alternative c.read []).flatMap _ = _
      rw [Reading.alternative, is_read, if_pos helse, List.nil_append, List.flatMap_singleton]
      exact (h c (by simp)).clauseBody_elseClause helse
  | cons c clauses ih =>
    obtain ⟨hc, h⟩ := List.forall_mem_cons.mp h
    obtain ⟨helif, hclauses⟩ := List.forall_mem_cons.mp hclauses
    have hlabel := label_eq helif
    have helse : ¬ c.is .elseClause := by
      rw [is, hlabel]
      decide
    have hhere : (c.importsIn outer).map stated = _ :=
      hc.importsIn_eq_of_keys hlabel rfl rfl (by decide) [.role .consequence] rfl rfl
    rw [List.cons_append, List.flatMap_cons, List.map_append, ← ih h hclauses, hhere, List.flatMap_singleton,
      ← hc.blockOf hlabel rfl rfl, List.map_cons, List.foldr_cons, Reading.alternative, is_read, is_read,
      if_neg helse, if_pos helif, List.flatMap_singleton, tree_read, children_read,
      importsIn_conditional (hc.exprOf rfl)]

theorem stmt_conditional (h : t.Gathering) (hlabel : t.label = .phrase .ifStatement) :
    (Reading.conditional t (t.children.map read)).importsIn outer = (t.importsIn outer).map stated := by
  obtain ⟨clauses, rest, hparts, hclauses, hrest⟩ := h.grows.self.complete.exists_branches hlabel
  have hbranches : ((Reading.findAll (t.children.map read) .alternative).foldr Reading.alternative []).flatMap
      (Node.importsIn outer) = t.importsAt outer (.role .alternative) := by
    rw [findAll_read, importsAt, show t.children.filter (Key.role .alternative).picks = _ from hparts, hparts]
    refine flatMap_alternatives (fun c hc => h.part ?_) hclauses hrest
    rw [← hparts] at hc
    exact List.mem_of_mem_filter hc
  rw [Reading.conditional, importsIn_conditional (h.exprOf rfl), hbranches, h.blockOf hlabel rfl rfl,
    h.importsIn_eq_of_keys hlabel rfl rfl (by decide) [.role .consequence, .role .alternative] rfl rfl,
    List.flatMap_cons, List.flatMap_singleton]

theorem loopElse (h : t.Gathering) (hlabel : t.label = .phrase p) (hlayout : p.layout? = some slots)
    (honly : Slot.only .alternative [.elseClause] slots) :
    (Reading.loopElse (t.children.map read)).flatMap (Node.importsIn outer) =
      t.importsAt outer (.role .alternative) := by
  rw [Reading.loopElse, find?_read, importsAt]
  rcases h.grows.self.complete.partsWith_of_only hlabel hlayout .alternative [.elseClause] honly with
    ⟨hpart, hparts⟩ | ⟨c, hc, hpart, hparts, q, hq, helse⟩
  · rw [hpart, show t.children.filter (Key.role .alternative).picks = [] from hparts]
    rfl
  · rw [hpart, show t.children.filter (Key.role .alternative).picks = [c] from hparts, List.flatMap_singleton]
    rw [List.mem_singleton.mp hq] at helse
    exact (h.part hc).clauseBody_elseClause helse

/-- The statements of the only clause of a kind. -/
theorem lastClause (h : t.Gathering) (hlabel : t.label = .phrase p) (hlayout : p.layout? = some slots)
    {q : Phrase} (honce : Slot.once (Key.phrases [q]).mayPick slots)
    (hclause : ∀ c ∈ t.children, c.is q →
      (Reading.clauseBody c.read).flatMap (Node.importsIn outer) = (c.importsIn outer).map stated) :
    (Reading.lastClause (t.children.map read) q).flatMap (Node.importsIn outer) =
      t.importsAt outer (.phrases [q]) := by
  rw [Reading.lastClause, t.filter_named [q] fun c => by simp, importsAt]
  cases hpicked : t.children.filter (Key.phrases [q]).picks with
  | nil => rfl
  | cons c rest =>
    obtain ⟨hc, hpicks⟩ := List.mem_filter.mp (hpicked ▸ List.mem_cons_self)
    have hsingle := h.grows.self.complete.filter_picks_of_once hlabel hlayout honce hc hpicks
    rw [← hpicked, hsingle, List.flatMap_singleton]
    exact hclause c hc ((Bool.or_false _).symm.trans hpicks)

theorem stmt_tryBlock (h : t.Gathering) (hlabel : t.label = .phrase .tryStatement) :
    (Reading.tryBlock t (t.children.map read)).importsIn outer = (t.importsIn outer).map stated := by
  have hhandlers : (((Reading.named (t.children.map read)).filter fun c =>
      c.is .exceptClause || c.is .exceptGroupClause).map Reading.handler).flatMap (Node.importsIn outer) =
      t.importsAt outer (.phrases [.exceptClause, .exceptGroupClause]) := by
    rw [t.filter_named [.exceptClause, .exceptGroupClause] fun c => by simp, List.map_map, List.flatMap_map,
      importsAt, List.map_flatMap]
    refine List.flatMap_congr fun c hc => ?_
    obtain ⟨hc, hpicks⟩ := List.mem_filter.mp hc
    obtain ⟨q, hq, hclause⟩ := List.any_eq_true.mp hpicks
    refine (h.part hc).handler ?_
    rw [label_eq hclause]
    rcases List.mem_pair.mp hq with rfl | rfl
    · rfl
    · rfl
  have helse : (Reading.lastClause (t.children.map read) .elseClause).flatMap (Node.importsIn outer) = _ :=
    h.lastClause hlabel rfl rfl fun c hc hclause => (h.part hc).clauseBody_elseClause hclause
  have hfinally : (Reading.lastClause (t.children.map read) .finallyClause).flatMap (Node.importsIn outer) = _ :=
    h.lastClause hlabel rfl rfl fun c hc hclause => (h.part hc).clauseBody_finallyClause hclause
  rw [importsIn_of_kind rfl rfl, h.importsIn_eq_of_keys hlabel rfl rfl (by decide) [.role .body,
    .phrases [.exceptClause, .exceptGroupClause], .phrases [.elseClause], .phrases [.finallyClause]] rfl rfl]
  show (Reading.blockOf _ _ ++ (_ ++ (Reading.lastClause _ _ ++ Reading.lastClause _ _))).flatMap _ = _
  simp only [List.flatMap_append, List.flatMap_cons, List.flatMap_nil, List.append_nil]
  rw [h.blockOf hlabel rfl rfl, hhandlers, helse, hfinally]

/-- A loop has import statements in its statements and in those after it. -/
theorem stmt_loop (h : t.Gathering) (hlabel : t.label = .phrase p) (hlayout : p.layout? = some slots)
    (hplain : (p.isImport || p == .functionDefinition) = false)
    (hspares : Slot.spares [.role .body, .role .alternative] slots)
    (hsorts : Slot.sorts [.role .body, .role .alternative] slots)
    (honly : Slot.only .body [.block] slots && Slot.only .alternative [.elseClause] slots) {n : Node}
    (hnode : (n.kind.isImport || n.functionName?.isSome) = false) {heads : List Node} (hheads : AllImportless heads)
    (hchildren : n.children =
      heads ++ (Reading.blockOf (t.children.map read) .body ++ Reading.loopElse (t.children.map read))) :
    n.importsIn outer = (t.importsIn outer).map stated := by
  obtain ⟨himport, hfunction⟩ := Bool.or_eq_false_iff.mp hplain
  obtain ⟨hkind, hname⟩ := Bool.or_eq_false_iff.mp hnode
  obtain ⟨hbody, helse⟩ := Bool.and_eq_true_iff.mp honly
  rw [importsIn_of_kind hkind (Option.isSome_eq_false_iff.mp hname |> Option.isNone_iff_eq_none.mp), hchildren,
    List.flatMap_append, hheads.flatMap_importsIn, List.nil_append, List.flatMap_append,
    h.blockOf hlabel hlayout hbody, h.loopElse hlabel hlayout helse,
    h.importsIn_eq_of_keys hlabel hlayout himport (beq_eq_false_iff_ne.mp hfunction) _ hspares hsorts,
    List.flatMap_cons, List.flatMap_singleton]

/-- An import statement is a node of its own, and has none inside it. -/
theorem stmt_import (h : t.Gathering) (hlabel : t.label = .phrase p) (hlayout : p.layout? = some slots)
    (himport : p.isImport) (hspares : Slot.spares [] slots) {n : Node} (hstmt : t.read.stmt = n)
    (hkind : n.kind.isImport) (hname : n.functionName? = none) (hchildren : n.children = []) :
    n.importsIn outer = (t.importsIn outer).map stated := by
  have hinside : t.children.flatMap (importsIn (t.functionName?.or outer)) = [] :=
    Grows.flatMap_importsIn h.grows hlabel hlayout [] hspares rfl
  have hlabels : t.label.isImport := by
    rw [hlabel]
    exact himport
  rw [Node.importsIn_eq, Tree.importsIn_eq, hinside, hname, hchildren, if_pos hkind, if_pos hlabels]
  simp [stated, hstmt]

/-- A construct where import statements can stand has those inside it below its statement. -/
theorem stmt (h : t.Gathering) (hlabel : t.label = .phrase p) (hmay : p.mayImport) :
    t.read.stmt.importsIn outer = (t.importsIn outer).map stated := by
  have hstmt := Passes.stmt_read hlabel
  rw [hstmt]
  cases p with
  | functionDefinition => exact h.stmt_function hlabel
  | decoratedDefinition => exact h.stmt_decorated hlabel
  | ifStatement => exact h.stmt_conditional hlabel
  | forStatement =>
    exact h.stmt_loop hlabel rfl rfl rfl rfl rfl rfl (.cons (h.exprOf rfl) (.single (h.exprOf rfl))) rfl
  | whileStatement => exact h.stmt_loop hlabel rfl rfl rfl rfl rfl rfl (.single (h.exprOf rfl)) rfl
  | tryStatement => exact h.stmt_tryBlock hlabel
  | importStatement | importFromStatement | futureImportStatement =>
    exact h.stmt_import hlabel rfl rfl rfl hstmt rfl rfl rfl
  | _ => first | exact h.other hlabel rfl (by decide) | cases hmay

/-- A construct has the import statements inside it among its nodes if its parts do. -/
theorem gathers (h : t.Gathering) : t.Gathers := by
  intro outer
  cases hmay : t.label.mayImport with
  | false =>
    have himportless := h.grows.self.importless hmay
    rw [himportless.importsIn_eq_nil]
    exact himportless.reads.self.nodes.flatMap_importsIn
  | true =>
    cases hlabel : t.label with
    | token terminal =>
      rw [hlabel] at hmay
      cases hmay
    | phrase p =>
      rw [hlabel] at hmay
      rw [nodes_read hlabel]
      split
      · rename_i hblock
        rcases Bool.or_eq_true_iff.mp hblock with hblock | hblock
        · obtain rfl := of_decide_eq_true hblock
          exact h.contents hlabel rfl (by decide)
        · obtain rfl := of_decide_eq_true hblock
          exact h.contents hlabel rfl (by decide)
      · split
        · rw [List.flatMap_singleton]
          exact h.stmt hlabel hmay
        · rename_i hstatement
          rw [List.flatMap_singleton, expr_read, Reading.expression, hlabel]
          cases p with
          | importStatement | importFromStatement | futureImportStatement | functionDefinition =>
            exact absurd rfl hstatement
          | _ => first | exact h.other hlabel rfl (by decide) | cases hmay

end Gathering

theorem Grows.gathers (h : t.Everywhere Grows) : t.Everywhere Gathers := by
  have hgrows : t.Everywhere (Everywhere Grows) := fun s hs => h.subtree hs
  exact hgrows.of_step fun s hs inside => Gathering.gathers ⟨hs, inside⟩

/-- The module of a text has the import statements of the text, in order and in the same functions. -/
theorem IsModule.importsIn_ofTree (h : t.IsModule) :
    (Node.ofTree t).importsIn none = (t.importsIn none).map stated := by
  rw [importsIn_of_kind rfl rfl, importsIn_of_label h.label rfl (by decide)]
  show (Reading.contents t.read.children).flatMap _ = _
  rw [children_read]
  refine flatMap_contents fun c hc => ?_
  rcases h.grows_or_token c hc with hgrows | ⟨terminal, lexeme, rfl⟩
  · exact (Grows.gathers hgrows).self
  · exact fun outer => (importless_of_token rfl).flatMap_importsIn

end Tree

end CodeAudit
