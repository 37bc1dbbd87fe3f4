import CodeAudit.Proofs.Formed.Basic
import CodeAudit.Proofs.Ordered.Productions
import Mathlib.Data.List.Flatten

/-!
# Nodes in source order

Every node stands where a token stands. Nodes that are made from parts of a construct therefore follow
each other as the parts do, as long as a reading takes the parts in the order in which they are written.
A reading asks for parts by their roles and labels. Whether it asks in the order of the layout can be
checked against the layout, `Slot.sorts`.

The nodes of a region are spread over its tokens if they follow each other and if the same holds for
the children of each node below them. Calls are left out of the account; a predicate `Q` tells what is
to hold of their nodes.
-/

namespace CodeAudit

open Grammar

/-! ### Parts in the order of a layout -/

/-- What a reading asks for: parts with a role, or some kinds of constructs. -/
inductive Key where
  | role (r : Role)
  | phrases (ps : List Phrase)

namespace Key

/-- Whether a tree is asked for. -/
def picks : Key → Tree → Bool
  | role r, t => t.role == some r
  | phrases ps, t => ps.any t.is

/-- Whether a tree that is asked for may stand at a place. -/
def mayPick : Key → Allowed → Bool
  | role r, a => a.mayHave r
  | phrases ps, a => ps.any fun p => a.mayBe (.phrase p)

theorem mayPick_of_admits (key : Key) {a : Allowed} {t : Tree} (ha : a.admits t) (ht : key.picks t) :
    key.mayPick a := by
  cases key with
  | role r => exact Allowed.mayHave_of_admits ha ht
  | phrases ps =>
    obtain ⟨p, hp, ht⟩ := List.any_eq_true.mp ht
    exact List.any_eq_true.mpr ⟨p, hp, Allowed.mayBe_of_admits ha ht⟩

theorem isMarked_of_picks {key : Key} {t : Tree} (ht : key.picks t) : t.isMarked := by
  cases key with
  | role r => exact Tree.isMarked_of_role ht
  | phrases ps =>
    obtain ⟨p, -, ht⟩ := List.any_eq_true.mp ht
    exact Tree.isMarked_of_isPart (by rw [Tree.label_eq ht]; rfl)

end Key

/-- Whether the trees that some keys ask for, one key after the other, stand in this order. What comes
before the first place for a later key is searched for the first key only. -/
def Slot.sorts : List Key → List Slot → Bool
  | [], _ => true
  | key :: keys, slots =>
    let later := slots.dropWhile fun slot => !keys.any fun k => slot.allowed.any k.mayPick
    Slot.never key.mayPick later && Slot.sorts keys later

/-- Keys that ask for trees in the order in which they stand find all that one of them asks for. -/
theorem Follows.flatMap_filter_picks {keys : List Key} {slots : List Slot} {ts : List Tree}
    (h : Follows slots ts) (hsorts : Slot.sorts keys slots) :
    (keys.flatMap fun key => ts.filter key.picks) = ts.filter fun t => keys.any fun key => key.picks t := by
  induction keys generalizing slots ts with
  | nil => exact (List.filter_eq_nil_iff.mpr fun _ _ => Bool.false_ne_true).symm
  | cons key keys ih =>
    obtain ⟨hnever, hsorts⟩ := Bool.and_eq_true_iff.mp hsorts
    rw [← List.takeWhile_append_dropWhile
      (p := fun slot : Slot => !keys.any fun k => slot.allowed.any k.mayPick) (l := slots)] at h
    obtain ⟨front, rest, rfl, hfront, hrest⟩ := h.exists_append
    have hlast : rest.filter key.picks = [] := hrest.filter_of_never key.mayPick_of_admits hnever
    have hfirst : ∀ k ∈ keys, front.filter k.picks = [] := by
      intro k hk
      refine hfront.filter_of_never k.mayPick_of_admits (List.all_eq_true.mpr fun slot hslot => ?_)
      have hnone := List.all_eq_true.mp List.all_takeWhile slot hslot
      rw [Bool.not_eq_true', List.any_eq_false] at hnone
      simpa using hnone k hk
    have hkeys : (keys.flatMap fun k => (front ++ rest).filter k.picks) =
        keys.flatMap fun k => rest.filter k.picks := by
      refine List.flatMap_congr fun k hk => ?_
      rw [List.filter_append, hfirst k hk, List.nil_append]
    rw [List.flatMap_cons, hkeys, ih hrest hsorts, List.filter_append, hlast, List.append_nil, List.filter_append]
    congr 1
    · refine List.filter_congr fun t ht => ?_
      have hnone : (keys.any fun k => k.picks t) = false := List.any_eq_false.mpr fun k hk =>
        List.filter_eq_nil_iff.mp (hfirst k hk) t ht
      rw [List.any_cons, hnone, Bool.or_false]
    · refine List.filter_congr fun t ht => ?_
      rw [List.any_cons, Bool.eq_false_iff.mpr (List.filter_eq_nil_iff.mp hlast t ht), Bool.false_or]

/-! ### Nodes that are spread over tokens -/

namespace InOrder

theorem of_sublist {cs ds : List Tree} (h : InOrder (Tree.lexemesOf ds)) (hsub : cs.Sublist ds) :
    InOrder (Tree.lexemesOf cs) := by
  rw [Tree.lexemesOf_eq_flatMap] at h ⊢
  exact h.sublist (hsub.flatMap _)

end InOrder

namespace Node

/-- Nodes that stand one after the other. -/
def Successive (ns : List Node) : Prop := ns.Pairwise fun a b => a.loc ≤ b.loc

instance (ns : List Node) : Decidable (Successive ns) := inferInstanceAs (Decidable (List.Pairwise _ _))

/-- A node with its children in order, or a call of which `Q` holds. -/
structure Ordered (Q : Node → Prop) (n : Node) : Prop where
  children : n.kind ≠ .call → Successive n.children
  call : n.kind = .call → Q n

/-- A node all of whose descendants are ordered, and stand where tokens stand. -/
def Within (Q : Node → Prop) (ls : List Lexeme) (n : Node) : Prop :=
  ∀ m ∈ n.descendants, m.Ordered Q ∧ ∃ l ∈ ls, l.loc = m.loc

/-- Nodes that stand one after the other, and that are all within some tokens. -/
structure Spread (Q : Node → Prop) (ls : List Lexeme) (ns : List Node) : Prop where
  successive : Successive ns
  within : ∀ n ∈ ns, n.Within Q ls

variable {Q : Node → Prop} {ls ms : List Lexeme} {n : Node} {ns ns' : List Node}

theorem Ordered.of_children (hkind : (n.kind == .call) = false) (h : Successive n.children) : n.Ordered Q :=
  ⟨fun _ => h, fun hcall => absurd hcall (beq_eq_false_iff_ne.mp hkind)⟩

namespace Within

theorem mono (h : n.Within Q ls) (hsub : ∀ l ∈ ls, l ∈ ms) : n.Within Q ms := by
  intro m hm
  obtain ⟨hordered, l, hl, hloc⟩ := h m hm
  exact ⟨hordered, l, hsub l hl, hloc⟩

theorem exists_loc (h : n.Within Q ls) : ∃ l ∈ ls, l.loc = n.loc := (h n (mem_descendants_self n)).2

/-- A node is within some tokens if it stands at one of them and its children are within them. -/
theorem intro (hloc : ∃ l ∈ ls, l.loc = n.loc) (hordered : n.Ordered Q)
    (hchildren : ∀ c ∈ n.children, c.Within Q ls) : n.Within Q ls := by
  intro m hm
  rw [descendants_eq] at hm
  rcases List.mem_cons.mp hm with rfl | hm
  · exact ⟨hordered, hloc⟩
  · obtain ⟨c, hc, hm⟩ := List.mem_flatMap.mp hm
    exact hchildren c hc m hm

/-- The children of a node within some tokens are spread over them, except in a call. -/
theorem children (h : n.Within Q ls) (hkind : (n.kind == .call) = false) : Spread Q ls n.children := by
  refine ⟨(h n (mem_descendants_self n)).1.children (beq_eq_false_iff_ne.mp hkind), fun c hc m hm => h m ?_⟩
  exact mem_descendants_trans hm (mem_descendants_of_mem_children hc)

end Within

namespace Spread

theorem nil : Spread Q ls [] := ⟨.nil, fun _ hn => absurd hn List.not_mem_nil⟩

theorem single (h : n.Within Q ls) : Spread Q ls [n] := by
  refine ⟨List.pairwise_singleton _ _, fun m hm => ?_⟩
  rw [List.mem_singleton.mp hm]
  exact h

theorem mono (h : Spread Q ls ns) (hsub : ∀ l ∈ ls, l ∈ ms) : Spread Q ms ns :=
  ⟨h.successive, fun n hn => (h.within n hn).mono hsub⟩

theorem sublist (h : Spread Q ls ns) (hsub : ns'.Sublist ns) : Spread Q ls ns' :=
  ⟨h.successive.sublist hsub, fun n hn => h.within n (hsub.subset hn)⟩

/-- What is spread over some tokens comes before what is spread over later ones. -/
theorem append (horder : InOrder (ls ++ ms)) (h : Spread Q ls ns) (h' : Spread Q ms ns') :
    Spread Q (ls ++ ms) (ns ++ ns') := by
  constructor
  · refine List.pairwise_append.mpr ⟨h.successive, h'.successive, fun n hn m hm => ?_⟩
    obtain ⟨l, hl, hloc⟩ := (h.within n hn).exists_loc
    obtain ⟨l', hl', hloc'⟩ := (h'.within m hm).exists_loc
    rw [← hloc, ← hloc']
    exact (InOrder.append_iff.mp horder).2.2 l hl l' hl'
  · intro n hn
    rcases List.mem_append.mp hn with hn | hn
    · exact (h.within n hn).mono fun l hl => List.mem_append_left ms hl
    · exact (h'.within n hn).mono fun l hl => List.mem_append_right ls hl

theorem flatMap {cs : List Tree} {f : Tree → List Node} (horder : InOrder (Tree.lexemesOf cs))
    (h : ∀ c ∈ cs, Spread Q c.lexemes (f c)) : Spread Q (Tree.lexemesOf cs) (cs.flatMap f) := by
  induction cs with
  | nil => exact .nil
  | cons c cs ih =>
    obtain ⟨hc, hcs⟩ := List.forall_mem_cons.mp h
    exact hc.append horder (ih (InOrder.append_iff.mp horder).2.1 hcs)

end Spread

end Node

open Node

/-! ### Tokens of a construct -/

namespace Tree

variable {t c : Tree} {key : Key}

/-- The tokens of the parts that a key asks for. -/
def region (t : Tree) (key : Key) : List Lexeme := lexemesOf (t.children.filter key.picks)

theorem lexemesOf_children_subset (t : Tree) : ∀ l ∈ lexemesOf t.children, l ∈ t.lexemes := by
  intro l hl
  cases t with
  | leaf label role lexeme => cases hl
  | node label role children => exact hl

theorem mem_lexemesOf {cs : List Tree} {l : Lexeme} (hc : c ∈ cs) (hl : l ∈ c.lexemes) :
    l ∈ lexemesOf cs := by
  rw [lexemesOf_eq_flatMap]
  exact List.mem_flatMap.mpr ⟨c, hc, hl⟩

theorem mem_lexemes_of_mem_children {l : Lexeme} (hc : c ∈ t.children) (hl : l ∈ c.lexemes) :
    l ∈ t.lexemes :=
  t.lexemesOf_children_subset l (mem_lexemesOf hc hl)

theorem region_subset (t : Tree) (key : Key) : ∀ l ∈ t.region key, l ∈ t.lexemes := by
  intro l hl
  rw [region, lexemesOf_eq_flatMap] at hl
  obtain ⟨c, hc, hl⟩ := List.mem_flatMap.mp hl
  exact mem_lexemes_of_mem_children (List.mem_of_mem_filter hc) hl

theorem InOrder.children (h : t.InOrder) : CodeAudit.InOrder (lexemesOf t.children) := by
  cases t with
  | leaf label role lexeme => exact .nil
  | node label role children => exact h

theorem InOrder.child (h : t.InOrder) (hc : c ∈ t.children) : c.InOrder := by
  have hchildren := h.children
  rw [lexemesOf_eq_flatMap] at hchildren
  exact (List.pairwise_flatMap.mp hchildren).1 c hc

/-- A construct stands at its first token. -/
theorem exists_loc (h : t.lexemes ≠ []) : ∃ l ∈ t.lexemes, l.loc = t.loc := by
  obtain ⟨first, rest, hlexemes⟩ := List.exists_cons_of_ne_nil h
  refine ⟨first, by simp [hlexemes], ?_⟩
  rw [loc, ← head?_lexemes, hlexemes]
  rfl

theorem InOrder.loc_le (h : t.InOrder) {l : Lexeme} (hl : l ∈ t.lexemes) : t.loc ≤ l.loc := by
  cases hfirst : t.lexemes.head? with
  | none =>
    rw [List.head?_eq_none_iff.mp hfirst] at hl
    cases hl
  | some first =>
    have hloc : t.loc = first.loc := by
      rw [loc, ← head?_lexemes, hfirst]
    rw [hloc]
    exact CodeAudit.InOrder.head?_le h hl first hfirst

variable {Q : Node → Prop} {p : Phrase} {r : Role} {slots : List Slot} {ns : List Node}

/-- What a part contributes is spread over the parts that are asked for, if it is one of them. -/
theorem spread_region (hc : c ∈ t.children) (hpicks : key.picks c) (h : Spread Q c.lexemes ns) :
    Spread Q (t.region key) ns :=
  h.mono fun _ hl => mem_lexemesOf (List.mem_filter.mpr ⟨hc, hpicks⟩) hl

theorem spread_role (hc : c ∈ t.children) (hrole : c.role = some r) (h : Spread Q c.lexemes ns) :
    Spread Q (t.region (.role r)) ns :=
  spread_region hc (beq_iff_eq.mpr hrole) h

/-- What a key asks for is looked for among the trees that count. -/
theorem filter_marked {q : Tree → Bool} (hq : ∀ c, q c → c.isMarked) (ts : List Tree) :
    (marked ts).filter q = ts.filter q := by
  rw [marked, List.filter_filter]
  refine List.filter_congr fun c _ => ?_
  cases hc : q c with
  | false => rfl
  | true => rw [hq c hc, Bool.and_self]

/-- A construct has the parts that some keys ask for in the order of the keys if the layout says so. -/
theorem Complete.flatMap_filter_picks (h : t.Complete) (hlabel : t.label = .phrase p)
    (hlayout : p.layout? = some slots) {keys : List Key} (hsorts : Slot.sorts keys slots) :
    (keys.flatMap fun key => t.children.filter key.picks) =
      t.children.filter fun c => keys.any fun key => key.picks c := by
  have hfollows := h.layout (by rw [hlabel]; exact hlayout)
  have hpicks := hfollows.flatMap_filter_picks hsorts
  rw [filter_marked fun c hc => ?_] at hpicks
  · rw [← hpicks]
    exact List.flatMap_congr fun key _ => (filter_marked (fun c hc => Key.isMarked_of_picks hc) _).symm
  · obtain ⟨key, -, hkey⟩ := List.any_eq_true.mp hc
    exact Key.isMarked_of_picks hkey

/-- Nodes of a construct, each list of them made from the parts that a key asks for. -/
inductive Slices (Q : Node → Prop) (t : Tree) : List Key → List Node → Prop
  | one {key : Key} {ns : List Node} (here : Spread Q (t.region key) ns) : Slices Q t [key] ns
  | cons {key : Key} {keys : List Key} {ns ms : List Node} (here : Spread Q (t.region key) ns)
      (rest : Slices Q t keys ms) : Slices Q t (key :: keys) (ns ++ ms)

theorem Slices.spread {keys : List Key} (h : Slices Q t keys ns)
    (horder : CodeAudit.InOrder (lexemesOf (keys.flatMap fun key => t.children.filter key.picks))) :
    Spread Q (lexemesOf (keys.flatMap fun key => t.children.filter key.picks)) ns := by
  induction h with
  | one here =>
    rw [List.flatMap_singleton]
    exact here
  | cons here rest ih =>
    rw [List.flatMap_cons, lexemesOf_append] at horder ⊢
    exact here.append horder (ih (CodeAudit.InOrder.append_iff.mp horder).2.1)

/-- A tree whose nodes are spread over its tokens wherever it is made use of. -/
structure Arranged (Q : Node → Prop) (t : Tree) : Prop where
  grows : t.Grows
  inOrder : t.InOrder
  expr : t.read.expr.Within Q t.lexemes
  stmt : t.read.stmt.Within Q t.lexemes
  nodes : Spread Q t.lexemes t.read.nodes

/-- A construct with its tokens in order, the nodes of whose parts are spread over them. -/
structure Joined (Q : Node → Prop) (t : Tree) : Prop where
  grows : t.Grows
  inOrder : t.InOrder
  parts : ∀ c ∈ t.children, c.Everywhere (Arranged Q)

theorem Everywhere.joined (h : t.Everywhere (Arranged Q)) : t.Joined Q :=
  ⟨h.self.grows, h.self.inOrder, fun _ hc => h.child hc⟩

namespace Joined

theorem part (h : t.Joined Q) (hc : c ∈ t.children) : c.Joined Q := (h.parts c hc).joined

theorem arranged (h : t.Joined Q) (hc : c ∈ t.children) : c.Arranged Q := (h.parts c hc).self

theorem exists_loc (h : t.Joined Q) : ∃ l ∈ t.lexemes, l.loc = t.loc :=
  Tree.exists_loc h.grows.lexemes_ne_nil

/-- A node that is no call stands where the construct does if its children are spread over the tokens
of the construct. -/
theorem node (h : t.Joined Q) {shape : Shape Node} (hkind : (shape.kind == .call) = false)
    (hchildren : Spread Q t.lexemes shape.children) : Within Q t.lexemes ⟨t.loc, shape⟩ :=
  .intro h.exists_loc (.of_children hkind hchildren.successive) hchildren.within

/-- A node without children. -/
theorem leaf (h : t.Joined Q) {shape : Shape Node} (hkind : (shape.kind == .call) = false)
    (hchildren : shape.children = []) : Within Q t.lexemes ⟨t.loc, shape⟩ :=
  h.node hkind (by rw [hchildren]; exact .nil)

/-- The nodes of some parts, one after the other. -/
theorem flatMap (h : t.Joined Q) {cs : List Tree} (hsub : cs.Sublist t.children) {f : Tree → List Node}
    (hf : ∀ c ∈ cs, Spread Q c.lexemes (f c)) : Spread Q t.lexemes (cs.flatMap f) := by
  refine (Spread.flatMap (h.inOrder.children.of_sublist hsub) hf).mono fun l hl => ?_
  refine t.lexemesOf_children_subset l ?_
  rw [lexemesOf_eq_flatMap] at hl ⊢
  exact (hsub.flatMap lexemes).subset hl

/-- The nodes that a reading makes are in order if it asks for parts in the order of the layout. -/
theorem slices (h : t.Joined Q) (hlabel : t.label = .phrase p) (hlayout : p.layout? = some slots)
    {keys : List Key} (hslices : Slices Q t keys ns) (hsorts : Slot.sorts keys slots) :
    Spread Q t.lexemes ns := by
  have hsub : (keys.flatMap fun key => t.children.filter key.picks).Sublist t.children := by
    rw [h.grows.complete.flatMap_filter_picks hlabel hlayout hsorts]
    exact List.filter_sublist
  refine (hslices.spread (h.inOrder.children.of_sublist hsub)).mono fun l hl => ?_
  refine t.lexemesOf_children_subset l ?_
  rw [lexemesOf_eq_flatMap] at hl ⊢
  exact (hsub.flatMap lexemes).subset hl

/-- The nodes of the parts of some kinds. -/
theorem filter_phrases (h : t.Joined Q) (ps : List Phrase) {f : Tree → List Node}
    (hf : ∀ c ∈ t.children, ps.any c.is → Spread Q c.lexemes (f c)) :
    Spread Q (t.region (.phrases ps)) ((t.parts.filter fun c => ps.any c.is).flatMap f) := by
  have hsub : (t.parts.filter fun c => ps.any c.is).Sublist t.children :=
    List.filter_sublist.trans List.filter_sublist
  refine (Spread.flatMap (h.inOrder.children.of_sublist hsub) fun c hc => ?_).mono fun l hl => ?_
  · exact hf c (hsub.subset hc) (List.mem_filter.mp hc).2
  · rw [lexemesOf_eq_flatMap] at hl
    obtain ⟨c, hc, hl⟩ := List.mem_flatMap.mp hl
    exact mem_lexemesOf (List.mem_filter.mpr ⟨hsub.subset hc, (List.mem_filter.mp hc).2⟩) hl

theorem contents (h : t.Joined Q) : Spread Q t.lexemes (Reading.contents (t.children.map read)) := by
  rw [Reading.contents, named_read, List.flatMap_map]
  exact h.flatMap List.filter_sublist fun c hc => (h.arranged (List.mem_of_mem_filter hc)).nodes

/-- A construct without a shape of its own. -/
theorem other (h : t.Joined Q) : (Reading.other t (t.children.map read)).Within Q t.lexemes :=
  h.node rfl h.contents

/-- The expressions of some parts. -/
theorem expr_named (h : t.Joined Q) :
    Spread Q t.lexemes ((Reading.named (t.children.map read)).map Reading.expr) := by
  rw [named_read, List.map_map, List.map_eq_flatMap]
  exact h.flatMap List.filter_sublist fun c hc => .single (h.arranged (List.mem_of_mem_filter hc)).expr

theorem expr_find? (h : t.Joined Q) (r : Role) :
    Spread Q (t.region (.role r)) ((Reading.find? (t.children.map read) r).map Reading.expr).toList := by
  cases hx : Reading.find? (t.children.map read) r with
  | none => exact .nil
  | some x =>
    obtain ⟨c, hc, hrole, rfl⟩ := exists_of_find? hx
    exact spread_role hc hrole (.single (h.arranged hc).expr)

/-- The part with a role that the layout asks for. -/
theorem exprOf (h : t.Joined Q) (hlabel : t.label = .phrase p) (hlayout : p.layout? = some slots)
    (hensures : slots.any (Slot.ensures (Allowed.having r))) :
    Spread Q (t.region (.role r)) [Reading.exprOf t (Reading.find? (t.children.map read) r)] := by
  obtain ⟨c, hc, hfind⟩ := h.grows.complete.exists_find? hlabel hlayout hensures
  have hexpr := h.expr_find? r
  rwa [hfind] at hexpr ⊢

/-- A part is within the construct, also if it is missing. -/
theorem within_exprOf (h : t.Joined Q) {x : Option Reading} (hx : ∀ y ∈ x, ∃ c ∈ t.children, y = c.read) :
    (Reading.exprOf t x).Within Q t.lexemes := by
  cases x with
  | none => exact h.leaf rfl rfl
  | some y =>
    obtain ⟨c, hc, rfl⟩ := hx y rfl
    exact (h.arranged hc).expr.mono fun _ => mem_lexemes_of_mem_children hc

theorem blockOf (h : t.Joined Q) (r : Role) :
    Spread Q (t.region (.role r)) (Reading.blockOf (t.children.map read) r) := by
  unfold Reading.blockOf
  split
  · rename_i x hx
    obtain ⟨c, hc, hrole, rfl⟩ := exists_of_find? hx
    rw [children_read]
    exact spread_role hc hrole (h.part hc).contents
  · exact .nil

theorem clauseBody (h : t.Joined Q) : Spread Q t.lexemes (Reading.clauseBody t.read) := by
  unfold Reading.clauseBody
  rw [children_read]
  split
  · rename_i x hx
    obtain ⟨c, hc, -, rfl⟩ := exists_of_find? hx
    rw [children_read]
    exact (h.part hc).contents.mono fun _ => mem_lexemes_of_mem_children hc
  · rw [named_read, List.filter_map, List.flatMap_map]
    refine h.flatMap (List.filter_sublist.trans List.filter_sublist) fun c hc => ?_
    rw [children_read]
    exact (h.part (List.mem_of_mem_filter (List.mem_of_mem_filter hc))).contents

end Joined

end Tree

end CodeAudit
