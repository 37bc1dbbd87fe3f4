import CodeAudit.Proofs.WellFormed
import CodeAudit.Source.Meaning

/-!
# Finding the parts of a construct

A reading finds the parts of a construct by their roles, by their labels, or as the first ones that
count. Each of these can go wrong if two parts answer to the same description. The layouts tell where
this cannot happen: a role that only a single place admits belongs to at most one part, which is
therefore the one that is found.
-/

namespace CodeAudit

open Grammar

/-- Whether a label is that of a construct in which an expression can stand. -/
def Label.isFertile : Label → Bool
  | .phrase p => !p.isBarren
  | .token _ => false

namespace Allowed

/-- Whether a construct in which an expression can stand may be among those that are allowed. -/
def isFertile (a : Allowed) : Bool :=
  match a.labels with
  | some labels => labels.any Label.isFertile
  | none => true

/-- Whether a tree with a role may be among those that are allowed. -/
def mayHave (r : Role) (a : Allowed) : Bool :=
  match a.role with
  | some role => role == some r
  | none => true

/-- Whether a tree with a label may be among those that are allowed. -/
def mayBe (label : Label) (a : Allowed) : Bool :=
  match a.labels with
  | some labels => labels.contains label
  | none => true

theorem mayHave_of_admits {r : Role} {a : Allowed} {t : Tree} (ha : a.admits t)
    (ht : t.role == some r) : a.mayHave r := by
  obtain ⟨labels, role⟩ := a
  cases role with
  | none => rfl
  | some role =>
    have hrole := (Bool.and_eq_true_iff.mp ha).2
    rw [eq_of_beq ht] at hrole
    exact beq_iff_eq.mpr (eq_of_beq hrole).symm

theorem mayBe_of_admits {label : Label} {a : Allowed} {t : Tree} (ha : a.admits t)
    (ht : t.label == label) : a.mayBe label := by
  obtain ⟨labels, role⟩ := a
  cases labels with
  | none => rfl
  | some labels =>
    have hlabel := (Bool.and_eq_true_iff.mp ha).1
    rw [eq_of_beq ht] at hlabel
    exact hlabel

theorem isFertile_of_admits {a : Allowed} {t : Tree} (ha : a.admits t) (ht : t.label.isFertile) :
    a.isFertile := by
  obtain ⟨labels, role⟩ := a
  cases labels with
  | none => rfl
  | some labels =>
    have hlabel := (Bool.and_eq_true_iff.mp ha).1
    exact List.any_eq_true.mpr ⟨t.label, List.contains_iff_mem.mp hlabel, ht⟩

end Allowed

theorem admitted_append {as bs : List Allowed} {t : Tree} :
    admitted (as ++ bs) t ↔ admitted as t ∨ admitted bs t := by
  rw [admitted, List.any_append, Bool.or_eq_true]
  rfl

theorem admitted_having {r : Role} {t : Tree} : admitted (Allowed.having r) t ↔ t.role = some r := by
  simp [admitted, Allowed.having, Allowed.admits]

theorem exists_is_of_contains {ps : List Phrase} {t : Tree}
    (h : (ps.map Label.phrase).contains t.label) : ∃ p ∈ ps, t.is p := by
  obtain ⟨p, hp, hlabel⟩ := List.mem_map.mp (List.contains_iff_mem.mp h)
  exact ⟨p, hp, beq_iff_eq.mpr hlabel.symm⟩

theorem admitted_phrases {ps : List Phrase} {t : Tree} (h : admitted (Allowed.phrases ps) t) :
    ∃ p ∈ ps, t.is p := by
  simp only [admitted, Allowed.phrases, Allowed.admits, List.any_cons, List.any_nil, Bool.or_false,
    Bool.and_eq_true] at h
  exact exists_is_of_contains h.1

theorem admitted_phrasesAs {r : Role} {ps : List Phrase} {t : Tree}
    (h : admitted (Allowed.phrasesAs r ps) t) : (∃ p ∈ ps, t.is p) ∧ t.role = some r := by
  simp only [admitted, Allowed.phrasesAs, Allowed.admits, List.any_cons, List.any_nil, Bool.or_false,
    Bool.and_eq_true] at h
  exact ⟨exists_is_of_contains h.1, eq_of_beq h.2⟩

theorem is_of_admitted {p : Phrase} {t : Tree} (h : admitted (Allowed.phrases [p]) t) : t.is p := by
  simpa using admitted_phrases h

theorem is_or_is_of_admitted {p q : Phrase} {t : Tree} (h : admitted (Allowed.phrases [p, q]) t) :
    t.is p ∨ t.is q := by
  simpa using admitted_phrases h

theorem is_of_admittedAs {r : Role} {p : Phrase} {t : Tree}
    (h : admitted (Allowed.phrasesAs r [p]) t) : t.is p ∧ t.role = some r := by
  simpa using admitted_phrasesAs h

namespace Slot

/-- What is allowed at some places, without the tokens, names and texts. -/
def fertile (slots : List Slot) : List Allowed :=
  (slots.flatMap Slot.allowed).filter Allowed.isFertile

/-- Whether no place admits a kind of tree. -/
def never (may : Allowed → Bool) (slots : List Slot) : Bool :=
  slots.all fun slot => !slot.allowed.any may

/-- Whether at most one tree of a kind can stand at some places. -/
def once (may : Allowed → Bool) : List Slot → Bool
  | [] => true
  | .many a :: slots => !a.any may && once may slots
  | slot :: slots => if slot.allowed.any may then never may slots else once may slots

end Slot

namespace Follows

variable {slots : List Slot} {ts : List Tree} {may : Allowed → Bool} {q : Tree → Bool}

theorem filter_eq_nil (hmay : ∀ {a t}, Allowed.admits a t → q t → may a) {as : List Allowed}
    (has : as.any may = false) (hts : ∀ t ∈ ts, admitted as t) : ts.filter q = [] := by
  refine List.filter_eq_nil_iff.mpr fun t ht hq => ?_
  obtain ⟨a, ha, hat⟩ := List.any_eq_true.mp (hts t ht)
  exact Bool.eq_false_iff.mp has (List.any_eq_true.mpr ⟨a, ha, hmay hat hq⟩)

/-- If no place admits a kind of tree, then there is none. -/
theorem filter_of_never (hmay : ∀ {a t}, Allowed.admits a t → q t → may a)
    (hnever : Slot.never may slots) (h : Follows slots ts) : ts.filter q = [] := by
  refine List.filter_eq_nil_iff.mpr fun t ht hq => ?_
  obtain ⟨slot, hslot, hadmitted⟩ := h.exists_of_mem ht
  obtain ⟨a, ha, hat⟩ := List.any_eq_true.mp hadmitted
  have hnone := List.all_eq_true.mp hnever slot hslot
  rw [List.any_eq_true.mpr ⟨a, ha, hmay hat hq⟩] at hnone
  cases hnone

/-- If at most one tree of a kind can stand at some places, then one that stands there is the only
one. -/
theorem filter_of_once (hmay : ∀ {a t}, Allowed.admits a t → q t → may a)
    (honce : Slot.once may slots) (h : Follows slots ts) {c : Tree} (hc : c ∈ ts) (hq : q c) :
    ts.filter q = [c] := by
  -- A place takes the tree and leaves none for the others, or it admits no tree of the kind.
  have take {as : List Allowed} {slots : List Slot} {t : Tree} {rest : List Tree}
      (ih : Slot.once may slots → c ∈ rest → rest.filter q = [c])
      (honce : (if as.any may then Slot.never may slots else Slot.once may slots) = true)
      (ht : admitted as t) (hrest : Follows slots rest) (hc : c ∈ t :: rest) :
      (t :: rest).filter q = [c] := by
    split at honce
    · have hnone := filter_of_never hmay honce hrest
      rcases List.mem_cons.mp hc with rfl | hc
      · rw [List.filter_cons_of_pos hq, hnone]
      · exact absurd hq (List.filter_eq_nil_iff.mp hnone c hc)
    · rename_i has
      have hnone : [t].filter q = [] := filter_eq_nil hmay (Bool.eq_false_iff.mpr has)
        fun u hu => List.mem_singleton.mp hu ▸ ht
      have htq : ¬ q t := List.filter_eq_nil_iff.mp hnone t (List.mem_singleton_self t)
      rw [List.filter_cons_of_neg htq]
      rcases List.mem_cons.mp hc with rfl | hc
      · exact absurd hq htq
      · exact ih honce hc
  induction slots generalizing ts with
  | nil =>
    obtain rfl : ts = [] := h
    cases hc
  | cons slot slots ih =>
    cases slot with
    | one a =>
      obtain ⟨t, rest, rfl, ht, hrest⟩ := h
      exact take (fun honce hc => ih honce hrest hc) honce ht hrest hc
    | opt a =>
      rcases h with h | ⟨t, rest, rfl, ht, hrest⟩
      · change (if a.any may then Slot.never may slots else Slot.once may slots) = true at honce
        split at honce
        · have hnone := filter_of_never hmay honce h
          exact absurd hq (List.filter_eq_nil_iff.mp hnone c hc)
        · exact ih honce h hc
      · exact take (fun honce hc => ih honce hrest hc) honce ht hrest hc
    | many a =>
      obtain ⟨front, rest, rfl, hfront, hrest⟩ := h
      obtain ⟨hnone, honce⟩ := Bool.and_eq_true_iff.mp honce
      have hfilter := filter_eq_nil hmay (Bool.not_eq_true' _ ▸ hnone) hfront
      rw [List.filter_append, hfilter, List.nil_append]
      rcases List.mem_append.mp hc with hc | hc
      · exact absurd hq (List.filter_eq_nil_iff.mp hfilter c hc)
      · exact ih honce hrest hc

/-- Whatever comes before another tree does not stand at an optional last place. -/
theorem exists_of_mem_before {a : List Allowed} {xs ys : List Tree} {c x : Tree}
    (h : Follows (slots ++ [.opt a]) (xs ++ c :: ys)) (hx : x ∈ xs) :
    ∃ slot ∈ slots, admitted slot.allowed x := by
  obtain ⟨front, rest, heq, hfront, hrest⟩ := h.exists_append
  have hlength : rest.length ≤ 1 := by
    rcases hrest with hrest | ⟨t, rest', rfl, -, hrest⟩
    · obtain rfl : rest = [] := hrest
      exact Nat.zero_le 1
    · obtain rfl : rest' = [] := hrest
      exact Nat.le_refl 1
  refine hfront.exists_of_mem ?_
  rcases List.append_eq_append_iff.mp heq with ⟨more, rfl, -⟩ | ⟨more, rfl, rfl⟩
  · exact List.mem_append_left _ hx
  · simp only [List.length_append, List.length_cons] at hlength
    obtain rfl : more = [] := List.length_eq_zero_iff.mp (by omega)
    rwa [List.append_nil] at hx

/-- If there is a single place, and not for many trees, then there is at most one tree. -/
theorem length_le_one {slot : Slot} (h : Follows [slot] ts) (hslot : ∀ a, slot ≠ .many a) :
    ts.length ≤ 1 := by
  cases slot with
  | one a =>
    obtain ⟨t, rest, rfl, -, hrest⟩ := h
    obtain rfl : rest = [] := hrest
    exact Nat.le_refl 1
  | opt a =>
    rcases h with h | ⟨t, rest, rfl, -, hrest⟩
    · obtain rfl : ts = [] := h
      exact Nat.zero_le 1
    · obtain rfl : rest = [] := hrest
      exact Nat.le_refl 1
  | many a => exact absurd rfl (hslot a)

end Follows

namespace Tree

variable {t c : Tree}

theorem readAll_eq_map (ts : List Tree) : readAll ts = ts.map read := by
  induction ts with
  | nil => rfl
  | cons t ts ih => rw [readAll, ih, List.map_cons]

/-- The reading of a tree is made from the readings of its parts. -/
theorem read_eq (t : Tree) : t.read = .ofParts t (t.children.map read) := by
  cases t with
  | leaf label role lexeme => rfl
  | node label role children => rw [read, readAll_eq_map, Tree.children]

@[simp] theorem tree_read (t : Tree) : t.read.tree = t := by rw [read_eq]; rfl

@[simp] theorem children_read (t : Tree) : t.read.children = t.children.map read := by rw [read_eq]; rfl

theorem expr_read (t : Tree) : t.read.expr = Reading.expression t (t.children.map read) := by
  rw [read_eq]
  rfl

@[simp] theorem is_read (t : Tree) (p : Phrase) : t.read.is p = t.is p := by
  rw [Reading.is, tree_read]

theorem find?_read (t : Tree) (r : Role) :
    Reading.find? (t.children.map read) r = (t.part? r).map read := by
  simp only [Reading.find?, List.find?_map, part?, Function.comp_def, tree_read]

theorem findAll_read (t : Tree) (r : Role) :
    Reading.findAll (t.children.map read) r = (t.partsWith r).map read := by
  simp only [Reading.findAll, List.filter_map, partsWith, Function.comp_def, tree_read]

theorem named_read (t : Tree) : Reading.named (t.children.map read) = t.parts.map read := by
  simp only [Reading.named, List.filter_map, parts, Function.comp_def, tree_read]

theorem exists_phrase_of_isFertile (h : t.label.isFertile) : ∃ p, t.label = .phrase p := by
  cases hlabel : t.label with
  | phrase p => exact ⟨p, rfl⟩
  | token terminal =>
    rw [hlabel] at h
    cases h

theorem isMarked_of_isPart (h : t.label.isPart) : t.isMarked := by
  rw [isMarked, h, Bool.true_or]

theorem isMarked_of_role {r : Role} (h : t.role == some r) : t.isMarked := by
  rw [isMarked, eq_of_beq h, Option.isSome_some, Bool.or_true]

/-- A part with a role is looked for among those that count. -/
theorem part?_eq_find? (t : Tree) (r : Role) :
    t.part? r = (marked t.children).find? fun c => c.role == some r := by
  rw [part?, marked, List.find?_filter]
  refine congrArg (List.find? · t.children) (funext fun c => ?_)
  cases hrole : (c.role == some r) with
  | false => simp
  | true => simp [isMarked_of_role hrole]

theorem partsWith_eq_filter (t : Tree) (r : Role) :
    t.partsWith r = (marked t.children).filter fun c => c.role == some r := by
  rw [partsWith, marked, List.filter_filter]
  refine List.filter_congr fun c _ => ?_
  cases hrole : (c.role == some r) with
  | false => rw [Bool.false_and]
  | true => rw [isMarked_of_role hrole, Bool.and_self]

theorem isPart_of_isFertile (h : t.label.isFertile) : t.label.isPart := by
  obtain ⟨p, hlabel⟩ := exists_phrase_of_isFertile h
  rw [hlabel]
  rfl

/-- A tree that counts and has no role is a part. -/
theorem isPart_of_plain (hmarked : t.isMarked) (hplain : admitted Allowed.plain t) : t.label.isPart := by
  have hrole : t.role = none := by
    simpa [admitted, Allowed.plain, Allowed.admits] using hplain
  simpa [isMarked, hrole] using hmarked

theorem mem_parts_of_isPart (hc : c ∈ t.children) (hpart : c.label.isPart) : c ∈ t.parts := by
  refine List.mem_filter.mpr ⟨hc, ?_⟩
  rw [isToken]
  cases hlabel : c.label with
  | phrase p => rfl
  | token terminal =>
    rw [hlabel] at hpart
    cases terminal <;> first | rfl | cases hpart

theorem mem_parts_of_isFertile (hc : c ∈ t.children) (h : c.label.isFertile) : c ∈ t.parts :=
  mem_parts_of_isPart hc (isPart_of_isFertile h)

/-- What counts as a part without being one is a continued line. -/
theorem isPart_or_isToken_of_mem_parts (h : c ∈ t.parts) :
    c.label.isPart ∨ c.isToken .lineContinuation := by
  obtain ⟨-, h⟩ := List.mem_filter.mp h
  obtain ⟨hnamed, hcomment⟩ := Bool.and_eq_true_iff.mp h
  cases hlabel : c.label with
  | phrase p => exact .inl rfl
  | token terminal =>
    rw [isToken, hlabel] at hcomment ⊢
    rw [hlabel] at hnamed
    cases hextra : terminal.isExtra with
    | false => exact .inl (Bool.and_eq_true_iff.mpr ⟨hnamed, by rw [hextra]; rfl⟩)
    | true =>
      cases terminal with
      | comment => cases hcomment
      | lineContinuation => exact .inr rfl
      | _ => cases hextra

namespace WellFormed

variable {slots : List Slot} {r : Role} {p : Phrase}

theorem of_mem_children (h : t.WellFormed) (hc : c ∈ t.children) : c.WellFormed := by
  cases h with
  | leaf => cases hc
  | node parts => exact parts c hc

theorem follows (h : t.WellFormed) (hc : c ∈ t.children) (hlayout : t.label.layout? = some slots) :
    Follows slots (marked t.children) := by
  cases h with
  | leaf => cases hc
  | node _ layout => exact layout slots hlayout

theorem exists_first (h : t.WellFormed) (hc : c ∈ t.children) (hfirst : t.label.beginsWithPart) :
    ∃ x rest, t.children = x :: rest ∧ x.label.isPart := by
  cases h with
  | leaf => cases hc
  | node _ _ first => exact first hfirst

/-- A fertile part is one of those that are allowed in a construct. -/
theorem admitted_fertile (h : t.WellFormed) (hc : c ∈ t.children) (hfertile : c.label.isFertile)
    (hlayout : t.label.layout? = some slots) : admitted (Slot.fertile slots) c := by
  have hmarked := isMarked_of_isPart (isPart_of_isFertile hfertile)
  obtain ⟨slot, hslot, hadmitted⟩ :=
    (h.follows hc hlayout).exists_of_mem (List.mem_filter.mpr ⟨hc, hmarked⟩)
  obtain ⟨a, ha, hac⟩ := List.any_eq_true.mp hadmitted
  have hmem : a ∈ slots.flatMap Slot.allowed := List.mem_flatMap.mpr ⟨slot, hslot, ha⟩
  exact List.any_eq_true.mpr
    ⟨a, List.mem_filter.mpr ⟨hmem, Allowed.isFertile_of_admits hac hfertile⟩, hac⟩

/-- A part is the only one with its role if a single place admits the role. -/
theorem partsWith_eq (h : t.WellFormed) (hc : c ∈ t.children)
    (hlayout : t.label.layout? = some slots) (hr : c.role = some r)
    (honce : Slot.once (Allowed.mayHave r) slots) : t.partsWith r = [c] := by
  have hrole : (c.role == some r) = true := beq_iff_eq.mpr hr
  have hfilter := (h.follows hc hlayout).filter_of_once Allowed.mayHave_of_admits honce
    (List.mem_filter.mpr ⟨hc, isMarked_of_role hrole⟩) hrole
  rw [partsWith_eq_filter, hfilter]

theorem part?_eq (h : t.WellFormed) (hc : c ∈ t.children) (hlayout : t.label.layout? = some slots)
    (hr : c.role = some r) (honce : Slot.once (Allowed.mayHave r) slots) : t.part? r = some c := by
  rw [part?, ← List.head?_filter]
  exact congrArg List.head? (h.partsWith_eq hc hlayout hr honce)

theorem part?_eq_none (h : t.WellFormed) (hc : c ∈ t.children)
    (hlayout : t.label.layout? = some slots) (hnever : Slot.never (Allowed.mayHave r) slots) :
    t.part? r = none := by
  refine List.find?_eq_none.mpr fun x hx hrole => ?_
  have hnone := (h.follows hc hlayout).filter_of_never Allowed.mayHave_of_admits hnever
  exact List.filter_eq_nil_iff.mp hnone x (List.mem_filter.mpr ⟨hx, isMarked_of_role hrole⟩) hrole

/-- A part is the only one with its label if a single place admits the label. -/
theorem parts_filter_eq (h : t.WellFormed) (hc : c ∈ t.children)
    (hlayout : t.label.layout? = some slots) (hp : c.is p)
    (honce : Slot.once (Allowed.mayBe (.phrase p)) slots) : t.parts.filter (·.is p) = [c] := by
  have hfilter := (h.follows hc hlayout).filter_of_once (q := (·.is p)) Allowed.mayBe_of_admits honce
    (List.mem_filter.mpr ⟨hc, isMarked_of_isPart (by rw [eq_of_beq hp]; rfl)⟩) hp
  rw [← hfilter, parts, marked, List.filter_filter, List.filter_filter]
  refine List.filter_congr fun x _ => ?_
  cases hx : x.is p with
  | false => rfl
  | true =>
    have hlabel : x.label = .phrase p := eq_of_beq hx
    rw [isMarked, isToken, hlabel]
    rfl

/-- Nothing comes before the only part of a construct but signs, comments and continued lines. -/
theorem not_isPart_before {slot : Slot} {pre post : List Tree} (h : t.WellFormed)
    (hsplit : t.children = pre ++ c :: post) (hfertile : c.label.isFertile)
    (hlayout : t.label.layout? = some [slot]) (hslot : ∀ a, slot ≠ .many a) :
    ∀ x ∈ pre, ¬ x.label.isPart := by
  intro x hx hpart
  have hc : c ∈ t.children := by simp [hsplit]
  have hlength := (h.follows hc hlayout).length_le_one hslot
  have hpre : 0 < (marked pre).length :=
    List.length_pos_of_mem (List.mem_filter.mpr ⟨hx, isMarked_of_isPart hpart⟩)
  have hpost : 0 < (marked (c :: post)).length :=
    List.length_pos_of_mem (List.mem_filter.mpr
      ⟨List.mem_cons_self, isMarked_of_isPart (isPart_of_isFertile hfertile)⟩)
  rw [hsplit, marked_append, List.length_append] at hlength
  omega

end WellFormed

/-- A fertile part is the first one of a kind if only signs, comments and other kinds of parts come
before it. -/
theorem head?_filter_parts {q : Tree → Bool} {pre post : List Tree}
    (hsplit : t.children = pre ++ c :: post) (hfertile : c.label.isFertile) (hq : q c)
    (hpart : ∀ x ∈ pre, q x → ¬ x.label.isPart)
    (hclear : pre.any (·.isToken .lineContinuation) = false) :
    (t.parts.filter q).head? = some c := by
  have hpre : pre.filter (fun x => q x && (x.label.isNamed && !x.isToken .comment)) = [] := by
    refine List.filter_eq_nil_iff.mpr fun x hx hkept => ?_
    obtain ⟨hqx, hcounts⟩ := Bool.and_eq_true_iff.mp hkept
    have hmem : x ∈ t.parts := List.mem_filter.mpr ⟨by simp [hsplit, hx], hcounts⟩
    rcases isPart_or_isToken_of_mem_parts hmem with h | h
    · exact hpart x hx hqx h
    · exact List.any_eq_false.mp hclear x hx h
  have hcounts := (List.mem_filter.mp (mem_parts_of_isFertile (t := t) (by simp [hsplit]) hfertile)).2
  rw [parts, List.filter_filter, hsplit, List.filter_append, hpre, List.nil_append, List.filter_cons,
    if_pos (Bool.and_eq_true_iff.mpr ⟨hq, hcounts⟩)]
  rfl

/-- What counts before a part is parts and continued lines. -/
theorem exists_parts_eq {pre post : List Tree} (hsplit : t.children = pre ++ c :: post)
    (hfertile : c.label.isFertile) :
    ∃ before after, t.parts = before ++ c :: after ∧
      before.length ≤ (pre.filter fun x => x.label.isPart || x.isToken .lineContinuation).length := by
  have hcounts := (List.mem_filter.mp (mem_parts_of_isFertile (t := t) (by simp [hsplit]) hfertile)).2
  refine ⟨pre.filter fun x => x.label.isNamed && !x.isToken .comment,
    post.filter fun x => x.label.isNamed && !x.isToken .comment, ?_, ?_⟩
  · rw [parts, hsplit, List.filter_append, List.filter_cons, if_pos hcounts]
  · rw [← List.countP_eq_length_filter, ← List.countP_eq_length_filter]
    refine List.countP_mono_left fun x hx hcounts => ?_
    have hmem : x ∈ t.parts := List.mem_filter.mpr ⟨by simp [hsplit, hx], hcounts⟩
    exact Bool.or_eq_true_iff.mpr (isPart_or_isToken_of_mem_parts hmem)

end Tree

end CodeAudit
