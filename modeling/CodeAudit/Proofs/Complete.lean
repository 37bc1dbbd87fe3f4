import CodeAudit.Proofs.Grown

/-!
# Complete constructs

A layout says which parts a construct can have and in which order. Some of what the grammar says does
not fit into a layout: that at least one of two optional parts is there, that an import names something,
that a construct never stands at a place, that operands and signs of a comparison take turns, which words
stand between operands that are joined. These facts depend on the production that a construct comes from.
What readings need to know about a construct is derived from it, `Tree.Complete`.
-/

namespace CodeAudit

open Grammar

/-! ### Parts that are always there -/

/-- Whether a tree of a kind always stands at a place. -/
def Slot.ensures (wanted : List Allowed) : Slot → Bool
  | .one as => within as wanted
  | _ => false

theorem Follows.exists_of_ensures {slots : List Slot} {ts : List Tree} {wanted : List Allowed}
    (h : Follows slots ts) (hensures : slots.any (Slot.ensures wanted)) :
    ∃ t ∈ ts, admitted wanted t := by
  induction slots generalizing ts with
  | nil => cases hensures
  | cons slot slots ih =>
    rw [List.any_cons, Bool.or_eq_true] at hensures
    cases slot with
    | one as =>
      obtain ⟨t, rest, rfl, ht, hrest⟩ := h
      rcases hensures with hensures | hensures
      · exact ⟨t, List.mem_cons_self, Slot.admitted_of_within hensures ht⟩
      · obtain ⟨u, hu, hadmitted⟩ := ih hrest hensures
        exact ⟨u, List.mem_cons_of_mem t hu, hadmitted⟩
    | opt as =>
      have hensures := hensures.resolve_left Bool.false_ne_true
      rcases h with h | ⟨t, rest, rfl, -, hrest⟩
      · exact ih h hensures
      · obtain ⟨u, hu, hadmitted⟩ := ih hrest hensures
        exact ⟨u, List.mem_cons_of_mem t hu, hadmitted⟩
    | many as =>
      have hensures := hensures.resolve_left Bool.false_ne_true
      obtain ⟨front, rest, rfl, -, hrest⟩ := h
      obtain ⟨u, hu, hadmitted⟩ := ih hrest hensures
      exact ⟨u, List.mem_append_right front hu, hadmitted⟩

namespace Grammar

/-- Whether a step always shows a tree of a kind by itself. -/
def Step.ensures (wanted : List Allowed) (s : Step) : Bool :=
  (s.slots fun _ => Allowed.anything).any (Slot.ensures wanted)

/-- Whether the trees of a production always include one of a kind. Hidden constructs that are shown as
they are are looked into a number of times. -/
def Production.ensures (ps : List Production) (wanted : List Allowed) : Nat → Production → Bool
  | 0, p => p.steps.toList.any (Step.ensures wanted)
  | n + 1, p => p.steps.toList.any fun s => s.ensures wanted ||
    s.symbol.isHidden && s.isPlain s.symbol && ps.all fun q => q.head ≠ s.symbol || q.ensures ps wanted n

namespace Production.Derives

variable {p : Production} {parts : List Fragment} {s : Step} {wanted : List Allowed}

/-- Every step of a production has its part. -/
theorem exists_part (h : p.Derives parts) (hs : s ∈ p.steps.toList) :
    ∃ f, (f, s) ∈ parts.zip p.steps.toList ∧ f.Derived := by
  rw [← h.filled.map_snd_zip] at hs
  obtain ⟨x, hx, rfl⟩ := List.mem_map.mp hs
  exact ⟨x.1, hx, h.derived x.1 (List.of_mem_zip hx).1⟩

theorem mem_marked_trees (h : p.Derives parts) {f : Fragment} (hx : (f, s) ∈ parts.zip p.steps.toList)
    {t : Tree} (ht : t ∈ marked (f.shown s.marks)) : t ∈ marked (Fragment.ofProduction p parts).trees := by
  rw [Fragment.marked_trees fun f hf => (h.filled.laidOut f hf).lead]
  exact List.mem_flatMap.mpr ⟨(f, s), hx, ht⟩

theorem exists_of_step (h : p.Derives parts) (hs : s ∈ p.steps.toList) (hensures : s.ensures wanted) :
    ∃ t ∈ marked (Fragment.ofProduction p parts).trees, admitted wanted t := by
  obtain ⟨f, hx, -⟩ := h.exists_part hs
  obtain ⟨hlaid, hsymbol, hproper⟩ := h.filled.of_mem_zip hx
  obtain ⟨t, ht, hadmitted⟩ := (hlaid.follows_shown hsymbol hproper 0).exists_of_ensures hensures
  exact ⟨t, h.mem_marked_trees hx ht, hadmitted⟩

theorem exists_of_ensures {n : Nat} (h : p.Derives parts)
    (hensures : p.ensures allProductions wanted n) :
    ∃ t ∈ marked (Fragment.ofProduction p parts).trees, admitted wanted t := by
  induction n generalizing p parts with
  | zero =>
    obtain ⟨s, hs, hensures⟩ := List.any_eq_true.mp hensures
    exact h.exists_of_step hs hensures
  | succ n ih =>
    obtain ⟨s, hs, hensures⟩ := List.any_eq_true.mp hensures
    rcases Bool.or_eq_true_iff.mp hensures with hensures | hensures
    · exact h.exists_of_step hs hensures
    obtain ⟨hplain, hall⟩ := Bool.and_eq_true_iff.mp hensures
    obtain ⟨hhidden, hplain⟩ := Bool.and_eq_true_iff.mp hplain
    obtain ⟨f, hx, hderived⟩ := h.exists_part hs
    obtain ⟨-, hsymbol, -⟩ := h.filled.of_mem_zip hx
    obtain ⟨hself, hshown⟩ := Fragment.shown_of_isPlain hsymbol hhidden hplain
    -- A hidden construct shows what one of its own productions ensures.
    obtain ⟨q, parts', hq, hhead, rfl⟩ := hderived.exists_production fun terminal htoken => by
      rw [← hself, htoken] at hhidden
      cases hhidden
    have hensured := List.all_eq_true.mp hall q hq.known
    rw [Bool.or_eq_true, decide_eq_true_eq] at hensured
    obtain ⟨t, ht, hadmitted⟩ := ih hq (hensured.resolve_left fun hne => hne (hhead.trans hself))
    exact ⟨t, h.mem_marked_trees hx (by rwa [hshown]), hadmitted⟩

end Production.Derives

end Grammar

/-- What a construct always has, where the layout leaves it open. -/
def Phrase.demand? : Phrase → Option (List Allowed)
  | assignment => some (Allowed.having .type ++ Allowed.having .right)
  | assertStatement => some Allowed.plain
  | importStatement | importFromStatement | futureImportStatement =>
    some (Allowed.having .name ++ Allowed.phrases [wildcardImport])
  | _ => none

/-! ### Parts that are never there -/

namespace Grammar

/-- The label of the tree that a step shows, if there is always a single one and always with the same
label. -/
def Step.label? (s : Step) : Option Label :=
  match s.marks.label, s.symbol with
  | some label, _ => some label
  | none, .token t => some (.token t)
  | none, .phrase p => if p.isHidden then none else some (.phrase p)
  | none, .loop _ => none

/-- Whether no tree that a step shows is a given construct. Hidden constructs are looked into a number of
times. -/
def Step.avoids (ps : List Production) (p : Phrase) : Nat → Step → Bool
  | 0, s => s.label?.any (· ≠ .phrase p)
  | n + 1, s =>
    match s.label? with
    | some label => label ≠ .phrase p
    | none => ps.all fun q => q.head ≠ s.symbol || q.steps.toList.all (Step.avoids ps p n)

/-- With fewer productions, there is less to look into. -/
theorem Step.avoids_of_subset {ps qs : List Production} {p : Phrase} (hps : ps ⊆ qs) {n : Nat} {s : Step}
    (h : s.avoids qs p n) : s.avoids ps p n := by
  induction n generalizing s with
  | zero => exact h
  | succ n ih =>
    rw [Step.avoids] at h ⊢
    split
    · rename_i label hlabel
      rw [hlabel] at h
      exact h
    · rename_i hlabel
      rw [hlabel] at h
      refine List.all_eq_true.mpr fun q hq => ?_
      have hq := List.all_eq_true.mp h q (hps hq)
      rw [Bool.or_eq_true] at hq ⊢
      refine hq.imp_right fun hsteps => ?_
      exact List.all_eq_true.mpr fun s hs => ih (List.all_eq_true.mp hsteps s hs)

end Grammar

namespace Fragment

/-- A step with a label shows a single tree. -/
theorem LaidOut.exists_shown_of_label? {f : Fragment} {s : Step} {label : Label} (h : f.LaidOut)
    (hs : f.symbol = s.symbol) (hlabel : s.label? = some label) :
    ∃ t : Tree, f.shown s.marks = [t.assign s.marks.role] ∧ t.label = label ∧ t.role = none := by
  obtain ⟨symbol, level, assoc, name, role⟩ := s
  obtain rfl : f.symbol = symbol := hs
  cases name with
  | none =>
    cases hsymbol : f.symbol with
    | token terminal =>
      obtain ⟨lexeme, htrees⟩ := h.token hsymbol
      obtain rfl : .token terminal = label := by simpa [Step.label?, hsymbol] using hlabel
      exact ⟨.leaf (.token terminal) none lexeme, by simp [shown, hsymbol, htrees], rfl, rfl⟩
    | phrase p =>
      simp only [Step.label?, hsymbol, Option.ite_none_left_eq_some] at hlabel
      obtain ⟨hhidden, hlabel⟩ := hlabel
      obtain rfl := Option.some.inj hlabel
      exact ⟨.node (.phrase p) none f.trees, by simp [shown, hsymbol, hhidden], rfl, rfl⟩
    | loop i => simp [Step.label?, hsymbol] at hlabel
  | some name =>
    obtain rfl := Option.some.inj hlabel
    cases hsymbol : f.symbol with
    | token terminal =>
      obtain ⟨lexeme, htrees⟩ := h.token hsymbol
      exact ⟨.leaf name none lexeme, by simp [shown, hsymbol, htrees], rfl, rfl⟩
    | phrase p => exact ⟨.node name none f.trees, by simp [shown, hsymbol], rfl, rfl⟩
    | loop i => exact ⟨.node name none f.trees, by simp [shown, hsymbol], rfl, rfl⟩

/-- A step without a label of its own shows the trees of the fragment. -/
theorem shown_of_label? {f : Fragment} {s : Step} (hs : f.symbol = s.symbol) (hlabel : s.label? = none) :
    (∀ terminal, f.symbol ≠ .token terminal) ∧ f.shown s.marks = f.trees.map (Tree.assign s.marks.role) := by
  obtain ⟨symbol, level, assoc, name, role⟩ := s
  obtain rfl : f.symbol = symbol := hs
  cases name with
  | some name => cases hlabel
  | none =>
    cases hsymbol : f.symbol with
    | token terminal => simp [Step.label?, hsymbol] at hlabel
    | phrase p =>
      have hhidden : p.isHidden := by simpa [Step.label?, hsymbol] using hlabel
      exact ⟨by simp, by simp [shown, hsymbol, hhidden]⟩
    | loop i => exact ⟨by simp, by simp [shown, hsymbol]⟩

end Fragment

theorem Tree.IsExtra.is_eq_false {t : Tree} (h : t.IsExtra) (p : Phrase) : t.is p = false := by
  obtain ⟨terminal, lexeme, -, rfl⟩ := h
  rfl

/-- What holds of comments and continued lines and of all that the steps of a production show holds of all
trees of the production. -/
theorem Grammar.Production.Derives.forall_trees {q : Production} {parts : List Fragment} {P : Tree → Prop}
    (h : q.Derives parts) (extras : ∀ t : Tree, t.IsExtra → P t)
    (shown : ∀ f ∈ parts, f.Derived → ∀ s ∈ q.steps.toList, f.symbol = s.symbol → ∀ t ∈ f.shown s.marks, P t) :
    ∀ t ∈ (Fragment.ofProduction q parts).trees, P t := by
  intro t ht
  obtain ⟨x, hx, ht⟩ := Fragment.exists_of_mem_trees ht
  obtain ⟨hlaid, hsymbol, -⟩ := h.filled.of_mem_zip hx
  obtain ⟨hf, hs⟩ := List.of_mem_zip hx
  rcases ht with ht | ht
  · exact extras t (hlaid.lead t ht)
  · exact shown x.1 hf (h.derived x.1 hf) x.2 hs hsymbol t ht

/-- What a step avoids is not shown. -/
theorem Fragment.Derived.is_eq_false {f : Fragment} {s : Step} {p : Phrase} {n : Nat} (h : f.Derived)
    (hs : f.symbol = s.symbol) (havoids : s.avoids allProductions p n) :
    ∀ t ∈ f.shown s.marks, t.is p = false := by
  have labelled {f : Fragment} {s : Step} {label : Label} (h : f.Derived) (hs : f.symbol = s.symbol)
      (hlabel : s.label? = some label) (hne : label ≠ .phrase p) :
      ∀ t ∈ f.shown s.marks, t.is p = false := by
    intro t ht
    obtain ⟨u, hshown, hu, -⟩ := h.laidOut.exists_shown_of_label? hs hlabel
    rw [hshown, List.mem_singleton] at ht
    rw [ht, Tree.is, Tree.label_assign, hu]
    exact beq_eq_false_iff_ne.mpr hne
  induction n generalizing f s with
  | zero =>
    obtain ⟨label, hlabel, hne⟩ := (Option.any_eq_true _ _).mp havoids
    exact labelled h hs hlabel (of_decide_eq_true hne)
  | succ n ih =>
    rw [Step.avoids] at havoids
    split at havoids
    · rename_i label hlabel
      exact labelled h hs hlabel (of_decide_eq_true havoids)
    · rename_i hlabel
      obtain ⟨htoken, hshown⟩ := shown_of_label? hs hlabel
      obtain ⟨q, parts, hderives, hhead, rfl⟩ := h.exists_production htoken
      have hq := List.all_eq_true.mp havoids q hderives.known
      rw [Bool.or_eq_true, decide_eq_true_eq] at hq
      have hsteps := List.all_eq_true.mp (hq.resolve_left fun hne => hne (hhead.trans hs))
      have htrees : ∀ u ∈ (ofProduction q parts).trees, u.is p = false :=
        hderives.forall_trees (fun u hu => hu.is_eq_false p) fun f _ hf s hs hsymbol =>
          ih hf hsymbol (hsteps s hs)
      intro t ht
      rw [hshown] at ht
      obtain ⟨u, hu, rfl⟩ := List.mem_map.mp ht
      rw [Tree.is, Tree.label_assign]
      exact htrees u hu

/-- What all steps of a production avoid is not among its trees. -/
theorem Grammar.Production.Derives.is_eq_false {q : Production} {parts : List Fragment} {p : Phrase} {n : Nat}
    (h : q.Derives parts) (havoids : q.steps.toList.all (Step.avoids allProductions p n)) :
    ∀ t ∈ (Fragment.ofProduction q parts).trees, t.is p = false :=
  h.forall_trees (fun _ ht => ht.is_eq_false p) fun _ _ hf s hs hsymbol =>
    hf.is_eq_false hsymbol (List.all_eq_true.mp havoids s hs)

/-! ### Comparisons -/

/-- The ways to write a comparison. -/
def Comparison.spellings : Comparison → List String
  | eq => ["=="]
  | notEq => ["!=", "<>"]
  | lt => ["<"]
  | ltE => ["<="]
  | gt => [">"]
  | gtE => [">="]
  | is => ["is"]
  | isNot => ["is not"]
  | isIn => ["in"]
  | notIn => ["not in"]

theorem Comparison.ofSpelling?_eq_some_iff {word : String} {op : Comparison} :
    ofSpelling? word = some op ↔ word ∈ op.spellings := by
  constructor
  · intro h
    unfold ofSpelling? at h
    split at h <;> cases h <;> simp [spellings]
  · intro h
    cases op <;> simp only [spellings, List.mem_cons, List.not_mem_nil, or_false] at h <;>
      first
      | rw [h]; rfl
      | rcases h with rfl | rfl <;> rfl

/-- The comparison that a label stands for. -/
def Label.comparison? : Label → Option Comparison
  | .token (.literal word) => Comparison.ofSpelling? word
  | _ => none

theorem Label.exists_of_comparison? {label : Label} {op : Comparison} (h : label.comparison? = some op) :
    ∃ word ∈ op.spellings, label = .token (.literal word) := by
  unfold comparison? at h
  split at h
  · rename_i word
    exact ⟨word, Comparison.ofSpelling?_eq_some_iff.mp h, rfl⟩
  · cases h

namespace Tree

/-- Whether a tree is a comment or a continued line. -/
def isExtra (t : Tree) : Bool :=
  match t.label with
  | .token terminal => terminal.isExtra
  | .phrase _ => false

/-- Whether a tree is a part that means something by itself. -/
def isOperand (t : Tree) : Bool := t.label.isPart

theorem IsExtra.isExtra {t : Tree} (h : t.IsExtra) : t.isExtra := by
  obtain ⟨terminal, lexeme, hextra, rfl⟩ := h
  exact hextra

theorem isExtra_of_isOperand {t : Tree} (h : t.isOperand) : t.isExtra = false := by
  rw [isOperand] at h
  rw [isExtra]
  cases hlabel : t.label with
  | phrase p => rfl
  | token terminal =>
    rw [hlabel] at h
    exact Bool.not_eq_true' _ ▸ (Bool.and_eq_true_iff.mp h).2

end Tree

/-- Trees without the comments and continued lines among them. -/
def content (ts : List Tree) : List Tree := ts.filter fun t => !t.isExtra

theorem content_append (ts us : List Tree) : content (ts ++ us) = content ts ++ content us :=
  List.filter_append ..

theorem content_eq_nil {ts : List Tree} (h : ∀ t ∈ ts, t.IsExtra) : content ts = [] :=
  List.filter_eq_nil_iff.mpr fun t ht => by simp [(h t ht).isExtra]

theorem content_operand {t : Tree} (h : t.isOperand) : content [t] = [t] := by
  simp [content, Tree.isExtra_of_isOperand h]

/-- A sign of a comparison and the operand after it. -/
structure Link where
  op : Comparison
  word : String
  sign : Tree
  operand : Tree
  isSpelling : word ∈ op.spellings
  isSign : sign.label = .token (.literal word)
  isOperand : operand.isOperand

namespace Link

/-- The two trees of a link. -/
def trees (l : Link) : List Tree := [l.sign, l.operand]

theorem content_trees (l : Link) : content l.trees = l.trees := by
  have hsign : l.sign.isExtra = false := by
    rw [Tree.isExtra, l.isSign]
    rfl
  simp [content, trees, hsign, Tree.isExtra_of_isOperand l.isOperand]

end Link

/-- A comparison: operands with signs between them. Comments and continued lines may stand anywhere. -/
structure Chain where
  tree : Tree
  first : Tree
  links : List Link
  isOperand : first.isOperand
  nonempty : links ≠ []
  parts : content tree.children = first :: links.flatMap Link.trees

/-! ### Connectives -/

/-- The word for a connective. -/
def Connective.spelling : Connective → String
  | and => "and"
  | or => "or"

theorem Connective.ofSpelling?_eq_some_iff {word : String} {op : Connective} :
    ofSpelling? word = some op ↔ word = op.spelling := by
  constructor
  · intro h
    unfold ofSpelling? at h
    split at h <;> cases h <;> rfl
  · rintro rfl
    cases op <;> rfl

/-- The connective that a label stands for. -/
def Label.connective? : Label → Option Connective
  | .token (.literal word) => Connective.ofSpelling? word
  | _ => none

theorem Label.eq_of_connective? {label : Label} {op : Connective} (h : label.connective? = some op) :
    label = .token (.literal op.spelling) := by
  unfold connective? at h
  split at h
  · rw [Connective.ofSpelling?_eq_some_iff.mp h]
  · cases h

/-- Two operands with a connective between them. -/
structure Join where
  tree : Tree
  left : Tree
  sign : Tree
  right : Tree
  op : Connective
  isJoin : tree.is .booleanOperator
  parts : marked tree.children = [left, sign, right]
  isLeft : left.role = some .left ∧ left.isOperand
  isSign : sign.role = some .operator ∧ sign.label = .token (.literal op.spelling)
  isRight : right.role = some .right ∧ right.isOperand

namespace Grammar

/-- Whether a step shows the sign of a comparison. -/
def Step.isSign (s : Step) : Bool := s.label?.any fun label => label.comparison?.isSome

/-- Whether a production of a loop is made of a sign and an operand, or of the loop twice. -/
def Production.alternates (x : Symbol) (p : Production) : Bool :=
  match p.steps.toList with
  | [a, b] => a.isPlain x && b.isPlain x || a.isSign && b.isPart
  | _ => false

/-- Whether a production is made of an operand and a loop of signs and operands. -/
def Production.isChain (ps : List Production) (p : Production) : Bool :=
  match p.steps.toList with
  | [a, b] => a.isPart && (b.symbol.isHidden && b.isPlain b.symbol &&
      ps.all fun q => q.head ≠ b.symbol || q.alternates b.symbol)
  | _ => false

/-- Whether a step shows a connective. -/
def Step.isConnective (s : Step) : Bool := s.label?.any fun label => label.connective?.isSome

/-- Whether a production is made of two operands and a connective. -/
def Production.isJoin (p : Production) : Bool :=
  match p.steps.toList with
  | [a, b, c] => (a.isPart && a.marks.role = some .left) && (b.isConnective && b.marks.role = some .operator) &&
      (c.isPart && c.marks.role = some .right)
  | _ => false

end Grammar

namespace Fragment

/-- A step for a sign shows a tree with a spelling of a comparison. -/
theorem LaidOut.exists_shown_of_isSign {f : Fragment} {s : Step} (h : f.LaidOut) (hs : f.symbol = s.symbol)
    (hsign : s.isSign) : ∃ (op : Comparison) (word : String) (t : Tree), f.shown s.marks = [t] ∧
      word ∈ op.spellings ∧ t.label = .token (.literal word) := by
  obtain ⟨label, hlabel, hsome⟩ := (Option.any_eq_true _ _).mp hsign
  obtain ⟨op, hop⟩ := Option.isSome_iff_exists.mp hsome
  obtain ⟨word, hword, rfl⟩ := Label.exists_of_comparison? hop
  obtain ⟨t, hshown, ht, -⟩ := h.exists_shown_of_label? hs hlabel
  exact ⟨op, word, _, hshown, hword, by rw [Tree.label_assign, ht]⟩

/-- A step for a connective shows a tree with its word. -/
theorem LaidOut.exists_shown_of_isConnective {f : Fragment} {s : Step} (h : f.LaidOut)
    (hs : f.symbol = s.symbol) (hsign : s.isConnective) : ∃ (op : Connective) (t : Tree),
      f.shown s.marks = [t] ∧ t.label = .token (.literal op.spelling) ∧ t.role = s.marks.role := by
  obtain ⟨label, hlabel, hsome⟩ := (Option.any_eq_true _ _).mp hsign
  obtain ⟨op, hop⟩ := Option.isSome_iff_exists.mp hsome
  obtain rfl := Label.eq_of_connective? hop
  obtain ⟨t, hshown, ht, hrole⟩ := h.exists_shown_of_label? hs hlabel
  refine ⟨op, _, hshown, by rw [Tree.label_assign, ht], Tree.role_assign ?_ hrole⟩
  rw [ht]
  rfl

end Fragment

namespace Grammar.Production.Derives

variable {p : Production} {parts : List Fragment} {a b : Step}

/-- The trees of a production with two steps. -/
theorem exists_of_steps_eq (h : p.Derives parts) (hsteps : p.steps.toList = [a, b]) :
    ∃ f g, parts = [f, g] ∧ f.symbol = a.symbol ∧ g.symbol = b.symbol ∧
      (Fragment.ofProduction p parts).trees = f.shown a.marks ++ (g.lead ++ g.shown b.marks) := by
  have hsymbols := h.symbols
  rw [hsteps] at hsymbols
  obtain ⟨f, rest, rfl, hf, hrest⟩ := List.map_eq_cons_iff.mp hsymbols
  obtain ⟨g, rfl, hg⟩ := List.map_eq_singleton_iff.mp hrest
  refine ⟨f, g, rfl, hf, hg, ?_⟩
  rw [Fragment.trees_ofProduction, hsteps]
  simp

/-- A production for a connective makes two operands and its word. -/
theorem exists_of_isJoin (h : p.Derives parts) (hjoin : p.isJoin) :
    ∃ (left sign right : Tree) (op : Connective),
      marked (Fragment.ofProduction p parts).trees = [left, sign, right] ∧
      (left.role = some .left ∧ left.isOperand) ∧
      (sign.role = some .operator ∧ sign.label = .token (.literal op.spelling)) ∧
      right.role = some .right ∧ right.isOperand := by
  unfold Production.isJoin at hjoin
  split at hjoin
  · rename_i a b c hsteps
    simp only [Bool.and_eq_true, decide_eq_true_eq] at hjoin
    obtain ⟨⟨⟨hleft, hleft'⟩, hsign, hsign'⟩, hright, hright'⟩ := hjoin
    have hsymbols := h.symbols
    rw [hsteps] at hsymbols
    obtain ⟨f, rest, rfl, hf, hrest⟩ := List.map_eq_cons_iff.mp hsymbols
    obtain ⟨g, rest, rfl, hg, hrest⟩ := List.map_eq_cons_iff.mp hrest
    obtain ⟨k, rfl, hk⟩ := List.map_eq_singleton_iff.mp hrest
    obtain ⟨left, hl, hoperand, hrole⟩ := (h.filled.laidOut f (by simp)).exists_shown_of_isPart hf
      (h.filled.isProper (by simp [hsteps])) hleft
    obtain ⟨op, sign, hs, hlabel, hrole'⟩ := (h.filled.laidOut g (by simp)).exists_shown_of_isConnective hg hsign
    obtain ⟨right, hr, hoperand', hrole''⟩ := (h.filled.laidOut k (by simp)).exists_shown_of_isPart hk
      (h.filled.isProper (by simp [hsteps])) hright
    rw [hleft'] at hrole
    rw [hsign'] at hrole'
    rw [hright'] at hrole''
    refine ⟨left, sign, right, op, ?_, ⟨hrole, hoperand⟩, ⟨hrole', hlabel⟩, hrole'', hoperand'⟩
    rw [Fragment.marked_trees fun f hf => (h.filled.laidOut f hf).lead, hsteps]
    simp [hl, hs, hr, marked, Tree.isMarked, hrole, hrole', hrole'']
  · cases hjoin

end Grammar.Production.Derives

/-- A loop of signs and operands is made of links. -/
theorem Fragment.Derived.exists_links {f : Fragment} {x : Symbol} (h : f.Derived) (hsymbol : f.symbol = x)
    (hhidden : x.isHidden) (hall : allProductions.all fun p => p.head ≠ x || p.alternates x) :
    ∃ links : List Link, links ≠ [] ∧ content f.trees = links.flatMap Link.trees := by
  induction h with
  | token terminal lead lexeme ordinary extras =>
    rw [← hsymbol] at hhidden
    cases hhidden
  | production p parts known symbols derived ih =>
    have hderives : p.Derives parts := ⟨known, symbols, derived⟩
    have hp := List.all_eq_true.mp hall p known
    rw [Bool.or_eq_true, decide_eq_true_eq] at hp
    have halternates := hp.resolve_left fun hne => hne hsymbol
    unfold Production.alternates at halternates
    split at halternates
    · rename_i a b hsteps
      obtain ⟨f, g, rfl, ha, hb, htrees⟩ := hderives.exists_of_steps_eq hsteps
      have hf := hderives.filled.laidOut f List.mem_cons_self
      have hg := hderives.filled.laidOut g (List.mem_cons_of_mem f List.mem_cons_self)
      rw [htrees, content_append, content_append, content_eq_nil hg.lead, List.nil_append]
      rcases Bool.or_eq_true_iff.mp halternates with hloops | hturn
      · obtain ⟨hloop, hloop'⟩ := Bool.and_eq_true_iff.mp hloops
        obtain ⟨hself, hshown⟩ := shown_of_isPlain ha hhidden hloop
        obtain ⟨hself', hshown'⟩ := shown_of_isPlain hb hhidden hloop'
        obtain ⟨links, hne, hlinks⟩ := ih f List.mem_cons_self hself
        obtain ⟨links', -, hlinks'⟩ := ih g (List.mem_cons_of_mem f List.mem_cons_self) hself'
        refine ⟨links ++ links', List.append_ne_nil_of_left_ne_nil hne _, ?_⟩
        rw [hshown, hshown', hlinks, hlinks', List.flatMap_append]
      · obtain ⟨hsign, hpart⟩ := Bool.and_eq_true_iff.mp hturn
        have hproper : b.isProper := hderives.filled.isProper (by simp [hsteps])
        obtain ⟨op, word, sign, hshown, hword, hlabel⟩ := hf.exists_shown_of_isSign ha hsign
        obtain ⟨operand, hshown', hoperand, -⟩ := hg.exists_shown_of_isPart hb hproper hpart
        refine ⟨[⟨op, word, sign, operand, hword, hlabel, hoperand⟩], List.cons_ne_nil _ _, ?_⟩
        rw [hshown, hshown', ← content_append, List.flatMap_singleton]
        exact Link.content_trees ⟨op, word, sign, operand, hword, hlabel, hoperand⟩
    · cases halternates

/-- A production for a comparison makes a first operand, and then links. -/
theorem Grammar.Production.Derives.exists_of_isChain {p : Production} {parts : List Fragment}
    (h : p.Derives parts) (hchain : p.isChain allProductions) :
    ∃ (first : Tree) (links : List Link), first.isOperand ∧ links ≠ [] ∧
      content (Fragment.ofProduction p parts).trees = first :: links.flatMap Link.trees := by
  unfold Production.isChain at hchain
  split at hchain
  · rename_i a b hsteps
    obtain ⟨hpart, hloop⟩ := Bool.and_eq_true_iff.mp hchain
    obtain ⟨hplain, hall⟩ := Bool.and_eq_true_iff.mp hloop
    obtain ⟨hhidden, hplain⟩ := Bool.and_eq_true_iff.mp hplain
    obtain ⟨f, g, rfl, ha, hb, htrees⟩ := h.exists_of_steps_eq hsteps
    have hf := h.filled.laidOut f List.mem_cons_self
    have hg := h.filled.laidOut g (List.mem_cons_of_mem f List.mem_cons_self)
    have hderived := h.derived g (List.mem_cons_of_mem f List.mem_cons_self)
    have hproper : a.isProper := h.filled.isProper (by simp [hsteps])
    obtain ⟨first, hfirst, hoperand, -⟩ := hf.exists_shown_of_isPart ha hproper hpart
    obtain ⟨hself, hshown⟩ := Fragment.shown_of_isPlain hb hhidden hplain
    obtain ⟨links, hne, hlinks⟩ := hderived.exists_links hself hhidden hall
    refine ⟨first, links, hoperand, hne, ?_⟩
    rw [htrees, content_append, content_append, content_eq_nil hg.lead, hfirst, content_operand hoperand, hshown,
      hlinks]
    rfl
  · cases hchain

/-! ### Complete constructs -/

namespace Label

/-- What whatever appears under a label always has. -/
def demand? : Label → Option (List Allowed)
  | .phrase p => p.demand?
  | .token _ => none

/-- Whether the name of a label is not one that readings use for something else. -/
def isOrdinary (label : Label) : Bool := label.text != "missing" && label.text != Reading.interpolated

theorem isOrdinary_of_isLeaf {label : Label} (h : label.isLeaf) : label.isOrdinary := by
  cases label with
  | phrase p =>
    obtain rfl : p = .block := of_decide_eq_true h
    decide
  | token t =>
    cases t with
    | literal spelling =>
      have hmem : spelling ∈ Terminal.words ++ Terminal.signs := by
        have hlt := of_decide_eq_true h
        rw [Terminal.index, Terminal.count] at hlt
        exact List.idxOf_lt_length_iff.mp (by omega)
      have hall : (Terminal.words ++ Terminal.signs).all
          (fun s => (Label.token (.literal s)).isOrdinary) = true := by
        decide
      exact List.all_eq_true.mp hall spelling hmem
    | _ => decide

end Label

theorem Phrase.isOrdinary_appearances :
    (Phrase.all.all fun p => p.appearances.all Label.isOrdinary) = true := by
  decide +kernel

theorem Phrase.isOrdinary_of_mem_appearances {p : Phrase} {label : Label}
    (h : label ∈ p.appearances) : label.isOrdinary :=
  List.all_eq_true.mp (List.all_eq_true.mp isOrdinary_appearances p (mem_all p)) label h

namespace Grammar

/-- Whether a production has all that is asked of whatever appears under a label. An import has its names
in a hidden construct, so one level of them is looked into. -/
def Production.completes (ps : List Production) (p : Production) (label : Label) : Bool :=
  (match label.demand? with
    | some wanted => p.ensures ps wanted 1
    | none => true) &&
  (label ≠ .phrase .comparisonOperator || p.isChain ps) && (label ≠ .phrase .booleanOperator || p.isJoin)

theorem completes_forms :
    (allForms.all fun p =>
      match p.head with
      | .phrase q => q.appearances.all (p.completes allForms)
      | _ => true) = true := by
  decide +kernel

section Antitone

variable {ps qs : List Production} {p : Production} (hps : ps ⊆ qs)
include hps

theorem Production.ensures_of_subset {wanted : List Allowed} {n : Nat} (h : p.ensures qs wanted n) :
    p.ensures ps wanted n := by
  induction n generalizing p with
  | zero => exact h
  | succ n ih =>
    obtain ⟨s, hs, hensures⟩ := List.any_eq_true.mp h
    refine List.any_eq_true.mpr ⟨s, hs, ?_⟩
    rw [Bool.or_eq_true] at hensures ⊢
    refine hensures.imp_right fun hhidden => ?_
    obtain ⟨hplain, hall⟩ := Bool.and_eq_true_iff.mp hhidden
    refine Bool.and_eq_true_iff.mpr ⟨hplain, List.all_eq_true.mpr fun q hq => ?_⟩
    have hq := List.all_eq_true.mp hall q (hps hq)
    rw [Bool.or_eq_true] at hq ⊢
    exact hq.imp_right ih

theorem Production.isChain_of_subset (h : p.isChain qs) : p.isChain ps := by
  unfold Production.isChain at h ⊢
  split
  · rename_i a b hsteps
    simp only [hsteps] at h
    obtain ⟨hpart, hloop⟩ := Bool.and_eq_true_iff.mp h
    obtain ⟨hplain, hall⟩ := Bool.and_eq_true_iff.mp hloop
    refine Bool.and_eq_true_iff.mpr ⟨hpart, Bool.and_eq_true_iff.mpr ⟨hplain, ?_⟩⟩
    exact List.all_eq_true.mpr fun q hq => List.all_eq_true.mp hall q (hps hq)
  · rename_i hsteps
    split at h
    · rename_i a b heq
      exact absurd heq (hsteps a b)
    · cases h

theorem Production.completes_of_subset {label : Label} (h : p.completes qs label) : p.completes ps label := by
  obtain ⟨hcomplete, hjoin⟩ := Bool.and_eq_true_iff.mp h
  obtain ⟨hdemand, hchain⟩ := Bool.and_eq_true_iff.mp hcomplete
  refine Bool.and_eq_true_iff.mpr ⟨Bool.and_eq_true_iff.mpr ⟨?_, ?_⟩, hjoin⟩
  · split
    · rename_i wanted hwanted
      rw [hwanted] at hdemand
      exact ensures_of_subset hps hdemand
    · rfl
  · rw [Bool.or_eq_true] at hchain ⊢
    exact hchain.imp_right (isChain_of_subset hps)

end Antitone

theorem Production.completes_of_mem_appearances {p : Production} {q : Phrase} {label : Label}
    (hp : p ∈ allProductions) (hhead : p.head = .phrase q) (hlabel : label ∈ q.appearances) :
    p.completes allProductions label := by
  have hcompletes := List.all_eq_true.mp completes_forms p (allProductions_subset hp)
  simp only [hhead] at hcompletes
  exact completes_of_subset allProductions_subset (List.all_eq_true.mp hcompletes label hlabel)

end Grammar

/-- A construct with all that belongs to it. -/
structure Tree.Complete (t : Tree) : Prop where
  ordinary : t.label.isOrdinary
  layout : ∀ {slots}, t.label.layout? = some slots → Follows slots (marked t.children)
  demand : ∀ {wanted}, t.label.demand? = some wanted → ∃ c ∈ marked t.children, admitted wanted c
  chain : t.is .comparisonOperator → ∃ c : Chain, c.tree = t
  join : t.is .booleanOperator → ∃ j : Join, j.tree = t

theorem Tree.Grows.complete {t : Tree} (h : t.Grows) : t.Complete := by
  cases h with
  | @leaf label known role lexeme =>
    have ordinary := Label.isOrdinary_of_isLeaf known
    cases label with
    | token terminal =>
      refine ⟨ordinary, fun hslots => ?_, nofun, fun hcomparison => ?_, fun hjoin => ?_⟩
      · obtain rfl := Option.some.inj hslots
        rfl
      · cases eq_of_beq hcomparison
      · cases eq_of_beq hjoin
    | phrase p =>
      obtain rfl : p = .block := of_decide_eq_true known
      refine ⟨ordinary, nofun, nofun, fun hcomparison => ?_, fun hjoin => ?_⟩
      · cases eq_of_beq hcomparison
      · cases eq_of_beq hjoin
  | @node p parts q label derives head appears role =>
    have hcompletes := Production.completes_of_mem_appearances derives.known head appears
    obtain ⟨hcomplete, hjoins⟩ := Bool.and_eq_true_iff.mp hcompletes
    obtain ⟨hdemand, hchain⟩ := Bool.and_eq_true_iff.mp hcomplete
    obtain ⟨hlayout, -⟩ := Bool.and_eq_true_iff.mp (derives.filled.fits head appears)
    refine ⟨Phrase.isOrdinary_of_mem_appearances appears, fun {slots} hslots => ?layout,
      fun {wanted} hwanted => ?demand, fun hcomparison => ?chain, fun hjoin => ?join⟩
    case layout =>
      have hslots : label.layout? = some slots := hslots
      simp only [hslots] at hlayout
      exact derives.filled.follows.of_cover hlayout
    case demand =>
      have hwanted : label.demand? = some wanted := hwanted
      simp only [hwanted] at hdemand
      exact derives.exists_of_ensures hdemand
    case chain =>
      have hlabel : label = .phrase .comparisonOperator := eq_of_beq hcomparison
      rw [hlabel, Bool.or_eq_true, decide_eq_true_eq] at hchain
      obtain ⟨first, links, hfirst, hlinks, hparts⟩ :=
        derives.exists_of_isChain (hchain.resolve_left fun hne => hne rfl)
      exact ⟨⟨.node label role _, first, links, hfirst, hlinks, hparts⟩, rfl⟩
    case join =>
      have hlabel : label = .phrase .booleanOperator := eq_of_beq hjoin
      rw [hlabel, Bool.or_eq_true, decide_eq_true_eq] at hjoins
      obtain ⟨left, sign, right, op, hparts, hleft, hsign, hright⟩ :=
        derives.exists_of_isJoin (hjoins.resolve_left fun hne => hne rfl)
      exact ⟨⟨.node label role _, left, sign, right, op, hjoin, hparts, hleft, hsign, hright⟩, rfl⟩

end CodeAudit
