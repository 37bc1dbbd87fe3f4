import CodeAudit.Proofs.Parsing

/-!
# How constructs are laid out

The grammar is a long list of productions, and what a construct consists of is spread over all those
that it can begin with. Here it is said in one place: `Phrase.layout?` lists the places of a construct,
what may stand at each of them and how often. Comments, continued lines and signs that have no role
are left out of the account.

That trees follow these layouts is checked production by production. A production names its parts one
by one, except where a loop or a hidden construct contributes trees of its own; for these it is worked
out which trees they can contribute. What the check says about productions then carries over to
everything that is derived from them, `Tree.IsModule.wellFormed`.
-/

namespace CodeAudit

open Grammar

/-- Whether a label is that of a part which means something by itself. -/
def Label.isPart : Label → Bool
  | .phrase _ => true
  | .token t => t.isNamed && !t.isExtra

/-- Whether a tree is a part or has a role. -/
def Tree.isMarked (t : Tree) : Bool := t.label.isPart || t.role.isSome

/-- The trees that count in a layout. -/
def marked (ts : List Tree) : List Tree := ts.filter Tree.isMarked

/-- What may stand at a place: a tree with one of some labels, and with a role. Without a list of
labels all of them will do, and likewise for the role. -/
structure Allowed where
  labels : Option (List Label) := none
  role : Option (Option Role) := none

namespace Allowed

/-- Whether a tree may stand at a place. -/
def admits (a : Allowed) (t : Tree) : Bool :=
  (match a.labels with
    | some labels => labels.contains t.label
    | none => true) &&
  (match a.role with
    | some role => t.role == role
    | none => true)

/-- Whether all that may stand at a place may stand at another one. -/
def within (a b : Allowed) : Bool :=
  (match a.labels, b.labels with
    | _, none => true
    | some as, some bs => as.all bs.contains
    | none, some _ => false) &&
  (match a.role, b.role with
    | _, none => true
    | some r, some s => r == s
    | none, some _ => false)

theorem admits_of_within {a b : Allowed} (h : a.within b) {t : Tree} (ht : a.admits t) :
    b.admits t := by
  obtain ⟨as, ar⟩ := a
  obtain ⟨bs, br⟩ := b
  simp only [within, admits, Bool.and_eq_true] at h ht ⊢
  constructor
  · cases bs with
    | none => rfl
    | some bs =>
      cases as with
      | none => cases h.1
      | some as => exact List.all_eq_true.mp h.1 t.label (List.contains_iff_mem.mp ht.1)
  · cases br with
    | none => rfl
    | some s =>
      cases ar with
      | none => cases h.2
      | some r => rw [← eq_of_beq h.2]; exact ht.2

end Allowed

/-- A place in a construct: what may stand there, and how often. -/
inductive Slot where
  | one (allowed : List Allowed)
  | opt (allowed : List Allowed)
  | many (allowed : List Allowed)

/-- Whether a tree is one of those that may stand at a place. -/
def admitted (as : List Allowed) (t : Tree) : Bool := as.any fun a => a.admits t

/-- Trees that stand at the places of a construct, in order. -/
def Follows : List Slot → List Tree → Prop
  | [], ts => ts = []
  | .one a :: slots, ts => ∃ t rest, ts = t :: rest ∧ admitted a t ∧ Follows slots rest
  | .opt a :: slots, ts =>
    Follows slots ts ∨ ∃ t rest, ts = t :: rest ∧ admitted a t ∧ Follows slots rest
  | .many a :: slots, ts =>
    ∃ front rest, ts = front ++ rest ∧ (∀ t ∈ front, admitted a t) ∧ Follows slots rest

namespace Slot

def allowed : Slot → List Allowed
  | one a | opt a | many a => a

/-- Whether all that may stand at a place may stand at another one. -/
def within (as bs : List Allowed) : Bool := as.all fun a => bs.any a.within

theorem admitted_of_within {as bs : List Allowed} (h : within as bs) {t : Tree}
    (ht : admitted as t) : admitted bs t := by
  obtain ⟨a, ha, hat⟩ := List.any_eq_true.mp ht
  obtain ⟨b, hb, hab⟩ := List.any_eq_true.mp (List.all_eq_true.mp h a ha)
  exact List.any_eq_true.mpr ⟨b, hb, Allowed.admits_of_within hab hat⟩

/-- Whether the places of one list are all found in another one, in order. -/
def cover : List Slot → List Slot → Bool
  | [], ss => ss.isEmpty
  | one a :: slots, ss =>
    match ss with
    | one b :: rest => within b a && cover slots rest
    | _ => false
  | opt a :: slots, ss =>
    match ss with
    | one b :: rest => if within b a then cover slots rest else cover slots ss
    | _ => cover slots ss
  | many a :: slots, ss => cover slots (ss.dropWhile fun s => within s.allowed a)

end Slot

namespace Follows

variable {slots slots' : List Slot} {ts ts' : List Tree}

theorem append (h : Follows slots ts) (h' : Follows slots' ts') :
    Follows (slots ++ slots') (ts ++ ts') := by
  induction slots generalizing ts with
  | nil =>
    obtain rfl : ts = [] := h
    exact h'
  | cons slot slots ih =>
    cases slot with
    | one a =>
      obtain ⟨t, rest, rfl, ht, hrest⟩ := h
      exact ⟨t, rest ++ ts', rfl, ht, ih hrest⟩
    | opt a =>
      rcases h with h | ⟨t, rest, rfl, ht, hrest⟩
      · exact .inl (ih h)
      · exact .inr ⟨t, rest ++ ts', rfl, ht, ih hrest⟩
    | many a =>
      obtain ⟨front, rest, rfl, hfront, hrest⟩ := h
      exact ⟨front, rest ++ ts', List.append_assoc _ _ _, hfront, ih hrest⟩

/-- Trees at the places of two lists are trees at the places of one, and then of the other. -/
theorem exists_append (h : Follows (slots ++ slots') ts) :
    ∃ front rest, ts = front ++ rest ∧ Follows slots front ∧ Follows slots' rest := by
  induction slots generalizing ts with
  | nil => exact ⟨[], ts, rfl, rfl, h⟩
  | cons slot slots ih =>
    cases slot with
    | one a =>
      obtain ⟨t, rest, rfl, ht, hrest⟩ := h
      obtain ⟨front, rest, rfl, hfront, hrest⟩ := ih hrest
      exact ⟨t :: front, rest, rfl, ⟨t, front, rfl, ht, hfront⟩, hrest⟩
    | opt a =>
      rcases h with h | ⟨t, rest, rfl, ht, hrest⟩
      · obtain ⟨front, rest, rfl, hfront, hrest⟩ := ih h
        exact ⟨front, rest, rfl, .inl hfront, hrest⟩
      · obtain ⟨front, rest, rfl, hfront, hrest⟩ := ih hrest
        exact ⟨t :: front, rest, rfl, .inr ⟨t, front, rfl, ht, hfront⟩, hrest⟩
    | many a =>
      obtain ⟨here, rest, rfl, hhere, hrest⟩ := h
      obtain ⟨front, rest, rfl, hfront, hrest⟩ := ih hrest
      exact ⟨here ++ front, rest, (List.append_assoc _ _ _).symm, ⟨here, front, rfl, hhere, hfront⟩,
        hrest⟩

/-- Each tree stands at one of the places. -/
theorem exists_of_mem (h : Follows slots ts) {t : Tree} (ht : t ∈ ts) :
    ∃ slot ∈ slots, admitted slot.allowed t := by
  induction slots generalizing ts with
  | nil =>
    obtain rfl : ts = [] := h
    cases ht
  | cons slot slots ih =>
    have later {rest : List Tree} (hrest : Follows slots rest) (ht : t ∈ rest) :
        ∃ slot' ∈ slot :: slots, admitted slot'.allowed t := by
      obtain ⟨slot', hslot, hadmitted⟩ := ih hrest ht
      exact ⟨slot', List.mem_cons_of_mem _ hslot, hadmitted⟩
    cases slot with
    | one a =>
      obtain ⟨first, rest, rfl, hfirst, hrest⟩ := h
      rcases List.mem_cons.mp ht with rfl | ht
      · exact ⟨_, List.mem_cons_self, hfirst⟩
      · exact later hrest ht
    | opt a =>
      rcases h with h | ⟨first, rest, rfl, hfirst, hrest⟩
      · exact later h ht
      · rcases List.mem_cons.mp ht with rfl | ht
        · exact ⟨_, List.mem_cons_self, hfirst⟩
        · exact later hrest ht
    | many a =>
      obtain ⟨front, rest, rfl, hfront, hrest⟩ := h
      rcases List.mem_append.mp ht with ht | ht
      · exact ⟨_, List.mem_cons_self, hfront t ht⟩
      · exact later hrest ht

theorem of_cover (hc : Slot.cover slots slots') (h : Follows slots' ts) : Follows slots ts := by
  induction slots generalizing slots' ts with
  | nil =>
    rw [Slot.cover, List.isEmpty_iff] at hc
    subst hc
    exact h
  | cons slot slots ih =>
    cases slot with
    | one a =>
      rw [Slot.cover.eq_def] at hc
      dsimp only at hc
      split at hc
      · obtain ⟨t, rest, rfl, ht, hrest⟩ := h
        obtain ⟨hwithin, hc⟩ := Bool.and_eq_true_iff.mp hc
        exact ⟨t, rest, rfl, Slot.admitted_of_within hwithin ht, ih hc hrest⟩
      · cases hc
    | opt a =>
      rw [Slot.cover.eq_def] at hc
      dsimp only at hc
      split at hc
      · split at hc
        · rename_i hwithin
          obtain ⟨t, rest, rfl, ht, hrest⟩ := h
          exact .inr ⟨t, rest, rfl, Slot.admitted_of_within hwithin ht, ih hc hrest⟩
        · exact .inl (ih hc h)
      · exact .inl (ih hc h)
    | many a =>
      rw [Slot.cover] at hc
      rw [← List.takeWhile_append_dropWhile (p := fun s => Slot.within s.allowed a)
        (l := slots')] at h
      obtain ⟨front, rest, rfl, hfront, hrest⟩ := exists_append h
      refine ⟨front, rest, rfl, fun t ht => ?_, ih hc hrest⟩
      obtain ⟨slot, hslot, hadmitted⟩ := hfront.exists_of_mem ht
      have hwithin := List.all_eq_true.mp List.all_takeWhile slot hslot
      exact Slot.admitted_of_within hwithin hadmitted

end Follows

namespace Phrase

/-- Whether a hidden construct always shows up as a single tree. -/
def isSingle : Phrase → Bool
  | namedExpressionTarget | parameter | pattern | forInExpression | expression | primaryExpression
  | rightHandSide | holeExpression => true
  | _ => false

/-- The labels under which a construct can appear. -/
def appearances (p : Phrase) : List Label :=
  (if p.isHidden then [] else [.phrase p]) ++
    match p with
    | parenthesizedListSplat => [.phrase parenthesizedExpression]
    | forInLambda => [.phrase lambda]
    | simpleStatements | matchBlock => [.phrase block]
    | expression => [.phrase asPatternTarget]
    | listSplatPattern => [.phrase listSplat]
    | notIn => [.token (.literal "not in")]
    | isNot => [.token (.literal "is not")]
    | interpolation => [.phrase formatExpression]
    | asCase => [.phrase asPattern]
    | listCase => [.phrase listPattern]
    | tupleCase => [.phrase tuplePattern]
    | _ => []

/-- Whether only names and text stand in a construct, so that no expression can. -/
def isBarren : Phrase → Bool
  | dottedName | aliasedImport | relativeImport | importDots | wildcardImport | stringContent => true
  | _ => false

end Phrase

namespace Allowed

/-- Anything at all. -/
def anything : List Allowed := [{}]

/-- Anything with a role. -/
def having (r : Role) : List Allowed := [⟨none, some (some r)⟩]

/-- Some constructs, with a role. -/
def phrasesAs (r : Role) (ps : List Phrase) : List Allowed :=
  [⟨some (ps.map Label.phrase), some (some r)⟩]

/-- Anything without a role. -/
def plain : List Allowed := [⟨none, some none⟩]

/-- Some constructs, without a role. -/
def phrases (ps : List Phrase) : List Allowed := [⟨some (ps.map Label.phrase), some none⟩]

/-- A kind of token, with a role. -/
def tokenAs (r : Role) (t : Terminal) : List Allowed := [⟨some [.token t], some (some r)⟩]

/-- Names and text. -/
def barren : List Allowed :=
  [⟨some [.phrase .dottedName, .phrase .aliasedImport, .phrase .relativeImport, .phrase .importDots,
    .phrase .wildcardImport, .phrase .stringContent, .token .identifier, .token .stringStart,
    .token .stringEnd, .token .escape, .token .doubledBrace], none⟩]

end Allowed

open Slot Allowed in
/-- The places of a construct, where it matters what stands at them. -/
def Phrase.layout? : Phrase → Option (List Slot)
  | attributeAccess => some [one (having .object), one (tokenAs .memberName .identifier)]
  | call => some
      [one (having .function), one (phrasesAs .arguments [generatorExpression, argumentList])]
  | keywordArgument => some [one (tokenAs .name .identifier), one (having .value)]
  | string => some [many (phrases [interpolation] ++ barren)]
  | interpolation => some
      [one (having .expression), opt (tokenAs .typeConversion .conversion),
        opt (having .formatSpecifier)]
  | concatenatedString => some [many (phrases [string])]
  | binaryOperator | booleanOperator => some
      [one (having .left), one (having .operator), one (having .right)]
  | notOperator => some [one (having .argument)]
  | unaryOperator => some [one (having .operator), one (having .argument)]
  | dictionary => some [many (phrases [pair, dictionarySplat])]
  | pair => some [one (having .key), one (having .value)]
  | parenthesizedExpression | type | decorator | dictionarySplat => some [one plain]
  | returnStatement => some [opt plain]
  | functionDefinition => some
      [one (tokenAs .name .identifier), opt (having .typeParameters), one (having .parameters),
        opt (having .returnType), one (phrasesAs .body [block])]
  | decoratedDefinition => some
      [many (phrases [decorator]),
        one (phrasesAs .definition [classDefinition, functionDefinition])]
  | assignment => some [one (having .left), opt (having .type), opt (having .right)]
  | ifStatement => some
      [one (having .condition), one (phrasesAs .consequence [block]),
        many (phrasesAs .alternative [elifClause]), opt (phrasesAs .alternative [elseClause])]
  | elifClause => some [one (having .condition), one (phrasesAs .consequence [block])]
  | elseClause => some [one (phrasesAs .body [block])]
  | forStatement => some
      [one (having .left), one (having .right), one (phrasesAs .body [block]),
        opt (phrasesAs .alternative [elseClause])]
  | whileStatement => some
      [one (having .condition), one (phrasesAs .body [block]),
        opt (phrasesAs .alternative [elseClause])]
  | tryStatement => some
      [one (phrasesAs .body [block]), many (phrases [exceptClause, exceptGroupClause]),
        opt (phrases [elseClause]), opt (phrases [finallyClause])]
  | exceptClause => some [opt (having .value), opt (having .alias), one (phrases [block])]
  | exceptGroupClause => some [many plain]
  | finallyClause => some [one (phrases [block])]
  | asPattern => some [one plain, one anything]
  | importStatement | futureImportStatement | importFromStatement | dottedName | aliasedImport
  | relativeImport | importDots | wildcardImport | stringContent => some [many barren]
  | _ => none

namespace Label

/-- The places of whatever appears under a label. Nothing that counts stands in a token. -/
def layout? : Label → Option (List Slot)
  | .phrase p => p.layout?
  | .token _ => some []

/-- Whether what appears under a label begins with a part. -/
def beginsWithPart : Label → Bool
  | .phrase .type | .phrase .asPattern => true
  | _ => false

end Label

namespace Grammar

/-- The place of a tree with a label, if it counts. -/
def treeSlots (label : Label) (role : Option Role) : List Slot :=
  if label.isPart || role.isSome then [.one [⟨some [label], some role⟩]] else []

/-- The place of a token with a label, if it counts. -/
def leafSlots (label : Label) (role : Option Role) : List Slot :=
  treeSlots label (if label.takesRole then role else none)

/-- The place of the trees of a hidden construct. A role goes to all of them, also to those that do not
count without it. -/
def listSlots (allowed : List Allowed) (role : Option Role) : List Slot :=
  if role.isNone then [.many allowed] else [.many Allowed.anything]

/-- The places that a step of a production stands for. `inner` tells what a hidden construct can
contribute. -/
def Step.slots (inner : Symbol → List Allowed) (s : Step) : List Slot :=
  match s.marks.label, s.symbol with
  | some label, .token _ => leafSlots label s.marks.role
  | some label, _ => treeSlots label s.marks.role
  | none, .token t => leafSlots (.token t) s.marks.role
  | none, .phrase p =>
    if !p.isHidden then treeSlots (.phrase p) s.marks.role
    else if p.isSingle then [.one [⟨none, some s.marks.role⟩]]
    else listSlots (inner s.symbol) s.marks.role
  | none, .loop _ => listSlots (inner s.symbol) s.marks.role

/-- Whether a step shows the trees of the symbol as they are. -/
def Step.isPlain (s : Step) (x : Symbol) : Bool :=
  s.symbol = x && s.marks.label.isNone && s.marks.role.isNone

/-- What a hidden construct can contribute, as far as it can be told from its productions and, a number
of times, from those of the hidden constructs in them. -/
def contributions (ps : List Production) : Nat → Symbol → List Allowed
  | 0, _ => Allowed.anything
  | n + 1, x =>
    (ps.filter fun p => p.head = x).flatMap fun p => p.steps.toList.flatMap fun s =>
      if s.isPlain x then [] else (s.slots (contributions ps n)).flatMap Slot.allowed

/-- Whether a step shows exactly one tree, which is a part. -/
def Step.isPart (s : Step) : Bool :=
  match s.marks.label, s.symbol with
  | some label, _ => label.isPart
  | none, .token t => (Label.token t).isPart
  | none, .phrase p => !p.isHidden || p.isSingle
  | none, .loop _ => false

/-- Whether a construct that a step shows under another label may appear under it. -/
def Step.isProper (s : Step) : Bool :=
  match s.marks.label, s.symbol with
  | some label, .phrase p => p.appearances.contains label
  | some _, .loop _ => false
  | _, _ => true

namespace Production

/-- The places of a production. Two levels of hidden constructs are enough to tell them apart. -/
def slots (ps : List Production) (p : Production) : List Slot :=
  p.steps.toList.flatMap fun s => s.slots (contributions ps 2)

/-- Whether a production follows the layout of a label. -/
def fits (ps : List Production) (p : Production) (label : Label) : Bool :=
  (match label.layout? with
    | some layout => Slot.cover layout (p.slots ps)
    | none => true) &&
  (!label.beginsWithPart || p.steps.toList.head?.any Step.isPart)

/-- Whether a production shows a single part without a role. -/
def isSingle (p : Production) : Bool :=
  match p.steps.toList with
  | [s] => s.isPart && s.marks.role.isNone
  | _ => false

/-- Whether a production of some others follows all layouts that concern it. -/
def isLaidOut (ps : List Production) (p : Production) : Bool :=
  p.steps.toList.all Step.isProper &&
  match p.head with
  | .token _ => false
  | .loop _ => true
  | .phrase q => q.appearances.all (p.fits ps) && (!q.isSingle || p.isSingle)

end Production

/-- The grammar follows the layouts. -/
theorem isLaidOut_productions :
    (allProductions.all (Production.isLaidOut allProductions)) = true := by
  decide +kernel

end Grammar

end CodeAudit
