import CodeAudit.Proofs.Callees
import CodeAudit.Proofs.Imports.Gathered
import CodeAudit.Proofs.Spelling

/-!
# Module paths

An import statement names modules by paths: names with dots between them, with dots before them, or the
single word `__future__`. A path is known by its text, and the text before the first dot is the first name
together with what stands between the name and the dot. That is nothing in most sources, but blank space,
comments and continued lines can stand there, which are no part of a name.
-/

namespace CodeAudit

open Grammar

namespace Search

variable {sep : Char} {text a b : String}

theorem before_append_of_not_mem (h : sep ∉ text.toList) (rest : String) :
    before sep (text ++ rest) = text ++ before sep rest := by
  have hall : ∀ c ∈ text.toList, (c != sep) = true := fun c hc => bne_iff_ne.mpr (ne_of_mem_of_not_mem hc h)
  rw [before, before, String.toList_append, List.takeWhile_append_of_pos hall, String.ofList_append,
    String.ofList_toList]

/-- What comes before the first separator depends on what comes before it in the rest of the text. -/
theorem before_append_congr (h : before sep a = before sep b) (text : String) :
    before sep (text ++ a) = before sep (text ++ b) := by
  have hrest : a.toList.takeWhile (· != sep) = b.toList.takeWhile (· != sep) := String.ofList_injective h
  rw [before, before, String.toList_append, String.toList_append, List.takeWhile_append, List.takeWhile_append, hrest]

end Search

namespace Tree

/-- Whether a token is a dot. -/
def isDot (x : Label × Lexeme) : Bool := x.1 == .token (.literal ".")

/-- The text of some tokens that follow another one. -/
def textAfter : List (Label × Lexeme) → String
  | [] => ""
  | x :: rest => x.2.gap ++ x.2.text ++ textAfter rest

/-- The text of some tokens that follow another one, up to the first dot. -/
def textToDot : List (Label × Lexeme) → String
  | [] => ""
  | x :: rest => if isDot x then x.2.gap else x.2.gap ++ x.2.text ++ textToDot rest

/-- The name that a path begins with, if it does not begin with a dot. -/
def firstName (d : Tree) : String :=
  match d.leaves with
  | [] => ""
  | x :: _ => if isDot x then "" else x.2.text

/-- What stands between the first name of a path and the first dot. -/
def seam (d : Tree) : String :=
  match d.leaves with
  | [] => ""
  | x :: rest => if isDot x then "" else textToDot rest

/-- What a path is judged by: its first name, and what stands between the name and the first dot. -/
def root (d : Tree) : String := d.firstName ++ Search.before '.' d.seam

variable {d : Tree}

theorem text_of_leaves {x : Label × Lexeme} {rest : List (Label × Lexeme)} (h : d.leaves = x :: rest) :
    d.text = x.2.text ++ textAfter rest := by
  have hrest : ∀ (start : String) (rest : List (Label × Lexeme)),
      (rest.map Prod.snd).foldl (fun s lexeme => s ++ lexeme.gap ++ lexeme.text) start = start ++ textAfter rest := by
    intro start rest
    induction rest generalizing start with
    | nil => exact (String.append_empty).symm
    | cons y rest ih =>
      rw [List.map_cons, List.foldl_cons, ih, textAfter]
      simp only [String.append_assoc]
  rw [text, ← map_snd_leaves, h]
  exact hrest _ _

theorem text_of_isDot {x : Label × Lexeme} (hx : x.1.spells x.2) (hdot : isDot x) :
    x.2.text = String.singleton '.' := by
  rw [eq_of_beq hdot] at hx
  exact eq_of_beq (Bool.and_eq_true_iff.mp hx).2

/-- What comes before the first dot of some tokens is known from the tokens before it. -/
theorem before_textAfter {xs : List (Label × Lexeme)} (h : ∀ x ∈ xs, x.1.spells x.2) :
    Search.before '.' (textAfter xs) = Search.before '.' (textToDot xs) := by
  induction xs with
  | nil => rfl
  | cons x xs ih =>
    obtain ⟨hx, hxs⟩ := List.forall_mem_cons.mp h
    rw [textAfter, textToDot]
    split
    · rename_i hdot
      rw [text_of_isDot hx hdot]
      exact Search.before_append_singleton '.' _ _
    · exact Search.before_append_congr (ih hxs) _

/-- Whether a token is a name, or the word that stands for the language itself. -/
def isName (x : Label × Lexeme) : Bool := x.1 == .token .identifier || x.1 == .token (.literal "__future__")

/-- Whether a token is a comment or a continued line. -/
def isLayout (x : Label × Lexeme) : Bool := x.1 == .token .comment || x.1 == .token .lineContinuation

/-- The tokens of a path, layout apart. -/
def words (d : Tree) : List String := (d.leaves.filter fun x => !isLayout x).map fun x => x.2.text

/-- The first of some words, if they do not begin with a dot. -/
def firstOf (words : List String) : String :=
  if words.head? = some "." then "" else words.headD ""

/-- What the path of a module begins with: a dot, or a name and then, if anything, a dot, a comment or a
continued line. -/
def IsPath (d : Tree) : Prop :=
  ∃ x rest, d.leaves = x :: rest ∧ (isDot x ∨ isName x ∧ ∀ y ∈ rest.head?, isDot y ∨ isLayout y)

theorem not_mem_of_isName {x : Label × Lexeme} (hx : x.1.spells x.2) (hname : isName x) :
    '.' ∉ x.2.text.toList := by
  rcases Bool.or_eq_true_iff.mp hname with hname | hname
  · rw [eq_of_beq hname] at hx
    have hspells : Terminal.identifier.spells x.2.text := (Bool.and_eq_true_iff.mp hx).2
    rw [Terminal.spells] at hspells
    split at hspells
    · cases hspells
    · rename_i first rest htext
      obtain ⟨hfirst, hrest⟩ := Bool.and_eq_true_iff.mp hspells
      rw [htext]
      intro hdot
      rcases List.mem_cons.mp hdot with rfl | hdot
      · exact absurd hfirst (by decide +kernel)
      · exact absurd (List.all_eq_true.mp hrest '.' hdot) (by decide +kernel)
  · rw [eq_of_beq hname] at hx
    have hspells : x.2.text = "__future__" := eq_of_beq (Bool.and_eq_true_iff.mp hx).2
    rw [hspells]
    decide +kernel

/-- Whether a character separates tokens, or begins something that does. -/
def separates (c : Char) : Bool := Lexer.isSpace c || c == '#' || c == '\\'

/-- Before a dot and before layout there is blank space, if anything. -/
theorem separates_gap {x : Label × Lexeme} (hx : x.1.spells x.2) (hlabel : isDot x ∨ isLayout x) :
    x.2.gap.toList.head?.all separates := by
  have hgap : x.2.gap.toList.all Lexer.isSpace := by
    rcases hlabel with hdot | hlayout
    · rw [eq_of_beq hdot] at hx
      exact (Bool.and_eq_true_iff.mp hx).1
    · rcases Bool.or_eq_true_iff.mp hlayout with hlabel | hlabel
      all_goals
        rw [eq_of_beq hlabel] at hx
        exact (Bool.and_eq_true_iff.mp hx).1
  cases htext : x.2.gap.toList with
  | nil => rfl
  | cons c rest =>
    rw [htext, List.all_cons] at hgap
    show separates c
    rw [separates, (Bool.and_eq_true_iff.mp hgap).1]
    rfl

/-- Comments and continued lines begin with a character of their own. -/
theorem exists_separates_of_isLayout {x : Label × Lexeme} (hx : x.1.spells x.2) (hlayout : isLayout x) :
    ∃ c, x.2.text.toList.head? = some c ∧ separates c := by
  rcases Bool.or_eq_true_iff.mp hlayout with hlabel | hlabel
  · rw [eq_of_beq hlabel] at hx
    exact ⟨'#', eq_of_beq (Bool.and_eq_true_iff.mp hx).2, rfl⟩
  · rw [eq_of_beq hlabel] at hx
    exact ⟨'\\', eq_of_beq (Bool.and_eq_true_iff.mp hx).2, rfl⟩

/-- Tokens that go on with a dot or with layout are set apart from what comes before them. -/
theorem separates_textToDot {xs : List (Label × Lexeme)} (h : ∀ x ∈ xs, x.1.spells x.2)
    (hfirst : ∀ y ∈ xs.head?, isDot y ∨ isLayout y) : (textToDot xs).toList.head?.all separates := by
  cases xs with
  | nil => rfl
  | cons y ys =>
    have hy : isDot y ∨ isLayout y := hfirst y rfl
    have hspells := h y List.mem_cons_self
    have hgap := separates_gap hspells hy
    rw [textToDot]
    split
    · exact hgap
    · rename_i hdot
      obtain ⟨c, hc, hseparates⟩ := exists_separates_of_isLayout hspells (hy.resolve_left hdot)
      rw [String.toList_append, String.toList_append, List.head?_append, List.head?_append, hc]
      cases hhead : y.2.gap.toList.head? with
      | none => exact hseparates
      | some c =>
        rw [hhead] at hgap
        exact hgap

namespace IsPath

/-- The text of a path before its first dot is what the path is judged by. -/
theorem before_text (hpath : d.IsPath) (h : d.IsSpelled) : Search.before '.' d.text = d.root := by
  obtain ⟨x, rest, hleaves, hx⟩ := hpath
  rw [IsSpelled, hleaves] at h
  obtain ⟨hspells, hrest⟩ := List.forall_mem_cons.mp h
  rw [text_of_leaves hleaves, root, firstName, seam, hleaves]
  dsimp only
  cases hdot : isDot x with
  | true =>
    rw [text_of_isDot hspells hdot]
    exact Search.before_append_singleton '.' "" _
  | false =>
    have hname : isName x := (hx.resolve_left (Bool.eq_false_iff.mp hdot)).1
    rw [if_neg Bool.false_ne_true, if_neg Bool.false_ne_true,
      Search.before_append_of_not_mem (not_mem_of_isName hspells hname), before_textAfter hrest]

/-- The first name of a path is known from its tokens, layout apart. -/
theorem firstName_eq (hpath : d.IsPath) (h : d.IsSpelled) : d.firstName = firstOf d.words := by
  obtain ⟨x, rest, hleaves, hx⟩ := hpath
  rw [IsSpelled, hleaves] at h
  have hspells := h x List.mem_cons_self
  have hwords : isLayout x = false →
      d.words = x.2.text :: (rest.filter fun y => !isLayout y).map fun y => y.2.text := by
    intro hlayout
    rw [words, hleaves, List.filter_cons_of_pos (by rw [hlayout]; rfl), List.map_cons]
  rw [firstName, hleaves, firstOf]
  dsimp only
  rcases hx with hdot | ⟨hname, -⟩
  · rw [hwords (by rw [isLayout, eq_of_beq hdot]; rfl), if_pos hdot, text_of_isDot hspells hdot]
    exact (if_pos rfl).symm
  · have hlabels : isDot x = false ∧ isLayout x = false := by
      rcases Bool.or_eq_true_iff.mp hname with hlabel | hlabel
      all_goals
        rw [isDot, isLayout, eq_of_beq hlabel]
        decide
    have hne : some x.2.text ≠ some "." := by
      intro htext
      refine not_mem_of_isName hspells hname ?_
      rw [Option.some.inj htext]
      decide
    rw [hwords hlabels.2, hlabels.1, if_neg Bool.false_ne_true]
    exact (if_neg hne).symm

/-- What stands between the first name of a path and the first dot is layout. -/
theorem separates_seam (hpath : d.IsPath) (h : d.IsSpelled) : d.seam.toList.head?.all separates := by
  obtain ⟨x, rest, hleaves, hx⟩ := hpath
  rw [IsSpelled, hleaves] at h
  rw [seam, hleaves]
  dsimp only
  split
  · rfl
  · rename_i hdot
    exact separates_textToDot (fun y hy => h y (List.mem_cons_of_mem x hy)) (hx.resolve_left hdot).2

/-- A path is judged by its first name, or by a text that is no name at all. -/
theorem root_spec (hpath : d.IsPath) (h : d.IsSpelled) :
    d.seam = "" ∧ d.root = d.firstName ∨ d.seam ≠ "" ∧ ∃ c ∈ d.root.toList, separates c := by
  have hseparates := hpath.separates_seam h
  cases hseam : d.seam.toList with
  | nil =>
    have hempty : d.seam = "" := String.toList_eq_nil_iff.mp hseam
    refine .inl ⟨hempty, ?_⟩
    rw [root, hempty]
    exact String.append_empty
  | cons c rest =>
    rw [hseam] at hseparates
    have hc : separates c := hseparates
    have hdot : (c != '.') = true := by
      refine bne_iff_ne.mpr ?_
      rintro rfl
      cases hc
    refine .inr ⟨fun hempty => ?_, c, ?_, hc⟩
    · rw [hempty] at hseam
      cases hseam
    · rw [root, Search.before, hseam, List.takeWhile_cons, if_pos hdot, String.toList_append, String.toList_ofList]
      exact List.mem_append_right _ List.mem_cons_self

end IsPath

end Tree

/-! ### How paths begin -/

namespace Phrase

/-- Whether a construct is an import statement or stands in one. -/
def isOfImport : Phrase → Bool
  | importStatement | importFromStatement | futureImportStatement | aliasedImport | relativeImport
  | dottedName => true
  | _ => false

/-- The constructs of import statements appear under their own labels, and nothing else does. -/
theorem isOfImport_appearances :
    (Phrase.all.all fun q => q.appearances.all fun label => label == .phrase q ||
      !(Phrase.all.any fun p => p.isOfImport && label == .phrase p)) = true := by
  decide +kernel

theorem eq_of_mem_appearances {p q : Phrase} (hp : p.isOfImport) (h : .phrase p ∈ q.appearances) : q = p := by
  have hlabel := List.all_eq_true.mp (List.all_eq_true.mp isOfImport_appearances q q.mem_all) _ h
  have hany : (Phrase.all.any fun r => r.isOfImport && Label.phrase p == .phrase r) = true :=
    List.any_eq_true.mpr ⟨p, p.mem_all, by rw [hp, beq_self_eq_true]; rfl⟩
  rw [hany, Bool.not_true, Bool.or_false] at hlabel
  exact (Label.phrase.inj (eq_of_beq hlabel)).symm

end Phrase

/-- A construct of an import statement comes from a production for it. -/
theorem Tree.Grows.exists_production {t : Tree} {p : Phrase} (h : t.Grows) (hlabel : t.label = .phrase p)
    (hp : p.isOfImport) : ∃ q parts role, q.Derives parts ∧ q.head = .phrase p ∧
      t = .node (.phrase p) role (Fragment.ofProduction q parts).trees := by
  cases h with
  | leaf known role lexeme =>
    obtain rfl : _ = Label.phrase p := hlabel
    obtain rfl : p = .block := of_decide_eq_true known
    cases hp
  | @node q parts r label derives head appears role =>
    obtain rfl : label = .phrase p := hlabel
    obtain rfl := Phrase.eq_of_mem_appearances hp appears
    exact ⟨q, parts, role, derives, head, rfl⟩

namespace Grammar

/-- The token that a construct in a path begins with. -/
def Symbol.opening? : Symbol → Option Terminal
  | .token t => some t
  | .phrase .dottedName => some .identifier
  | .phrase .relativeImport | .phrase .importDots | .loop 2 | .loop 17 => some (.literal ".")
  | _ => none

/-- Whether a production begins with the token that its construct begins with. -/
def Production.opens (p : Production) : Bool :=
  p.head.opening?.all fun t => p.steps.toList.head?.any fun s =>
    s.symbol.opening? = some t && s.marks.label.isNone

theorem opens_productions : allProductions.all Production.opens = true :=
  all_productions (by decide +kernel)

/-- Whether a production makes a name, or a name and the names that follow it after a dot. -/
def Production.isDotted (p : Production) : Bool :=
  match p.steps.toList with
  | [s] => s.isPlain (.token .identifier)
  | [s, r] => s.isPlain (.token .identifier) && r.isPlain (.loop 17)
  | _ => false

theorem isDotted_productions :
    (allProductions.all fun p => p.head != .phrase .dottedName || p.isDotted) = true :=
  all_productions (by decide +kernel)

/-- The first step of a production shows its first trees. -/
theorem Production.Derives.exists_cons {p : Production} {parts : List Fragment} {s : Step} {steps : List Step}
    (h : p.Derives parts) (hsteps : p.steps.toList = s :: steps) :
    ∃ f rest, parts = f :: rest ∧ f.symbol = s.symbol ∧ rest.map Fragment.symbol = steps.map Step.symbol ∧
      (Fragment.ofProduction p parts).trees =
        f.shown s.marks ++ (rest.zip steps).flatMap fun x => x.1.lead ++ x.1.shown x.2.marks := by
  have hsymbols := h.symbols
  rw [hsteps, List.map_cons] at hsymbols
  obtain ⟨f, rest, rfl, hsymbol, hrest⟩ := List.map_eq_cons_iff.mp hsymbols
  refine ⟨f, rest, rfl, hsymbol, hrest, ?_⟩
  rw [Fragment.trees_ofProduction, hsteps]
  rfl

end Grammar

namespace Tree

theorem leavesOf_append (ts us : List Tree) : leavesOf (ts ++ us) = leavesOf ts ++ leavesOf us := by
  simp only [leavesOf_eq_flatMap, List.flatMap_append]

end Tree

namespace Fragment

variable {f : Fragment}

/-- A step without a label of its own shows the tokens of the fragment as they are. -/
theorem leavesOf_shown {marks : Marks} (h : marks.label = none) :
    Tree.leavesOf (f.shown marks) = Tree.leavesOf f.trees := by
  have hassign (ts : List Tree) : Tree.leavesOf (ts.map (Tree.assign marks.role)) = Tree.leavesOf ts := by
    simp only [Tree.leavesOf_eq_flatMap, List.flatMap_map, Tree.leaves_assign]
  rw [shown, h, hassign]
  split
  · rename_i hlabel _
    cases hlabel
  · rename_i hlabel _
    cases hlabel
  · split
    · rfl
    · exact List.append_nil _
  · rfl

/-- A construct in a path begins with the token that belongs to it. -/
theorem Derived.exists_leavesOf (h : f.Derived) {t : Terminal} (hopening : f.symbol.opening? = some t) :
    ∃ l rest, Tree.leavesOf f.trees = (.token t, l) :: rest := by
  induction h generalizing t with
  | token terminal lead lexeme ordinary extras =>
    obtain rfl := Option.some.inj hopening
    exact ⟨lexeme, [], rfl⟩
  | production p parts known symbols derived ih =>
    have hopens := List.all_eq_true.mp opens_productions p known
    have hopening : p.head.opening? = some t := hopening
    rw [Production.opens, hopening, Option.all_some] at hopens
    obtain ⟨s, hs, hfirst⟩ := (Option.any_eq_true _ _).mp hopens
    obtain ⟨steps, hsteps⟩ := List.head?_eq_some_iff.mp hs
    obtain ⟨hsymbol, hlabel⟩ := Bool.and_eq_true_iff.mp hfirst
    obtain ⟨g, rest, rfl, hg, -, htrees⟩ := Production.Derives.exists_cons ⟨known, symbols, derived⟩ hsteps
    obtain ⟨l, more, hleaves⟩ := ih g List.mem_cons_self (by rw [hg]; exact of_decide_eq_true hsymbol)
    rw [htrees, Tree.leavesOf_append, leavesOf_shown (Option.isNone_iff_eq_none.mp hlabel), hleaves]
    exact ⟨l, _, rfl⟩

end Fragment

/-- A step for a token shows the token. -/
theorem Fragment.LaidOut.exists_shown_of_isPlain {f : Fragment} {s : Grammar.Step} {t : Terminal}
    (h : f.LaidOut) (hf : f.symbol = s.symbol) (hplain : s.isPlain (.token t)) :
    ∃ l, f.shown s.marks = [.leaf (.token t) none l] := by
  simp only [Step.isPlain, Bool.and_eq_true, decide_eq_true_eq, Option.isNone_iff_eq_none] at hplain
  obtain ⟨⟨hsymbol, hlabel⟩, hrole⟩ := hplain
  obtain ⟨l, htrees⟩ := h.token (hf.trans hsymbol)
  refine ⟨l, ?_⟩
  simp [shown, hlabel, hrole, hf.trans hsymbol, htrees, Tree.assign]

namespace Tree

theorem IsExtra.isLayout {t : Tree} (h : t.IsExtra) : ∃ x, t.leaves = [x] ∧ isLayout x := by
  obtain ⟨terminal, lexeme, hextra, rfl⟩ := h
  refine ⟨_, rfl, ?_⟩
  cases terminal with
  | comment | lineContinuation => rfl
  | _ => cases hextra

namespace Grows

variable {d : Tree}

/-- Names with dots between them begin with a name, and go on with a dot, a comment or a continued line. -/
theorem exists_leaves_of_dottedName (h : d.Grows) (hlabel : d.label = .phrase .dottedName) :
    ∃ l rest, d.leaves = (.token .identifier, l) :: rest ∧ ∀ y ∈ rest.head?, isDot y ∨ isLayout y := by
  obtain ⟨p, parts, role, hderives, hhead, rfl⟩ := h.exists_production hlabel rfl
  show ∃ l rest, leavesOf _ = _ ∧ _
  have hdotted := List.all_eq_true.mp isDotted_productions p hderives.known
  rw [hhead, bne_self_eq_false, Bool.false_or, Production.isDotted] at hdotted
  split at hdotted
  · rename_i s hsteps
    obtain ⟨f, rest, rfl, hf, hrest, htrees⟩ := hderives.exists_cons hsteps
    obtain rfl := List.map_eq_nil_iff.mp hrest
    obtain ⟨l, hl⟩ := (hderives.filled.laidOut f List.mem_cons_self).exists_shown_of_isPlain hf hdotted
    rw [htrees, hl]
    exact ⟨l, [], rfl, fun y hy => absurd hy (Option.not_mem_none y)⟩
  · rename_i s r hsteps
    obtain ⟨hname, hmore⟩ := Bool.and_eq_true_iff.mp hdotted
    obtain ⟨f, g, rfl, hf, hg, htrees⟩ := hderives.exists_of_steps_eq hsteps
    have hmem : g ∈ [f, g] := List.mem_cons_of_mem f List.mem_cons_self
    obtain ⟨l, hl⟩ := (hderives.filled.laidOut f List.mem_cons_self).exists_shown_of_isPlain hf hname
    obtain ⟨hloop, hshown⟩ := Fragment.shown_of_isPlain hg rfl hmore
    obtain ⟨dot, more, hdot⟩ := (hderives.derived g hmem).exists_leavesOf (by rw [hloop]; rfl)
    rw [htrees, leavesOf_append, leavesOf_append, hl, hshown, hdot]
    refine ⟨l, leavesOf g.lead ++ (.token (.literal "."), dot) :: more, rfl, ?_⟩
    have hextras := (hderives.filled.laidOut g hmem).lead
    cases hlead : g.lead with
    | nil =>
      rintro y ⟨⟩
      exact .inl rfl
    | cons e lead =>
      rw [hlead] at hextras
      obtain ⟨x, hx, hlayout⟩ := (hextras e List.mem_cons_self).isLayout
      rw [leavesOf, hx]
      rintro y ⟨⟩
      exact .inr hlayout
  · cases hdotted

theorem exists_leaves_of_relativeImport (h : d.Grows) (hlabel : d.label = .phrase .relativeImport) :
    ∃ l rest, d.leaves = (.token (.literal "."), l) :: rest := by
  obtain ⟨p, parts, role, hderives, hhead, rfl⟩ := h.exists_production hlabel rfl
  have hderived : (Fragment.ofProduction p parts).Derived :=
    .production p parts hderives.known hderives.symbols hderives.derived
  refine hderived.exists_leavesOf ?_
  show p.head.opening? = _
  rw [hhead]
  rfl

end Grows

end Tree

/-! ### The paths of import statements -/

/-- What an import statement and a name in it consist of, signs and words apart. -/
def Phrase.importLayout? : Phrase → Option (List Slot)
  | .importStatement => some [.many (Allowed.phrasesAs .name [.dottedName, .aliasedImport])]
  | .importFromStatement => some
      [.one (Allowed.phrasesAs .moduleName [.relativeImport, .dottedName]),
        .many (Allowed.phrasesAs .name [.dottedName, .aliasedImport] ++ Allowed.phrases [.wildcardImport])]
  | .aliasedImport => some
      [.one (Allowed.phrasesAs .name [.dottedName]), .one (Allowed.tokenAs .alias .identifier)]
  | _ => none

namespace Grammar

/-- Whether a production follows the layout of import statements, and names the module where the statement
has a fixed one. -/
def Production.fitsImport (ps : List Production) (p : Production) : Bool :=
  match p.head with
  | .phrase .futureImportStatement => p.steps.toList.any fun s => s.isPlain (.token (.literal "__future__"))
  | .phrase q => q.importLayout?.all fun layout => Slot.cover layout (p.slots ps)
  | _ => true

theorem fitsImport_productions : allProductions.all (Production.fitsImport allProductions) = true := by
  decide +kernel

theorem Production.Derives.mem_trees {p : Production} {parts : List Fragment}
    {x : Fragment × Grammar.Step} {t : Tree} (hx : x ∈ parts.zip p.steps.toList) (ht : t ∈ x.1.shown x.2.marks) :
    t ∈ (Fragment.ofProduction p parts).trees := by
  rw [Fragment.trees_ofProduction]
  cases hzip : parts.zip p.steps.toList with
  | nil =>
    rw [hzip] at hx
    cases hx
  | cons y rest =>
    rw [hzip] at hx
    rcases List.mem_cons.mp hx with rfl | hx
    · exact List.mem_append_left _ ht
    · exact List.mem_append_right _ (List.mem_flatMap.mpr ⟨x, hx, List.mem_append_right _ ht⟩)

end Grammar

namespace Tree

/-- The path in a name of an import statement: what stands before `as`, if that word is there. -/
def path (c : Tree) : Tree := if c.is .aliasedImport then (c.part? .name).getD c else c

/-- The paths of the modules that an import statement names. -/
def paths (i : Tree) : List Tree :=
  if i.is .importStatement then (i.partsWith .name).map path
  else if i.is .importFromStatement then (i.part? .moduleName).toList
  else (i.children.find? fun c => c.isToken (.literal "__future__")).toList

variable {i c d : Tree} {p : Phrase}

theorem Grows.follows_importLayout (h : i.Grows) (hlabel : i.label = .phrase p) (hp : p.isOfImport)
    {slots : List Slot} (hlayout : p.importLayout? = some slots) : Follows slots (marked i.children) := by
  obtain ⟨q, parts, role, hderives, hhead, rfl⟩ := h.exists_production hlabel hp
  have hfits := List.all_eq_true.mp fitsImport_productions q hderives.known
  rw [Production.fitsImport, hhead] at hfits
  split at hfits
  · rename_i hfuture
    obtain rfl := Symbol.phrase.inj hfuture
    cases hlayout
  · rename_i r _ hr
    obtain rfl := Symbol.phrase.inj hr
    rw [hlayout] at hfits
    exact hderives.filled.follows.of_cover hfits
  · rename_i hother
    exact absurd rfl (hother p)

/-- A statement about the language itself names it. -/
theorem Grows.exists_future (h : i.Grows) (hlabel : i.label = .phrase .futureImportStatement) :
    ∃ c ∈ i.children, c.isToken (.literal "__future__") := by
  obtain ⟨q, parts, role, hderives, hhead, rfl⟩ := h.exists_production hlabel rfl
  have hfits := List.all_eq_true.mp fitsImport_productions q hderives.known
  rw [Production.fitsImport, hhead] at hfits
  obtain ⟨s, hs, hplain⟩ := List.any_eq_true.mp hfits
  obtain ⟨f, hx, -⟩ := hderives.exists_part hs
  obtain ⟨hlaid, hsymbol, -⟩ := hderives.filled.of_mem_zip hx
  obtain ⟨l, hshown⟩ := hlaid.exists_shown_of_isPlain hsymbol hplain
  exact ⟨_, Production.Derives.mem_trees hx (by rw [hshown]; exact List.mem_singleton_self _), rfl⟩

/-- What stands before `as` in a name of an import statement are names with dots between them. -/
theorem Grows.exists_part_name (h : c.Grows) (halias : c.is .aliasedImport) :
    ∃ d ∈ c.children, c.part? .name = some d ∧ d.is .dottedName := by
  obtain ⟨d, rest, hmarked, hd, -⟩ := h.follows_importLayout (eq_of_beq halias) rfl rfl
  obtain ⟨hdotted, hrole⟩ := is_of_admittedAs hd
  have hmem : d ∈ marked c.children := by
    rw [hmarked]
    exact List.mem_cons_self
  refine ⟨d, List.mem_of_mem_filter hmem, ?_, hdotted⟩
  rw [part?_eq_find?, hmarked, List.find?_cons_of_pos (by rw [hrole]; rfl)]

/-- A name of an import statement has a path, and that is what the name is read as. -/
theorem Grows.path_spec (h : c.Everywhere Grows) (hc : c.is .dottedName ∨ c.is .aliasedImport) :
    c.path ∈ c.subtrees ∧ c.path.is .dottedName ∧ (Reading.importedName c.read).name = c.path.text := by
  rw [Reading.importedName, is_read, path]
  cases halias : c.is .aliasedImport with
  | false =>
    refine ⟨mem_subtrees.mpr (.inl rfl), hc.resolve_right (Bool.eq_false_iff.mp halias), ?_⟩
    exact congrArg text c.tree_read
  | true =>
    obtain ⟨d, hd, hpart, hdotted⟩ := h.self.exists_part_name halias
    rw [if_pos rfl, if_pos rfl, hpart]
    refine ⟨mem_subtrees.mpr (.inr ⟨d, hd, mem_subtrees.mpr (.inl rfl)⟩), hdotted, ?_⟩
    rw [Reading.textOf, children_read, find?_read, hpart]
    exact congrArg text d.tree_read

/-- No construct appears as the word that stands for the language itself. -/
theorem future_not_mem_appearances :
    (Phrase.all.all fun q => !q.appearances.contains (.token (.literal "__future__"))) = true := by
  decide +kernel

theorem Grows.exists_leaf_of_isToken (h : d.Grows) (hd : d.isToken (.literal "__future__")) :
    ∃ role l, d = .leaf (.token (.literal "__future__")) role l := by
  cases h with
  | leaf known role lexeme =>
    obtain rfl := eq_of_beq hd
    exact ⟨_, _, rfl⟩
  | @node q parts r label derives head appears role =>
    obtain rfl : label = _ := eq_of_beq hd
    have hnone := List.all_eq_true.mp future_not_mem_appearances r r.mem_all
    rw [List.contains_iff_mem.mpr appears] at hnone
    cases hnone

theorem Grows.isPath_of_is (h : d.Grows) (hd : d.is .dottedName ∨ d.is .relativeImport) : d.IsPath := by
  rcases hd with hd | hd
  · obtain ⟨l, rest, hleaves, hrest⟩ := h.exists_leaves_of_dottedName (eq_of_beq hd)
    exact ⟨_, rest, hleaves, .inr ⟨rfl, hrest⟩⟩
  · obtain ⟨l, rest, hleaves⟩ := h.exists_leaves_of_relativeImport (eq_of_beq hd)
    exact ⟨_, rest, hleaves, .inl rfl⟩

/-- An import statement names the modules of its paths. -/
structure NamesPaths (i : Tree) : Prop where
  loc : i.read.stmt.loc = i.loc
  inside : ∀ d ∈ i.paths, d ∈ i.subtrees
  isPath : ∀ d ∈ i.paths, d.IsPath
  modules : i.IsSpelled → Literals.importedModules i.read.stmt = i.paths.map text

/-- Only names stand after `import`, and no star for everything that a module has. -/
theorem Grows.any_wildcardImport (h : i.Grows) (hi : i.is .importStatement) :
    (i.parts.any fun c => c.is .wildcardImport) = false := by
  obtain ⟨front, rest, hmarked, hfront, rfl⟩ := h.follows_importLayout (eq_of_beq hi) rfl rfl
  rw [List.append_nil] at hmarked
  rw [List.any_eq_false]
  intro c hc hstar
  have hpart : c.label.isPart := by
    rw [eq_of_beq hstar]
    rfl
  have hmem : c ∈ marked i.children := List.mem_filter.mpr ⟨List.mem_of_mem_filter hc, isMarked_of_isPart hpart⟩
  rw [hmarked] at hmem
  obtain ⟨⟨q, hq, hcq⟩, -⟩ := admitted_phrasesAs (hfront c hmem)
  obtain rfl := Label.phrase.inj ((eq_of_beq hstar).symm.trans (eq_of_beq hcq))
  cases List.contains_iff_mem.mpr hq

theorem Grows.namesPaths_of_importStatement (h : i.Everywhere Grows) (hi : i.is .importStatement) :
    i.NamesPaths := by
  have hlabel : i.label = .phrase .importStatement := eq_of_beq hi
  have hpaths : i.paths = (i.partsWith .name).map path := if_pos hi
  have hfollows := h.self.follows_importLayout hlabel rfl rfl
  have hname : ∀ c ∈ i.partsWith .name, c ∈ i.children ∧ (c.is .dottedName ∨ c.is .aliasedImport) := by
    intro c hc
    obtain ⟨hc, hrole⟩ := List.mem_filter.mp hc
    have hlabels : ∃ q ∈ [Phrase.dottedName, .aliasedImport], c.is q := hfollows.exists_is rfl hc hrole
    exact ⟨hc, by simpa using hlabels⟩
  have hspec : ∀ c ∈ i.partsWith .name,
      c.path ∈ i.subtrees ∧ c.path.IsPath ∧ (Reading.importedName c.read).name = c.path.text := by
    intro c hc
    obtain ⟨hc, hkind⟩ := hname c hc
    obtain ⟨hin, hdotted, hread⟩ := Grows.path_spec (h.child hc) hkind
    exact ⟨mem_subtrees.mpr (.inr ⟨c, hc, hin⟩), ((h.child hc).subtree hin).self.isPath_of_is (.inl hdotted), hread⟩
  refine ⟨by rw [Passes.stmt_read hlabel]; rfl, ?_, ?_, fun _ => ?_⟩
  · rw [hpaths]
    exact List.forall_mem_map.mpr fun c hc => (hspec c hc).1
  · rw [hpaths]
    exact List.forall_mem_map.mpr fun c hc => (hspec c hc).2.1
  · have hnone : ((i.parts.map read).any fun c => c.is .wildcardImport) = false := by
      rw [List.any_map, ← h.self.any_wildcardImport hi]
      exact congrArg (List.any i.parts) (funext fun c => c.is_read _)
    rw [Passes.stmt_read hlabel, hpaths]
    show (Reading.importedNames _).map ImportedName.name = _
    rw [Reading.importedNames, findAll_read, named_read, hnone, if_neg Bool.false_ne_true, List.append_nil,
      List.map_map, List.map_map, List.map_map]
    exact List.map_congr_left fun c hc => (hspec c hc).2.2

theorem Grows.namesPaths_of_importFromStatement (h : i.Everywhere Grows) (hi : i.is .importFromStatement) :
    i.NamesPaths := by
  have hlabel : i.label = .phrase .importFromStatement := eq_of_beq hi
  have hpaths : i.paths = (i.part? .moduleName).toList := by
    rw [paths, if_pos hi, is, hlabel]
    rfl
  have hfollows := h.self.follows_importLayout hlabel rfl rfl
  have hspec : ∀ d ∈ i.paths, d ∈ i.children ∧ d.IsPath := by
    rw [hpaths]
    intro d hd
    have hpart : i.part? .moduleName = some d := Option.mem_toList.mp hd
    have hmem : d ∈ i.children := List.mem_of_find?_eq_some hpart
    rw [part?] at hpart
    have hrole := List.find?_some hpart
    have hlabels : ∃ q ∈ [Phrase.relativeImport, .dottedName], d.is q := hfollows.exists_is rfl hmem hrole
    have hkind : d.is .relativeImport ∨ d.is .dottedName := by simpa using hlabels
    exact ⟨hmem, (h.child hmem).self.isPath_of_is hkind.symm⟩
  refine ⟨by rw [Passes.stmt_read hlabel]; rfl, fun d hd => ?_, fun d hd => (hspec d hd).2, fun _ => ?_⟩
  · exact mem_subtrees.mpr (.inr ⟨d, (hspec d hd).1, mem_subtrees.mpr (.inl rfl)⟩)
  · rw [Passes.stmt_read hlabel, hpaths]
    show Literals.importedModules ⟨i.loc, .importFrom ((Reading.find? _ .moduleName).map Reading.text) _⟩ = _
    rw [find?_read]
    cases i.part? .moduleName with
    | none => rfl
    | some d => exact congrArg (fun t => [text t]) d.tree_read

theorem Grows.namesPaths_of_futureImportStatement (h : i.Everywhere Grows) (hi : i.is .futureImportStatement) :
    i.NamesPaths := by
  have hlabel : i.label = .phrase .futureImportStatement := eq_of_beq hi
  obtain ⟨c, hc, hfuture⟩ := h.self.exists_future hlabel
  cases hfind : i.children.find? fun c => c.isToken (.literal "__future__") with
  | none => exact absurd hfuture (List.find?_eq_none.mp hfind c hc)
  | some d =>
    have hpaths : i.paths = [d] := by
      rw [paths, hfind, is, is, hlabel]
      rfl
    have hmem : d ∈ i.children := List.mem_of_find?_eq_some hfind
    have htoken := List.find?_some hfind
    obtain ⟨role, l, rfl⟩ := (h.child hmem).self.exists_leaf_of_isToken htoken
    refine ⟨by rw [Passes.stmt_read hlabel]; rfl, ?_, ?_, fun hspelled => ?_⟩
    · rw [hpaths]
      exact List.forall_mem_singleton.mpr (mem_subtrees.mpr (.inr ⟨_, hmem, mem_subtrees.mpr (.inl rfl)⟩))
    · rw [hpaths]
      refine List.forall_mem_singleton.mpr ⟨_, [], rfl, .inr ⟨rfl, ?_⟩⟩
      exact fun y hy => absurd hy (Option.not_mem_none y)
    · have hspells := hspelled.child hmem _ List.mem_cons_self
      have htext : l.text = "__future__" := eq_of_beq (Bool.and_eq_true_iff.mp hspells).2
      rw [Passes.stmt_read hlabel, hpaths]
      show ["__future__"] = [l.text]
      rw [htext]

theorem Grows.namesPaths (h : i.Everywhere Grows) (himport : i.label.isImport) : i.NamesPaths := by
  cases hlabel : i.label with
  | token terminal =>
    rw [hlabel] at himport
    cases himport
  | phrase p =>
    rw [hlabel] at himport
    have his : i.is p := beq_iff_eq.mpr hlabel
    cases p with
    | importStatement => exact namesPaths_of_importStatement h his
    | importFromStatement => exact namesPaths_of_importFromStatement h his
    | futureImportStatement => exact namesPaths_of_futureImportStatement h his
    | _ => cases himport

end Tree

end CodeAudit
