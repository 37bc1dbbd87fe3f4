import CodeAudit.Proofs.Grown
import CodeAudit.Proofs.Lexing
import CodeAudit.Proofs.Places

/-!
# How tokens are spelled

The kind of a token says how it is spelled: words and signs stand for themselves, a name starts and goes
on with certain characters, a comment begins with a number sign. Before a token there is blank space and
nothing else, unless it begins a string. A parser keeps the spelling of tokens and may take a word for a
name; the grammar shows some words as names.
-/

namespace CodeAudit

open Grammar

namespace Terminal

/-- Whether a text is spelled like a token of a kind. -/
def spells : Terminal → String → Bool
  | identifier, text =>
    match text.toList with
    | [] => false
    | first :: rest => Identifier.isStart first && rest.all Identifier.isContinue
  | trueWord, text => text == "True"
  | falseWord, text => text == "False"
  | noneWord, text => text == "None"
  | literal spelling, text => text == spelling
  | comment, text => text.toList.head? == some '#'
  | lineContinuation, text => text.toList.head? == some '\\'
  | _, _ => true

/-- Whether nothing is said about the spelling of a token. -/
def isFree : Terminal → Bool
  | identifier | trueWord | falseWord | noneWord | literal _ | comment | lineContinuation => false
  | _ => true

theorem spells_of_isFree {t : Terminal} (h : t.isFree) (text : String) : t.spells text := by
  cases t <;> first | rfl | cases h

/-- All words are spelled like names. -/
theorem spells_words : (words.all fun w => identifier.spells w) = true := by
  decide +kernel

theorem spells_identifier_of_isWord {t : Terminal} (h : t.isWord) {text : String} (ht : t.spells text) :
    identifier.spells text := by
  cases t with
  | trueWord | falseWord | noneWord =>
    rw [eq_of_beq ht]
    decide +kernel
  | literal spelling =>
    rw [eq_of_beq ht]
    exact List.all_eq_true.mp spells_words spelling (List.contains_iff_mem.mp h)
  | _ => cases h

/-- The word that a text stands for is spelled like the text. -/
theorem spells_of_ofWord? {text : String} {t : Terminal} (h : ofWord? text = some t) : t.spells text := by
  unfold ofWord? at h
  split at h
  · cases h
    rfl
  · cases h
    rfl
  · cases h
    rfl
  · split at h
    · cases h
      exact beq_self_eq_true _
    · cases h

end Terminal

/-! ### Pieces of a source -/

namespace SourceText

variable {src : SourceText} {i j stop : Nat} {p : Char → Bool}

theorem toList_slice (src : SourceText) (i j : Nat) :
    (src.slice i j).toList = (src.chars.toList.drop i).take (j - i) := by
  rw [slice, String.toList_ofList, Array.toList_extract, List.extract_eq_take_drop]

theorem toList_slice_of_le (hji : j ≤ i) : (src.slice i j).toList = [] := by
  rw [toList_slice, Nat.sub_eq_zero_of_le hji, List.take_zero]

/-- A piece that is not empty begins with the character at its beginning. -/
theorem toList_slice_cons (hij : i < j) (hi : i < src.size) :
    (src.slice i j).toList = src.charAt i :: (src.slice (i + 1) j).toList := by
  have hchar : src.charAt i = src.chars.toList[i] := by
    rw [charAt, Array.getD_eq_getD_getElem?, Array.getElem?_eq_getElem hi, Option.getD_some]
    rfl
  obtain ⟨n, rfl⟩ := Nat.exists_eq_add_of_lt hij
  rw [toList_slice, toList_slice, hchar, List.drop_eq_getElem_cons (by exact hi),
    show i + n + 1 - i = n + 1 by omega, List.take_succ_cons, show i + n + 1 - (i + 1) = n by omega]

/-- What holds of all characters between two positions holds of all characters of the piece. -/
theorem all_slice (h : ∀ k, i ≤ k → k < j → p (src.charAt k)) : (src.slice i j).toList.all p := by
  induction hn : j - i generalizing i with
  | zero =>
    rw [toList_slice_of_le (by omega)]
    rfl
  | succ n ih =>
    by_cases hi : i < src.size
    · rw [toList_slice_cons (by omega) hi, List.all_cons, h i (Nat.le_refl i) (by omega)]
      exact ih (fun k hk => h k (by omega)) (by omega)
    · rw [toList_slice, List.drop_of_length_le (by exact Nat.le_of_not_lt hi), List.take_nil]
      rfl

theorem of_lt_skipWhile {fuel k : Nat} (hi : i ≤ k) (hk : k < src.skipWhile p fuel i) : p (src.charAt k) := by
  induction fuel generalizing i with
  | zero => exact absurd hi (Nat.not_le.mpr hk)
  | succ fuel ih =>
    rw [skipWhile] at hk
    split at hk
    · rename_i hmore
      rcases Nat.eq_or_lt_of_le hi with rfl | hlt
      · exact (Bool.and_eq_true_iff.mp hmore).2
      · exact ih hlt hk
    · exact absurd hi (Nat.not_le.mpr hk)

/-- All characters that are passed over satisfy what is asked of them. -/
theorem of_lt_endOf {k : Nat} (hi : i ≤ k) (hk : k < src.endOf p i) : p (src.charAt k) := of_lt_skipWhile hi hk

theorem lt_endOf (hi : i < src.size) (hp : p (src.charAt i)) : i < src.endOf p i := by
  obtain ⟨n, hn⟩ := Nat.exists_eq_add_of_lt hi
  have hmore : (decide (i < src.size) && p (src.charAt i)) = true := by simp [hi, hp]
  rw [endOf, show src.size - i = n + 1 by omega, skipWhile, if_pos hmore]
  exact le_skipWhile n

theorem toList_slice_of_startsWith {cs : List Char} (h : src.startsWith i cs) :
    (src.slice i (i + cs.length)).toList = cs := by
  induction cs generalizing i with
  | nil => exact toList_slice_of_le (Nat.le_refl i)
  | cons c cs ih =>
    simp only [startsWith, Bool.and_eq_true, decide_eq_true_eq, beq_iff_eq] at h
    obtain ⟨⟨hc, hi⟩, hcs⟩ := h
    rw [List.length_cons, toList_slice_cons (by omega) hi, hc, Nat.add_comm cs.length 1, ← Nat.add_assoc,
      ih hcs]

end SourceText

open SourceText

/-- A token that is spelled like its kind, with blank space before it from a position on, unless it begins
a string. -/
structure Token.IsSpelled (src : SourceText) (i : Nat) (token : Token) : Prop where
  gap : token.terminal ≠ .stringStart → ∀ k, i ≤ k → k < token.start → Lexer.isSpace (src.charAt k)
  text : token.terminal.spells (src.slice token.start token.stop)

variable {src : SourceText} {i stop : Nat} {expected : TokenSet} {n : Nesting} {token : Token}

/-- A token that begins at the position has nothing before it. -/
theorem Token.IsSpelled.here {terminal : Terminal} (h : terminal.spells (src.slice i stop)) :
    Token.IsSpelled src i ⟨terminal, i, stop, n⟩ :=
  ⟨fun _ _ hi hk => absurd hi (Nat.not_le.mpr hk), h⟩

namespace Layout

/-- A piece of a string can be spelled in any way. -/
theorem isFree_stringPiece? {q : Quote} {fuel : Nat} {begun : Bool} :
    ∀ piece ∈ stringPiece? src q fuel i begun, piece.1.isFree := by
  induction fuel generalizing i begun with
  | zero => exact fun _ h => absurd h (Option.not_mem_none _)
  | succ fuel ih =>
    have hnone : ∀ piece ∈ (none : Option (Terminal × Nat)), piece.1.isFree :=
      fun _ h => absurd h (Option.not_mem_none _)
    have hsome {terminal : Terminal} {k : Nat} (h : terminal.isFree) :
        ∀ piece ∈ some (terminal, k), piece.1.isFree := by
      intro piece hpiece
      rwa [← Option.mem_some.mp hpiece]
    have htext : ∀ piece ∈ if begun then some (Terminal.stringText, i) else none, piece.1.isFree :=
      forall_mem_ite (fun _ => hsome rfl) fun _ => hnone
    rw [stringPiece?]
    refine forall_mem_ite (fun _ => hnone) fun _ => forall_mem_ite (fun _ => htext) fun _ => ?_
    refine forall_mem_ite (fun _ => ?_) fun _ => forall_mem_ite (fun _ => ?_) fun _ =>
      forall_mem_ite (fun _ => hnone) fun _ => ih
    · exact forall_mem_ite (fun _ => ih) fun _ => forall_mem_ite (fun _ => ih) fun _ => htext
    · refine forall_mem_ite (fun _ => forall_mem_ite (fun _ => htext) fun _ => hsome rfl) fun _ => ?_
      refine forall_mem_ite (fun _ => hsome rfl) fun _ => forall_mem_ite (fun _ => hsome rfl) fun _ => ?_
      exact forall_mem_ite (fun _ => htext) fun _ => hsome rfl

theorem isFree_lineToken? {g : Gap} : ∀ x ∈ lineToken? src expected n g, x.1.isFree := by
  have hsome {terminal : Terminal} {nesting : Nesting} (h : terminal.isFree) :
      ∀ x ∈ some (terminal, nesting), x.1.isFree := by
    intro x hx
    rwa [← Option.mem_some.mp hx]
  rw [lineToken?]
  refine forall_mem_ite (fun _ => hsome rfl) fun _ => forall_mem_ite (fun _ => hsome rfl) fun _ => ?_
  exact forall_mem_ite (fun _ => hsome rfl) fun _ _ h => absurd h (Option.not_mem_none _)

theorem isSpelled_lineOrString? (h : lineOrString? src expected n i = some token) : token.IsSpelled src i := by
  unfold lineOrString? at h
  dsimp only at h
  split at h
  · cases h
  · split at h
    · rename_i terminal nesting hline
      cases h
      split at hline
      · exact .here (Terminal.spells_of_isFree (isFree_lineToken? _ hline) _)
      · cases hline
    · split at h
      · obtain ⟨x, -, rfl⟩ := Option.map_eq_some_iff.mp h
        exact ⟨fun hne => absurd rfl hne, rfl⟩
      · cases h

theorem isSpelled_token? (h : Layout.token? src expected n i = some token) : token.IsSpelled src i := by
  unfold Layout.token? at h
  split at h
  · split at h
    · split at h
      · cases h
        exact .here rfl
      · cases h
    · split at h
      · obtain ⟨⟨terminal, stop⟩, hpiece, rfl⟩ := Option.map_eq_some_iff.mp h
        exact .here (Terminal.spells_of_isFree (isFree_stringPiece? _ hpiece) _)
      · exact isSpelled_lineOrString? h
  · exact isSpelled_lineOrString? h

end Layout

namespace Lexer

/-- Tokens that begin at a position and are spelled like their kinds. -/
def AllSpelled (src : SourceText) (i : Nat) (tokens : List (Terminal × Nat)) : Prop :=
  ∀ token ∈ tokens, token.1.spells (src.slice i token.2)

namespace AllSpelled

theorem nil : AllSpelled src i [] := fun _ ht => absurd ht List.not_mem_nil

theorem single {terminal : Terminal} (h : terminal.spells (src.slice i stop)) :
    AllSpelled src i [(terminal, stop)] := by
  intro token ht
  rw [List.mem_singleton.mp ht]
  exact h

theorem append {ts us : List (Terminal × Nat)} (hts : AllSpelled src i ts) (hus : AllSpelled src i us) :
    AllSpelled src i (ts ++ us) :=
  List.forall_mem_append.mpr ⟨hts, hus⟩

theorem tokenTo {terminal : Terminal} {o : Option Nat} (h : ∀ stop ∈ o, terminal.spells (src.slice i stop)) :
    AllSpelled src i (tokenTo terminal o) := by
  cases o with
  | none => exact nil
  | some stop => exact single (h stop rfl)

theorem ite {c : Prop} [Decidable c] {ts : List (Terminal × Nat)} (h : c → AllSpelled src i ts) :
    AllSpelled src i (if c then ts else []) := by
  split
  · rename_i hc
    exact h hc
  · exact nil

end AllSpelled

/-- A piece with a character at its beginning. -/
theorem head?_slice {c : Char} (hi : i < src.size) (hc : src.charAt i = c) (hstop : i < stop) :
    (src.slice i stop).toList.head? = some c := by
  rw [toList_slice_cons hstop hi, hc]
  rfl

theorem spells_lineContinuation? (h : lineContinuation? src i = some stop) :
    Terminal.lineContinuation.spells (src.slice i stop) := by
  have hle : i < stop ∧ src.charAt i = '\\' ∧ i < src.size := by
    unfold lineContinuation? at h
    split at h
    · cases h
    rename_i hstart
    simp only [Bool.or_eq_true, decide_eq_true_eq, not_or, Nat.not_le, bne_iff_ne, ne_eq, Decidable.not_not] at hstart
    refine ⟨?_, hstart⟩
    split at h
    · cases h
      omega
    · split at h
      · cases h
        omega
      · cases h
        omega
      · split at h
        · cases h
          omega
        · cases h
      · cases h
  exact beq_iff_eq.mpr (head?_slice hle.2.2 hle.2.1 hle.1)

variable {immediate : Bool}

theorem allSpelled_urgent : AllSpelled src i (urgent src expected immediate i) :=
  .append (.append (.ite fun _ => .tokenTo fun _ _ => rfl) (.ite fun _ => .tokenTo fun _ _ => rfl))
    (.tokenTo fun _ => spells_lineContinuation?)

/-- Signs stand for themselves. -/
theorem allSpelled_signsAt : AllSpelled src i (signsAt src expected i) := by
  intro token ht
  obtain ⟨⟨chars, terminal, index⟩, hsign, ht⟩ := List.mem_filterMap.mp ht
  obtain ⟨sign, -, hsign⟩ := List.mem_map.mp hsign
  cases hsign
  dsimp only at ht
  split at ht
  · rename_i hstarts
    cases ht
    refine beq_iff_eq.mpr (String.toList_injective ?_)
    exact toList_slice_of_startsWith (Bool.and_eq_true_iff.mp hstarts).1
  · cases ht

theorem allSpelled_word? (hi : i < src.size) : AllSpelled src i (word? src expected i).toList := by
  intro token ht
  have ht := Option.mem_toList.mp ht
  unfold word? at ht
  dsimp only at ht
  split at ht
  · rename_i hstart
    split at ht
    · rename_i word hword
      cases ht
      exact Terminal.spells_of_ofWord? (Option.filter_eq_some_iff.mp hword).1
    · split at ht
      · cases ht
        have hlt : i < src.endOf Identifier.isContinue (i + 1) := le_endOf
        have hrest : (src.slice (i + 1) (src.endOf Identifier.isContinue (i + 1))).toList.all Identifier.isContinue :=
          all_slice fun k hk => of_lt_endOf hk
        rw [Terminal.spells, toList_slice_cons hlt hi]
        exact Bool.and_eq_true_iff.mpr ⟨hstart, hrest⟩
      · cases ht
  · cases ht

theorem allSpelled_ordinary (hi : i < src.size) : AllSpelled src i (ordinary src expected immediate i) := by
  refine .append (.append (.append (.append (.append (.append ?_ ?_) ?_) ?_) ?_) allSpelled_signsAt)
    (allSpelled_word? hi)
  · exact .ite fun _ => .single rfl
  · refine .ite fun hsharp => .single (beq_iff_eq.mpr (head?_slice hi (eq_of_beq hsharp) (lt_endOf hi ?_)))
    rw [eq_of_beq hsharp]
    rfl
  · exact .ite fun _ => .single rfl
  · exact .ite fun _ => .append (.ite fun _ => .tokenTo fun _ _ => rfl) (.ite fun _ => .tokenTo fun _ _ => rfl)
  · exact .ite fun _ => .single rfl

theorem isSpelled_plain? {fuel : Nat} (h : plain? src expected n fuel immediate i = some token) :
    token.IsSpelled src i := by
  induction fuel generalizing i immediate with
  | zero => cases h
  | succ fuel ih =>
    rw [plain?] at h
    split at h
    · rename_i hsize
      cases h
      exact ⟨fun _ k hi hk => absurd (Nat.le_trans hsize hi) (Nat.not_le.mpr hk), rfl⟩
    rename_i hmore
    have hlt := Nat.lt_of_not_le hmore
    split at h
    · rename_i hlongest
      cases h
      exact .here (allSpelled_urgent _ (mem_of_longest? hlongest))
    · split at h
      · rename_i hlongest
        cases h
        exact .here (allSpelled_ordinary hlt _ (mem_of_longest? hlongest))
      · split at h
        · rename_i hspace
          have hrest := ih h
          refine ⟨fun hne k hi hk => ?_, hrest.text⟩
          rcases Nat.eq_or_lt_of_le hi with rfl | hi
          · exact hspace
          · exact hrest.gap hne k hi hk
        · cases h

/-- The next token is spelled like its kind, with blank space before it unless it begins a string. -/
theorem isSpelled_token? (h : token? src expected n i = some token) : token.IsSpelled src i := by
  unfold token? at h
  generalize hstart : (if i = 0 && src.charAt 0 == '\ufeff' then 1 else i) = start at h
  have hspelled : token.IsSpelled src start := by
    dsimp only at h
    split at h
    · rename_i hlayout
      cases h
      exact Layout.isSpelled_token? hlayout
    · exact isSpelled_plain? h
  refine ⟨fun hne k hi hk => ?_, hspelled.text⟩
  split at hstart
  · rename_i hmark
    obtain ⟨-, hmark⟩ := Bool.and_eq_true_iff.mp hmark
    by_cases hk0 : k = 0
    · rw [hk0, eq_of_beq hmark]
      rfl
    · exact hspelled.gap hne k (by omega) hk
  · exact hspelled.gap hne k (by omega) hk

end Lexer

/-! ### Trees -/

/-- Whether a token is spelled as its label says, with blank space before it unless it begins a string. A
token that is shown as a construct can be spelled in any way. -/
def Label.spells : Label → Lexeme → Bool
  | .token terminal, lexeme =>
    (terminal == .stringStart || lexeme.gap.toList.all Lexer.isSpace) && terminal.spells lexeme.text
  | .phrase _, _ => true

namespace Tree

mutual

/-- The tokens of a tree with their labels, from left to right. -/
def leaves : Tree → List (Label × Lexeme)
  | leaf label _ lexeme => [(label, lexeme)]
  | node _ _ children => leavesOf children

/-- The tokens of some trees with their labels, from left to right. -/
def leavesOf : List Tree → List (Label × Lexeme)
  | [] => []
  | t :: ts => leaves t ++ leavesOf ts

end

theorem leavesOf_eq_flatMap (ts : List Tree) : leavesOf ts = ts.flatMap leaves := by
  induction ts with
  | nil => rfl
  | cons t ts ih => rw [leavesOf, ih, List.flatMap_cons]

mutual

theorem map_snd_leaves : (t : Tree) → t.leaves.map Prod.snd = t.lexemes
  | leaf .. => rfl
  | node _ _ children => map_snd_leavesOf children

theorem map_snd_leavesOf : (ts : List Tree) → (leavesOf ts).map Prod.snd = lexemesOf ts
  | [] => rfl
  | t :: ts => by rw [leavesOf, lexemesOf, List.map_append, map_snd_leaves t, map_snd_leavesOf ts]

end

theorem leaves_assign (r : Option Role) (t : Tree) : (t.assign r).leaves = t.leaves := by
  cases t with
  | leaf label role lexeme => cases role <;> rfl
  | node label role children => cases role <;> rfl

/-- All tokens of a tree are spelled as their labels say. -/
def IsSpelled (t : Tree) : Prop := ∀ x ∈ t.leaves, x.1.spells x.2

instance (t : Tree) : Decidable t.IsSpelled := inferInstanceAs (Decidable (∀ x ∈ t.leaves, x.1.spells x.2))

namespace IsSpelled

variable {t c : Tree}

theorem assign (h : t.IsSpelled) (r : Option Role) : (t.assign r).IsSpelled := by
  rw [IsSpelled, leaves_assign]
  exact h

theorem child (h : t.IsSpelled) (hc : c ∈ t.children) : c.IsSpelled := by
  intro x hx
  cases t with
  | leaf label role lexeme => cases hc
  | node label role children =>
    refine h x ?_
    rw [leaves, leavesOf_eq_flatMap]
    exact List.mem_flatMap.mpr ⟨c, hc, hx⟩

theorem subtree {s : Tree} (h : t.IsSpelled) (hs : s ∈ t.subtrees) : s.IsSpelled := by
  induction t using induct with
  | step t ih =>
    rcases mem_subtrees.mp hs with rfl | ⟨c, hc, hs⟩
    · exact h
    · exact ih c hc (h.child hc) hs

theorem node {label : Label} {role : Option Role} {children : List Tree} (h : ∀ c ∈ children, c.IsSpelled) :
    (Tree.node label role children).IsSpelled := by
  intro x hx
  rw [leaves, leavesOf_eq_flatMap] at hx
  obtain ⟨c, hc, hx⟩ := List.mem_flatMap.mp hx
  exact h c hc x hx

theorem leaf {label : Label} {lexeme : Lexeme} (h : label.spells lexeme) (role : Option Role) :
    (Tree.leaf label role lexeme).IsSpelled := by
  intro x hx
  rw [List.mem_singleton.mp hx]
  exact h

end IsSpelled

end Tree

namespace Grammar

/-- Whether a step that shows a token under another label shows a word as a name. -/
def Step.isSpelled (s : Step) : Bool :=
  match s.marks.label, s.symbol with
  | some (.token label), .token terminal => label == .identifier && terminal.isWord
  | _, _ => true

theorem isSpelled_productions : (allProductions.all fun p => p.steps.toList.all Step.isSpelled) = true :=
  all_productions (by decide +kernel)

end Grammar

namespace Fragment

/-- All tokens of a fragment are spelled as their labels say. -/
structure IsSpelled (f : Fragment) : Prop where
  lead : ∀ t ∈ f.lead, t.IsSpelled
  trees : ∀ t ∈ f.trees, t.IsSpelled

variable {f : Fragment} {s : Grammar.Step}

/-- A word that is taken for a name is spelled like one. -/
theorem spells_identifier {terminal : Terminal} (hword : terminal.isWord) {lexeme : Lexeme}
    (h : (Label.token terminal).spells lexeme) : (Label.token .identifier).spells lexeme := by
  obtain ⟨hgap, htext⟩ := Bool.and_eq_true_iff.mp h
  have hstart : (terminal == .stringStart) = false := by
    cases terminal <;> first | rfl | cases hword
  rw [hstart, Bool.false_or] at hgap
  exact Bool.and_eq_true_iff.mpr ⟨hgap, Terminal.spells_identifier_of_isWord hword htext⟩

theorem IsSpelled.shown (h : f.IsSpelled) (hderived : f.Derived) (hs : f.symbol = s.symbol) (hproper : s.isProper)
    (hspelled : s.isSpelled) : ∀ t ∈ f.shown s.marks, t.IsSpelled := by
  intro t ht
  rcases mem_shown hs hproper ht with ⟨u, hu, rfl⟩ | ⟨label, terminal, old, role, lexeme, hlabel, htoken, hold,
    rfl⟩ | ⟨p, label, -, -, rfl⟩
  · exact (h.trees u hu).assign _
  · refine Tree.IsSpelled.assign (.leaf ?_ role) _
    obtain ⟨lexeme', htrees⟩ := hderived.laidOut.token (hs.trans htoken)
    have hspells := h.trees _ hold
    rw [htrees, List.mem_singleton] at hold
    cases hold
    cases label with
    | phrase p => rfl
    | token label =>
      rw [Step.isSpelled, hlabel, htoken, Bool.and_eq_true, beq_iff_eq] at hspelled
      obtain ⟨rfl, hword⟩ := hspelled
      exact spells_identifier hword (hspells _ (List.mem_singleton_self _))
  · exact .node h.trees

theorem IsSpelled.ofProduction {p : Production} {parts : List Fragment} (hderives : p.Derives parts)
    (h : ∀ f ∈ parts, f.IsSpelled) : (Fragment.ofProduction p parts).IsSpelled := by
  constructor
  · intro t ht
    cases parts with
    | nil => cases ht
    | cons f parts => exact (h f List.mem_cons_self).lead t ht
  · intro t ht
    obtain ⟨x, hx, ht⟩ := exists_of_mem_trees ht
    obtain ⟨hf, hs⟩ := List.of_mem_zip hx
    obtain ⟨-, hsymbol, hproper⟩ := hderives.filled.of_mem_zip hx
    rcases ht with ht | ht
    · exact (h x.1 hf).lead t ht
    · have hspelled := List.all_eq_true.mp (List.all_eq_true.mp isSpelled_productions p hderives.known) x.2 hs
      exact (h x.1 hf).shown (hderives.derived x.1 hf) hsymbol hproper hspelled t ht

end Fragment

/-- All tokens of a run are spelled as their labels say. -/
structure Run.IsSpelled (r : Run) : Prop where
  stack : ∀ e ∈ r.stack, e.fragment.IsSpelled
  lead : ∀ t ∈ r.lead, t.IsSpelled

namespace Parse

theorem isSpelled_leaf {r : Run} {token : Token} (hmeets : r.Meets src token) {terminal : Terminal}
    (hcounts : token.CountsAs terminal) : (leaf src r.pos token terminal).IsSpelled := by
  obtain ⟨expected, htoken⟩ := hmeets
  obtain ⟨hgap, htext⟩ := Lexer.isSpelled_token? htoken
  have hspells : (Label.token token.terminal).spells
      ⟨src.slice r.pos token.start, src.locAt token.start, src.slice token.start token.stop⟩ := by
    refine Bool.and_eq_true_iff.mpr ⟨?_, htext⟩
    by_cases hstart : token.terminal = .stringStart
    · rw [hstart]
      rfl
    · rw [beq_eq_false_iff_ne.mpr hstart]
      exact SourceText.all_slice (hgap hstart)
  rcases hcounts with rfl | ⟨rfl, hword⟩
  · exact .leaf hspells none
  · exact .leaf (Fragment.spells_identifier hword hspells) none

/-- Tokens keep their spelling. -/
theorem invariant_isSpelled {g : Tables} (hg : g.Faithful) (src : SourceText) :
    Invariant g src (fun r => r.Sound g ∧ r.IsSpelled) Tree.IsSpelled where
  shift {r terminal token} h hmeets hcounts ordinary := by
    refine ⟨(invariant_sound hg src).shift h.1 hmeets hcounts ordinary, fun e he => ?_,
      fun _ ht => (List.not_mem_nil ht).elim⟩
    rcases List.mem_cons.mp he with rfl | he
    · refine ⟨h.2.lead, fun t ht => ?_⟩
      rw [List.mem_singleton.mp ht]
      exact isSpelled_leaf hmeets hcounts
    · exact h.2.stack e he
  reduce {r index n p} h haction hp := by
    refine ⟨(invariant_sound hg src).reduce h.1 haction hp, fun e he => ?_, h.2.lead⟩
    rcases List.mem_cons.mp he with rfl | he
    · obtain ⟨it, hit, hnext, rfl⟩ := Tables.exists_of_reduce_mem_actions haction
      obtain ⟨known, symbols⟩ := h.1.symbols_of_read hg hit hnext hp
      refine .ofProduction ⟨known, symbols, fun f hf => h.1.derived_of_mem_taken hf⟩ fun f hf => ?_
      obtain ⟨e, he, rfl⟩ := List.mem_map.mp hf
      exact h.2.stack e (List.mem_of_mem_take (List.mem_reverse.mp he))
    · exact h.2.stack e (List.mem_of_mem_drop he)
  accept {r terminal token} h hmeets hcounts _ := by
    refine .node fun t ht => ?_
    simp only [List.mem_append, List.mem_flatMap, List.mem_singleton] at ht
    rcases ht with (⟨e, he, ht | ht⟩ | ht) | rfl
    · exact (h.2.stack e he).lead t ht
    · exact (h.2.stack e he).trees t ht
    · exact h.2.lead t ht
    · exact isSpelled_leaf hmeets hcounts
  extra {r token} h hmeets hextra := by
    refine ⟨(invariant_sound hg src).extra h.1 hmeets hextra, h.2.stack, fun t ht => ?_⟩
    rcases List.mem_append.mp ht with ht | ht
    · exact h.2.lead t ht
    · rw [List.mem_singleton.mp ht]
      exact isSpelled_leaf hmeets (.inl rfl)
  prefer hr hs hlike :=
    ⟨(invariant_sound hg src).prefer hr.1 hs.1 hlike, Run.forall_mem_prefer hr.2.stack hs.2.stack, hr.2.lead⟩

end Parse

/-- The tokens of a source are spelled as their labels in its tree say. -/
theorem Tree.isSpelled_of_ofSource? {t : Tree} (h : Tree.ofSource? src = some t) : t.IsSpelled := by
  refine (Parse.invariant_isSpelled Tables.faithful_tables src).of_ofSource? ⟨.start, ?_, ?_⟩ h
  · exact fun _ he => (List.not_mem_nil he).elim
  · exact fun _ ht => (List.not_mem_nil ht).elim

end CodeAudit
