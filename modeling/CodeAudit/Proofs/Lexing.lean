import CodeAudit.Source.Lexer

/-!
# Tokens lie in the source

A token is found at or after the position from which it is looked for, and it does not reach beyond the
end of the source. The second part rests on there being nothing but NUL characters beyond the end: no
token asks for one there, so a character that a token asks for is a character of the source.
-/

namespace CodeAudit

namespace SourceText

/-- A piece of a source, from one position to another. -/
structure Spans (src : SourceText) (i stop : Nat) : Prop where
  le : i ≤ stop
  le_size : stop ≤ src.size

variable {src : SourceText} {i j k : Nat} {p : Char → Bool}

theorem Spans.of_le (h : src.Spans j k) (hij : i ≤ j) : src.Spans i k :=
  ⟨Nat.le_trans hij h.le, h.le_size⟩

theorem lt_size_of_charAt_ne (h : src.charAt i ≠ '\x00') : i < src.size := by
  apply Nat.lt_of_not_le
  intro hle
  rw [charAt, Array.getD_eq_getD_getElem?, Array.getElem?_eq_none hle] at h
  exact h rfl

/-- What stands at a position stands in the source. -/
theorem lt_size_of_charAt_eq {c : Char} (h : src.charAt i = c) (hc : c ≠ '\x00') : i < src.size :=
  lt_size_of_charAt_ne (h ▸ hc)

theorem lt_size_of_beq {c : Char} (h : (src.charAt i == c) = true) (hc : c ≠ '\x00') : i < src.size :=
  lt_size_of_charAt_eq (eq_of_beq h) hc

theorem lt_size_of_contains {cs : List Char} (h : cs.contains (src.charAt i)) (hcs : '\x00' ∉ cs) :
    i < src.size := by
  apply lt_size_of_charAt_ne
  intro heq
  rw [heq, List.contains_iff_mem] at h
  exact hcs h

theorem lt_size_of_pred (h : p (src.charAt i)) (hp : p '\x00' = false) : i < src.size := by
  apply lt_size_of_charAt_ne
  intro heq
  rw [heq, hp] at h
  cases h

theorem le_skipWhile (fuel : Nat) : i ≤ src.skipWhile p fuel i := by
  induction fuel generalizing i with
  | zero => exact Nat.le_refl i
  | succ fuel ih =>
    rw [skipWhile]
    split
    · exact Nat.le_trans (Nat.le_succ i) ih
    · exact Nat.le_refl i

theorem skipWhile_le_size (fuel : Nat) (h : i ≤ src.size) : src.skipWhile p fuel i ≤ src.size := by
  induction fuel generalizing i with
  | zero => exact h
  | succ fuel ih =>
    rw [skipWhile]
    split
    · rename_i hmore
      simp only [Bool.and_eq_true, decide_eq_true_eq] at hmore
      exact ih hmore.1
    · exact h

theorem le_endOf : i ≤ src.endOf p i := le_skipWhile _

theorem spans_endOf (h : i ≤ src.size) : src.Spans i (src.endOf p i) := ⟨le_endOf, skipWhile_le_size _ h⟩

/-- Characters are passed over in the source only. -/
theorem spans_of_endOf_ne (h : src.endOf p i ≠ i) : src.Spans i (src.endOf p i) := by
  apply spans_endOf
  apply Nat.le_of_not_lt
  intro hlt
  apply h
  rw [endOf, Nat.sub_eq_zero_of_le (Nat.le_of_lt hlt), skipWhile]

theorem spans_of_startsWith {cs : List Char} (h : src.startsWith i cs) (hi : i ≤ src.size) :
    src.Spans i (i + cs.length) := by
  induction cs generalizing i with
  | nil => exact ⟨Nat.le_refl i, hi⟩
  | cons c cs ih =>
    simp only [startsWith, Bool.and_eq_true, decide_eq_true_eq] at h
    have hrest := ih h.2 h.1.2
    rw [List.length_cons, Nat.add_comm cs.length, ← Nat.add_assoc]
    exact hrest.of_le (Nat.le_succ i)

end SourceText

open SourceText

/-- A token that lies in the source, at or after a position. -/
structure Token.Follows (src : SourceText) (i : Nat) (token : Token) : Prop where
  le : i ≤ token.start
  spans : src.Spans token.start token.stop

variable {src : SourceText} {i stop : Nat}

namespace Layout

theorem le_afterRawBackslash (mark : Char) : i ≤ afterRawBackslash src mark i := by
  unfold afterRawBackslash
  dsimp only
  split <;> split <;> split <;> omega

theorem forall_mem_ite {α : Type} {c : Prop} [Decidable c] {o o' : Option α} {P : α → Prop}
    (h : c → ∀ a ∈ o, P a) (h' : ¬ c → ∀ a ∈ o', P a) : ∀ a ∈ if c then o else o', P a := by
  split
  · rename_i hc
    exact h hc
  · rename_i hc
    exact h' hc

/-- A piece of a string lies in the source. -/
theorem spans_stringPiece? {q : Quote} {fuel : Nat} {begun : Bool} :
    ∀ piece ∈ stringPiece? src q fuel i begun, src.Spans i piece.2 := by
  induction fuel generalizing i begun with
  | zero => exact fun _ h => absurd h (Option.not_mem_none _)
  | succ fuel ih =>
    have hnone : ∀ piece ∈ (none : Option (Terminal × Nat)), src.Spans i piece.2 :=
      fun _ h => absurd h (Option.not_mem_none _)
    have hsome {terminal : Terminal} {k : Nat} (hle : i ≤ k) (hk : k ≤ src.size) :
        ∀ piece ∈ some (terminal, k), src.Spans i piece.2 := by
      intro piece h
      rw [← Option.mem_some.mp h]
      exact ⟨hle, hk⟩
    have hlater {j : Nat} {begun : Bool} (hle : i ≤ j) :
        ∀ piece ∈ stringPiece? src q fuel j begun, src.Spans i piece.2 :=
      fun piece h => (ih piece h).of_le hle
    rw [stringPiece?]
    refine forall_mem_ite (fun _ => hnone) fun hnul => ?_
    have hi : i < src.size := lt_size_of_charAt_ne fun heq => hnul (beq_iff_eq.mpr heq)
    -- All other characters that are asked for are equal to the first one.
    have hmark {k : Nat} (hc : (src.charAt i == q.mark) = true) (hk : ¬ (src.charAt k != q.mark) = true) :
        k < src.size := by
      apply lt_size_of_charAt_ne
      rw [bne_iff_ne, Decidable.not_not] at hk
      rw [hk, ← eq_of_beq hc]
      exact fun heq => hnul (beq_iff_eq.mpr heq)
    have htext : ∀ piece ∈ if begun then some (Terminal.stringText, i) else none, src.Spans i piece.2 :=
      forall_mem_ite (fun _ => hsome (Nat.le_refl i) (Nat.le_of_lt hi)) fun _ => hnone
    refine forall_mem_ite (fun _ => htext) fun _ => ?_
    refine forall_mem_ite (fun _ => ?_) fun _ => ?_
    · refine forall_mem_ite (fun _ => ?_) fun _ => forall_mem_ite (fun _ => ?_) fun _ => htext
      · exact hlater (Nat.le_of_succ_le (le_afterRawBackslash q.mark))
      · exact hlater (Nat.le_add_right i 3)
    refine forall_mem_ite (fun hc => ?_) fun _ => forall_mem_ite (fun _ => hnone) fun _ => ?_
    · refine forall_mem_ite (fun _ => forall_mem_ite (fun _ => htext) fun _ => ?_) fun _ => ?_
      · exact hsome (Nat.le_succ i) hi
      refine forall_mem_ite (fun _ => hsome (Nat.le_succ i) hi) fun hsecond => ?_
      refine forall_mem_ite (fun _ => ?_) fun hthird => forall_mem_ite (fun _ => htext) fun _ => ?_
      · exact hsome (Nat.le_add_right i 2) (hmark hc hsecond)
      · exact hsome (Nat.le_add_right i 3) (hmark hc hthird)
    · exact hlater (Nat.le_succ i)

/-- Looking over blank space leads on. -/
theorem le_stop_of_gap? {comments : Bool} {fuel : Nat} {g g' : Gap}
    (h : gap? src comments fuel g = some g') : g.stop ≤ g'.stop := by
  induction fuel generalizing g with
  | zero => cases h
  | succ fuel ih =>
    rw [gap?] at h
    dsimp only at h
    split at h
    · cases h
      exact Nat.le_refl _
    rename_i hsize
    split at h
    · exact Nat.le_of_succ_le (ih h)
    · exact Nat.le_of_succ_le (ih h)
    · exact Nat.le_of_succ_le (ih h)
    · exact Nat.le_of_succ_le (ih h)
    · exact Nat.le_of_succ_le (ih h)
    · split at h
      · cases h
        exact Nat.le_refl _
      · split at h
        · cases h
        · have hle : g.stop ≤ src.endOf (fun c => c != '\n' && c != '\x00') g.stop := le_endOf
          have hrest := ih h
          dsimp only at hrest
          omega
    · -- The line may end with one character or with two.
      generalize hnext : (if src.charAt (g.stop + 1) == '\x0d' then g.stop + 2 else g.stop + 1) = next at h
      have hle : g.stop ≤ next := by
        rw [← hnext]
        split <;> omega
      split at h
      · have hrest := ih h
        dsimp only at hrest
        omega
      · cases h
    · cases h
      exact Nat.le_refl _

theorem spans_stringStart? {quote : Quote} (h : stringStart? src i = some (quote, stop)) :
    src.Spans i stop := by
  unfold stringStart? at h
  dsimp only at h
  split at h
  · rename_i hquote
    have hle : i ≤ src.endOf (fun c => "fFrRbBuU".toList.contains c) i := le_endOf
    generalize src.endOf (fun c => "fFrRbBuU".toList.contains c) i = q at h hquote hle
    have hq : q < src.size := lt_size_of_pred hquote (by decide)
    obtain ⟨rfl, rfl⟩ := Prod.mk.inj (Option.some.inj h)
    split
    · rename_i htriple
      simp only [Bool.and_eq_true, beq_iff_eq] at htriple
      have hthird : q + 2 < src.size := by
        apply lt_size_of_pred (p := isQuote)
        · rw [htriple.2]
          exact hquote
        · decide
      exact ⟨by omega, hthird⟩
    · exact ⟨by omega, hq⟩
  · cases h

theorem follows_lineOrString? {expected : TokenSet} {n : Nesting} {token : Token} (hi : i ≤ src.size)
    (h : lineOrString? src expected n i = some token) : token.Follows src i := by
  unfold lineOrString? at h
  dsimp only at h
  split at h
  · cases h
  · rename_i g hgap
    have hle : i ≤ g.stop := le_stop_of_gap? hgap
    split at h
    · cases h
      exact ⟨Nat.le_refl i, ⟨Nat.le_refl i, hi⟩⟩
    · split at h
      · obtain ⟨⟨quote, stop⟩, hstart, rfl⟩ := Option.map_eq_some_iff.mp h
        exact ⟨hle, spans_stringStart? hstart⟩
      · cases h

theorem follows_token? {expected : TokenSet} {n : Nesting} {token : Token} (hi : i ≤ src.size)
    (h : Layout.token? src expected n i = some token) : token.Follows src i := by
  unfold Layout.token? at h
  split at h
  · split at h
    · rename_i hbrace
      simp only [Bool.and_eq_true] at hbrace
      split at h
      · rename_i hdoubled
        cases h
        have hsecond : i + 1 < src.size := by
          apply lt_size_of_pred (p := isBrace)
          · rw [eq_of_beq hdoubled]
            exact hbrace.2
          · decide
        exact ⟨Nat.le_refl i, ⟨Nat.le_add_right i 2, hsecond⟩⟩
      · cases h
    · split at h
      · obtain ⟨⟨terminal, stop⟩, hpiece, rfl⟩ := Option.map_eq_some_iff.mp h
        exact ⟨Nat.le_refl i, spans_stringPiece? _ hpiece⟩
      · exact follows_lineOrString? hi h
  · exact follows_lineOrString? hi h

end Layout

namespace Lexer

theorem spans_getD {o : Option Nat} {j : Nat} (hj : src.Spans i j) (ho : ∀ k ∈ o, src.Spans j k) :
    src.Spans i (o.getD j) := by
  cases o with
  | none => exact hj
  | some k => exact (ho k rfl).of_le hj.le

theorem spans_decimalEnd? {fuel : Nat} (h : decimalEnd? src fuel i = some stop) : src.Spans i stop := by
  induction fuel generalizing i stop with
  | zero => cases h
  | succ fuel ih =>
    rw [decimalEnd?] at h
    split at h
    · cases h
    · rename_i hne
      have hdigits := spans_of_endOf_ne hne
      split at h
      · rename_i hscore
        have hlt : src.endOf isDigit i < src.size := lt_size_of_beq hscore (by decide)
        have hle := hdigits.le
        cases h
        exact spans_getD ⟨by omega, hlt⟩ fun k hk => ih hk
      · cases h
        exact hdigits

theorem spans_decimal? (h : decimal? src i = some stop) : src.Spans i stop := spans_decimalEnd? h

theorem spans_groupsEnd? {digit : Char → Bool} {fuel : Nat}
    (h : groupsEnd? src digit fuel i = some stop) : src.Spans i stop := by
  induction fuel generalizing i stop with
  | zero => cases h
  | succ fuel ih =>
    rw [groupsEnd?] at h
    generalize hstart : (if src.charAt i == '_' then i + 1 else i) = start at h
    have hle : i ≤ start := by
      rw [← hstart]
      split <;> omega
    split at h
    · cases h
    · rename_i hne
      have hdigits := (spans_of_endOf_ne hne).of_le hle
      cases h
      exact spans_getD hdigits fun k hk => ih hk

theorem spans_optional {cs : List Char} {j : Nat} (h : src.Spans i j) (hcs : '\x00' ∉ cs) :
    src.Spans i (optional src cs j) := by
  unfold optional
  split
  · rename_i hmore
    exact ⟨Nat.le_succ_of_le h.le, lt_size_of_contains hmore hcs⟩
  · exact h

theorem spans_based? {marks : List Char} {digit : Char → Bool}
    (h : based? src marks digit i = some stop) : src.Spans i stop := by
  unfold based? at h
  split at h
  · obtain ⟨j, hj, rfl⟩ := Option.map_eq_some_iff.mp h
    exact spans_optional ((spans_groupsEnd? hj).of_le (Nat.le_add_right i 2)) (by decide)
  · cases h

theorem spans_furthest? {ends : List (Option Nat)} (hends : ∀ k, some k ∈ ends → src.Spans i k)
    (h : furthest? ends = some stop) : src.Spans i stop := by
  have hfold : ∀ k ∈ furthest? ends, src.Spans i k := by
    unfold furthest?
    refine List.foldlRecOn (motive := fun best : Option Nat => ∀ k ∈ best, src.Spans i k) _ _ nofun ?_
    intro best hbest j hj k hk
    have hj : src.Spans i j := hends j (by simpa using hj)
    cases best with
    | none =>
      obtain rfl : max 0 j = k := by simpa using hk
      rwa [Nat.zero_max]
    | some b =>
      have hb := hbest b rfl
      obtain rfl : max b j = k := by simpa using hk
      exact ⟨Nat.le_trans hb.le (Nat.le_max_left b j), Nat.max_le.mpr ⟨hb.le_size, hj.le_size⟩⟩
  exact hfold stop h

theorem spans_integer? (h : integer? src i = some stop) : src.Spans i stop := by
  refine spans_furthest? (fun k hk => ?_) h
  simp only [List.mem_cons, List.not_mem_nil, or_false] at hk
  rcases hk with hk | hk | hk | hk
  · exact spans_based? hk.symm
  · exact spans_based? hk.symm
  · exact spans_based? hk.symm
  · obtain ⟨j, hj, rfl⟩ := Option.map_eq_some_iff.mp hk.symm
    exact spans_optional (spans_decimal? hj) (by decide)

theorem spans_exponent? (h : exponent? src i = some stop) : src.Spans i stop := by
  unfold exponent? at h
  split at h
  · refine (spans_decimal? h).of_le ?_
    unfold optional
    split <;> omega
  · cases h

theorem spans_float? (h : float? src i = some stop) : src.Spans i stop := by
  obtain ⟨j, hj, rfl⟩ := Option.map_eq_some_iff.mp h
  refine spans_optional (spans_furthest? (fun k hk => ?_) hj) (by decide)
  have hpoint {a b : Nat} (hab : (if src.charAt a == '.' then some (a + 1) else none) = some b) :
      src.Spans a b := by
    split at hab
    · rename_i hdot
      cases hab
      exact ⟨Nat.le_succ a, lt_size_of_beq hdot (by decide)⟩
    · cases hab
  have hexponent {a b : Nat} (hab : src.Spans a b) : src.Spans a ((exponent? src b).getD b) :=
    spans_getD hab fun _ hk => spans_exponent? hk
  simp only [List.mem_cons, List.not_mem_nil, or_false] at hk
  rcases hk with hk | hk | hk
  · obtain ⟨b, hb, rfl⟩ := Option.map_eq_some_iff.mp hk.symm
    obtain ⟨a, ha, hb⟩ := Option.bind_eq_some_iff.mp hb
    have hdigits := spans_decimal? ha
    have hdot := (hpoint hb).of_le hdigits.le
    exact hexponent (spans_getD hdot fun _ hk => spans_decimal? hk)
  · obtain ⟨b, hb, rfl⟩ := Option.map_eq_some_iff.mp hk.symm
    obtain ⟨a, ha, hb⟩ := Option.bind_eq_some_iff.mp hb
    have hwhole : i ≤ (decimal? src i).getD i := by
      cases hd : decimal? src i with
      | none => exact Nat.le_refl i
      | some d => exact (spans_decimal? hd).le
    have hdot := (hpoint ha).of_le hwhole
    exact hexponent ((spans_decimal? hb).of_le hdot.le)
  · obtain ⟨a, ha, hk⟩ := Option.bind_eq_some_iff.mp hk.symm
    exact (spans_exponent? hk).of_le (spans_decimal? ha).le

theorem lt_size_of_areHex {n k : Nat} (h : areHex src n i) (hk : k < n) : i + k < src.size := by
  have hhex := List.all_eq_true.mp h k (List.mem_range.mpr hk)
  exact lt_size_of_pred hhex (by decide)

theorem spans_escape? (h : escape? src i = some stop) : src.Spans i stop := by
  unfold escape? at h
  split at h
  · cases h
  rename_i hstart
  have hnext : i + 1 < src.size := by
    simp only [Bool.or_eq_true, decide_eq_true_eq, not_or, Nat.not_le] at hstart
    exact hstart.2
  split at h
  · obtain ⟨hhex, rfl⟩ : areHex src 4 (i + 2) ∧ i + 6 = stop := by simpa using h
    have hlast := lt_size_of_areHex hhex (k := 3) (by decide)
    exact ⟨by omega, by omega⟩
  · obtain ⟨hhex, rfl⟩ : areHex src 8 (i + 2) ∧ i + 10 = stop := by simpa using h
    have hlast := lt_size_of_areHex hhex (k := 7) (by decide)
    exact ⟨by omega, by omega⟩
  · obtain ⟨hhex, rfl⟩ : areHex src 2 (i + 2) ∧ i + 4 = stop := by simpa using h
    have hlast := lt_size_of_areHex hhex (k := 1) (by decide)
    exact ⟨by omega, by omega⟩
  · split at h
    · dsimp only at h
      split at h
      · rename_i hname
        simp only [Bool.and_eq_true, decide_eq_true_eq] at hname
        have hlast := lt_size_of_beq hname.2 (by decide)
        cases h
        exact ⟨by omega, hlast⟩
      · cases h
    · cases h
  · cases h
    exact ⟨by omega, hnext⟩
  · split at h
    · rename_i hline
      have hlast := lt_size_of_beq hline (by decide)
      cases h
      exact ⟨by omega, hlast⟩
    · cases h
  · split at h
    · have hdigits := spans_endOf (p := isDigit) (Nat.le_of_lt hnext)
      have hle := hdigits.le
      have hsize := hdigits.le_size
      cases h
      exact ⟨by omega, by omega⟩
    · split at h
      · cases h
        exact ⟨by omega, hnext⟩
      · cases h

theorem spans_lineContinuation? (h : lineContinuation? src i = some stop) : src.Spans i stop := by
  unfold lineContinuation? at h
  split at h
  · cases h
  rename_i hstart
  have hi : i < src.size := by
    simp only [Bool.or_eq_true, decide_eq_true_eq, not_or, Nat.not_le] at hstart
    exact hstart.2
  split at h
  · cases h
    exact ⟨Nat.le_succ i, hi⟩
  rename_i hnext
  split at h
  · cases h
    exact ⟨by omega, by omega⟩
  · cases h
    exact ⟨by omega, by omega⟩
  · split at h
    · rename_i hline
      have hlast := lt_size_of_beq hline (by decide)
      cases h
      exact ⟨by omega, hlast⟩
    · cases h
  · cases h

theorem mem_of_longest? {tokens : List (Terminal × Nat)} {token : Terminal × Nat}
    (h : longest? tokens = some token) : token ∈ tokens := by
  have hfold : ∀ t ∈ longest? tokens, t ∈ tokens := by
    unfold longest?
    refine List.foldlRecOn (motive := fun best : Option (Terminal × Nat) => ∀ t ∈ best, t ∈ tokens)
      _ _ nofun ?_
    intro best hbest other hother t ht
    split at ht
    · split at ht
      · cases ht
        exact hother
      · exact hbest t ht
    · cases ht
      exact hother
  exact hfold token h

/-- Tokens that begin at a position and lie in the source. -/
def AllSpan (src : SourceText) (i : Nat) (tokens : List (Terminal × Nat)) : Prop :=
  ∀ token ∈ tokens, src.Spans i token.2

namespace AllSpan

theorem nil : AllSpan src i [] := fun _ ht => absurd ht List.not_mem_nil

theorem single {terminal : Terminal} (h : src.Spans i stop) : AllSpan src i [(terminal, stop)] := by
  intro token ht
  rw [List.mem_singleton.mp ht]
  exact h

theorem append {ts us : List (Terminal × Nat)} (hts : AllSpan src i ts) (hus : AllSpan src i us) :
    AllSpan src i (ts ++ us) := by
  intro token ht
  rcases List.mem_append.mp ht with ht | ht
  · exact hts token ht
  · exact hus token ht

theorem tokenTo {terminal : Terminal} {o : Option Nat} (h : ∀ stop ∈ o, src.Spans i stop) :
    AllSpan src i (tokenTo terminal o) := by
  cases o with
  | none => exact nil
  | some stop => exact single (h stop rfl)

theorem ite {c : Prop} [Decidable c] {ts : List (Terminal × Nat)} (h : c → AllSpan src i ts) :
    AllSpan src i (if c then ts else []) := by
  split
  · rename_i hc
    exact h hc
  · exact nil

end AllSpan

variable {expected : TokenSet} {immediate : Bool}

theorem allSpan_urgent (hi : i < src.size) : AllSpan src i (urgent src expected immediate i) := by
  have hformat : ∀ stop ∈ formatText? src i, src.Spans i stop := by
    intro stop h
    unfold formatText? at h
    dsimp only at h
    split at h
    · cases h
      exact spans_endOf (Nat.le_of_lt hi)
    · cases h
  exact .append (.append (.ite fun _ => .tokenTo fun _ => spans_escape?) (.ite fun _ => .tokenTo hformat))
    (.tokenTo fun _ => spans_lineContinuation?)

theorem allSpan_numbers : AllSpan src i (numbers src expected i) :=
  .ite fun _ => .append (.ite fun _ => .tokenTo fun _ => spans_integer?)
    (.ite fun _ => .tokenTo fun _ => spans_float?)

theorem allSpan_signsAt (hi : i ≤ src.size) : AllSpan src i (signsAt src expected i) := by
  intro token ht
  obtain ⟨⟨chars, terminal, index⟩, -, ht⟩ := List.mem_filterMap.mp ht
  dsimp only at ht
  split at ht
  · rename_i hstarts
    cases ht
    exact spans_of_startsWith (Bool.and_eq_true_iff.mp hstarts).1 hi
  · cases ht

theorem allSpan_word? (hi : i < src.size) : AllSpan src i (word? src expected i).toList := by
  intro token ht
  have hend : src.Spans i (src.endOf Identifier.isContinue (i + 1)) := (spans_endOf hi).of_le (Nat.le_succ i)
  have ht := Option.mem_toList.mp ht
  unfold word? at ht
  dsimp only at ht
  split at ht
  · split at ht
    · cases ht
      exact hend
    · split at ht
      · cases ht
        exact hend
      · cases ht
  · cases ht

theorem allSpan_ordinary (hi : i < src.size) : AllSpan src i (ordinary src expected immediate i) := by
  have hbackslash : src.Spans i (i + 1) := ⟨Nat.le_succ i, hi⟩
  refine .append (.append (.append (.append (.append (.append ?_ ?_) ?_) allSpan_numbers) ?_)
    (allSpan_signsAt (Nat.le_of_lt hi))) (allSpan_word? hi)
  · exact .ite fun _ => .single hbackslash
  · exact .ite fun _ => .single (spans_endOf (Nat.le_of_lt hi))
  · refine .ite fun hletter => .single ⟨Nat.le_add_right i 2, ?_⟩
    simp only [Bool.and_eq_true, decide_eq_true_eq] at hletter
    apply lt_size_of_charAt_ne
    intro hnul
    rw [hnul] at hletter
    exact absurd hletter.1.1.2 (by decide)
  · exact .ite fun hdots => .single (spans_of_startsWith (Bool.and_eq_true_iff.mp hdots).1 (Nat.le_of_lt hi))

variable {n : Nesting} {token : Token}

theorem follows_plain? {fuel : Nat} (hi : i ≤ src.size)
    (h : plain? src expected n fuel immediate i = some token) : token.Follows src i := by
  induction fuel generalizing i immediate with
  | zero => cases h
  | succ fuel ih =>
    rw [plain?] at h
    split at h
    · cases h
      exact ⟨hi, ⟨Nat.le_refl _, Nat.le_refl _⟩⟩
    rename_i hmore
    have hlt := Nat.lt_of_not_le hmore
    split at h
    · rename_i hlongest
      cases h
      exact ⟨Nat.le_refl i, allSpan_urgent hlt _ (mem_of_longest? hlongest)⟩
    · split at h
      · rename_i hlongest
        cases h
        exact ⟨Nat.le_refl i, allSpan_ordinary hlt _ (mem_of_longest? hlongest)⟩
      · split at h
        · have hrest := ih hlt h
          exact ⟨Nat.le_of_succ_le hrest.le, hrest.spans⟩
        · cases h

/-- The next token lies in the source, at or after the position from which it is looked for. -/
theorem follows_token? (hi : i ≤ src.size) (h : token? src expected n i = some token) :
    token.Follows src i := by
  unfold token? at h
  generalize hstart : (if i = 0 && src.charAt 0 == '\ufeff' then 1 else i) = start at h
  have hle : i ≤ start ∧ start ≤ src.size := by
    rw [← hstart]
    split
    · rename_i hmark
      simp only [Bool.and_eq_true, decide_eq_true_eq] at hmark
      exact ⟨by omega, lt_size_of_beq hmark.2 (by decide)⟩
    · exact ⟨Nat.le_refl i, hi⟩
  have hfollows : token.Follows src start := by
    dsimp only at h
    split at h
    · rename_i hlayout
      cases h
      exact Layout.follows_token? hle.2 hlayout
    · exact follows_plain? hle.2 h
  exact ⟨Nat.le_trans hle.1 hfollows.le, hfollows.spans⟩

end Lexer

end CodeAudit
