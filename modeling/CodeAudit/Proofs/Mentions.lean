import CodeAudit.Matching.Policies
import CodeAudit.Proofs.Tables
import Mathlib.Data.List.Infix
import Mathlib.Data.List.TakeWhile

/-!
# Words that are mentioned in a key

Keys and words are compared in lower case, so a key that contains a word should contain it in lower case
too. The capital sigma stands in the way of this: it has two lower-case forms, and it depends on its
neighbours which one it takes. These can be other characters in the key than in the word by itself.

A sigma in a word is open if the characters of the word do not tell its form in every key. A word is noticed
in all keys that contain it exactly if none of its sigmas is open. Whatever the word, it is noticed in a key
that leaves its sigmas as they are.
-/

namespace CodeAudit

theorem Search.occurs_iff {piece text : List Char} : occurs piece text ↔ piece <:+: text := by
  induction text with
  | nil => simp [occurs]
  | cons c cs ih =>
    have hbegins : beginsWith piece (c :: cs) ↔ piece <+: c :: cs := by
      rw [beginsWith, Option.isSome_iff_exists]
      exact exists_congr fun rest => after?_eq_some_iff.trans eq_comm
    rw [occurs, Bool.or_eq_true, hbegins, ih, List.infix_cons_iff]

namespace Lowercase

/-! ### Lower case in context -/

/-- Whether a word ends at a sigma between two texts, the first one reversed. -/
def endsWord (before after : List Char) : Bool := reachesCased before && !reachesCased after

/-- The lower-case form of a character between two texts, the first one reversed. -/
def formOf (before : List Char) (c : Char) (after : List Char) : List Char :=
  if c = 'Σ' then [if endsWord before after then 'ς' else 'σ'] else ofChar c

/-- The lower-case form of a text between two others, the first one reversed. -/
def within (before : List Char) : List Char → List Char → List Char
  | [], _ => []
  | c :: rest, after => formOf before c (rest ++ after) ++ within (c :: before) rest after

theorem chars_cons (before : List Char) (c : Char) (rest : List Char) :
    chars before (c :: rest) = formOf before c rest ++ chars (c :: before) rest := by
  have hsigma : (c.toNat == 0x3A3) = decide (c = 'Σ') := by
    rw [Bool.eq_iff_iff, beq_iff_eq, decide_eq_true_eq]
    exact ⟨fun h => Char.ext (UInt32.toNat_inj.mp h), fun h => h ▸ rfl⟩
  rw [chars, hsigma, formOf, endsWord]
  by_cases hc : c = 'Σ'
  · simp only [hc, decide_true, if_true]
    split <;> rfl
  · simp [hc]

theorem chars_append (before text after : List Char) :
    chars before (text ++ after) = within before text after ++ chars (text.reverse ++ before) after := by
  induction text generalizing before with
  | nil => rfl
  | cons c rest ih => simp [chars_cons, within, ih]

theorem chars_eq_within (before text : List Char) : chars before text = within before text [] := by
  simpa [chars] using chars_append before text []

theorem within_append (before xs ys after : List Char) :
    within before (xs ++ ys) after =
      within before xs (ys ++ after) ++ within (xs.reverse ++ before) ys after := by
  induction xs generalizing before with
  | nil => rfl
  | cons c xs ih => simp [within, ih]

/-- A context matters only through its sigmas. -/
theorem within_congr {before before' after after' : List Char} {text : List Char}
    (h : ∀ xs ys, text = xs ++ 'Σ' :: ys →
      endsWord (xs.reverse ++ before) (ys ++ after) = endsWord (xs.reverse ++ before') (ys ++ after')) :
    within before text after = within before' text after' := by
  induction text generalizing before before' with
  | nil => rfl
  | cons c rest ih =>
    have hform : formOf before c (rest ++ after) = formOf before' c (rest ++ after') := by
      rw [formOf, formOf]
      split
      · rename_i hc
        have hends := h [] rest (by rw [hc]; rfl)
        rw [show endsWord before (rest ++ after) = endsWord before' (rest ++ after') from hends]
      · rfl
    have hrest : within (c :: before) rest after = within (c :: before') rest after' := by
      refine ih fun xs ys heq => ?_
      simpa using h (c :: xs) ys (by rw [heq]; rfl)
    rw [within, within, hform, hrest]

/-! ### The neighbours of a sigma -/

/-- A text in which nothing counts as a neighbour. -/
def Skipped (cs : List Char) : Prop := ∀ c ∈ cs, isIgnorable c

theorem reachesCased_append_of_skipped {xs : List Char} (h : Skipped xs) (ys : List Char) :
    reachesCased (xs ++ ys) = reachesCased ys := by
  rw [reachesCased, List.dropWhile_append, List.dropWhile_eq_nil_iff.mpr h]
  rfl

theorem reachesCased_append_of_not_skipped {xs : List Char} (h : ¬ Skipped xs) (ys : List Char) :
    reachesCased (xs ++ ys) = reachesCased xs := by
  have hne : xs.dropWhile isIgnorable ≠ [] := mt List.dropWhile_eq_nil_iff.mp h
  obtain ⟨c, cs, hcs⟩ := List.exists_cons_of_ne_nil hne
  simp [reachesCased, List.dropWhile_append, hcs]

theorem reachesCased_of_skipped {xs : List Char} (h : Skipped xs) : reachesCased xs = false := by
  simpa [reachesCased] using reachesCased_append_of_skipped h []

theorem isIgnorable_sigma : isIgnorable 'Σ' = false := by
  rw [isIgnorable, if_neg (by decide), ignorableTable, CharSet.ofTable, String.toList_ofList]
  rfl

theorem isCased_sigma : isCased 'Σ' = true := by
  rw [isCased, if_neg (by decide), casedTable, CharSet.ofTable, String.toList_ofList]
  rfl

theorem sigma_not_mem_of_skipped {xs : List Char} (h : Skipped xs) : 'Σ' ∉ xs := by
  intro hmem
  have hsigma := h _ hmem
  rw [isIgnorable_sigma] at hsigma
  cases hsigma

/-- Beyond another sigma, nothing counts as a neighbour. -/
theorem reachesCased_append_sigma (xs ys zs : List Char) :
    reachesCased (xs ++ 'Σ' :: ys) = reachesCased (xs ++ 'Σ' :: zs) := by
  have hsigma (rest : List Char) : reachesCased ('Σ' :: rest) = true := by
    rw [reachesCased, List.dropWhile_cons_of_neg (by rw [isIgnorable_sigma]; decide)]
    exact isCased_sigma
  by_cases h : Skipped xs
  · rw [reachesCased_append_of_skipped h, reachesCased_append_of_skipped h, hsigma, hsigma]
  · rw [reachesCased_append_of_not_skipped h, reachesCased_append_of_not_skipped h]

/-- What comes after a sigma does not matter to the text before it. -/
theorem within_before_sigma (before text ys zs : List Char) :
    within before text ('Σ' :: ys) = within before text ('Σ' :: zs) := by
  refine within_congr fun xs rest _ => ?_
  rw [endsWord, endsWord, reachesCased_append_sigma rest ys zs]

/-- What comes before a sigma does not matter to the text after it. -/
theorem within_after_sigma (ys zs text after : List Char) :
    within ('Σ' :: ys) text after = within ('Σ' :: zs) text after := by
  refine within_congr fun xs rest _ => ?_
  rw [endsWord, endsWord, reachesCased_append_sigma xs.reverse ys zs]

/-- Without sigmas a context does not matter. -/
theorem within_of_skipped {text : List Char} (h : Skipped text) (before before' after after' : List Char) :
    within before text after = within before' text after' := by
  refine within_congr fun xs ys heq => ?_
  exact absurd (by simp [heq]) (sigma_not_mem_of_skipped h)

/-! ### Open sigmas -/

/-- A sigma between two parts of a word, the first one reversed, whose form depends on what is around the
word: nothing in the word counts as a neighbour before it, and what does after it has no case; or what counts
as a neighbour before it has case, and nothing does after it. -/
def IsOpen (before after : List Char) : Prop :=
  Skipped before ∧ reachesCased after = false ∨ reachesCased before ∧ Skipped after

/-- A word in which no sigma is open. -/
def Settled (word : List Char) : Prop :=
  ∀ before after, word = before ++ 'Σ' :: after → ¬ IsOpen before.reverse after

/-- The sigmas of a word take the same forms between two texts as they do in the word by itself. -/
def Undisturbed (before word after : List Char) : Prop :=
  ∀ xs ys, word = xs ++ 'Σ' :: ys →
    endsWord (xs.reverse ++ before.reverse) (ys ++ after) = endsWord xs.reverse ys

theorem endsWord_of_not_isOpen {xs ys : List Char} (h : ¬ IsOpen xs ys) (before after : List Char) :
    endsWord (xs ++ before) (ys ++ after) = endsWord xs ys := by
  obtain ⟨hfirst, hsecond⟩ := not_or.mp h
  rw [endsWord, endsWord]
  cases hys : reachesCased ys with
  | true =>
    have hkept : ¬ Skipped ys := by
      intro hskipped
      rw [reachesCased_of_skipped hskipped] at hys
      cases hys
    rw [reachesCased_append_of_not_skipped hkept, hys, Bool.not_true, Bool.and_false, Bool.and_false]
  | false =>
    have hkept : ¬ Skipped xs := fun hskipped => hfirst ⟨hskipped, hys⟩
    rw [reachesCased_append_of_not_skipped hkept]
    cases hxs : reachesCased xs with
    | false => rfl
    | true =>
      have hlast : ¬ Skipped ys := fun hskipped => hsecond ⟨hxs, hskipped⟩
      rw [reachesCased_append_of_not_skipped hlast, hys]

theorem Settled.undisturbed {word : List Char} (h : Settled word) (before after : List Char) :
    Undisturbed before word after :=
  fun xs ys heq => endsWord_of_not_isOpen (h xs ys heq) before.reverse after

/-- A text keeps the lower-case form of a word that it does not disturb. -/
theorem infix_chars_of_undisturbed {before word after : List Char} (h : Undisturbed before word after) :
    chars [] word <:+: chars [] (before ++ (word ++ after)) := by
  have hword : within before.reverse word after = chars [] word := by
    rw [chars_eq_within]
    refine within_congr fun xs ys heq => ?_
    simpa using h xs ys heq
  rw [chars_append, chars_append, List.append_nil, hword]
  exact ⟨_, _, List.append_assoc ..⟩

/-- The lower-case form of a text with a sigma in it. -/
theorem within_sigma (before xs ys after : List Char) :
    within before (xs ++ 'Σ' :: ys) after =
      within before xs ['Σ'] ++
        ((if endsWord (xs.reverse ++ before) (ys ++ after) then 'ς' else 'σ') ::
          within ['Σ'] ys after) := by
  rw [within_append, List.cons_append, within_before_sigma before xs (ys ++ after) [], within,
    within_after_sigma (xs.reverse ++ before) [] ys after, formOf, if_pos rfl]
  rfl

/-- A text is not found where one of its characters has been replaced and no other one of its kind comes in. -/
theorem not_infix_of_replaced {c d : Char} (hne : d ≠ c) {pre post : List Char} (hpre : c ∉ pre)
    (hpost : c ∉ post) (xs ys : List Char) : ¬ xs ++ c :: ys <:+: pre ++ (xs ++ d :: ys) ++ post := by
  intro h
  have hcount := h.sublist.count_le c
  simp only [List.count_append, List.count_cons_self, List.count_cons_of_ne hne,
    List.count_eq_zero_of_not_mem hpre, List.count_eq_zero_of_not_mem hpost] at hcount
  omega

/-- A word with an open sigma is lost in some text: behind a letter, or before one. -/
theorem exists_not_infix_of_isOpen {xs ys : List Char} (h : IsOpen xs.reverse ys) :
    ∃ before after, ¬ chars [] (xs ++ 'Σ' :: ys) <:+: chars [] (before ++ (xs ++ 'Σ' :: ys ++ after)) := by
  rcases h with ⟨hskipped, hcased⟩ | ⟨hcased, hskipped⟩
  · have hopen : endsWord xs.reverse ys = false := by
      rw [endsWord, reachesCased_of_skipped hskipped]
      rfl
    have hends : endsWord (xs.reverse ++ ['a']) ys = true := by
      rw [endsWord, reachesCased_append_of_skipped hskipped, hcased]
      rfl
    have hxs : Skipped xs := fun c hc => hskipped c (List.mem_reverse.mpr hc)
    have hword : chars [] (xs ++ 'Σ' :: ys) = within [] xs ['Σ'] ++ 'σ' :: within ['Σ'] ys [] := by
      rw [chars_eq_within, within_sigma, List.append_nil, List.append_nil, hopen]
      rfl
    have htext : chars [] (['a'] ++ (xs ++ 'Σ' :: ys ++ [])) =
        ['a'] ++ (within [] xs ['Σ'] ++ 'ς' :: within ['Σ'] ys []) ++ [] := by
      rw [List.append_nil, List.append_nil, List.singleton_append, chars_cons, chars_eq_within, within_sigma,
        List.append_nil, hends, within_of_skipped hxs ['a'] [] ['Σ'] ['Σ']]
      rfl
    refine ⟨['a'], [], ?_⟩
    rw [hword, htext]
    exact not_infix_of_replaced (by decide) (by decide) (by decide) _ _
  · have hends : endsWord xs.reverse ys = true := by
      rw [endsWord, hcased, reachesCased_of_skipped hskipped]
      rfl
    have hopen : endsWord xs.reverse (ys ++ ['a']) = false := by
      rw [endsWord, reachesCased_append_of_skipped hskipped]
      exact Bool.and_false _
    have hword : chars [] (xs ++ 'Σ' :: ys) = within [] xs ['Σ'] ++ 'ς' :: within ['Σ'] ys [] := by
      rw [chars_eq_within, within_sigma, List.append_nil, List.append_nil, hends]
      rfl
    have htext : chars [] ([] ++ (xs ++ 'Σ' :: ys ++ ['a'])) =
        [] ++ (within [] xs ['Σ'] ++ 'σ' :: within ['Σ'] ys []) ++ ['a'] := by
      rw [List.nil_append, List.nil_append, chars_append, within_sigma, List.append_nil, hopen,
        within_of_skipped hskipped ['Σ'] ['Σ'] ['a'] []]
      rfl
    refine ⟨[], ['a'], ?_⟩
    rw [hword, htext]
    exact not_infix_of_replaced (by decide) (by decide) (by decide) _ _

end Lowercase

/-! ### Policies -/

theorem mentions_iff {key word : String} :
    mentions key word ↔ Lowercase.chars [] word.toList <:+: Lowercase.chars [] key.toList := by
  rw [mentions, Search.occursIn, Lowercase.ofString, Lowercase.ofString, String.toList_ofList,
    String.toList_ofList, Search.occurs_iff]

namespace Node

/-- A text is a key of a dictionary and has a value that is literally true. -/
def Affirms (dict : Node) (key : String) : Prop :=
  ∃ keys values k value, dict.shape = .dict keys values ∧ (some k, value) ∈ keys.zip values ∧
    k.asStr? = some key ∧ value.isBool true

/-- A policy word is noticed in a key, whichever other words there are: no dictionary has the key listed as
one without a policy, and in a dictionary that affirms the key the word is granted. -/
structure Notices (word key : String) : Prop where
  unlisted : ∀ (words : List String) (dict : Node), word ∈ words → key ∉ dict.unpolicedKeys words
  granted : ∀ (words : List String) (dict : Node), word ∈ words → dict.Affirms key →
    word ∈ dict.grantedPolicies words

/-- A dictionary with a single entry, whose value is true. -/
def affirmation (key : String) : Node :=
  ⟨⟨1, 1⟩, .dict [some ⟨⟨1, 1⟩, .str key false⟩] [⟨⟨1, 1⟩, .constant (.bool true)⟩]⟩

theorem mem_unpolicedKeys_affirmation {words : List String} {key : String} :
    key ∈ (affirmation key).unpolicedKeys words ↔ ∀ word ∈ words, ¬ mentions key word := by
  simp [unpolicedKeys, affirmation, asStr?]

theorem mem_grantedPolicies_affirmation {words : List String} {key word : String} :
    word ∈ (affirmation key).grantedPolicies words ↔ word ∈ words ∧ mentions key word := by
  simp [grantedPolicies, affirmation, asStr?, isBool, mem_sortedDistinct]

theorem notices_iff {word key : String} : Notices word key ↔ mentions key word := by
  constructor
  · intro h
    have hlisted := mt mem_unpolicedKeys_affirmation.mpr (h.unlisted [word] _ List.mem_cons_self)
    simpa using hlisted
  · intro h
    constructor
    · intro words dict hword hkey
      rw [unpolicedKeys] at hkey
      split at hkey
      · obtain ⟨-, hnone⟩ := List.mem_filter.mp hkey
        have hany : words.any (mentions key) = true := List.any_eq_true.mpr ⟨word, hword, h⟩
        rw [hany] at hnone
        cases hnone
      · cases hkey
    · rintro words dict hword ⟨keys, values, k, value, hdict, hentry, hk, hvalue⟩
      rw [grantedPolicies, hdict, mem_sortedDistinct, List.mem_flatMap]
      refine ⟨_, hentry, ?_⟩
      rw [Option.bind_some, hk]
      simp [hvalue, hword, h]

/-- A key that contains a policy word notices it if the sigmas of the word take the same forms in both. A
policy word is noticed in all keys that contain it exactly if none of its sigmas is open. -/
theorem verbatim_policies_noticed_iff (word : String) :
    (∀ (key : String) (before after : List Char), key.toList = before ++ (word.toList ++ after) →
      Lowercase.Undisturbed before word.toList after → Notices word key) ∧
    ((∀ key : String, word.toList <:+: key.toList → Notices word key) ↔
      Lowercase.Settled word.toList) := by
  have hkept : ∀ (key : String) (before after : List Char), key.toList = before ++ (word.toList ++ after) →
      Lowercase.Undisturbed before word.toList after → Notices word key := by
    intro key before after hkey hundisturbed
    rw [notices_iff, mentions_iff, hkey]
    exact Lowercase.infix_chars_of_undisturbed hundisturbed
  refine ⟨hkept, fun h before after hword hopen => ?_, fun h key hinfix => ?_⟩
  · obtain ⟨left, right, hlost⟩ := Lowercase.exists_not_infix_of_isOpen hopen
    rw [← hword] at hlost
    have hinfix : word.toList <:+: (String.ofList (left ++ (word.toList ++ right))).toList := by
      rw [String.toList_ofList]
      exact ⟨left, right, List.append_assoc ..⟩
    have hnotices := h _ hinfix
    rw [notices_iff, mentions_iff, String.toList_ofList] at hnotices
    exact hlost hnotices
  · obtain ⟨before, after, hkey⟩ := hinfix
    exact hkept key before after (by rw [← hkey, List.append_assoc]) (h.undisturbed before after)

/-- At the end of a word in both, and inside a word in both: the sigma keeps its form, in the first word in one
key and in the second word in every key. -/
theorem verbatim_policies_noticed_iff_inside :
    Lowercase.Undisturbed "x".toList "AΣ".toList "-1".toList ∧ Notices "AΣ" "xAΣ-1" ∧
      Lowercase.Settled "AΣB".toList ∧ Notices "AΣB" "xAΣBx" := by
  have hundisturbed : Lowercase.Undisturbed "x".toList "AΣ".toList "-1".toList := by
    intro xs ys heq
    obtain ⟨rfl, -, rfl⟩ := (List.append_cons_inj_of_notMem (show 'Σ' ∉ ['A'] by decide) List.not_mem_nil).mp heq
    decide
  have hsettled : Lowercase.Settled "AΣB".toList := by
    intro xs ys heq
    obtain ⟨rfl, -, rfl⟩ := (List.append_cons_inj_of_notMem (show 'Σ' ∉ ['A'] by decide)
      (show 'Σ' ∉ ['B'] by decide)).mp heq
    simp [Lowercase.IsOpen, Lowercase.Skipped, Lowercase.isIgnorable]
  obtain ⟨hkept, -⟩ := verbatim_policies_noticed_iff "AΣ"
  obtain ⟨-, hall⟩ := verbatim_policies_noticed_iff "AΣB"
  exact ⟨hundisturbed, hkept _ _ _ rfl hundisturbed, hsettled, hall.mpr hsettled _ ⟨['x'], ['x'], rfl⟩⟩

/-- The key contains the word and affirms it. Still the key is listed, and the word is not granted: the sigma
ends the word by itself, but not the key. -/
theorem verbatim_policy_missed :
    let dict := affirmation "AΣB"
    "AΣ".toList <:+: "AΣB".toList ∧ dict.Affirms "AΣB" ∧ "AΣB" ∈ dict.unpolicedKeys ["AΣ"] ∧
      "AΣ" ∉ dict.grantedPolicies ["AΣ"] := by
  intro dict
  have hmissed : ¬ mentions "AΣB" "AΣ" := by
    rw [mentions_iff]
    decide
  refine ⟨⟨[], ['B'], rfl⟩, ⟨_, _, _, _, rfl, List.mem_cons_self, rfl, rfl⟩, ?_, ?_⟩
  · exact mem_unpolicedKeys_affirmation.mpr (List.forall_mem_singleton.mpr hmissed)
  · exact fun h => hmissed (mem_grantedPolicies_affirmation.mp h).2

end Node

end CodeAudit
