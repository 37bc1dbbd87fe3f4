import CodeAudit.Catalog.Basic
import Mathlib.Data.List.Basic

/-!
# Checks that look for mistakes

A check either fails or hands out a result. `Detects` says of a check which mistakes it looks for
and what its results are like: it fails exactly if there is such a mistake, and then with one of
them. Checks are made by doing one after the other and by loops, and what they detect is put together in
the same way. Nothing is said about which of several mistakes is reported.
-/

namespace CodeAudit

/-- A check that looks for mistakes of some kind. It fails with one of them if there is any, and
otherwise hands out a good result. -/
def Detects {ε α : Type} (mistake : ε → Prop) (good : α → Prop) : Except ε α → Prop
  | .ok a => (∀ e, ¬ mistake e) ∧ good a
  | .error e => mistake e

namespace Detects

variable {ε α β : Type} {mistake mistake' : ε → Prop} {x : Except ε α}

theorem done {good : α → Prop} {a : α} (h : good a) :
    Detects (fun _ : ε => False) good (.ok a) :=
  ⟨fun _ => id, h⟩

/-- One check after the other looks for the mistakes of both. -/
theorem bind {good : α → Prop} {good' : β → Prop} {f : α → Except ε β}
    (hx : Detects mistake good x) (hf : ∀ a, good a → Detects mistake' good' (f a)) :
    Detects (fun e => mistake e ∨ mistake' e) good' (x >>= f) := by
  cases x with
  | error e => exact .inl hx
  | ok a =>
    have hfa := hf a hx.2
    change Detects _ good' (f a)
    cases hf : f a with
    | error e =>
      rw [hf] at hfa
      exact .inr hfa
    | ok b =>
      rw [hf] at hfa
      exact ⟨fun e => not_or.mpr ⟨hx.1 e, hfa.1 e⟩, hfa.2⟩

/-- A loop looks for the mistakes in all members of a list. -/
theorem forM {γ : Type} {check : γ → Except ε Unit} {mistake : γ → ε → Prop} {xs : List γ}
    (h : ∀ c ∈ xs, Detects (mistake c) (fun _ => True) (check c)) :
    Detects (fun e => ∃ c ∈ xs, mistake c e) (fun _ => True) (xs.forM check) := by
  induction xs with
  | nil => exact ⟨by simp, trivial⟩
  | cons c xs ih =>
    have hrest := ih fun c hc => h c (List.mem_cons_of_mem _ hc)
    simpa using (h c List.mem_cons_self).bind fun _ _ => hrest

/-- The mistakes may be described in other words, and less may be said about the result. -/
theorem mono {good good' : α → Prop} (h : Detects mistake good x)
    (same : ∀ e, mistake e ↔ mistake' e) (weaker : ∀ a, good a → good' a) :
    Detects mistake' good' x := by
  cases x with
  | error e => exact (same e).mp h
  | ok a => exact ⟨fun e he => h.1 e ((same e).mpr he), weaker a h.2⟩

theorem exists_ok_iff {good : α → Prop} (h : Detects mistake good x) :
    (∃ a, x = .ok a) ↔ ∀ e, ¬ mistake e := by
  cases x with
  | error e =>
    constructor
    · rintro ⟨a, ha⟩
      cases ha
    · intro hno
      exact absurd h (hno e)
  | ok a => exact ⟨fun _ => h.1, fun _ => ⟨a, rfl⟩⟩

theorem of_ok {good : α → Prop} {a : α} (h : Detects mistake good x) (hx : x = .ok a) :
    good a := by
  subst hx
  exact h.2

end Detects

/-- The pattern of one of some fields cannot be read, and the error names the field. -/
def Unreadable (fields : List (String × String)) (e : RuleSetError) : Prop :=
  ∃ field ∈ fields, Regex.ofPattern? field.2 = none ∧ e = .pattern field.1

theorem unreadable_append {fields fields' : List (String × String)} {e : RuleSetError} :
    Unreadable (fields ++ fields') e ↔ Unreadable fields e ∨ Unreadable fields' e := by
  simp only [Unreadable, List.mem_append, or_and_right, exists_or]

namespace Detects

variable {α : Type} {good : α → Prop}

/-- With no pattern left to read there is nothing to detect. -/
theorem compiled {a : α} (h : good a) :
    Detects (Unreadable []) good (pure a : Except RuleSetError α) :=
  (done h).mono (by simp [Unreadable]) fun _ => id

/-- To compile a pattern first is to look at one more field. -/
theorem compile {fields : List (String × String)} {field pattern : String}
    {k : Regex → Except RuleSetError α} (h : ∀ regex, Detects (Unreadable fields) good (k regex)) :
    Detects (Unreadable ((field, pattern) :: fields)) good
      (Catalog.compile field pattern >>= k) := by
  have hfirst : Detects (fun e => Regex.ofPattern? pattern = none ∧ e = .pattern field)
      (fun _ : Regex => True) (Catalog.compile field pattern) := by
    rw [Catalog.compile]
    cases Regex.ofPattern? pattern with
    | none => exact ⟨rfl, rfl⟩
    | some regex => exact ⟨by simp, trivial⟩
  refine (hfirst.bind fun regex _ => h regex).mono (fun e => ?_) fun _ => id
  simp [Unreadable]

end Detects

end CodeAudit
