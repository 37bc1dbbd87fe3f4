import CodeAudit.Table
import Mathlib.Data.List.Nodup

/-!
# Keys of tables

The keys of a table are in strictly increasing order, and those of a table that was made from a list are the
keys in the list. So a list of texts that is in strictly increasing order is determined by its members:
`sortedDistinct_eq_iff` says that `sortedDistinct` gives the one that has the members of another list.
-/

namespace CodeAudit

/-- Where names are distinct, a name stands for the one entry that has it. -/
theorem lookup_eq_some_iff_mem {α : Type} {entries : List (String × α)} (distinct : (entries.map Prod.fst).Nodup)
    {name : String} {a : α} : entries.lookup name = some a ↔ (name, a) ∈ entries := by
  rw [List.lookup_eq_some_iff]
  constructor
  · rintro ⟨front, back, rfl, -⟩
    exact List.mem_append_right _ List.mem_cons_self
  · intro h
    obtain ⟨front, back, rfl⟩ := List.append_of_mem h
    refine ⟨front, back, rfl, fun e he => bne_iff_ne.mpr ?_⟩
    rintro rfl
    rw [List.map_append, List.nodup_append] at distinct
    exact distinct.2.2 _ (List.mem_map_of_mem he) _ List.mem_cons_self rfl

namespace Table

variable {α : Type}

theorem mem_keys_insertEntry {key k : String} {value : α} {l : List (String × α)} :
    k ∈ (insertEntry key value l).map Prod.fst ↔ k = key ∨ k ∈ l.map Prod.fst := by
  induction l with
  | nil => simp [insertEntry]
  | cons entry rest ih =>
    rw [insertEntry]
    split
    · simp
    · split
      · rename_i heq
        simp [heq]
      · rw [List.map_cons, List.mem_cons, ih, List.map_cons, List.mem_cons, or_left_comm]

theorem mem_keys_ofList {k : String} {entries : List (String × α)} :
    k ∈ (ofList entries).keys ↔ k ∈ entries.map Prod.fst := by
  have hfold (t : Table α) : k ∈ (entries.foldl (fun t e => t.insert e.1 e.2) t).keys ↔
      k ∈ t.keys ∨ k ∈ entries.map Prod.fst := by
    induction entries generalizing t with
    | nil => simp
    | cons e entries ih =>
      have hinsert : k ∈ (t.insert e.1 e.2).keys ↔ k = e.1 ∨ k ∈ t.keys := mem_keys_insertEntry
      rw [List.foldl_cons, ih, hinsert, List.map_cons, List.mem_cons, or_assoc, or_left_comm]
  rw [ofList, hfold]
  simp [empty, keys]

theorem pairwise_keys (t : Table α) : t.keys.Pairwise (· < ·) := List.pairwise_map.mpr t.sorted

/-- An entry whose key comes after all others goes to the end. -/
theorem insertEntry_of_forall_lt {key : String} {value : α} {l : List (String × α)}
    (h : ∀ e ∈ l, e.1 < key) : insertEntry key value l = l ++ [(key, value)] := by
  induction l with
  | nil => rfl
  | cons entry rest ih =>
    have hless : entry.1 < key := h entry List.mem_cons_self
    have hne : key ≠ entry.1 := by
      rintro rfl
      exact String.lt_irrefl _ hless
    rw [insertEntry, if_neg (String.lt_asymm hless), if_neg hne, List.cons_append,
      ih fun e he => h e (List.mem_cons_of_mem _ he)]

/-- Nothing is lost and nothing moves when a table is made from the entries of a table. -/
theorem ofList_entries (t : Table α) : ofList t.entries = t := by
  -- What has been put in so far comes before the entries to come.
  have hfold (rest : List (String × α)) (u : Table α)
      (h : (u.entries ++ rest).Pairwise fun a b => a.1 < b.1) :
      (rest.foldl (fun t e => t.insert e.1 e.2) u).entries = u.entries ++ rest := by
    induction rest generalizing u with
    | nil => simp
    | cons e rest ih =>
      have hbefore : ∀ a ∈ u.entries, a.1 < e.1 :=
        fun a ha => (List.pairwise_append.mp h).2.2 a ha e List.mem_cons_self
      have hinsert : (u.insert e.1 e.2).entries = u.entries ++ [e] := insertEntry_of_forall_lt hbefore
      rw [List.foldl_cons, ih, hinsert, List.append_assoc, List.singleton_append]
      rw [hinsert, List.append_assoc]
      exact h
  exact Table.ext (hfold t.entries empty t.sorted)

end Table

theorem mem_sortedDistinct {x : String} {xs : List String} : x ∈ sortedDistinct xs ↔ x ∈ xs := by
  simp [sortedDistinct, Table.mem_keys_ofList]

/-- The members of a list in strictly increasing order, and no other list has this property. -/
theorem sortedDistinct_eq_iff {xs ys : List String} :
    sortedDistinct xs = ys ↔ ys.Pairwise (· < ·) ∧ ∀ x, x ∈ ys ↔ x ∈ xs := by
  have hsorted : (sortedDistinct xs).Pairwise (· < ·) := Table.pairwise_keys _
  constructor
  · rintro rfl
    exact ⟨hsorted, fun x => mem_sortedDistinct⟩
  · rintro ⟨hpairwise, hmem⟩
    have hnodup {l : List String} (h : l.Pairwise (· < ·)) : l.Nodup := h.imp fun hlt => String.ne_of_lt hlt
    have hperm : (sortedDistinct xs).Perm ys :=
      (List.perm_ext_iff_of_nodup (hnodup hsorted) (hnodup hpairwise)).mpr fun x => by rw [mem_sortedDistinct, hmem]
    exact hperm.eq_of_pairwise (fun a b _ _ hab hba => absurd hba (String.lt_asymm hab)) hsorted hpairwise

end CodeAudit
