import CodeAudit.Files.Discovery
import CodeAudit.Proofs.Pieces
import CodeAudit.Proofs.Tables
import Mathlib.Data.List.Induction

/-!
# Plain trees

A tree is plain if it has no links, and if the names in its directories can be told apart and can be written
in a path. In a plain tree a name means the entry that has it. A path that names were joined to says which
names they were.
-/

namespace CodeAudit

/-! ### Names in a path -/

namespace FileTree

/-- What an entry of a directory can be called. -/
def IsName (name : String) : Prop := name ≠ "" ∧ name ≠ "." ∧ name ≠ ".." ∧ '/' ∉ name.toList

instance (name : String) : Decidable (IsName name) := inferInstanceAs (Decidable (_ ∧ _ ∧ _ ∧ _))

theorem names_of_notMem {name : String} (h : '/' ∉ name.toList) : names name = [name] :=
  Search.pieces_of_notMem h

theorem names_append_slash (path : String) {name : String} (h : '/' ∉ name.toList) :
    names (path ++ "/" ++ name) = names path ++ [name] :=
  Search.pieces_append path h

/-! ### Routes -/

/-- A tree without links, in whose directories no two entries have the same name. -/
inductive Plain : FileTree → Prop
  | file (content : ByteArray) : Plain (file content)
  | directory {entries : List (String × FileTree)} (distinct : (entries.map Prod.fst).Nodup)
      (isName : ∀ e ∈ entries, IsName e.1) (plain : ∀ e ∈ entries, Plain e.2) : Plain (directory entries)

theorem get?_append (t : FileTree) (front back : Route) :
    t.get? (front ++ back) = (t.get? front).bind fun child => child.get? back := by
  induction front generalizing t with
  | nil => rfl
  | cons name front ih =>
    rw [List.cons_append, get?, get?, Option.bind_assoc]
    exact congrArg _ (funext fun child => ih child)

theorem get?_directory_cons {entries : List (String × FileTree)} (distinct : (entries.map Prod.fst).Nodup)
    {name : String} {route : Route} {t : FileTree} :
    (directory entries).get? (name :: route) = some t ↔
      ∃ child, (name, child) ∈ entries ∧ child.get? route = some t := by
  rw [get?, Option.bind_eq_some_iff]
  exact exists_congr fun child => and_congr_left fun _ => lookup_eq_some_iff_mem distinct

/-- Going down a route, one name after the other. -/
theorem Plain.induction_on_route {child : FileTree} {motive : FileTree → Route → Prop}
    (here : child.Plain → motive child [])
    (down : ∀ {entries name next route}, (name, next) ∈ entries → IsName name → motive next route →
      motive (.directory entries) (name :: route))
    {t : FileTree} {route : Route} (h : t.Plain) (hget : t.get? route = some child) : motive t route := by
  induction route generalizing t with
  | nil =>
    obtain rfl := Option.some.inj hget
    exact here h
  | cons name route ih =>
    cases h with
    | file => exact absurd hget nofun
    | directory distinct isName plain =>
      obtain ⟨next, hmem, hget⟩ := (get?_directory_cons distinct).mp hget
      exact down hmem (isName _ hmem) (ih (plain _ hmem) hget)

theorem Plain.of_get? {t child : FileTree} (h : t.Plain) {route : Route} (hget : t.get? route = some child) :
    child.Plain ∧ ∀ name ∈ route, IsName name :=
  h.induction_on_route (motive := fun _ route => child.Plain ∧ ∀ name ∈ route, IsName name)
    (fun hchild => ⟨hchild, nofun⟩)
    (fun _ hname hrest => ⟨hrest.1, List.forall_mem_cons.mpr ⟨hname, hrest.2⟩⟩) hget

/-- In a plain tree a name means the entry that has it. -/
theorem Plain.resolve?_eq {t : FileTree} (h : t.Plain) (route : Route) {name : String} (hname : IsName name) :
    t.resolve? route name = (t.get? (route ++ [name])).map fun _ => route ++ [name] := by
  obtain ⟨hempty, hdot, hdots, hslash⟩ := hname
  rw [resolve?, names_of_notMem hslash, get?_append, follow?]
  cases hget : t.get? route with
  | none => rfl
  | some here =>
    cases (h.of_get? hget).1 with
    | file => rfl
    | directory distinct isName plain =>
      simp only [beq_iff_eq, hempty, hdot, hdots, or_false, Bool.or_eq_true, if_false, Option.bind_some, get?,
        entries]
      cases hlookup : List.lookup name _ with
      | none => rfl
      | some child =>
        cases plain _ ((lookup_eq_some_iff_mem distinct).mp hlookup) <;> simp [follow?]

/-- All names in a tree. -/
def allNames : FileTree → List String
  | directory entries => go entries
  | _ => []
where
  go : List (String × FileTree) → List String
    | [] => []
    | (name, child) :: rest => name :: (child.allNames ++ go rest)

theorem mem_allNames_of_mem {entries : List (String × FileTree)} {e : String × FileTree} (h : e ∈ entries) :
    e.1 ∈ (directory entries).allNames ∧ e.2.allNames ⊆ (directory entries).allNames := by
  rw [allNames]
  induction entries with
  | nil => exact absurd h nofun
  | cons e' rest ih =>
    rw [allNames.go]
    rcases List.mem_cons.mp h with rfl | h
    · exact ⟨List.mem_cons_self, fun n hn => List.mem_cons_of_mem _ (List.mem_append_left _ hn)⟩
    · obtain ⟨hname, hnames⟩ := ih h
      exact ⟨List.mem_cons_of_mem _ (List.mem_append_right _ hname),
        fun n hn => List.mem_cons_of_mem _ (List.mem_append_right _ (hnames hn))⟩

/-- A route leads through names of the tree only. -/
theorem Plain.mem_allNames {t child : FileTree} (h : t.Plain) {route : Route}
    (hget : t.get? route = some child) : ∀ name ∈ route, name ∈ t.allNames := by
  refine h.induction_on_route (motive := fun t route => ∀ name ∈ route, name ∈ t.allNames)
    (fun _ => nofun) ?_ hget
  intro entries name next route hmem _ hrest
  obtain ⟨hname, hnames⟩ := mem_allNames_of_mem hmem
  exact List.forall_mem_cons.mpr ⟨hname, fun n hn => hnames (hrest n hn)⟩

/-! ### Sizes -/

theorem size_lt_of_mem {entries : List (String × FileTree)} {name : String} {child : FileTree}
    (h : (name, child) ∈ entries) : child.size < (directory entries).size := by
  rw [size]
  induction entries with
  | nil => exact absurd h nofun
  | cons e rest ih =>
    obtain ⟨name', child'⟩ := e
    rw [size.go]
    rcases List.mem_cons.mp h with h | h
    · obtain ⟨rfl, rfl⟩ := Prod.mk.inj h
      omega
    · have := ih h
      omega

theorem Plain.size_le {t child : FileTree} (h : t.Plain) {route : Route} (hget : t.get? route = some child) :
    child.size ≤ t.size :=
  h.induction_on_route (motive := fun t _ => child.size ≤ t.size) (fun _ => Nat.le_refl _)
    (fun hmem _ hrest => Nat.le_trans hrest (Nat.le_of_lt (size_lt_of_mem hmem))) hget

/-! ### The files of a tree -/

/-- All files of a tree, each with the route to it. -/
def files : FileTree → List (Route × ByteArray)
  | file content => [([], content)]
  | link _ => []
  | directory entries => go entries
where
  go : List (String × FileTree) → List (Route × ByteArray)
    | [] => []
    | (name, child) :: rest => child.files.map (fun f => (name :: f.1, f.2)) ++ go rest

theorem files_directory (entries : List (String × FileTree)) :
    (directory entries).files = entries.flatMap fun e => e.2.files.map fun f => (e.1 :: f.1, f.2) := by
  rw [files]
  induction entries with
  | nil => rfl
  | cons e rest ih => rw [files.go, ih, List.flatMap_cons]

theorem Plain.mem_files_iff {t : FileTree} (h : t.Plain) {route : Route} {content : ByteArray} :
    (route, content) ∈ t.files ↔ t.get? route = some (.file content) := by
  induction h generalizing route with
  | file content' =>
    cases route with
    | nil => simp [files, get?, eq_comm]
    | cons => simp [files, get?, entries]
  | directory distinct isName plain ih =>
    rw [files_directory, List.mem_flatMap]
    constructor
    · rintro ⟨e, he, hf⟩
      obtain ⟨f, hmem, heq⟩ := List.mem_map.mp hf
      obtain ⟨rfl, rfl⟩ := Prod.mk.inj heq
      exact (get?_directory_cons distinct).mpr ⟨e.2, he, (ih e he).mp hmem⟩
    · intro hget
      cases route with
      | nil => exact absurd (Option.some.inj hget) nofun
      | cons name route =>
        obtain ⟨child, hmem, hget⟩ := (get?_directory_cons distinct).mp hget
        exact ⟨_, hmem, List.mem_map.mpr ⟨_, (ih _ hmem).mpr hget, rfl⟩⟩

theorem Plain.nodup_routes {t : FileTree} (h : t.Plain) : (t.files.map Prod.fst).Nodup := by
  induction h with
  | file => exact List.nodup_singleton _
  | directory distinct isName plain ih =>
    have hroutes (e : String × FileTree) :
        (e.2.files.map fun f => (e.1 :: f.1, f.2)).map Prod.fst =
          (e.2.files.map Prod.fst).map (e.1 :: ·) := by
      rw [List.map_map, List.map_map]
      rfl
    rw [files_directory, List.map_flatMap]
    simp only [hroutes]
    rw [List.nodup_flatMap]
    constructor
    · exact fun e he => (ih e he).map List.cons_injective
    · -- Routes through different entries begin with different names.
      refine (List.pairwise_map.mp distinct).imp fun hne route hfirst hsecond => hne ?_
      obtain ⟨_, -, rfl⟩ := List.mem_map.mp hfirst
      obtain ⟨_, -, heq⟩ := List.mem_map.mp hsecond
      exact (List.cons.inj heq).1.symm

end FileTree

/-! ### Paths that names are joined to -/

open FileTree

theorem lastName?_of_names {path name : String} {front : List String} (h : names path = front ++ [name])
    (hname : IsName name) : lastName? path = some name := by
  obtain ⟨hempty, hdot, hdots, -⟩ := hname
  have hlast : ((names path).filter fun n => n != "" && n != ".").getLast? = some name := by
    rw [h, List.filter_append, List.filter_cons_of_pos (by simp [hempty, hdot]), List.filter_nil,
      List.getLast?_append, List.getLast?_singleton, Option.some_or]
  rw [lastName?, hlast]
  split
  · next heq => exact absurd (Option.some.inj heq) hdots
  · next heq => exact absurd heq nofun
  · next heq => rw [← heq]

namespace SourceSearch

/-- Behind a slash at its end, a path has an empty name. -/
theorem exists_of_endsWith_slash {path : String} (h : path.endsWith "/") :
    ∃ front, path = front ++ "/" ∧ names path = names front ++ [""] := by
  rw [← String.endsWith_toSlice, String.Slice.endsWith_string_iff] at h
  obtain ⟨front, hfront⟩ := h
  obtain rfl : path = String.ofList front ++ "/" := String.toList_inj.mp (by simpa using hfront.symm)
  refine ⟨String.ofList front, rfl, ?_⟩
  rw [← names_append_slash _ (by simp), String.append_empty]

theorem join_eq_append {path : String} (h : path.toList.getLast? ≠ some '/') (name : String) :
    join path name = path ++ "/" ++ name := by
  rw [join, if_neg]
  intro hends
  obtain ⟨front, rfl, -⟩ := exists_of_endsWith_slash hends
  exact h (by simp)

theorem names_join (path : String) {name : String} (hname : '/' ∉ name.toList) :
    names (join path name) = (if path.endsWith "/" then (names path).dropLast else names path) ++ [name] := by
  rw [join]
  split
  · next hends =>
    obtain ⟨front, rfl, hnames⟩ := exists_of_endsWith_slash hends
    rw [names_append_slash front hname, hnames, List.dropLast_concat]
  · exact names_append_slash path hname

/-- Joined to a path, names stand behind what the path itself holds. -/
theorem exists_names_foldl_join (shown : String) :
    ∃ front, ∀ route : Route, (∀ name ∈ route, IsName name) → route ≠ [] →
      names (route.foldl join shown) = front ++ route := by
  refine ⟨if shown.endsWith "/" then (names shown).dropLast else names shown, fun route hroute hne => ?_⟩
  induction route using List.reverseRecOn with
  | nil => exact absurd rfl hne
  | append_singleton route name ih =>
    rw [List.forall_mem_append, List.forall_mem_singleton] at hroute
    rw [List.foldl_append, List.foldl_cons, List.foldl_nil, names_join _ hroute.2.2.2.2]
    rcases List.eq_nil_or_concat' route with rfl | ⟨init, last, rfl⟩
    · rfl
    · -- The names so far end with one that is not empty, so there is no slash at the end.
      have hnames := ih hroute.1 (by simp)
      have hends : ¬ ((init ++ [last]).foldl join shown).endsWith "/" := by
        intro hends
        obtain ⟨front, -, hempty⟩ := exists_of_endsWith_slash hends
        rw [hnames, ← List.append_assoc] at hempty
        exact (hroute.1 last (by simp)).1 (List.append_singleton_inj.mp hempty).2
      rw [if_neg hends, hnames, List.append_assoc]

theorem foldl_join_inj {shown : String} {route route' : Route} (hroute : ∀ name ∈ route, IsName name)
    (hroute' : ∀ name ∈ route', IsName name) (hne : route ≠ []) (hne' : route' ≠ [])
    (h : route.foldl join shown = route'.foldl join shown) : route = route' := by
  obtain ⟨front, hfront⟩ := exists_names_foldl_join shown
  have hnames := congrArg names h
  rw [hfront route hroute hne, hfront route' hroute' hne'] at hnames
  exact List.append_cancel_left hnames

theorem lastName?_foldl_join (shown : String) {route : Route} {name : String}
    (hroute : ∀ name ∈ route, IsName name) (hlast : route.getLast? = some name) :
    lastName? (route.foldl join shown) = some name := by
  obtain ⟨init, rfl⟩ := List.getLast?_eq_some_iff.mp hlast
  obtain ⟨front, hfront⟩ := exists_names_foldl_join shown
  have hnames := hfront _ hroute (by simp)
  rw [← List.append_assoc] at hnames
  exact lastName?_of_names hnames (hroute name (by simp))

end SourceSearch

end CodeAudit
