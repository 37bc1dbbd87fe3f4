import CodeAudit.Proofs.Callees
import CodeAudit.Proofs.Languages
import CodeAudit.Proofs.Pieces

/-!
# The names and the paths of calls

A call is looked for by its name or by its path. If the callee is a chain of attributes over a bare name, then
the path has all identifiers of the chain in it and the name is the last of them; otherwise the last
attribute is both. So a call has a name exactly if it has a path, and the name is the last part of the path.

It follows that names and patterns mean calls by the same callee: whatever is looked for by names can be
looked for by a pattern as well, and then the names are the last parts of the paths.
-/

namespace CodeAudit

namespace Node

/-- A node, what it is an attribute of, and so on to the first node that is no attribute. -/
def links : Node → List Node
  | ⟨loc, .member value attr⟩ => ⟨loc, .member value attr⟩ :: links value
  | n => [n]

/-- The identifiers of a chain from left to right. What is neither a name nor an attribute has none. -/
def identifiers : Node → List String
  | ⟨_, .name id⟩ => [id]
  | ⟨_, .member value attr⟩ => identifiers value ++ [attr]
  | _ => []

/-- No identifier of a chain has a dot in it. -/
def Undotted (n : Node) : Prop := ∀ id ∈ n.identifiers, '.' ∉ id.toList

instance (n : Node) : Decidable n.Undotted := inferInstanceAs (Decidable (∀ id ∈ n.identifiers, _))

/-! ### Dotted names -/

theorem getLast?_identifiers (n : Node) : n.identifiers.getLast? = n.calleeName? := by
  obtain ⟨loc, shape⟩ := n
  cases shape with
  | member value attr => exact List.getLast?_concat
  | _ => rfl

theorem RootedAt.identifiers_ne_nil {n : Node} {id : String} (h : n.RootedAt id) : n.identifiers ≠ [] := by
  cases h with
  | name => exact List.cons_ne_nil _ _
  | member => exact List.concat_ne_nil _ _

/-- A chain over a bare name is written with dots between its identifiers. -/
theorem RootedAt.dottedName?_eq {n : Node} {id : String} (h : n.RootedAt id) :
    n.dottedName? = some (".".intercalate n.identifiers) := by
  induction h with
  | name loc id => rw [dottedName?, identifiers, String.intercalate_singleton]
  | member loc attr rooted ih =>
    rw [dottedName?, ih, identifiers,
      String.intercalate_append_of_ne_nil rooted.identifiers_ne_nil (List.cons_ne_nil _ _),
      String.intercalate_singleton]
    rfl

/-- Anything but names and attributes in a chain leaves it without a dotted name. -/
theorem dottedName?_eq_none_iff (n : Node) :
    n.dottedName? = none ↔ ∃ m ∈ n.links, m.kind ≠ .name ∧ m.kind ≠ .member := by
  fun_induction dottedName? n with
  | case1 loc id => simp [links, kind, Shape.kind]
  | case2 loc value attr ih =>
    rw [Option.map_eq_none_iff, ih, links, List.exists_mem_cons_iff]
    exact (or_iff_right fun h => h.2 rfl).symm
  | case3 n hname hmember =>
    obtain ⟨loc, shape⟩ := n
    cases shape with
    | name id => exact absurd rfl (hname loc id)
    | member value attr => exact absurd rfl (hmember loc value attr)
    | _ => simp [links, kind, Shape.kind]

/-! ### Names and paths -/

section Call

variable {loc : Location} {func : Node} {args : List Node} {keywords : List (Keyword Node)}

/-- The last part of a path is the name of the callee. -/
theorem getLast?_pieces_of_callPath? (h : func.Undotted) {path : String}
    (hpath : callPath? ⟨loc, .call func args keywords⟩ = some path) :
    (Search.pieces '.' path).getLast? = func.calleeName? := by
  rcases Option.or_eq_some_iff.mp hpath with hdotted | ⟨-, hname⟩
  · have hrooted : ∃ id, func.RootedAt id := by
      by_contra hnone
      rw [dottedName?_of_not_rootedAt (not_exists.mp hnone)] at hdotted
      cases hdotted
    obtain ⟨id, hrooted⟩ := hrooted
    obtain rfl := Option.some.inj (hrooted.dottedName?_eq.symm.trans hdotted)
    rw [← getLast?_identifiers]
    exact congrArg List.getLast? (Search.pieces_intercalate hrooted.identifiers_ne_nil h)
  · -- Without a dotted name the last attribute is the path, and it is one part.
    have hmem : path ∈ func.identifiers := by
      rw [← getLast?_identifiers] at hname
      exact List.mem_of_getLast? hname
    rw [Search.pieces_of_notMem (h path hmem), hname]
    rfl

theorem isSome_callPath?_iff : (callPath? ⟨loc, .call func args keywords⟩).isSome ↔
    (callName? ⟨loc, .call func args keywords⟩).isSome := by
  have hname : func.dottedName?.isSome → func.calleeName?.isSome := by
    obtain ⟨place, shape⟩ := func
    cases shape with
    | name => exact fun _ => rfl
    | member => exact fun _ => rfl
    | _ => exact fun h => h
  have hpath : callPath? ⟨loc, .call func args keywords⟩ = func.dottedName?.or func.calleeName? := rfl
  rw [hpath, Option.isSome_or, Bool.or_eq_true]
  exact ⟨fun h => h.elim hname id, .inr⟩

/-- The name of a call can be read off its path. -/
theorem callName?_eq_bind (h : func.Undotted) : callName? ⟨loc, .call func args keywords⟩ =
    (callPath? ⟨loc, .call func args keywords⟩).bind fun path => (Search.pieces '.' path).getLast? := by
  cases hpath : callPath? ⟨loc, .call func args keywords⟩ with
  | some path => exact (getLast?_pieces_of_callPath? h hpath).symm
  | none =>
    have hnone := mt isSome_callPath?_iff.mpr (by rw [hpath]; exact Bool.false_ne_true)
    exact Option.not_isSome_iff_eq_none.mp hnone

end Call

end Node

/-! ### Patterns for names -/

namespace Regex

/-- An expression for one of some words. -/
def anyOf (words : List (List Char)) : Regex :=
  words.foldr (fun word others => alt (seqs (word.map fun c => set (.single c))) others) (set .empty)

theorem lookFree_anyOf (words : List (List Char)) : (anyOf words).LookFree := by
  induction words with
  | nil => trivial
  | cons word words ih =>
    refine ⟨lookFree_seqs fun r hr => ?_, ih⟩
    obtain ⟨c, -, rfl⟩ := List.mem_map.mp hr
    trivial

theorem accepts_anyOf_iff {words : List (List Char)} {w : List Char} :
    Accepts (anyOf words) w ↔ w ∈ words := by
  induction words with
  | nil =>
    refine ⟨?_, fun h => absurd h List.not_mem_nil⟩
    rintro ⟨c, hc, -⟩
    cases hc
  | cons word words ih =>
    rw [List.mem_cons, ← ih, ← accepts_seqs_singles_iff]
    exact Iff.rfl

/-- An expression for paths that end in one of some names: `(^|\.)(a|b)$` for `a` and `b`. -/
def endingIn (names : List String) : Regex :=
  seq (alt (look .start) (set (.single '.'))) (seq (anyOf (names.map String.toList)) (look .stop))

theorem holds_start_iff {text : Array Char} {i : Nat} (hi : i ≤ text.size) :
    Look.start.holds text i ↔ i = 0 := by
  simp only [Look.holds]
  split <;> simp <;> omega

/-- As far as the end of a text, the words describe what is one of them. -/
theorem exists_matches_anyOf_stop_iff {text : List Char} {words : List (List Char)} {j : Nat}
    (hj : j ≤ text.length) :
    (∃ k, Matches text.toArray (seq (anyOf words) (look .stop)) j k) ↔ text.drop j ∈ words := by
  rw [exists_matches_stop_iff (lookFree_anyOf words) hj, accepts_anyOf_iff]

/-- A path has a match if it is one of the names, or ends in one behind a dot. -/
theorem isMatch_endingIn_iff {names : List String} {path : String} :
    (endingIn names).isMatch path ↔ ∃ name ∈ names, path = name ∨ ∃ front, path = front ++ "." ++ name := by
  rw [isMatch, isSome_find?_iff]
  constructor
  · rintro ⟨i, k, hi, j, ⟨hstart, rfl⟩ | ⟨c, hc, hdot, rfl⟩, hrest⟩
    · have hmem := (exists_matches_anyOf_stop_iff hi).mp ⟨k, hrest⟩
      rw [(holds_start_iff hi).mp hstart, List.drop_zero] at hmem
      obtain ⟨name, hname, heq⟩ := List.mem_map.mp hmem
      exact ⟨name, hname, .inl (String.toList_inj.mp heq).symm⟩
    · obtain rfl := contains_single.mp hdot
      obtain ⟨hlt, hget⟩ := List.getElem?_eq_some_iff.mp (List.getElem?_toArray .. ▸ hc)
      obtain ⟨name, hname, heq⟩ := List.mem_map.mp ((exists_matches_anyOf_stop_iff hlt).mp ⟨k, hrest⟩)
      refine ⟨name, hname, .inr ⟨String.ofList (path.toList.take i), String.toList_inj.mp ?_⟩⟩
      have hcut : path.toList.drop i = '.' :: name.toList := by
        rw [List.drop_eq_getElem_cons hlt, hget, heq]
      simp [← hcut]
  · rintro ⟨name, hname, rfl | ⟨front, rfl⟩⟩
    · have hmem : path.toList.drop 0 ∈ names.map String.toList := List.mem_map_of_mem hname
      obtain ⟨k, hrest⟩ := (exists_matches_anyOf_stop_iff (Nat.zero_le _)).mpr hmem
      exact ⟨0, k, Nat.zero_le _, 0, .inl ⟨(holds_start_iff (Nat.zero_le _)).mpr rfl, rfl⟩, hrest⟩
    · have htext : (front ++ "." ++ name).toList = (front.toList ++ ['.']) ++ name.toList := by simp
      have hmem : (front ++ "." ++ name).toList.drop (front.toList.length + 1) ∈ names.map String.toList := by
        rw [htext, List.drop_left' (by simp)]
        exact List.mem_map_of_mem hname
      obtain ⟨k, hrest⟩ := (exists_matches_anyOf_stop_iff (by simp [htext])).mpr hmem
      have hdot : (front ++ "." ++ name).toList.toArray[front.toList.length]? = some '.' := by simp [htext]
      exact ⟨_, k, by simp, _, .inr ⟨'.', hdot, contains_single.mpr rfl, rfl⟩, hrest⟩

end Regex

/-- A pattern for the calls that some names mean. A name with a dot in it means none. -/
def CallMatcher.patternFor (names : List String) : Regex :=
  .endingIn (names.filter fun name => !name.toList.contains '.')

/-- Names mean the calls that a pattern means, by the last parts of their paths. -/
theorem CallMatcher.names_eq_bind_pattern {loc : Location} {func : Node} {args : List Node}
    {keywords : List (Keyword Node)} (h : func.Undotted) (names : List String) :
    (CallMatcher.names names).matches? ⟨loc, .call func args keywords⟩ =
      ((CallMatcher.pattern (patternFor names)).matches? ⟨loc, .call func args keywords⟩).bind fun path =>
        (Search.pieces '.' path).getLast? := by
  simp only [matches?, Node.callName?_eq_bind h]
  cases hpath : Node.callPath? ⟨loc, .call func args keywords⟩ with
  | none => rfl
  | some path =>
    obtain ⟨name, hlast⟩ := Option.ne_none_iff_exists'.mp
      (mt List.getLast?_eq_none_iff.mp (Search.pieces_ne_nil '.' path))
    have hundotted : '.' ∉ name.toList := by
      rw [Node.getLast?_pieces_of_callPath? h hpath, ← Node.getLast?_identifiers] at hlast
      exact h name (List.mem_of_getLast? hlast)
    have hiff : (patternFor names).isMatch path ↔ name ∈ names := by
      simp only [patternFor, Regex.isMatch_endingIn_iff, List.mem_filter, Bool.not_eq_true',
        Bool.eq_false_iff, ne_eq, List.contains_iff_mem]
      constructor
      · rintro ⟨other, ⟨hother, hplain⟩, hends⟩
        rw [(Search.getLast?_pieces_eq_some_iff hplain).mpr hends] at hlast
        rwa [← Option.some.inj hlast]
      · intro hname
        exact ⟨name, ⟨hname, hundotted⟩, (Search.getLast?_pieces_eq_some_iff hundotted).mp hlast⟩
    rw [Option.bind_some, hlast, Option.filter_some, Option.filter_some]
    simp only [List.contains_iff_mem, hiff]
    split
    · exact hlast.symm
    · rfl

/-- A chain of attributes over a bare name is written as its identifiers with dots between them, which can be
told apart again, and anything else in a chain leaves it without a dotted name. A call has a path exactly if it
has a name, and the name is the last part of the path. So names and patterns judge the same callee: names look
at the last part of the path that patterns look at, and for all names there is a pattern that means the same
calls. -/
theorem Node.call_name_ends_call_path :
    (∀ (n : Node) (id : String), n.RootedAt id →
      n.dottedName? = some (".".intercalate n.identifiers) ∧
        (n.Undotted → Search.pieces '.' (".".intercalate n.identifiers) = n.identifiers)) ∧
    (∀ n : Node, n.dottedName? = none ↔ ∃ m ∈ n.links, m.kind ≠ .name ∧ m.kind ≠ .member) ∧
    (∀ (loc : Location) (func : Node) (args : List Node) (keywords : List (Keyword Node)), func.Undotted →
      let call : Node := ⟨loc, .call func args keywords⟩
      (call.callPath?.isSome ↔ call.callName?.isSome) ∧
      (∀ path name, call.callPath? = some path → call.callName? = some name →
        (Search.pieces '.' path).getLast? = some name) ∧
      (∀ names, (CallMatcher.names names).matches? call =
        (call.callPath?.bind fun path => (Search.pieces '.' path).getLast?).filter names.contains) ∧
      ∀ regex, (CallMatcher.pattern regex).matches? call = call.callPath?.filter regex.isMatch) ∧
    ∀ names : List String, ∃ regex : Regex, ∀ (loc : Location) (func : Node) (args : List Node)
      (keywords : List (Keyword Node)), func.Undotted →
        let call : Node := ⟨loc, .call func args keywords⟩
        (CallMatcher.names names).matches? call =
          ((CallMatcher.pattern regex).matches? call).bind fun path => (Search.pieces '.' path).getLast? := by
  refine ⟨fun n id hrooted => ⟨hrooted.dottedName?_eq, fun hplain => ?_⟩, dottedName?_eq_none_iff,
    fun loc func args keywords hplain => ⟨isSome_callPath?_iff, ?_, fun names => ?_, fun regex => rfl⟩,
    fun names => ⟨CallMatcher.patternFor names, fun loc func args keywords hplain => ?_⟩⟩
  · exact Search.pieces_intercalate hrooted.identifiers_ne_nil hplain
  · intro path name hpath hname
    exact (getLast?_pieces_of_callPath? hplain hpath).trans hname
  · exact congrArg (Option.filter names.contains) (callName?_eq_bind hplain)
  · exact CallMatcher.names_eq_bind_pattern hplain names

/-- `os.path.join()`, and the method `get` of what `session()` gives. -/
theorem Node.call_name_ends_call_path_method :
    let node (shape : Shape Node) : Node := ⟨⟨1, 1⟩, shape⟩
    let session := node (.call (node (.name "session")) [] [])
    let dotted := node (.member (node (.member (node (.name "os")) "path")) "join")
    let method := node (.member (node (.member session "http")) "get")
    (dotted.RootedAt "os" ∧ dotted.Undotted ∧ dotted.dottedName? = some "os.path.join" ∧
      Search.pieces '.' "os.path.join" = ["os", "path", "join"]) ∧
    (method.Undotted ∧ session ∈ method.links ∧ method.dottedName? = none ∧
      callPath? (node (.call method [] [])) = some "get" ∧ (Search.pieces '.' "get").getLast? = some "get") ∧
    ∃ regex, ∀ func ∈ [dotted, method],
      (CallMatcher.names ["get", "join"]).matches? (node (.call func [] [])) =
        ((CallMatcher.pattern regex).matches? (node (.call func [] []))).bind fun path =>
          (Search.pieces '.' path).getLast? := by
  intro node session dotted method
  obtain ⟨hchain, hnone, hcall, hpattern⟩ := call_name_ends_call_path
  have hrooted : dotted.RootedAt "os" := .member _ "join" (.member _ "path" (.name _ "os"))
  have hdotted : dotted.Undotted := by decide
  have hmethod : method.Undotted := by decide
  have hlink : session ∈ method.links := .tail _ (.tail _ (.head _))
  obtain ⟨hname, hpieces⟩ := hchain dotted "os" hrooted
  obtain ⟨-, hlast, -⟩ := hcall ⟨1, 1⟩ method [] [] hmethod
  obtain ⟨regex, hregex⟩ := hpattern ["get", "join"]
  refine ⟨⟨hrooted, hdotted, hname, hpieces hdotted⟩,
    ⟨hmethod, hlink, (hnone method).mpr ⟨session, hlink, by decide⟩, rfl, hlast "get" "get" rfl rfl⟩,
    regex, ?_⟩
  refine List.forall_mem_cons.mpr ⟨hregex _ dotted [] [] hdotted, ?_⟩
  exact List.forall_mem_singleton.mpr (hregex _ method [] [] hmethod)

end CodeAudit
