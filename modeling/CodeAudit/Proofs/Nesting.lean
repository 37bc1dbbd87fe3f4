import CodeAudit.Catalog.Requests
import CodeAudit.Proofs.Relocation

/-!
# Functions inside functions

Two rules judge a function by its own statements: whether anything is logged, and whether anybody's
identity is compared. `Node.hollow` takes the bodies out of all function definitions of a tree, and
the outline of a function is what is left of it when this is done to its parts. What is inside a
nested definition is not seen in the outline.

The rules leave out definitions among the statements of a function, but they search all that is below
the other statements. A definition that stands inside an `if` or a loop is a stray: its body is
searched too, and what is found there counts for the function around it. Without strays the rules see
the outline and nothing else.
-/

namespace CodeAudit

/-- A construct without the body and the docstring that it has if it is a function definition. -/
def Shape.hollow {α : Type} : Shape α → Shape α
  | functionDef id params decorators _ _ => functionDef id params decorators [] none
  | s => s

theorem Shape.sizeOf_hollow_le {α : Type} [SizeOf α] (s : Shape α) : sizeOf s.hollow ≤ sizeOf s := by
  cases s with
  | functionDef name params decorators body docstring =>
    cases docstring <;> cases body <;> simp +arith [hollow]
  | _ => exact Nat.le_refl _

namespace Node

/-- The tree with all function definitions emptied. -/
noncomputable def hollow (n : Node) : Node :=
  ⟨n.loc, n.shape.hollow.map fun c => if _h : sizeOf c < sizeOf n then hollow c else c⟩
termination_by sizeOf n

theorem hollow_eq (n : Node) : n.hollow = ⟨n.loc, n.shape.hollow.map hollow⟩ := by
  rw [hollow]
  congr 1
  refine Shape.map_congr fun c hc => dif_pos ?_
  have hshape := n.shape.sizeOf_hollow_le
  have hnode : sizeOf n.shape < sizeOf n := by
    cases n
    simp +arith
  omega

/-- What is left of a function without the bodies of the definitions inside it. Its own body stays. -/
noncomputable def outline (f : Node) : Node := ⟨f.loc, f.shape.map hollow⟩

theorem shape_hollow (n : Node) : n.hollow.shape = n.shape.hollow.map hollow := by rw [hollow_eq]

@[simp] theorem kind_hollow (n : Node) : n.hollow.kind = n.kind := by
  rw [kind, kind, shape_hollow]
  cases n.shape <;> rfl

theorem children_hollow (n : Node) : n.hollow.children = n.shape.hollow.children.map hollow := by
  rw [children, shape_hollow, Shape.children_map]

/-- Apart from the statements of a function, nothing is lost below a node. -/
theorem mem_children_iff {n c : Node} :
    c ∈ n.children ↔ c ∈ n.shape.hollow.children ∨ n.kind = .functionDef ∧ c ∈ n.body := by
  obtain ⟨loc, shape⟩ := n
  cases shape <;> simp [children, body, kind, Shape.children, Shape.body, Shape.kind, Shape.hollow]

/-! ### Questions about a hollow tree -/

@[simp] theorem dottedName?_hollow : ∀ n : Node, n.hollow.dottedName? = n.dottedName?
  | ⟨loc, shape⟩ => by
    rw [hollow_eq]
    cases shape with
    | member value attr =>
      simp [Shape.hollow, Shape.map, dottedName?, dottedName?_hollow value]
    | _ => rfl

@[simp] theorem calleeName?_hollow (n : Node) : n.hollow.calleeName? = n.calleeName? := by
  rw [calleeName?, calleeName?, shape_hollow]
  cases n.shape <;> rfl

@[simp] theorem callPath?_hollow (n : Node) : n.hollow.callPath? = n.callPath? := by
  rw [callPath?, callPath?, shape_hollow]
  cases n.shape <;> simp [Shape.hollow, Shape.map]

end Node

@[simp] theorem Logging.isLogCall_hollow (logger : Regex) (n : Node) :
    isLogCall logger n.hollow = isLogCall logger n := by
  simp [isLogCall]

@[simp] theorem Logging.ownStatements_hollow (body : List Node) :
    ownStatements (body.map Node.hollow) = (ownStatements body).map Node.hollow := by
  simp [ownStatements, List.filter_map, Function.comp_def]

@[simp] theorem Requests.decoratorName?_hollow (n : Node) :
    decoratorName? n.hollow = decoratorName? n := by
  rw [decoratorName?, decoratorName?, Node.shape_hollow]
  cases n.shape <;> simp [Shape.hollow, Shape.map]

@[simp] theorem Requests.isIdentityCheck_hollow (identity : Regex) (n : Node) :
    isIdentityCheck identity n.hollow = isIdentityCheck identity n := by
  rw [isIdentityCheck, isIdentityCheck, Node.shape_hollow]
  cases n.shape with
  | compare left ops comparators =>
    simp only [Shape.hollow, Shape.map, ← List.map_cons, List.filterMap_map, Function.comp_def,
      Node.dottedName?_hollow]
  | _ => rfl

namespace Node

/-- What is below a hollow tree is the hollow form of something below the tree. -/
theorem exists_of_mem_descendants_hollow {n m : Node} (h : m ∈ n.hollow.descendants) :
    ∃ m' ∈ n.descendants, m = m'.hollow := by
  rw [descendants_eq, children_hollow] at h
  rcases List.mem_cons.mp h with rfl | h
  · exact ⟨n, n.mem_descendants_self, rfl⟩
  · obtain ⟨d, hd, hm⟩ := List.mem_flatMap.mp h
    obtain ⟨c, hc, rfl⟩ := List.mem_map.mp hd
    have hchild : c ∈ n.children := mem_children_iff.mpr (.inl hc)
    obtain ⟨m', hm', rfl⟩ := exists_of_mem_descendants_hollow hm
    exact ⟨m', mem_descendants_trans hm' (mem_descendants_of_mem_children hchild), rfl⟩
termination_by sizeOf n
decreasing_by exact sizeOf_lt_of_mem_children hchild

/-- What is below a tree is still there when the tree is hollow, or it is in the body of a function
definition that is still there. -/
theorem mem_descendants_hollow_or {n m : Node} (h : m ∈ n.descendants) :
    m.hollow ∈ n.hollow.descendants ∨
      ∃ g ∈ n.descendants, g.hollow ∈ n.hollow.descendants ∧ g.kind = .functionDef ∧
        ∃ s ∈ g.body, m ∈ s.descendants := by
  rw [descendants_eq] at h
  rcases List.mem_cons.mp h with rfl | h
  · exact .inl m.hollow.mem_descendants_self
  · obtain ⟨c, hchild, hm⟩ := List.mem_flatMap.mp h
    rcases mem_children_iff.mp hchild with hc | ⟨hkind, hc⟩
    · have hhollow : c.hollow ∈ n.hollow.descendants := by
        refine mem_descendants_of_mem_children ?_
        rw [children_hollow]
        exact List.mem_map_of_mem hc
      rcases mem_descendants_hollow_or hm with hm | ⟨g, hg, hghollow, hkind, hbody⟩
      · exact .inl (mem_descendants_trans hm hhollow)
      · exact .inr ⟨g, mem_descendants_trans hg (mem_descendants_of_mem_children hchild),
          mem_descendants_trans hghollow hhollow, hkind, hbody⟩
    · exact .inr ⟨n, n.mem_descendants_self, n.hollow.mem_descendants_self, hkind, c, hc, hm⟩
termination_by sizeOf n
decreasing_by exact sizeOf_lt_of_mem_children hchild

/-- A tree with a function definition has one when it is hollow, and the other way round. -/
theorem exists_functionDef_hollow_iff {n : Node} :
    (∃ g ∈ n.hollow.descendants, g.kind = .functionDef) ↔
      ∃ g ∈ n.descendants, g.kind = .functionDef := by
  constructor
  · rintro ⟨g, hg, hkind⟩
    obtain ⟨g', hg', rfl⟩ := exists_of_mem_descendants_hollow hg
    exact ⟨g', hg', by rwa [kind_hollow] at hkind⟩
  · rintro ⟨g, hg, hkind⟩
    rcases mem_descendants_hollow_or hg with hg | ⟨g, -, hg, hkind, -⟩
    · exact ⟨g.hollow, hg, by rwa [kind_hollow]⟩
    · exact ⟨g.hollow, hg, by rwa [kind_hollow]⟩

/-- The function definitions that stand inside other statements of a function. -/
def strays (f : Node) : List Node :=
  (Logging.ownStatements f.body).flatMap fun s => s.descendants.filter fun g => g.kind == .functionDef

theorem mem_strays {f g : Node} :
    g ∈ f.strays ↔ ∃ s ∈ Logging.ownStatements f.body, g ∈ s.descendants ∧ g.kind = .functionDef := by
  simp [strays, List.mem_flatMap]

/-- A node of a certain sort is in the body of a stray. -/
def Hides (f : Node) (q : Node → Bool) : Prop := ∃ g ∈ f.strays, ∃ s ∈ g.body, ∃ m ∈ s.descendants, q m

theorem ownStatements_outline (f : Node) :
    Logging.ownStatements f.outline.body = (Logging.ownStatements f.body).map hollow := by
  rw [← Logging.ownStatements_hollow, body, body, outline, Shape.body_map]

/-- Strays can be seen in the outline. -/
theorem strays_outline_eq_nil_iff {f : Node} : f.outline.strays = [] ↔ f.strays = [] := by
  simp only [List.eq_nil_iff_forall_not_mem, mem_strays, ownStatements_outline, not_exists, not_and,
    List.mem_map, forall_exists_index, and_imp, forall_apply_eq_imp_iff₂]
  constructor
  · intro h g s hs hg hkind
    obtain ⟨g', hg', hkind'⟩ := exists_functionDef_hollow_iff.mpr ⟨g, hg, hkind⟩
    exact h g' s hs hg' hkind'
  · intro h g s hs hg hkind
    obtain ⟨g', hg', hkind'⟩ := exists_functionDef_hollow_iff.mp ⟨g, hg, hkind⟩
    exact h g' s hs hg' hkind'

/-- A search through the own statements of a function finds what is in the outline and what strays
hide. -/
theorem any_ownStatements_iff {q : Node → Bool} (hq : ∀ m : Node, q m.hollow = q m) (f : Node) :
    ((Logging.ownStatements f.body).any fun s => s.descendants.any q) ↔
      ((Logging.ownStatements f.outline.body).any fun s => s.descendants.any q) ∨ f.Hides q := by
  simp only [ownStatements_outline, List.any_map, List.any_eq_true, Function.comp_apply]
  constructor
  · rintro ⟨s, hs, m, hm, hqm⟩
    rcases mem_descendants_hollow_or hm with hm | ⟨g, hg, -, hkind, b, hb, hm⟩
    · exact .inl ⟨s, hs, m.hollow, hm, by rwa [hq]⟩
    · exact .inr ⟨g, mem_strays.mpr ⟨s, hs, hg, hkind⟩, b, hb, m, hm, hqm⟩
  · rintro (⟨s, hs, m, hm, hqm⟩ | ⟨g, hg, b, hb, m, hm, hqm⟩)
    · obtain ⟨m', hm', rfl⟩ := exists_of_mem_descendants_hollow hm
      exact ⟨s, hs, m', hm', by rwa [hq] at hqm⟩
    · obtain ⟨s, hs, hg, hkind⟩ := mem_strays.mp hg
      have hchild : b ∈ g.children := mem_children_iff.mpr (.inr ⟨hkind, hb⟩)
      have hbody := mem_descendants_trans hm (mem_descendants_of_mem_children hchild)
      exact ⟨s, hs, m, mem_descendants_trans hbody hg, hqm⟩

end Node

/-- A rule that sees the outline of a function, and is silent if strays hide what it looks for. -/
structure Rule.SeesOutline (r : Rule) (q : Node → Bool) : Prop where
  silent : ∀ {f : Node} (p : Path), f.Hides q → r.check f p = []
  outline : ∀ {f : Node} (p p' : Path), ¬ f.Hides q → r.check f p = r.check f.outline p'

/-- A function without its statements. The docstring stays. -/
def Node.bare (f : Node) : Node :=
  match f with
  | ⟨loc, .functionDef name params decorators _ docstring⟩ =>
    ⟨loc, .functionDef name params decorators [] docstring⟩
  | n => n

/-- A rule sees the outline if it searches the own statements of a function for something, and what
it says about the bare function can be told from the outline. -/
theorem Rule.SeesOutline.of_search {r : Rule} {q : Node → Bool} (hq : ∀ m : Node, q m.hollow = q m)
    (search : ∀ f p, r.check f p =
      if (Logging.ownStatements f.body).any fun s => s.descendants.any q then []
      else r.check f.bare p)
    (kept : ∀ (f : Node) (p p' : Path), r.check f.outline.bare p' = r.check f.bare p) :
    r.SeesOutline q where
  silent := by
    intro f p hides
    rw [search, if_pos ((Node.any_ownStatements_iff hq f).mpr (.inr hides))]
  outline := by
    intro f p p' hides
    rw [search f, search f.outline, kept f p]
    simp only [Node.any_ownStatements_iff hq f, hides, or_false]

theorem Logging.todoUnloggedRule_seesOutline (info : RuleInfo) (logger marker : Regex) :
    (todoUnloggedRule info logger marker).SeesOutline (isLogCall logger) := by
  refine .of_search (isLogCall_hollow logger) (fun f p => ?_) fun f p p' => ?_
  · obtain ⟨loc, shape⟩ := f
    cases shape with
    | functionDef name params decorators body docstring =>
      cases docstring with
      | none => simp [todoUnloggedRule, Node.bare]
      | some doc =>
        simp only [todoUnloggedRule, Node.bare, Node.body, Shape.body]
        cases marker.findIn? doc with
        | none => simp
        | some found => simp [ownStatements, logsIn, Catalog.report, Finding.on]
    | _ => simp [todoUnloggedRule, Node.bare]
  · obtain ⟨loc, shape⟩ := f
    cases shape with
    | functionDef name params decorators body docstring => cases docstring <;> rfl
    | _ => rfl

theorem Requests.loginRequiredRule_seesOutline (info : RuleInfo) (names : List String)
    (identity : Regex) :
    (loginRequiredRule info names identity).SeesOutline (isIdentityCheck identity) := by
  refine .of_search (isIdentityCheck_hollow identity) (fun f p => ?_) fun f p p' => ?_
  · obtain ⟨loc, shape⟩ := f
    cases shape with
    | functionDef name params decorators body docstring =>
      simp only [loginRequiredRule, Node.bare, Node.body, Shape.body, checksIdentity]
      cases decorators.findSome? fun d => (decoratorName? d).filter names.contains with
      | none => simp
      | some name => simp [Logging.ownStatements, Catalog.report, Finding.on]
    | _ => simp [loginRequiredRule, Node.bare]
  · obtain ⟨loc, shape⟩ := f
    cases shape with
    | functionDef name params decorators body docstring =>
      simp only [loginRequiredRule, Node.outline, Node.bare, Shape.map, List.findSome?_map,
        Function.comp_def, decoratorName?_hollow]
      rfl
    | _ => rfl

/-- Without strays, functions with the same outline are the same to a rule that sees outlines. -/
theorem Rule.SeesOutline.check_congr {r : Rule} {q : Node → Bool} (h : r.SeesOutline q)
    {f f' : Node} (same : f.outline = f'.outline) (tidy : f.strays = []) (p p' : Path) :
    r.check f p = r.check f' p' := by
  have tidy' : f'.strays = [] := by
    rwa [← Node.strays_outline_eq_nil_iff, ← same, Node.strays_outline_eq_nil_iff]
  have hides : ¬ f.Hides q := by simp [Node.Hides, tidy]
  have hides' : ¬ f'.Hides q := by simp [Node.Hides, tidy']
  rw [h.outline p p hides, h.outline p' p hides', same]

/-- The two rules that judge a function by its own statements say the same about functions that
differ only in the bodies of definitions inside them, provided that no definition stands inside
another statement. In general a rule sees the outline of a function, except that it is silent where
what it looks for is in the body of a definition that stands inside another statement. -/
theorem Node.own_statements_decide {f f' : Node} (same : f.outline = f'.outline) (p p' : Path)
    (info : RuleInfo) (logger marker : Regex) (names : List String) (identity : Regex) :
    (f.strays = [] →
      (Logging.todoUnloggedRule info logger marker).check f p =
        (Logging.todoUnloggedRule info logger marker).check f' p' ∧
      (Requests.loginRequiredRule info names identity).check f p =
        (Requests.loginRequiredRule info names identity).check f' p') ∧
    (f.Hides (Logging.isLogCall logger) →
      (Logging.todoUnloggedRule info logger marker).check f p = []) ∧
    (¬ f.Hides (Logging.isLogCall logger) →
      (Logging.todoUnloggedRule info logger marker).check f p =
        (Logging.todoUnloggedRule info logger marker).check f.outline p) ∧
    (f.Hides (Requests.isIdentityCheck identity) →
      (Requests.loginRequiredRule info names identity).check f p = []) ∧
    (¬ f.Hides (Requests.isIdentityCheck identity) →
      (Requests.loginRequiredRule info names identity).check f p =
        (Requests.loginRequiredRule info names identity).check f.outline p) := by
  have todo := Logging.todoUnloggedRule_seesOutline info logger marker
  have login := Requests.loginRequiredRule_seesOutline info names identity
  refine ⟨fun tidy => ?_, todo.silent p, todo.outline p p, login.silent p, login.outline p p⟩
  exact ⟨todo.check_congr same tidy p p', login.check_congr same tidy p p'⟩

namespace Nested

/-- A text, letter by letter. -/
def word (s : String) : Regex := .seqs (s.toList.map fun c => .set (.single c))

/-- The rule about unfinished functions, for one marker and one logger. -/
def todoRule : Rule := Logging.todoUnloggedRule Logging.todoUnlogged (word "log") (word "TODO")

/-- The rule about logins, for one decorator and one name. -/
def loginRule : Rule := Requests.loginRequiredRule Requests.loginRequired ["login"] (word "user")

/-- A comparison of the user. -/
def isUser : Node := ⟨⟨6, 13⟩, .compare ⟨⟨6, 13⟩, .name "user"⟩ [.eq] [⟨⟨6, 21⟩, .name "x"⟩]⟩

/-- A call that logs the comparison. -/
def log : Node := ⟨⟨6, 9⟩, .call ⟨⟨6, 9⟩, .name "log"⟩ [isUser] []⟩

/-- The statement that makes the call. -/
def logUser : Node := ⟨⟨6, 9⟩, .expr log⟩

/-- A function that is marked as unfinished and needs a login. -/
def unfinished (body : List Node) : Node :=
  ⟨⟨2, 1⟩, .functionDef "f" ["x"] [⟨⟨1, 2⟩, .name "login"⟩] body (some "TODO")⟩

/-- The definition of a function. -/
def definition (body : List Node) : Node := ⟨⟨5, 9⟩, .functionDef "g" ["user"] [] body none⟩

/-- The same definition inside an `if`. -/
def branch (body : List Node) : Node := ⟨⟨4, 5⟩, .conditional ⟨⟨4, 8⟩, .name "x"⟩ [definition body] []⟩

theorem descendants_branch (body : List Node) :
    (branch body).descendants =
      branch body :: ⟨⟨4, 8⟩, .name "x"⟩ :: definition body :: body.flatMap Node.descendants := by
  simp [branch, definition, Node.descendants_eq, Node.children, Shape.children]

theorem definition_mem_strays (body : List Node) : definition body ∈ (unfinished [branch body]).strays := by
  refine Node.mem_strays.mpr ⟨branch body, List.mem_singleton_self _, ?_, rfl⟩
  simp [descendants_branch]

/-- A definition among the statements of a function does not clear it, whatever is in its body. -/
theorem own_statements_decide_unfinished :
    (unfinished [definition [logUser]]).outline = (unfinished [definition []]).outline ∧
      (unfinished [definition [logUser]]).strays = [] ∧
      todoRule.check (unfinished [definition [logUser]]) [] =
        todoRule.check (unfinished [definition []]) [] ∧
      loginRule.check (unfinished [definition [logUser]]) [] =
        loginRule.check (unfinished [definition []]) [] := by
  have same : (unfinished [definition [logUser]]).outline = (unfinished [definition []]).outline := by
    simp [unfinished, definition, Node.outline, Node.hollow_eq, Shape.hollow, Shape.map]
  have tidy : (unfinished [definition [logUser]]).strays = [] := by
    simp [Node.strays, unfinished, definition, Node.body, Shape.body, Logging.ownStatements, Node.kind,
      Shape.kind]
  exact ⟨same, tidy, (Node.own_statements_decide same [] [] _ _ _ ["login"] (word "user")).1 tidy |>.1,
    (Node.own_statements_decide same [] [] _ (word "log") (word "TODO") _ _).1 tidy |>.2⟩

/-- A definition inside an `if` clears the function around it: with one body of the definition both
rules report the function, with another one neither does. -/
theorem strays_clear_functions :
    (unfinished [branch [logUser]]).outline = (unfinished [branch []]).outline ∧
      todoRule.check (unfinished [branch [logUser]]) [] = [] ∧
      loginRule.check (unfinished [branch [logUser]]) [] = [] ∧
      todoRule.check (unfinished [branch []]) [] ≠ [] ∧
      loginRule.check (unfinished [branch []]) [] ≠ [] := by
  have hides {q : Node → Bool} {m : Node} (hm : m ∈ logUser.descendants) (hq : q m) :
      (unfinished [branch [logUser]]).Hides q :=
    ⟨_, definition_mem_strays _, logUser, List.mem_singleton_self _, m, hm, hq⟩
  have hlog : (Logging.ownStatements [branch []]).any (Logging.logsIn (word "log")) = false := by
    simp only [Logging.logsIn, Logging.ownStatements, List.any_filter, List.any_cons,
      descendants_branch]
    decide
  have huser : Requests.checksIdentity (word "user") [branch []] = false := by
    simp only [Requests.checksIdentity, Logging.ownStatements, List.any_filter, List.any_cons,
      descendants_branch]
    decide
  have hcall : log ∈ logUser.descendants :=
    Node.mem_descendants_of_mem_children (List.mem_singleton_self log)
  have hcompare : isUser ∈ logUser.descendants := by
    refine Node.mem_descendants_trans (Node.mem_descendants_of_mem_children ?_) hcall
    exact List.mem_cons_of_mem _ List.mem_cons_self
  have hmarker : (word "TODO").findIn? "TODO" = some "TODO" := by decide
  have hname : [(⟨⟨1, 2⟩, .name "login"⟩ : Node)].findSome? (fun d =>
      (Requests.decoratorName? d).filter ["login"].contains) = some "login" := by
    decide
  refine ⟨?_, ?_, ?_, ?_, ?_⟩
  · simp [unfinished, branch, definition, Node.outline, Node.hollow_eq, Shape.hollow, Shape.map]
  · exact (Logging.todoUnloggedRule_seesOutline _ _ _).silent [] (hides hcall (by decide))
  · exact (Requests.loginRequiredRule_seesOutline _ _ _).silent [] (hides hcompare (by decide))
  · simp only [todoRule, Logging.todoUnloggedRule, unfinished, hmarker, hlog, Catalog.report]
    simp
  · simp only [loginRule, Requests.loginRequiredRule, unfinished, hname, huser, Catalog.report]
    simp

end Nested

end CodeAudit
