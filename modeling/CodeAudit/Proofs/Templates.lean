import CodeAudit.Catalog.Branching
import CodeAudit.Proofs.Replacing
import CodeAudit.Proofs.Tables

/-!
# Templates are filled all at once

Holes are filled one key after the other, and each time the whole text is searched, with the values that
have been put in. A `Template` keeps text and holes apart, and so it says which braces are those of holes.

A value without braces is text of a template again, next to which no hole begins or ends. Hence filling one
hole leaves a template behind, and the next key finds its own holes and nothing else. Only the last value may
have braces, since nothing is searched for after it.
-/

namespace CodeAudit

def BraceFree (text : String) : Prop := '\x7b' ∉ text.toList ∧ '\x7d' ∉ text.toList

instance (text : String) : Decidable (BraceFree text) := inferInstanceAs (Decidable (_ ∧ _))

/-- A piece of a template. All braces are those around the keys of holes. -/
inductive Piece where
  | text (t : String) (free : BraceFree t)
  | hole (key : String) (free : BraceFree key)

namespace Piece

/-- What stands in the message for a piece. -/
def source : Piece → String
  | text t _ => t
  | hole key _ => "\x7b" ++ key ++ "\x7d"

/-- What a piece becomes: a hole becomes the value of its key, and without a value it stays. -/
def filled (vars : List (String × String)) : Piece → String
  | text t _ => t
  | hole key free => (vars.lookup key).getD (hole key free).source

/-- The piece with a value in the hole of a key. -/
def put (key value : String) (hvalue : BraceFree value) : Piece → Piece
  | text t free => text t free
  | hole k free => if k = key then text value hvalue else hole k free

theorem source_hole (key : String) (free : BraceFree key) : (hole key free).source = RuleInfo.hole key := rfl

theorem toList_hole (key : String) : (RuleInfo.hole key).toList = '\x7b' :: (key.toList ++ ['\x7d']) := by
  simp [RuleInfo.hole]

theorem filled_nil (p : Piece) : p.filled [] = p.source := by
  cases p <;> rfl

theorem filled_singleton {key value : String} (hvalue : BraceFree value) (p : Piece) :
    p.filled [(key, value)] = (p.put key value hvalue).source := by
  cases p with
  | text t free => rfl
  | hole k free =>
    by_cases hk : k = key <;> simp [filled, put, source, hk]

theorem filled_put {key value : String} (hvalue : BraceFree value) (vars : List (String × String)) (p : Piece) :
    (p.put key value hvalue).filled vars = p.filled ((key, value) :: vars) := by
  cases p with
  | text t free => rfl
  | hole k free =>
    by_cases hk : k = key
    · simp [filled, put, hk]
    · simp [filled, put, hk, List.lookup_cons, beq_false_of_ne hk]

/-- Two holes begin alike only if they have the same key. -/
theorem eq_of_begins_hole {key k : String} {rest : List Char} (hkey : BraceFree key) (hk : BraceFree k)
    (h : (RuleInfo.hole key).toList <+: (RuleInfo.hole k).toList ++ rest) : key = k := by
  have hclosed {cs : List Char} (hcs : '\x7d' ∉ cs) (after : List Char) :
      (cs ++ '\x7d' :: after).takeWhile (· != '\x7d') = cs := by
    rw [List.takeWhile_append_of_pos]
    · simp
    · intro c hc
      rw [bne_iff_ne]
      rintro rfl
      exact hcs hc
  obtain ⟨after, hafter⟩ := h
  simp only [toList_hole, List.cons_append, List.append_assoc, List.nil_append, List.cons.injEq, true_and]
    at hafter
  have hkeys := congrArg (List.takeWhile (· != '\x7d')) hafter
  rw [hclosed hkey.2, hclosed hk.2] at hkeys
  exact String.toList_inj.mp hkeys

/-- One search passes over a piece and changes nothing but the hole of its key. -/
theorem replace_source_append {key : String} (hkey : BraceFree key) (value : String) (p : Piece)
    (rest : List Char) :
    Search.replace (RuleInfo.hole key).toList value.toList (p.source.toList ++ rest) =
      (p.filled [(key, value)]).toList ++ Search.replace (RuleInfo.hole key).toList value.toList rest := by
  cases p with
  | text t free =>
    rw [toList_hole]
    exact Search.replace_append_of_notMem free.1 ..
  | hole k free =>
    by_cases hk : key = k
    · subst hk
      have hhole : (RuleInfo.hole key).toList ≠ [] := by simp [toList_hole]
      rw [source_hole, Search.replace_piece_append hhole, filled, List.lookup_cons_self, Option.getD_some]
    · have habsent : ¬ (RuleInfo.hole key).toList <+: (RuleInfo.hole k).toList ++ rest :=
        mt (eq_of_begins_hole hkey free) hk
      have hinner : '\x7b' ∉ k.toList ++ ['\x7d'] := by simpa using free.1
      have hstays : (hole k free).filled [(key, value)] = RuleInfo.hole k := by
        simp [filled, source_hole, Ne.symm hk]
      rw [hstays, source_hole]
      rw [toList_hole k, List.cons_append] at habsent ⊢
      rw [Search.replace_cons_of_absent habsent, toList_hole key, Search.replace_append_of_notMem hinner,
        List.cons_append]

end Piece

/-- A message with its text and its holes kept apart. -/
abbrev Template := List Piece

namespace Template

def source (template : Template) : String := String.join (template.map Piece.source)

/-- The template with all holes filled at once. Nothing looks at a value any more. -/
def filled (template : Template) (vars : List (String × String)) : String :=
  String.join (template.map (Piece.filled vars))

theorem replaceIn_source {key : String} (hkey : BraceFree key) (value : String) (template : Template) :
    Search.replaceIn (RuleInfo.hole key) value template.source = template.filled [(key, value)] := by
  rw [← String.toList_inj, Search.replaceIn, String.toList_ofList]
  induction template with
  | nil => rfl
  | cons p template ih =>
    simp only [source, filled, List.map_cons, String.join_cons, String.toList_append] at ih ⊢
    rw [Piece.replace_source_append hkey, ih]

/-- What one key leaves behind is a template again, if the value has no braces. -/
theorem replaceIn_source_of_braceFree {key value : String} (hkey : BraceFree key) (hvalue : BraceFree value)
    (template : Template) :
    Search.replaceIn (RuleInfo.hole key) value template.source =
      source (template.map (Piece.put key value hvalue)) := by
  rw [replaceIn_source hkey, filled, source, List.map_map]
  exact congrArg String.join (List.map_congr_left fun p _ => Piece.filled_singleton hvalue p)

theorem filled_map_put {key value : String} (hvalue : BraceFree value) (vars : List (String × String))
    (template : Template) :
    filled (template.map (Piece.put key value hvalue)) vars = template.filled ((key, value) :: vars) := by
  rw [filled, filled, List.map_map]
  exact congrArg String.join (List.map_congr_left fun p _ => Piece.filled_put hvalue vars p)

theorem filled_nil (template : Template) : template.filled [] = template.source :=
  congrArg String.join (List.map_congr_left fun p _ => p.filled_nil)

theorem filled_perm {vars vars' : List (String × String)} (hperm : vars'.Perm vars)
    (hkeys : (vars.map Prod.fst).Nodup) (template : Template) :
    template.filled vars' = template.filled vars := by
  have hkeys' : (vars'.map Prod.fst).Nodup := (hperm.map Prod.fst).nodup_iff.mpr hkeys
  have hlookup (key : String) : vars'.lookup key = vars.lookup key := by
    apply Option.ext
    intro value
    rw [lookup_eq_some_iff_mem hkeys', lookup_eq_some_iff_mem hkeys, hperm.mem_iff]
  refine congrArg String.join (List.map_congr_left fun p _ => ?_)
  cases p with
  | text t free => rfl
  | hole key free => rw [Piece.filled, Piece.filled, hlookup]

end Template

namespace RuleInfo

/-- One key after the other comes to the same as all at once. -/
theorem render_source {info : RuleInfo} {template : Template} (hmessage : info.message = template.source)
    {vars : List (String × String)} (hkeys : ∀ var ∈ vars, BraceFree var.1)
    (hvalues : ∀ var ∈ vars.dropLast, BraceFree var.2) : info.render vars = template.filled vars := by
  rw [render, hmessage]
  -- The text is that of a template before each key. Only after the last one it may be any text.
  clear hmessage
  induction vars generalizing template with
  | nil => exact template.filled_nil.symm
  | cons var vars ih =>
    rw [List.forall_mem_cons] at hkeys
    rw [List.foldl_cons]
    cases vars with
    | nil => exact Template.replaceIn_source hkeys.1 var.2 template
    | cons next vars =>
      rw [List.dropLast_cons_cons, List.forall_mem_cons] at hvalues
      rw [Template.replaceIn_source_of_braceFree hkeys.1 hvalues.1, ih hkeys.2 hvalues.2,
        Template.filled_map_put]

-- Unless it is the last one, a value with braces is searched as well.
example : Branching.invalidRange.render [("target", "\x7bstop\x7d"), ("stop", "n")] =
    "'n' cannot be used as loop variable in range(\x7bstart\x7d, n, \x7bstep\x7d)" := by
  decide

/-- A message is rendered as if all holes were filled at once, when only the last value may have braces. When
none has, the keys may come in any order. -/
theorem render_fills_holes_at_once (info : RuleInfo) (template : Template)
    (hmessage : info.message = template.source) (vars : List (String × String))
    (hkeys : ∀ var ∈ vars, BraceFree var.1) (hvalues : ∀ var ∈ vars.dropLast, BraceFree var.2) :
    info.render vars = template.filled vars ∧
      ((vars.map Prod.fst).Nodup → (∀ var ∈ vars, BraceFree var.2) →
        ∀ vars' : List (String × String), vars'.Perm vars → info.render vars' = info.render vars) := by
  refine ⟨render_source hmessage hkeys hvalues, ?_⟩
  intro hdistinct hfree vars' hperm
  have hkeys' (var) (hvar : var ∈ vars') : BraceFree var.1 := hkeys var (hperm.mem_iff.mp hvar)
  have hvalues' (var) (hvar : var ∈ vars'.dropLast) : BraceFree var.2 :=
    hfree var (hperm.mem_iff.mp (List.mem_of_mem_dropLast hvar))
  calc info.render vars'
      = template.filled vars' := render_source hmessage hkeys' hvalues'
    _ = template.filled vars := Template.filled_perm hperm hdistinct template
    _ = info.render vars := (render_source hmessage hkeys hvalues).symm

/-- The message on a loop, whose four holes tell its target and the three bounds of its range. -/
def loopTemplate : Template :=
  [.text "'" (by decide), .hole "target" (by decide),
    .text "' cannot be used as loop variable in range(" (by decide), .hole "start" (by decide),
    .text ", " (by decide), .hole "stop" (by decide), .text ", " (by decide), .hole "step" (by decide),
    .text ")" (by decide)]

theorem render_fills_holes_at_once_loop :
    Branching.invalidRange.message = loopTemplate.source ∧
      Branching.invalidRange.render [("target", "i"), ("stop", "n"), ("step", "\x7btarget\x7d")] =
        "'i' cannot be used as loop variable in range(\x7bstart\x7d, n, \x7btarget\x7d)" ∧
      Branching.invalidRange.render [("step", "1"), ("stop", "n"), ("target", "i")] =
        Branching.invalidRange.render [("target", "i"), ("stop", "n"), ("step", "1")] := by
  have hmessage : Branching.invalidRange.message = loopTemplate.source := by decide
  refine ⟨hmessage, ?_, ?_⟩
  · have h := render_fills_holes_at_once Branching.invalidRange loopTemplate hmessage
      [("target", "i"), ("stop", "n"), ("step", "\x7btarget\x7d")] (by decide) (by decide)
    exact h.1.trans (by decide)
  · have h := render_fills_holes_at_once Branching.invalidRange loopTemplate hmessage
      [("target", "i"), ("stop", "n"), ("step", "1")] (by decide) (by decide)
    exact h.2 (by decide) (by decide) _ (by decide)

end RuleInfo

end CodeAudit
