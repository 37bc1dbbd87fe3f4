import CodeAudit.Proofs.Tables
import CodeAudit.Settings.Families
import Mathlib.Data.List.Pairwise

/-!
# Settings in writing

A record of settings is written as an object, with one value for each of its fields. Reading takes the fields
that are there and leaves the others at their defaults: `Section.readsByParts` says so for all sections. From
this it follows that writing and reading again gives back every record, if this is so for each of its parts,
and that it does not matter in which order an object lists its fields.

`RuleSettings.objects_are_read_by_parts` collects what this means for the settings of the rules and for the nine
families in them.
-/

namespace CodeAudit

/-! ### Values that are read as they were written -/

/-- A type whose members are read as they were written. -/
class LawfulSetting (α : Type) [Setting α] : Prop where
  read?_write (a : α) : Setting.read? (Setting.write a) = some a

namespace LawfulSetting

instance : LawfulSetting String := ⟨fun _ => rfl⟩

instance : LawfulSetting Bool := ⟨fun _ => rfl⟩

instance : LawfulSetting Severity := ⟨fun s => by cases s <;> rfl⟩

instance : LawfulSetting Int64 where
  read?_write n := by
    have hbounds : Int64.minValue.toInt ≤ n.toInt ∧ n.toInt ≤ Int64.maxValue.toInt :=
      ⟨Int64.minValue_le_toInt n, Int64.toInt_le n⟩
    show (Setting.between? Int64.minValue.toInt Int64.maxValue.toInt (.integer n.toInt)).map Int64.ofInt = some n
    rw [Setting.between?, if_pos hbounds, Option.map_some, Int64.ofInt_toInt]

variable {α : Type} [Setting α] [LawfulSetting α]

theorem mapM_read?_map {β γ : Type} {f : β → Option γ} {g : γ → β} (h : ∀ c, f (g c) = some c) (cs : List γ) :
    (cs.map g).mapM f = some cs := by
  induction cs with
  | nil => rfl
  | cons c cs ih => rw [List.map_cons, List.mapM_cons, h, ih]; rfl

instance : LawfulSetting (List α) := ⟨mapM_read?_map read?_write⟩

instance : LawfulSetting (Table α) where
  read?_write t := by
    have hentries : (t.entries.map fun e => (e.1, Setting.write e.2)).mapM
        (fun f => (Setting.read? f.2).map (f.1, ·)) = some t.entries :=
      mapM_read?_map (fun e => by rw [read?_write, Option.map_some]) t.entries
    show ((t.entries.map fun e => (e.1, Setting.write e.2)).mapM
        fun f => (Setting.read? f.2).map (f.1, ·)).map Table.ofList = some t
    rw [hentries, Option.map_some, Table.ofList_entries]

end LawfulSetting

/-! ### Objects and the parts of a record -/

/-- A part of a record, with the name by which it is written. -/
structure Part (σ : Type) where
  {α : Type}
  [setting : Setting α]
  name : String
  get : σ → α

/-- A part is what an object says about it, and its default if the object does not mention it. -/
def Part.IsAs {σ : Type} (p : Part σ) (object : List (String × Value)) (default s : σ) : Prop :=
  match object.lookup p.name with
  | some v => p.setting.read? v = some (p.get s)
  | none => p.get s = p.get default

namespace Part

variable {σ : Type} {p : Part σ} {object : List (String × Value)} {default s : σ} {v : Value}

theorem isAs_of_lookup_eq_some (h : object.lookup p.name = some v) :
    p.IsAs object default s ↔ p.setting.read? v = some (p.get s) := by
  rw [IsAs, h]

theorem isAs_of_lookup_eq_none (h : object.lookup p.name = none) :
    p.IsAs object default s ↔ p.get s = p.get default := by
  rw [IsAs, h]

end Part

/-- An object that mentions nothing but some parts is read part by part. -/
def ReadsByParts {σ : Type} [Setting σ] (default : σ) (parts : List (Part σ)) : Prop :=
  ∀ object : List (String × Value), (object.map Prod.fst).Nodup → (∀ e ∈ object, e.1 ∈ parts.map Part.name) →
    ∀ s : σ, Setting.read? (.record object) = some s ↔ ∀ p ∈ parts, p.IsAs object default s

namespace Field

variable {σ : Type}

/-- The part that a field is about. -/
def part (f : Field σ) : Part σ :=
  have := f.setting
  ⟨f.name, f.get⟩

instance : Std.Symm (Independent (σ := σ)) := ⟨fun _ _ h => ⟨h.2, h.1⟩⟩

end Field

namespace Section

variable {σ : Type} {sec : Section σ}

/-- The parts of a record that a section knows. -/
def parts (sec : Section σ) : List (Part σ) := sec.fields.map Field.part

theorem names_parts (sec : Section σ) : sec.parts.map Part.name = sec.fields.map Field.name := List.map_map

theorem forall_mem_parts {P : Part σ → Prop} : (∀ p ∈ sec.parts, P p) ↔ ∀ f ∈ sec.fields, P f.part :=
  List.forall_mem_map

theorem read?_record_nil (default : σ) : sec.read? default (.record []) = some default := rfl

theorem read?_record_cons (default : σ) (e : String × Value) (object : List (String × Value)) :
    sec.read? default (.record (e :: object)) =
      (sec.assign? default e).bind fun s => sec.read? s (.record object) := rfl

variable (sec)

/-- Records with the same parts are the same. -/
theorem eq_of_forall_get {s t : σ} (h : ∀ f ∈ sec.fields, f.get s = f.get t) : s = t := by
  calc s = sec.fields.foldl (fun r f => f.put (f.get s) r) s := (sec.complete s s).symm
    _ = sec.fields.foldl (fun r f => f.put (f.get t) r) s :=
      List.foldl_ext _ _ _ fun r f hf => congrArg (f.put · r) (h f hf)
    _ = t := sec.complete s t

theorem find?_name {f : Field σ} (hf : f ∈ sec.fields) :
    sec.fields.find? (fun g => g.name == f.name) = some f := by
  have hdistinct := sec.distinct
  generalize sec.fields = fields at hf hdistinct
  induction fields with
  | nil => exact absurd hf List.not_mem_nil
  | cons g fields ih =>
    rw [List.map_cons, List.nodup_cons] at hdistinct
    cases hf with
    | head => rw [List.find?_cons_of_pos (by simp)]
    | tail _ hf =>
      have hne : g.name ≠ f.name := fun heq => hdistinct.1 (heq ▸ List.mem_map_of_mem hf)
      rw [List.find?_cons_of_neg (by simpa using hne), ih hf hdistinct.2]

theorem get_put_of_ne {f g : Field σ} (hf : f ∈ sec.fields) (hg : g ∈ sec.fields) (hne : f.name ≠ g.name)
    (a : f.α) (s : σ) : g.get (f.put a s) = g.get s :=
  (sec.independent.forall hf hg fun heq => hne (heq ▸ rfl)).1 a s

theorem assign?_name {f : Field σ} (hf : f ∈ sec.fields) (v : Value) (s : σ) :
    sec.assign? s (f.name, v) = f.assign? v s := by
  rw [Section.assign?, sec.find?_name hf]

/-- Taking in one more value: its part is what the value says, and the rest of the object is about the other
parts. -/
theorem forall_isAs_put_iff {f : Field σ} (hf : f ∈ sec.fields) {object : List (String × Value)} {v : Value}
    (hfresh : f.name ∉ object.map Prod.fst) {a : f.α} (hread : f.setting.read? v = some a) {default s : σ} :
    (∀ g ∈ sec.fields, g.part.IsAs object (f.put a default) s) ↔
      ∀ g ∈ sec.fields, g.part.IsAs ((f.name, v) :: object) default s := by
  refine forall₂_congr fun g hg => ?_
  by_cases hsame : g.name = f.name
  · obtain rfl : g = f := Option.some.inj ((sec.find?_name hg).symm.trans (hsame ▸ sec.find?_name hf))
    have hnone : object.lookup g.part.name = none := by
      rw [List.lookup_eq_none_iff]
      intro e he
      have hne : g.name ≠ e.1 := fun heq => hfresh (heq ▸ List.mem_map_of_mem he)
      exact bne_iff_ne.mpr hne
    rw [Part.isAs_of_lookup_eq_none hnone]
    refine Iff.trans ?_ (Part.isAs_of_lookup_eq_some List.lookup_cons_self).symm
    show g.get s = g.get (g.put a default) ↔ g.setting.read? v = some (g.get s)
    rw [hread, g.get_put, Option.some.injEq, eq_comm]
  · have hlookup : ((f.name, v) :: object).lookup g.part.name = object.lookup g.part.name := by
      rw [List.lookup_cons, show (g.part.name == f.name) = false from beq_false_of_ne hsame]
    have hothers : g.part.get (f.put a default) = g.part.get default :=
      sec.get_put_of_ne hf hg (Ne.symm hsame) a default
    rw [Part.IsAs, Part.IsAs, hlookup, hothers]

/-- Reading takes in the values of an object one after the other, and ends with the record that has them. -/
theorem readsByParts (default : σ) : @ReadsByParts σ (sec.setting default) default sec.parts := by
  intro object hobject hknown s
  show sec.read? default (.record object) = some s ↔ _
  rw [forall_mem_parts]
  induction object generalizing default with
  | nil =>
    rw [read?_record_nil, Option.some.injEq]
    constructor
    · rintro rfl f -
      exact (Part.isAs_of_lookup_eq_none rfl).mpr rfl
    · intro hall
      exact sec.eq_of_forall_get fun f hf => ((Part.isAs_of_lookup_eq_none rfl).mp (hall f hf)).symm
  | cons e object ih =>
    obtain ⟨name, v⟩ := e
    rw [List.map_cons, List.nodup_cons] at hobject
    rw [List.forall_mem_cons, names_parts] at hknown
    obtain ⟨f, hf, rfl⟩ := List.mem_map.mp hknown.1
    rw [read?_record_cons, sec.assign?_name hf, Field.assign?]
    cases hread : f.setting.read? v with
    | none =>
      refine iff_of_false (Option.some_ne_none s).symm fun hall => ?_
      have hsaid : f.setting.read? v = some (f.get s) :=
        (Part.isAs_of_lookup_eq_some List.lookup_cons_self).mp (hall f hf)
      exact absurd (hsaid.symm.trans hread) (Option.some_ne_none _)
    | some a =>
      rw [← sec.forall_isAs_put_iff hf hobject.1 hread,
        ← ih _ hobject.2 fun e he => (names_parts sec).symm ▸ hknown.2 e he]
      rfl

/-- A record whose parts are read as they were written is read so itself, whatever the defaults are. -/
theorem read?_write_eq (hparts : ∀ f ∈ sec.fields, ∀ a, f.setting.read? (f.setting.write a) = some a)
    (default s : σ) : sec.read? default (sec.write s) = some s := by
  have hnames : (sec.fields.map fun f => (f.name, f.write s)).map Prod.fst = sec.fields.map Field.name :=
    List.map_map
  have hdistinct : ((sec.fields.map fun f => (f.name, f.write s)).map Prod.fst).Nodup := hnames ▸ sec.distinct
  refine (sec.readsByParts default _ hdistinct ?_ s).mpr (forall_mem_parts.mpr fun f hf => ?_)
  · intro e he
    rw [names_parts]
    exact hnames ▸ List.mem_map_of_mem he
  · have hlookup : (sec.fields.map fun f => (f.name, f.write s)).lookup f.name = some (f.write s) :=
      (lookup_eq_some_iff_mem hdistinct).mpr (List.mem_map_of_mem hf)
    exact (Part.isAs_of_lookup_eq_some hlookup).mpr (hparts f hf _)

variable {sec}

/-- A value that no record can take in makes the whole object unreadable. -/
theorem read?_record_eq_none {object : List (String × Value)} {e : String × Value} (he : e ∈ object)
    (hrefused : ∀ s, sec.assign? s e = none) (default : σ) : sec.read? default (.record object) = none := by
  induction object generalizing default with
  | nil => exact absurd he List.not_mem_nil
  | cons first object ih =>
    rw [read?_record_cons]
    cases he with
    | head => rw [hrefused, Option.bind_none]
    | tail _ he => exact Option.bind_eq_none_iff.mpr fun s _ => ih he s

/-- A strict section refuses every object that mentions something else. -/
theorem read?_record_of_unknown (sec : Section σ) (hstrict : sec.strict) {object : List (String × Value)}
    (hunknown : ∃ e ∈ object, e.1 ∉ sec.parts.map Part.name) (default : σ) :
    sec.read? default (.record object) = none := by
  obtain ⟨e, he, hunknown⟩ := hunknown
  rw [names_parts] at hunknown
  have hfind : sec.fields.find? (fun f => f.name == e.1) = none := by
    rw [List.find?_eq_none]
    intro f hf hname
    exact hunknown (beq_iff_eq.mp hname ▸ List.mem_map_of_mem hf)
  refine read?_record_eq_none he (fun s => ?_) default
  rw [assign?, hfind]
  exact if_pos hstrict

end Section

/-! ### The families of rules -/

instance : LawfulSetting Cryptography.Settings := by
  refine ⟨Cryptography.Settings.fields.read?_write_eq ?_ {}⟩
  simp only [Cryptography.Settings.fields, List.forall_mem_cons, LawfulSetting.read?_write, implies_true,
    List.not_mem_nil, false_implies, and_self]

instance : LawfulSetting Access.Settings := by
  refine ⟨Access.Settings.fields.read?_write_eq ?_ {}⟩
  simp only [Access.Settings.fields, List.forall_mem_cons, LawfulSetting.read?_write, implies_true,
    List.not_mem_nil, false_implies, and_self]

instance : LawfulSetting Logging.Settings := by
  refine ⟨Logging.Settings.fields.read?_write_eq ?_ {}⟩
  simp only [Logging.Settings.fields, List.forall_mem_cons, LawfulSetting.read?_write, implies_true,
    List.not_mem_nil, false_implies, and_self]

instance : LawfulSetting Secrets.Settings := by
  refine ⟨Secrets.Settings.fields.read?_write_eq ?_ {}⟩
  simp only [Secrets.Settings.fields, List.forall_mem_cons, LawfulSetting.read?_write, implies_true,
    List.not_mem_nil, false_implies, and_self]

instance : LawfulSetting Network.Settings := by
  refine ⟨Network.Settings.fields.read?_write_eq ?_ {}⟩
  simp only [Network.Settings.fields, List.forall_mem_cons, LawfulSetting.read?_write, implies_true,
    List.not_mem_nil, false_implies, and_self]

instance : LawfulSetting Literals.Settings := by
  refine ⟨Literals.Settings.fields.read?_write_eq ?_ {}⟩
  simp only [Literals.Settings.fields, List.forall_mem_cons, LawfulSetting.read?_write, implies_true,
    List.not_mem_nil, false_implies, and_self]

instance : LawfulSetting Branching.Settings := by
  refine ⟨Branching.Settings.fields.read?_write_eq ?_ {}⟩
  simp only [Branching.Settings.fields, List.forall_mem_cons, LawfulSetting.read?_write, implies_true,
    List.not_mem_nil, false_implies, and_self]

instance : LawfulSetting Environment.Settings := by
  refine ⟨Environment.Settings.fields.read?_write_eq ?_ {}⟩
  simp only [Environment.Settings.fields, List.forall_mem_cons, LawfulSetting.read?_write, implies_true,
    List.not_mem_nil, false_implies, and_self]

instance : LawfulSetting Requests.Settings := by
  refine ⟨Requests.Settings.fields.read?_write_eq ?_ {}⟩
  simp only [Requests.Settings.fields, List.forall_mem_cons, LawfulSetting.read?_write, implies_true,
    List.not_mem_nil, false_implies, and_self]

namespace RuleSettings

instance : LawfulSetting RuleSettings := by
  refine ⟨fields.read?_write_eq ?_ {}⟩
  simp only [fields, List.forall_mem_cons, LawfulSetting.read?_write, implies_true,
    List.not_mem_nil, false_implies, and_self]

/-- The section of a family: its name, what holds where nothing is said, and which part of the settings each
name inside stands for. -/
structure Family where
  name : String
  {σ : Type}
  [setting : Setting σ]
  default : σ
  parts : List (Part σ)

instance (family : Family) : Setting family.σ := family.setting

/-- The sections inside the settings of the rules. -/
def families : List Family :=
  [⟨"crypto", {}, open Cryptography.Settings in
      [⟨"insecure_hash", insecureHash⟩, ⟨"insecure_mac", insecureMac⟩, ⟨"insecure_random", insecureRandom⟩,
        ⟨"bits_keyword", bitsKeyword⟩, ⟨"key_sizes", keySizes⟩, ⟨"required_ops", requiredOps⟩]⟩,
    ⟨"auth", {}, open Access.Settings in
      [⟨"authenticate", authenticate⟩, ⟨"authorize", authorize⟩, ⟨"strong_hashes", strongHashes⟩,
        ⟨"secure_marker", secureMarker⟩, ⟨"policy_words", policyWords⟩]⟩,
    ⟨"logging", {}, open Logging.Settings in
      [⟨"logger", logger⟩, ⟨"deprecated_receiver", deprecatedReceiver⟩, ⟨"deprecated", deprecated⟩,
        ⟨"levels", levels⟩, ⟨"broad_exceptions", broadExceptions⟩, ⟨"todo_marker", todoMarker⟩]⟩,
    ⟨"secrets", {}, open Secrets.Settings in [⟨"names", names⟩, ⟨"pattern", pattern⟩]⟩,
    ⟨"comms", {}, open Network.Settings in
      [⟨"functions", functions⟩, ⟨"protocols", protocols⟩, ⟨"tls_keywords", tlsKeywords⟩,
        ⟨"verify_keyword", verifyKeyword⟩]⟩,
    ⟨"strings", {}, open Literals.Settings in
      [⟨"malicious", malicious⟩, ⟨"rescan", rescan⟩, ⟨"base64_shape", base64Shape⟩,
        ⟨"rot13_shape", rot13Shape⟩, ⟨"hex_shape", hexShape⟩, ⟨"dangerous_modules", dangerousModules⟩,
        ⟨"dangerous_functions", dangerousFunctions⟩, ⟨"bad_keywords", badKeywords⟩,
        ⟨"bad_builtins", badBuiltins⟩, ⟨"dangerous_builtins", dangerousBuiltins⟩]⟩,
    ⟨"control_flow", {}, [⟨"flag_non_range_iterables", Branching.Settings.flagNonRangeIterables⟩]⟩,
    ⟨"config_audit", {}, open Environment.Settings in
      [⟨"sources", sources⟩, ⟨"file_suffixes", fileSuffixes⟩, ⟨"launchers", launchers⟩,
        ⟨"remote_tools", remoteTools⟩, ⟨"prompts", prompts⟩]⟩,
    ⟨"api", {}, open Requests.Settings in
      [⟨"key_pattern", keyPattern⟩, ⟨"accessor", accessor⟩, ⟨"query_source", querySource⟩,
        ⟨"json_responders", jsonResponders⟩, ⟨"status_key", statusKey⟩, ⟨"status_value", statusValue⟩,
        ⟨"login_decorators", loginDecorators⟩, ⟨"identity_pattern", identityPattern⟩]⟩]

/-- Which part of the settings of the rules each name stands for. -/
def parts : List (Part RuleSettings) :=
  [⟨"disabled", disabled⟩, ⟨"severity", severity⟩, ⟨"crypto", cryptography⟩, ⟨"auth", access⟩,
    ⟨"logging", logging⟩, ⟨"secrets", secrets⟩, ⟨"comms", network⟩, ⟨"strings", literals⟩,
    ⟨"control_flow", branching⟩, ⟨"config_audit", environment⟩, ⟨"api", requests⟩]

theorem readsByParts_of_mem_families : ∀ family ∈ families, ReadsByParts family.default family.parts := by
  simp only [families, List.forall_mem_cons]
  exact ⟨Cryptography.Settings.fields.readsByParts {}, Access.Settings.fields.readsByParts {},
    Logging.Settings.fields.readsByParts {}, Secrets.Settings.fields.readsByParts {},
    Network.Settings.fields.readsByParts {}, Literals.Settings.fields.readsByParts {},
    Branching.Settings.fields.readsByParts {}, Environment.Settings.fields.readsByParts {},
    Requests.Settings.fields.readsByParts {}, List.forall_mem_nil _⟩

/-- A family refuses every section with a field that it does not know. -/
theorem read?_eq_none_of_mem_families : ∀ family ∈ families, ∀ inside : List (String × Value),
    (∃ e ∈ inside, e.1 ∉ family.parts.map Part.name) →
      Setting.read? (.record inside) = (none : Option family.σ) := by
  simp only [families, List.forall_mem_cons]
  exact ⟨fun _ h => Cryptography.Settings.fields.read?_record_of_unknown rfl h {},
    fun _ h => Access.Settings.fields.read?_record_of_unknown rfl h {},
    fun _ h => Logging.Settings.fields.read?_record_of_unknown rfl h {},
    fun _ h => Secrets.Settings.fields.read?_record_of_unknown rfl h {},
    fun _ h => Network.Settings.fields.read?_record_of_unknown rfl h {},
    fun _ h => Literals.Settings.fields.read?_record_of_unknown rfl h {},
    fun _ h => Branching.Settings.fields.read?_record_of_unknown rfl h {},
    fun _ h => Environment.Settings.fields.read?_record_of_unknown rfl h {},
    fun _ h => Requests.Settings.fields.read?_record_of_unknown rfl h {}, List.forall_mem_nil _⟩

/-- What is refused as the section of a family is refused in the settings of the rules, whatever has been read
before it. -/
theorem assign?_eq_none_of_mem_families : ∀ family ∈ families, ∀ v,
    Setting.read? v = (none : Option family.σ) → ∀ s, fields.assign? s (family.name, v) = none := by
  simp only [families, List.forall_mem_cons]
  refine ⟨?_, ?_, ?_, ?_, ?_, ?_, ?_, ?_, ?_, List.forall_mem_nil _⟩ <;>
    exact fun v hv s => congrArg (Option.map _) hv

/-- The settings of the rules are read as they were written. In an object over the known fields, a field that
is there stands for itself, and a field that is not has its default; so it is in the section of each family. A
field that is not known, beside the families or inside one, makes an object unreadable whatever else is in it. -/
theorem objects_are_read_by_parts :
    (∀ c : RuleSettings, Setting.read? (Setting.write c) = some c) ∧
    (ReadsByParts {} parts ∧ ∀ family ∈ families, ReadsByParts family.default family.parts) ∧
    (∀ object : List (String × Value), (∃ e ∈ object, e.1 ∉ parts.map Part.name) →
      Setting.read? (.record object) = (none : Option RuleSettings)) ∧
    ∀ family ∈ families, ∀ object inside : List (String × Value), (family.name, .record inside) ∈ object →
      (∃ e ∈ inside, e.1 ∉ family.parts.map Part.name) →
        Setting.read? (.record object) = (none : Option RuleSettings) := by
  refine ⟨LawfulSetting.read?_write, ⟨fields.readsByParts {}, readsByParts_of_mem_families⟩, ?_, ?_⟩
  · intro object hunknown
    exact fields.read?_record_of_unknown rfl hunknown {}
  · intro family hfamily object inside hinside hunknown
    have hrefused := read?_eq_none_of_mem_families family hfamily inside hunknown
    exact Section.read?_record_eq_none hinside (assign?_eq_none_of_mem_families family hfamily _ hrefused) {}

/-- One field of a family is written and the other has its default. With one more field the settings of the
rules are refused. -/
theorem objects_are_read_by_parts_one_family :
    Setting.read? (.record [("pattern", .text "token")]) = some ({ pattern := "token" } : Secrets.Settings) ∧
      Setting.read? (.record [("disabled", .list []), ("secrets", .record [("no_such_knob", .integer 1)])]) =
        (none : Option RuleSettings) := by
  obtain ⟨-, ⟨-, hinside⟩, -, hunknown⟩ := objects_are_read_by_parts
  have hfamily : ⟨"secrets", {}, [⟨"names", Secrets.Settings.names⟩, ⟨"pattern", Secrets.Settings.pattern⟩]⟩ ∈
      families := by simp [families]
  constructor
  · refine (hinside _ hfamily _ (by decide) (by decide) _).mpr ?_
    refine List.forall_mem_cons.mpr ⟨?_, List.forall_mem_singleton.mpr ?_⟩
    · exact (Part.isAs_of_lookup_eq_none rfl).mpr rfl
    · exact (Part.isAs_of_lookup_eq_some rfl).mpr rfl
  · exact hunknown _ hfamily _ _ (List.mem_cons_of_mem _ List.mem_cons_self)
      ⟨_, List.mem_cons_self, by decide⟩

end RuleSettings

end CodeAudit
