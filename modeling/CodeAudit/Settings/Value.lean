import CodeAudit.Severity
import CodeAudit.Table

/-!
# Settings as written

A `Value` is what a settings file holds before anybody asks what it means. A type that can stand in
the settings says how it is written and how it is read; for a record of settings this is a list of
fields, one for each part of the record.
-/

namespace CodeAudit

/-- A value as it is written in settings. -/
inductive Value where
  | null
  | bool (b : Bool)
  | integer (n : Int)
  /-- A number with a fraction or an exponent, or one that is not finite. -/
  | decimal (written : String)
  /-- A date, a time, or both. -/
  | moment (written : String)
  | text (s : String)
  | list (items : List Value)
  | record (fields : List (String × Value))
deriving Inhabited

/-- A type whose members can stand in settings. -/
class Setting (α : Type) where
  /-- The member that is written, if it is one. -/
  read? : Value → Option α
  /-- The written form of a member. -/
  write : α → Value

namespace Setting

/-- The name that a value chooses among some alternatives. It is written as a text, or as a record
whose only field has that name and holds nothing. -/
def choice? : Value → Option String
  | .text name => some name
  | .record [(name, .null)] => some name
  | _ => none

/-- An integer between two bounds. -/
def between? (least greatest : Int) : Value → Option Int
  | .integer n => if least ≤ n ∧ n ≤ greatest then some n else none
  | _ => none

end Setting

instance : Setting String where
  read?
    | .text s => some s
    | _ => none
  write := .text

instance : Setting Bool where
  read?
    | .bool b => some b
    | _ => none
  write := .bool

instance : Setting Int64 where
  read? v := (Setting.between? Int64.minValue.toInt Int64.maxValue.toInt v).map Int64.ofInt
  write n := .integer n.toInt

instance : Setting UInt64 where
  read? v := (Setting.between? 0 0xFFFFFFFFFFFFFFFF v).map fun n => UInt64.ofNat n.toNat
  write n := .integer n.toNat

instance : Setting UInt32 where
  read? v := (Setting.between? 0 0xFFFFFFFF v).map fun n => UInt32.ofNat n.toNat
  write n := .integer n.toNat

instance : Setting Severity where
  read? v := (Setting.choice? v).bind Severity.ofSettings?
  write s := .text s.settingsName

instance {α : Type} [Setting α] : Setting (List α) where
  read?
    | .list items => items.mapM Setting.read?
    | _ => none
  write items := .list (items.map Setting.write)

instance {α : Type} [Setting α] : Setting (Option α) where
  read?
    | .null => some none
    | v => (Setting.read? v).map some
  write
    | none => .null
    | some a => Setting.write a

instance {α : Type} [Setting α] : Setting (Table α) where
  read?
    | .record fields =>
      (fields.mapM fun f => (Setting.read? f.2).map (f.1, ·)).map Table.ofList
    | _ => none
  write t := .record (t.entries.map fun e => (e.1, Setting.write e.2))

/-- One part of a record of settings: its name in writing, and how it is taken from a record and put
into one. -/
structure Field (σ : Type) where
  of ::
  {α : Type}
  [setting : Setting α]
  name : String
  get : σ → α
  put : α → σ → σ
  get_put : ∀ a s, get (put a s) = a := by intros; rfl

namespace Field

variable {σ : Type}

/-- Putting one of two parts leaves the other as it is. -/
def Independent (f g : Field σ) : Prop :=
  (∀ a s, g.get (f.put a s) = g.get s) ∧ ∀ a s, f.get (g.put a s) = f.get s

/-- Changes a part to what is written. -/
def assign? (f : Field σ) (v : Value) (s : σ) : Option σ := (f.setting.read? v).map (f.put · s)

/-- The written form of a part. -/
def write (f : Field σ) (s : σ) : Value := f.setting.write (f.get s)

end Field

/-- The fields of a record of settings, which are independent parts of it. An absent field keeps its
default. -/
structure Section (σ : Type) where
  fields : List (Field σ)
  /-- Whether a field with another name is a mistake. Otherwise it is passed over. -/
  strict : Bool
  distinct : (fields.map Field.name).Nodup := by decide
  independent : fields.Pairwise Field.Independent := by
    simp only [List.pairwise_cons, List.forall_mem_cons, Field.Independent, implies_true, List.not_mem_nil,
      false_implies, and_self, List.Pairwise.nil]
  /-- There is nothing more to a record than its parts: one that is given those of another is the same. -/
  complete : ∀ s t, fields.foldl (fun r f => f.put (f.get t) r) s = t := by intros; rfl

namespace Section

variable {σ : Type}

/-- Takes one written field into account. -/
def assign? (sec : Section σ) (s : σ) (written : String × Value) : Option σ :=
  match sec.fields.find? fun f => f.name == written.1 with
  | some field => field.assign? written.2 s
  | none => if sec.strict then none else some s

/-- Reads a record. It is written field by field, or as a list that gives the first fields in their
order. A date counts as a record with a field of its own, which no section knows. -/
def read? (sec : Section σ) (default : σ) : Value → Option σ
  | .record written => written.foldlM sec.assign? default
  | .list items =>
    if items.length ≤ sec.fields.length then
      (sec.fields.zip items).foldlM (fun s e => e.1.assign? e.2 s) default
    else none
  | .moment _ => if sec.strict then none else some default
  | _ => none

/-- Writes every field of a record. -/
def write (sec : Section σ) (s : σ) : Value :=
  .record (sec.fields.map fun f => (f.name, f.write s))

/-- A record can stand in settings itself. -/
@[reducible] def setting (sec : Section σ) (default : σ) : Setting σ where
  read? := sec.read? default
  write := sec.write

end Section

end CodeAudit
