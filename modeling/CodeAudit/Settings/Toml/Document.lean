import CodeAudit.Settings.Value

/-!
# Where keys go in a TOML document

A record can come into being in three ways: by a header of its own, on the way to another header, or
on the way to a dotted key. Each record is defined in one place only. A header may take over a record
that other headers have passed through, and a dotted key may add to a record that dotted keys have
made; all else is a mistake, and so is a key that is given twice.
-/

namespace CodeAudit.Toml

/-- How a record has come into being. -/
inductive Origin where
  | header
  | path
  | dotted
deriving DecidableEq

/-- What stands behind a key. -/
inductive Entry where
  | value (v : Value)
  | table (origin : Origin) (fields : List (String × Entry))
  /-- Records with the same header, the latest first. -/
  | rows (latest : List (List (String × Entry)))

/-- The keys of a record with what stands behind them. -/
abbrev Fields := List (String × Entry)

mutual

/-- The value of an entry. -/
def Entry.toValue : Entry → Value
  | .value v => v
  | .table _ fields => .record (fieldValues fields)
  | .rows latest => .list (rowValues latest).reverse

/-- The values behind some keys. -/
def fieldValues : List (String × Entry) → List (String × Value)
  | [] => []
  | (key, e) :: rest => (key, e.toValue) :: fieldValues rest

/-- The values of some records. -/
def rowValues : List (List (String × Entry)) → List Value
  | [] => []
  | fields :: rest => .record (fieldValues fields) :: rowValues rest

end

namespace Fields

/-- Gives a key that is there another entry. -/
def replace (fields : Fields) (key : String) (e : Entry) : Fields :=
  fields.map fun f => if f.1 == key then (key, e) else f

/-- Changes the record at a path. Missing records on the way are made, of origin `fresh`; among
records with one header the latest is meant. -/
def within (fresh : Origin) (passes : Origin → Bool)
    (change : Origin → Fields → Option (Origin × Fields)) :
    List String → Origin → Fields → Option (Origin × Fields)
  | [], origin, fields => change origin fields
  | key :: path, origin, fields =>
    match fields.lookup key with
    | none =>
      (within fresh passes change path fresh []).map fun (o, inner) =>
        (origin, fields ++ [(key, .table o inner)])
    | some (.table o inner) =>
      if passes o then
        (within fresh passes change path o inner).map fun (o, inner) =>
          (origin, replace fields key (.table o inner))
      else none
    | some (.rows (last :: earlier)) =>
      (within fresh passes change path .header last).map fun (_, last) =>
        (origin, replace fields key (.rows (last :: earlier)))
    | some (.rows []) | some (.value _) => none

/-- Changes the record below a header. -/
def underHeader (path : List String) (change : Origin → Fields → Option (Origin × Fields))
    (root : Fields) : Option Fields :=
  (within .path (fun _ => true) change path .header root).map Prod.snd

/-- Gives a new key in the record below a header its value. -/
def assign? (header path : List String) (key : String) (v : Value) (root : Fields) :
    Option Fields :=
  let put (origin : Origin) (fields : Fields) : Option (Origin × Fields) :=
    if path.isEmpty || origin = .dotted then
      match fields.lookup key with
      | none => some (origin, fields ++ [(key, .value v)])
      | some _ => none
    else none
  underHeader header (within .dotted (· ≠ .header) put path) root

/-- Opens the record of a header. -/
def openTable? (path : List String) (key : String) (root : Fields) : Option Fields :=
  underHeader path (fun origin fields =>
    match fields.lookup key with
    | none => some (origin, fields ++ [(key, .table .header [])])
    | some (.table .path inner) => some (origin, replace fields key (.table .header inner))
    | some _ => none) root

/-- Opens another record of a header that may be repeated. -/
def openRow? (path : List String) (key : String) (root : Fields) : Option Fields :=
  underHeader path (fun origin fields =>
    match fields.lookup key with
    | none => some (origin, fields ++ [(key, .rows [[]])])
    | some (.rows latest) => some (origin, replace fields key (.rows ([] :: latest)))
    | some _ => none) root

end Fields

end CodeAudit.Toml
