import CodeAudit.Settings.Toml.Document
import CodeAudit.Settings.Toml.Scalar

/-!
# Reading TOML

A document is a sequence of lines: blank ones, headers, and keys with values. A value may go over
several lines if it is a list or a string in a form for several lines.
-/

namespace CodeAudit.Toml

/-- The number of parts of a key, and of lists and records inside each other. -/
def depthLimit : Nat := 79

/-- One part of a key. -/
def keyPart? : List Char → Option (String × List Char)
  | '\x22' :: rest => shortString? '\x22' rest
  | '\x27' :: rest => shortString? '\x27' rest
  | cs =>
    match cs.span fun c => c.isAlphanum || c == '-' || c == '_' with
    | ([], _) => none
    | (part, rest) => some (String.ofList part, rest)

/-- The parts of a key: those before the last one, and the last one. -/
def key? : Nat → List Char → Option ((List String × String) × List Char)
  | 0, _ => none
  | limit + 1, cs => do
    let (part, rest) ← keyPart? (cs.dropWhile isBlank)
    match rest.dropWhile isBlank with
    | '.' :: rest =>
      let ((path, last), rest) ← key? limit rest
      some ((part :: path, last), rest)
    | rest => some (([], part), rest)

/-- Passes over blanks, line ends and comments. -/
def gap (comment : Bool) : List Char → List Char
  | [] => []
  | c :: rest =>
    if c == '\n' then gap false rest
    else if c == '\r' && rest.head? == some '\n' then gap comment rest
    else if comment then if isPlain c then gap true rest else c :: rest
    else if isBlank c then gap false rest
    else if c == '#' then gap true rest
    else c :: rest

/-- A key with a value. -/
def binding? (value? : List Char → Option (Value × List Char)) (cs : List Char) :
    Option (((List String × String) × Value) × List Char) := do
  let (key, rest) ← key? depthLimit cs
  match rest with
  | '=' :: rest =>
    let (v, rest) ← value? (rest.dropWhile isBlank)
    some ((key, v), rest)
  | _ => none

/-- The members of a list up to its closing bracket. A comma may stand behind the last one. -/
def items? (value? : List Char → Option (Value × List Char)) :
    Nat → List Char → Option (List Value × List Char)
  | 0, _ => none
  | fuel + 1, cs =>
    match gap false cs with
    | ']' :: rest => some ([], rest)
    | cs => do
      let (v, rest) ← value? cs
      match gap false rest with
      | ']' :: rest => some ([v], rest)
      | ',' :: rest => (items? value? fuel rest).map fun (vs, rest) => (v :: vs, rest)
      | _ => none

/-- The keys and values of a record on one line, up to its closing brace. -/
def bindings? (value? : List Char → Option (Value × List Char)) :
    Nat → List Char → Option (List ((List String × String) × Value) × List Char)
  | 0, _ => none
  | fuel + 1, cs => do
    let (b, rest) ← binding? value? cs
    match rest.dropWhile isBlank with
    | '\x7d' :: rest => some ([b], rest)
    | ',' :: rest => (bindings? value? fuel rest).map fun (bs, rest) => (b :: bs, rest)
    | _ => none

/-- The record that some keys and values make up. -/
def inlineRecord? (bindings : List ((List String × String) × Value)) : Option Value :=
  (bindings.foldlM (fun fields ((path, key), v) => Fields.assign? [] path key v fields) []).map
    fun fields => .record (fieldValues fields)

/-- A value with lists and records inside each other up to a depth. -/
def value? : Nat → List Char → Option (Value × List Char)
  | 0, cs => scalar? cs
  | depth + 1, cs =>
    match cs with
    | '[' :: rest =>
      (items? (value? depth) (rest.length + 1) rest).map fun (vs, rest) => (.list vs, rest)
    | '\x7b' :: rest =>
      match rest.dropWhile isBlank with
      | '\x7d' :: rest => some (.record [], rest)
      | _ => do
        let (bs, rest) ← bindings? (value? depth) (rest.length + 1) rest
        let record ← inlineRecord? bs
        some (record, rest)
    | _ => scalar? cs

/-- The rest of a line that has nothing more to say. -/
def lineEnd? (cs : List Char) : Option (List Char) :=
  let cs := match cs.dropWhile isBlank with
    | '#' :: rest => rest.dropWhile isPlain
    | cs => cs
  match cs with
  | [] => some []
  | '\n' :: rest | '\r' :: '\n' :: rest => some rest
  | _ => none

/-- Reads lines into a document, below a header. -/
def lines? : Nat → List String → Fields → List Char → Option Fields
  | 0, _, _, _ => none
  | fuel + 1, header, root, cs =>
    match cs.dropWhile isBlank with
    | [] => some root
    | '[' :: '[' :: rest => do
      let ((path, key), rest) ← key? depthLimit rest
      match rest with
      | ']' :: ']' :: rest =>
        let rest ← lineEnd? rest
        let root ← root.openRow? path key
        lines? fuel (path ++ [key]) root rest
      | _ => none
    | '[' :: rest => do
      let ((path, key), rest) ← key? depthLimit rest
      match rest with
      | ']' :: rest =>
        let rest ← lineEnd? rest
        let root ← root.openTable? path key
        lines? fuel (path ++ [key]) root rest
      | _ => none
    | cs =>
      match lineEnd? cs with
      | some rest => lines? fuel header root rest
      | none => do
        let (((path, key), v), rest) ← binding? (value? depthLimit) cs
        let rest ← lineEnd? rest
        let root ← root.assign? header path key v
        lines? fuel header root rest

/-- Reads a document. A byte order mark may stand before it. -/
def read? (text : String) : Option Value :=
  let cs := match text.toList with
    | '\ufeff' :: rest => rest
    | cs => cs
  (lines? (cs.length + 1) [] [] cs).map fun root => .record (fieldValues root)

end CodeAudit.Toml
