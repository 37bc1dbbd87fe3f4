import CodeAudit.Regex.Search

/-!
# Patterns for paths

In a pattern `?` stands for one byte of a name, `*` for any bytes of a name, and `**` between slashes
for any number of names. There are classes in brackets and alternatives in braces, and a backslash
takes the meaning from the character behind it. Patterns and paths are compared byte by byte.
-/

namespace CodeAudit

/-- A part of a pattern. -/
inductive GlobToken where
  | literal (c : Char)
  | oneByte
  | someBytes
  /-- Any directories before the rest. -/
  | leading
  /-- Everything below what comes before. -/
  | trailing
  /-- Any directories, or just a slash. -/
  | between
  | oneOf (negated : Bool) (ranges : List (Char × Char))
  | choice (alternatives : List (List GlobToken))
deriving Inhabited

/-- A group of alternatives that is not closed yet. -/
structure GlobGroup where
  /-- What comes before the group, the last token first. -/
  before : List GlobToken
  /-- The alternatives that are complete, the last one first. -/
  complete : List (List GlobToken)

/-- A pattern that is being read. -/
structure GlobDraft where
  /-- The tokens of the present alternative, the last one first. -/
  tokens : List GlobToken
  /-- The open groups, the innermost one first. -/
  groups : List GlobGroup
  /-- The character read last. -/
  last : Option Char

namespace GlobDraft

/-- Adds a token. -/
def add (d : GlobDraft) (t : GlobToken) (last : Char) : GlobDraft :=
  { d with tokens := t :: d.tokens, last := some last }

/-- Adds `**`, which stands for any directories only where it fills the space between slashes. The
result has the text behind it, without the slash that it takes up. -/
def addStars (d : GlobDraft) (rest : List Char) : GlobDraft × List Char :=
  let plain := (add (add d .someBytes '*') .someBytes '*', rest)
  let mark (last : Char) (tokens : List GlobToken) : GlobDraft :=
    { d with tokens, last := some last }
  if d.tokens.isEmpty then
    match rest with
    | [] => (mark '*' [.leading], [])
    | '/' :: rest => (mark '/' [.leading], rest)
    | _ => plain
  else if d.last != some '/' && (d.groups.isEmpty || (d.last != some ',' && d.last != some '\x7b'))
  then plain
  else
    let joined (otherwise : GlobToken) : List GlobToken :=
      match d.tokens with
      | .leading :: before => .leading :: before
      | .trailing :: before => .trailing :: before
      | _ :: before => otherwise :: before
      | [] => [otherwise]
    match rest with
    | [] => (mark '*' (joined .trailing), [])
    | '/' :: rest => (mark '/' (joined .between), rest)
    | c :: _ =>
      if (c == ',' || c == '\x7d') && !d.groups.isEmpty then (mark '*' (joined .trailing), rest)
      else plain

/-- Opens a group. -/
def openGroup (d : GlobDraft) : GlobDraft :=
  { tokens := [], groups := ⟨d.tokens, []⟩ :: d.groups, last := some '\x7b' }

/-- Ends an alternative, if a group is open. -/
def comma (d : GlobDraft) : GlobDraft :=
  match d.groups with
  | [] => d.add (.literal ',') ','
  | g :: groups =>
    { tokens := []
      groups := { g with complete := d.tokens.reverse :: g.complete } :: groups
      last := some ',' }

/-- Closes a group. -/
def closeGroup? (d : GlobDraft) : Option GlobDraft :=
  match d.groups with
  | [] => none
  | g :: groups =>
    some
      { tokens := .choice ((d.tokens.reverse :: g.complete).reverse) :: g.before
        groups
        last := some '\x7d' }

end GlobDraft

namespace Glob

/-- The ranges of a class up to its closing bracket, the last one first. A dash between two characters
makes them a range. -/
def classBody (first dash : Bool) (ranges : List (Char × Char)) :
    List Char → Option (List (Char × Char) × List Char)
  | [] => none
  | c :: rest =>
    if c == ']' && !first then some (if dash then ('-', '-') :: ranges else ranges, rest)
    else
      match ranges with
      | (lo, hi) :: others =>
        if dash then
          if c < lo then none else classBody false false ((lo, c) :: others) rest
        else if c == '-' then classBody false true ranges rest
        else classBody false false ((c, c) :: (lo, hi) :: others) rest
      | [] => classBody false false [(c, c)] rest

/-- Reads a pattern. -/
def draft? : Nat → GlobDraft → List Char → Option GlobDraft
  | 0, _, _ => none
  | _ + 1, d, [] => some d
  | fuel + 1, d, c :: rest =>
    match c with
    | '?' => draft? fuel (d.add .oneByte c) rest
    | '*' =>
      match rest with
      | '*' :: rest =>
        let (d, rest) := d.addStars rest
        draft? fuel d rest
      | _ => draft? fuel (d.add .someBytes c) rest
    | '[' =>
      let (negated, body) := match rest with
        | '!' :: body | '^' :: body => (true, body)
        | body => (false, body)
      match classBody true false [] body with
      | some (ranges, rest) => draft? fuel (d.add (.oneOf negated ranges.reverse) ']') rest
      | none => none
    | '\x7b' => draft? fuel d.openGroup rest
    | '\x7d' => d.closeGroup?.bind fun d => draft? fuel d rest
    | ',' => draft? fuel d.comma rest
    | '\\' =>
      match rest with
      | c :: rest => draft? fuel (d.add (.literal c) c) rest
      | [] => none
    | _ => draft? fuel (d.add (.literal c) c) rest

/-- The bytes of a text, each as the character with its number. -/
def bytesOf (text : String) : List Char := text.toUTF8.data.toList.map fun b => Char.ofNat b.toNat

/-- The intervals of bytes that a range of characters stands for. -/
def byteRanges (range : Char × Char) : List (Nat × Nat) :=
  let lo := (bytesOf range.1.toString).map Char.toNat
  if range.1 == range.2 then lo.map fun b => (b, b)
  else
    let hi := (bytesOf range.2.toString).map Char.toNat
    lo.dropLast.map (fun b => (b, b)) ++ [(lo.getLast?.getD 0, hi.head?.getD 0)] ++
      (hi.drop 1).map fun b => (b, b)

/-- Any byte. -/
def anyByte : CharSet := ⟨[(0, 255)]⟩

/-- Any byte but the slash. -/
def nameByte : CharSet := anyByte.diff (.single '/')

/-- Any bytes of a set. -/
def many (s : CharSet) : Regex := .rep 0 none true (.set s)

mutual

/-- The expression that a token stands for. -/
def regexOf : GlobToken → Regex
  | .literal c => .seqs ((bytesOf c.toString).map fun b => .set (.single b))
  | .oneByte => .set nameByte
  | .someBytes => many nameByte
  | .leading =>
    .alt (.rep 0 (some 1) true (.set (.single '/'))) (.seq (many anyByte) (.set (.single '/')))
  | .trailing => .seq (.set (.single '/')) (many anyByte)
  | .between =>
    .seq (.set (.single '/')) (.alt .empty (.seq (many anyByte) (.set (.single '/'))))
  | .oneOf negated ranges =>
    let s := CharSet.ofRanges (ranges.flatMap byteRanges)
    .set (if negated then anyByte.diff s else s)
  | .choice alternatives => .alts (regexesOf alternatives)

/-- The expression that some tokens stand for. -/
def regexOfAll : List GlobToken → Regex
  | [] => .empty
  | t :: ts => .seq (regexOf t) (regexOfAll ts)

/-- The expressions of the alternatives that are not empty. -/
def regexesOf : List (List GlobToken) → List Regex
  | [] => []
  | [] :: rest => regexesOf rest
  | (t :: ts) :: rest => regexOfAll (t :: ts) :: regexesOf rest

end

end Glob

/-- A pattern for paths. -/
structure Glob where
  regex : Regex

namespace Glob

/-- The pattern with a written form. -/
def ofPattern? (pattern : String) : Option Glob :=
  match draft? (pattern.length + 1) ⟨[], [], none⟩ pattern.toList with
  | some ⟨tokens, [], _⟩ =>
    some ⟨.seqs [.look .start, regexOfAll tokens.reverse, .look .stop]⟩
  | _ => none

/-- Whether a pattern covers a path, whose names have slashes between them. -/
def covers (g : Glob) (path : String) : Bool := (g.regex.ends (bytesOf path).toArray 0) != []

end Glob

end CodeAudit
