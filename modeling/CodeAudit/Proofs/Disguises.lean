import CodeAudit.Proofs.Building
import CodeAudit.Proofs.Encodings
import CodeAudit.Proofs.Search

/-!
# Disguised text comes to light

A disguise is seen through when some encoding has the shape of the literal, its bytes can be read and
something in them is suspicious. An encoding that is tried earlier can only bring something else to
light, so each encoding may be looked at on its own.

The shapes of the default settings take in every literal that is written in base 64 or as marked
hexadecimal pairs, with any blanks at its end. Hence no such literal goes unnoticed, wherever in a
module it stands.
-/

namespace CodeAudit

theorem Node.mem_descendants_of_at? {root n : Node} (is : List Nat) (h : root.at? is = some n) :
    n ∈ root.descendants := by
  induction is generalizing root with
  | nil =>
    obtain rfl : root = n := by simpa using h
    exact mem_descendants_self root
  | cons i is ih =>
    obtain ⟨c, hc, hn⟩ := Option.bind_eq_some_iff.mp h
    exact mem_descendants_trans (ih hn) (mem_descendants_of_mem_children (List.mem_of_getElem? hc))

namespace Disguise

variable {d : Disguise}

theorem isSome_inspect? {literal : String} {e : Encoding} {bytes : ByteArray}
    (hshape : (d.shape e).isMatch literal) (hdecode : e.decode? literal = some bytes)
    (hreveal : (d.reveal? bytes).isSome) : (d.inspect? literal).isSome := by
  rw [inspect?, List.findSome?_isSome_iff]
  refine ⟨e, by cases e <;> simp, ?_⟩
  rw [if_pos hshape, hdecode]
  simpa using hreveal

theorem isSome_reveal?_of_zero {bytes : List UInt8} (h : 0 ∈ bytes) :
    (d.reveal? ⟨bytes.toArray⟩).isSome := by
  have hzero : (⟨bytes.toArray⟩ : ByteArray).data.contains 0 = true := by simpa using h
  rw [reveal?, if_pos hzero]
  rfl

theorem isSome_reveal?_of_text {text : String} (h : d.rescan.isMatch text) :
    (d.reveal? text.toUTF8).isSome := by
  rw [reveal?]
  split
  · rfl
  · rw [Utf8.decode_toUTF8]
    rwa [Option.isSome_map]

/-- The expressions of a disguise are those of some settings. -/
structure Follows (d : Disguise) (s : Literals.Settings) : Prop where
  base64Shape : Regex.ofPattern? s.base64Shape = some d.base64Shape
  rot13Shape : Regex.ofPattern? s.rot13Shape = some d.rot13Shape
  hexShape : Regex.ofPattern? s.hexShape = some d.hexShape
  rescan : Regex.ofPattern? s.rescan = some d.rescan

end Disguise

/-! ### The shapes of the default settings -/

namespace Literals

/-- One item or more and then any blanks, from the start of a text to its end. -/
def wholeShape (item : Regex) : Regex :=
  .seq (.look .start) (.seq (.rep 1 none true item)
    (.seq (.rep 0 none true (.set Blank.table)) (.look .stop)))

/-- A digit of base 64 or the sign that fills up. -/
def base64Item : Regex := .set ⟨[(43, 43), (47, 57), (61, 61), (65, 90), (97, 122)]⟩

/-- A mark and two hexadecimal digits. -/
def hexItem : Regex :=
  .seq (.set (.single '0')) (.seq (.set (.single 'x'))
    (.rep 2 (some 2) true (.set ⟨[(48, 57), (65, 70), (97, 102)]⟩)))

theorem ofPattern?_base64Shape :
    Regex.ofPattern? ({} : Settings).base64Shape = some (wholeShape base64Item) := by
  decide +kernel

theorem ofPattern?_hexShape :
    Regex.ofPattern? ({} : Settings).hexShape = some (wholeShape hexItem) := by
  decide +kernel

theorem isMatch_wholeShape {item : Regex} {text blanks : List Char} {literal : String}
    (hliteral : literal.toList = text ++ blanks)
    (htext : (Regex.rep 1 none true item).Describes text) (hblanks : ∀ c ∈ blanks, Blank.isBlank c) :
    (wholeShape item).isMatch literal := by
  have hrest : (Regex.rep 0 none true (.set Blank.table)).Describes blanks :=
    .rep_set hblanks (Nat.zero_le _) (by simp)
  have hfirst := htext [] blanks
  have hsecond := hrest text []
  have hstop : Look.stop.holds (text ++ blanks).toArray (text.length + blanks.length) := by
    simp [Look.holds]
  rw [List.append_nil] at hsecond
  rw [Regex.isMatch, Regex.isSome_find?_iff, hliteral]
  rw [List.nil_append, List.length_nil, Nat.zero_add] at hfirst
  exact ⟨0, _, Nat.zero_le _, 0, ⟨rfl, rfl⟩, _, hfirst, _, hsecond, hstop, rfl⟩

theorem describes_encode {bytes : List UInt8} (h : bytes ≠ []) :
    (Regex.rep 1 none true base64Item).Describes (Base64.encode bytes) := by
  have hall : Base64.alphabet.all
      (CharSet.contains ⟨[(43, 43), (47, 57), (61, 61), (65, 90), (97, 122)]⟩) = true := by decide
  have halphabet := List.all_eq_true.mp hall
  exact .rep_set (fun c hc => halphabet c (Base64.mem_alphabet_of_mem_encode hc))
    (List.length_pos_of_ne_nil (Base64.encode_ne_nil h)) (by simp)

theorem describes_pair {pair : Char × Char} {b : UInt8} (h : Hex.IsPairOf pair b) :
    hexItem.Describes ['0', 'x', pair.1, pair.2] := by
  have hall : Hex.digits.all (CharSet.contains ⟨[(48, 57), (65, 70), (97, 102)]⟩) = true := by decide
  have hdigits := List.all_eq_true.mp hall
  have hpair : (Regex.rep 2 (some 2) true (.set ⟨[(48, 57), (65, 70), (97, 102)]⟩)).Describes
      [pair.1, pair.2] :=
    .rep_set (fun c hc => hdigits c (h.mem_digits c hc)) (Nat.le_refl 2) (by simp)
  exact .seq (.single (by decide)) (.seq (.single (by decide)) hpair)

theorem describes_marked {pairs : List (Char × Char)} {bytes : List UInt8}
    (h : List.Forall₂ Hex.IsPairOf pairs bytes) (hne : bytes ≠ []) :
    (Regex.rep 1 none true hexItem).Describes (Hex.marked pairs) := by
  have hpieces : ∀ p ∈ pairs.map fun pair => ['0', 'x', pair.1, pair.2], hexItem.Describes p := by
    intro p hp
    obtain ⟨pair, hpair, rfl⟩ := List.mem_map.mp hp
    obtain ⟨b, hb⟩ := Hex.exists_isPairOf h pair hpair
    exact describes_pair hb
  have hlength : 1 ≤ (pairs.map fun pair => ['0', 'x', pair.1, pair.2]).length := by
    rw [List.length_map, h.length_eq]
    exact List.length_pos_of_ne_nil hne
  rw [Hex.marked, List.flatMap_def]
  exact .rep hpieces hlength (by simp)

theorem ofPattern?_of_compile {field pattern : String} {r : Regex}
    (h : Catalog.compile field pattern = .ok r) : Regex.ofPattern? pattern = some r := by
  rw [Catalog.compile] at h
  split at h
  · rename_i hr
    rw [hr, Except.ok.inj h]
  · cases h

/-- The rule about disguises looks through those of the settings. -/
theorem exists_disguise_of_rules {s : Settings} {adjust : RuleInfo → RuleInfo} {rs : List Rule}
    (h : rules s adjust = .ok rs) :
    ∃ d : Disguise, d.Follows s ∧ obfuscatedStringRule (adjust obfuscatedString) d ∈ rs := by
  obtain ⟨base64Shape, hbase64, h⟩ := exists_ok_of_bind_eq_ok h
  obtain ⟨rot13Shape, hrot13, h⟩ := exists_ok_of_bind_eq_ok h
  obtain ⟨hexShape, hhex, h⟩ := exists_ok_of_bind_eq_ok h
  obtain ⟨rescan, hrescan, h⟩ := exists_ok_of_bind_eq_ok h
  obtain ⟨malicious, -, h⟩ := exists_ok_of_bind_eq_ok h
  obtain rfl := Except.ok.inj h
  exact ⟨⟨base64Shape, rot13Shape, hexShape, rescan⟩,
    ⟨ofPattern?_of_compile hbase64, ofPattern?_of_compile hrot13, ofPattern?_of_compile hhex,
      ofPattern?_of_compile hrescan⟩, by simp⟩

/-- A literal that stands for some bytes: in base 64, or as hexadecimal pairs of either case with a
mark before each, and with any blanks at the end. -/
inductive Disguised (bytes : List UInt8) : List Char → Prop
  | base64 {blanks : List Char} (trailing : ∀ c ∈ blanks, Blank.isBlank c) :
      Disguised bytes (Base64.encode bytes ++ blanks)
  | hex {pairs : List (Char × Char)} {blanks : List Char}
      (written : List.Forall₂ Hex.IsPairOf pairs bytes) (trailing : ∀ c ∈ blanks, Blank.isBlank c) :
      Disguised bytes (Hex.marked pairs ++ blanks)

/-- Bytes that should not be hidden: there is a zero among them, or they are a text in which the default
pattern is found. -/
def IsSuspicious (bytes : List UInt8) : Prop :=
  0 ∈ bytes ∨ ∃ text : String, text.toUTF8 = ⟨bytes.toArray⟩ ∧
    ∃ r ∈ Regex.ofPattern? ({} : Settings).rescan, r.isMatch text

section Default

variable {d : Disguise} {bytes : List UInt8}

theorem isSome_reveal? (hd : d.Follows {}) (h : IsSuspicious bytes) :
    (d.reveal? ⟨bytes.toArray⟩).isSome := by
  rcases h with hzero | ⟨text, htext, r, hr, hmatch⟩
  · exact Disguise.isSome_reveal?_of_zero hzero
  · obtain rfl : d.rescan = r := Option.some.inj (hd.rescan.symm.trans hr)
    rw [← htext]
    exact Disguise.isSome_reveal?_of_text hmatch

/-- The default settings see through every disguise of suspicious bytes. -/
theorem isSome_inspect?_of_disguised (hd : d.Follows {}) (hne : bytes ≠ [])
    (hbytes : IsSuspicious bytes) {literal : String} (h : Disguised bytes literal.toList) :
    (d.inspect? literal).isSome := by
  have hbase64 : d.base64Shape = wholeShape base64Item :=
    Option.some.inj (hd.base64Shape.symm.trans ofPattern?_base64Shape)
  have hhex : d.hexShape = wholeShape hexItem :=
    Option.some.inj (hd.hexShape.symm.trans ofPattern?_hexShape)
  generalize hliteral : literal.toList = text at h
  cases h with
  | base64 hblanks =>
    have hdecode : Encoding.base64.decode? literal = some ⟨bytes.toArray⟩ := by
      rw [Encoding.decode?, hliteral, Base64.decode?_trimEnd_encode bytes hblanks, Option.map_some]
    have hshape : (d.shape .base64).isMatch literal := by
      rw [Disguise.shape, hbase64]
      exact isMatch_wholeShape hliteral (describes_encode hne) hblanks
    exact Disguise.isSome_inspect? hshape hdecode (isSome_reveal? hd hbytes)
  | hex hwritten hblanks =>
    have hdecode : Encoding.hex.decode? literal = some ⟨bytes.toArray⟩ := by
      rw [Encoding.decode?, hliteral, Hex.decode?_marked hwritten hne hblanks, Option.map_some]
    have hshape : (d.shape .hex).isMatch literal := by
      rw [Disguise.shape, hhex]
      exact isMatch_wholeShape hliteral (describes_marked hwritten hne) hblanks
    exact Disguise.isSome_inspect? hshape hdecode (isSome_reveal? hd hbytes)

end Default

end Literals

namespace RuleSettings

theorem isValid_default : ({} : RuleSettings).IsValid where
  names := by decide
  sizes := by decide +kernel
  operations := by decide +kernel
  patterns := by decide +kernel

/-- The rule about disguises is in every registry, unless it is left out. -/
theorem exists_disguise_of_build {s : RuleSettings} {g : Registry} (h : s.build = .ok g)
    (henabled : Literals.obfuscatedString.id ∉ s.disabled) :
    ∃ d : Disguise, d.Follows s.literals ∧
      Literals.obfuscatedStringRule (s.adjust Literals.obfuscatedString) d ∈ g.rules := by
  obtain ⟨rs, hrs, hmem⟩ := exists_literals_of_build h
  obtain ⟨d, hd, hr⟩ := Literals.exists_disguise_of_rules hrs
  have hid : (Literals.obfuscatedStringRule (s.adjust Literals.obfuscatedString) d).id =
      Literals.obfuscatedString.id := s.id_adjust _
  exact ⟨d, hd, hmem _ hr (by rwa [hid])⟩

end RuleSettings

/-- What a rule finds at a node, wherever that stands, is in the report of every tree with the node. -/
theorem Rule.exists_mem_verdicts {rules : List Rule} {r : Rule} (hr : r ∈ rules) {root n : Node}
    (hn : n ∈ root.descendants) (hkind : r.kinds.contains n.kind) {f : Finding}
    (hcheck : ∀ path, f ∈ r.check n path) :
    ∃ d ∈ Rule.verdicts rules root, d.ruleId = r.id ∧ d.loc = f.loc := by
  rw [← Node.map_node_preorder] at hn
  obtain ⟨v, hv, rfl⟩ := List.mem_map.mp hn
  have hverdict : ⟨r.id, r.info.severity, f.message, f.loc, v.function?⟩ ∈ r.verdict v := by
    rw [Rule.verdict, if_pos hkind]
    exact List.mem_map_of_mem (hcheck v.path)
  exact ⟨_, List.mem_flatMap.mpr ⟨v, hv, List.mem_flatMap.mpr ⟨r, hr, hverdict⟩⟩, rfl, rfl⟩

theorem Literals.exists_mem_check {info : RuleInfo} {d : Disguise} {n : Node} {value : String}
    {isBytes : Bool} (hn : n.shape = .str value isBytes) (h : (d.inspect? value).isSome) :
    ∃ f : Finding, f.loc = n.loc ∧ ∀ path, f ∈ (obfuscatedStringRule info d).check n path := by
  obtain ⟨⟨encoding, hidden⟩, hinspect⟩ := Option.isSome_iff_exists.mp h
  refine ⟨.on n (info.render [("encoding", encoding.label), ("hidden", describeHidden hidden)]), rfl,
    fun path => ?_⟩
  simp [obfuscatedStringRule, literalText?, hn, hinspect, Catalog.report]

/-- With the default settings, suspicious bytes cannot be hidden: every module with a literal that stands
for them, in base 64 or as marked hexadecimal pairs, is scanned with a report at that literal. -/
theorem RuleSettings.scan_reports_disguised {bytes : List UInt8} (nonempty : bytes ≠ [])
    (suspicious : Literals.IsSuspicious bytes) :
    ∃ g, ({} : RuleSettings).build = .ok g ∧
      ∀ (loc : Location) (body : List Node) (n : Node) (value : String) (isBytes : Bool),
        n ∈ (⟨loc, .module body⟩ : Node).descendants → n.shape = .str value isBytes →
        Literals.Disguised bytes value.toList →
          ∃ ds, g.scan ⟨loc, .module body⟩ = .ok ds ∧
            ∃ d ∈ ds, d.ruleId = "obfuscated_string" ∧ d.loc = n.loc := by
  obtain ⟨g, hg⟩ := exists_build isValid_default
  refine ⟨g, hg, fun loc body n value isBytes hn hshape hvalue => ⟨_, scan_of_build hg rfl, ?_⟩⟩
  obtain ⟨d, hd, hmem⟩ := exists_disguise_of_build hg (by simp)
  have hinspect := Literals.isSome_inspect?_of_disguised hd nonempty suspicious hvalue
  obtain ⟨f, hloc, hf⟩ := Literals.exists_mem_check hshape hinspect
  have hkind : (KindSet.single .str).contains n.kind := by
    rw [KindSet.contains_single, Node.kind, hshape]
    rfl
  rw [← hloc]
  exact Rule.exists_mem_verdicts hmem hn hkind hf

/-- A zero byte behind a letter, once in base 64 with a line end behind it, as the argument of a call, and
once as hexadecimal pairs, in a function. -/
theorem RuleSettings.scan_reports_disguised_zero :
    let first : Node := ⟨⟨1, 7⟩, .str "bAA=\n" false⟩
    let second : Node := ⟨⟨3, 5⟩, .str "0x6C0x00 " true⟩
    let root : Node := ⟨⟨1, 1⟩, .module
      [⟨⟨1, 1⟩, .expr ⟨⟨1, 1⟩, .call ⟨⟨1, 1⟩, .name "print"⟩ [first] []⟩⟩,
        ⟨⟨2, 1⟩, .functionDef "f" [] [] [⟨⟨3, 5⟩, .expr second⟩] none⟩]⟩
    [0x6C, 0] ≠ ([] : List UInt8) ∧ Literals.IsSuspicious [0x6C, 0] ∧
      ∃ g ds, ({} : RuleSettings).build = .ok g ∧ g.scan root = .ok ds ∧
        (∃ d ∈ ds, d.ruleId = "obfuscated_string" ∧ d.loc = ⟨1, 7⟩) ∧
        ∃ d ∈ ds, d.ruleId = "obfuscated_string" ∧ d.loc = ⟨3, 5⟩ := by
  intro first second root
  have nonempty : [0x6C, 0] ≠ ([] : List UInt8) := by decide
  have suspicious : Literals.IsSuspicious [0x6C, 0] := .inl (by decide)
  have hfirst : first ∈ root.descendants := Node.mem_descendants_of_at? [0, 0, 1] rfl
  have hsecond : second ∈ root.descendants := Node.mem_descendants_of_at? [1, 0, 0] rfl
  have hbase64 : Literals.Disguised [0x6C, 0] "bAA=\n".toList :=
    show Literals.Disguised [0x6C, 0] (Base64.encode [0x6C, 0] ++ ['\n']) from
      .base64 (List.forall_mem_singleton.mpr rfl)
  have hhex : Literals.Disguised [0x6C, 0] "0x6C0x00 ".toList :=
    show Literals.Disguised [0x6C, 0] (Hex.marked [('6', 'C'), ('0', '0')] ++ [' ']) from
      .hex (.cons (by decide) (.cons (by decide) .nil)) (List.forall_mem_singleton.mpr rfl)
  obtain ⟨g, hg, hscan⟩ := scan_reports_disguised nonempty suspicious
  obtain ⟨ds, hds, hone⟩ := hscan _ _ first _ _ hfirst rfl hbase64
  obtain ⟨ds', hds', htwo⟩ := hscan _ _ second _ _ hsecond rfl hhex
  obtain rfl : ds = ds' := Except.ok.inj (hds.symm.trans hds')
  exact ⟨nonempty, suspicious, g, ds, hg, hds, hone, htwo⟩

end CodeAudit
