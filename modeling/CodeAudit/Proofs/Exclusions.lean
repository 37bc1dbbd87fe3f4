import CodeAudit.Files.Discovery
import CodeAudit.Proofs.Encodings
import CodeAudit.Proofs.Languages

/-!
# What an exclusion covers

The name of an excluded directory becomes a pattern, and the pattern an expression over the bytes of a path. A
path is covered exactly if a directory on it has the excluded name. Here a name has neither slashes nor
characters with a meaning in patterns. `SourceSearch.any_covers_iff` is the only fact about patterns that the
search for sources needs.
-/

namespace CodeAudit

namespace Glob

/-! ### Bytes of texts -/

/-- The bytes of a character, each as the character with its number. -/
def charBytes (c : Char) : List Char := (String.utf8EncodeChar c).map fun b => Char.ofNat b.toNat

theorem bytesOf_eq_flatMap (text : String) : bytesOf text = text.toList.flatMap charBytes := by
  rw [bytesOf, Utf8.toList_toUTF8, List.map_flatMap]
  rfl

theorem bytesOf_toString (c : Char) : bytesOf c.toString = charBytes c := by
  rw [bytesOf_eq_flatMap, Char.toString_eq_singleton, String.toList_singleton, List.flatMap_singleton]

theorem toNat_ofNat_byte (b : UInt8) : (Char.ofNat b.toNat).toNat = b.toNat := by
  have hvalid : b.toNat.isValidChar := .inl (Nat.lt_trans b.toNat_lt (by decide))
  rw [show Char.ofNat b.toNat = Char.ofNatAux b.toNat hvalid from dif_pos hvalid]
  rfl

theorem bytesOf_injective : Function.Injective bytesOf := by
  intro s t h
  have hbytes : s.toUTF8.data.toList = t.toUTF8.data.toList := by
    refine List.map_injective_iff.mpr (fun a b hab => ?_) h
    rw [← UInt8.toNat_inj, ← toNat_ofNat_byte, hab, toNat_ofNat_byte]
  exact String.toByteArray_inj.mp (ByteArray.ext (Array.toList_inj.mp hbytes))

theorem contains_anyByte {text : String} : ∀ c ∈ bytesOf text, anyByte.contains c := by
  intro c hc
  obtain ⟨b, -, rfl⟩ := List.mem_map.mp hc
  have hb := b.toNat_lt
  simp only [CharSet.contains, anyByte, CharSet.memberOf, toNat_ofNat_byte]
  simp
  omega

/-- Only a slash has the byte of a slash: all bytes of longer characters are above 127. -/
theorem eq_slash_of_mem_charBytes {c : Char} (h : '/' ∈ charBytes c) : c = '/' := by
  obtain ⟨b, hb, hslash⟩ := List.mem_map.mp h
  have hvalue : b.toNat = 47 := by
    rw [← toNat_ofNat_byte, hslash]
    rfl
  rw [String.utf8EncodeChar] at hb
  split_ifs at hb with hshort
  · obtain rfl := List.mem_singleton.mp hb
    rw [UInt8.toNat_ofNat_of_lt' (Nat.lt_of_le_of_lt hshort (by decide))] at hvalue
    exact Char.toNat_inj.mp hvalue
  all_goals
    simp only [List.mem_cons, List.not_mem_nil, or_false] at hb
    rcases hb with rfl | rfl | rfl | rfl <;> (rw [UInt8.toNat_ofNat'] at hvalue; omega)

theorem slash_notMem_bytesOf {text : String} (h : '/' ∉ text.toList) : '/' ∉ bytesOf text := by
  rw [bytesOf_eq_flatMap, List.mem_flatMap]
  rintro ⟨c, hc, hslash⟩
  exact h (eq_slash_of_mem_charBytes hslash ▸ hc)

theorem bytesOf_intercalate (names : List String) :
    bytesOf ("/".intercalate names) = ['/'].intercalate (names.map bytesOf) := by
  have hslash : "/".toList.flatMap charBytes = ['/'] := by decide
  rw [bytesOf_eq_flatMap, String.toList_intercalate]
  induction names with
  | nil => rfl
  | cons name names ih =>
    cases names with
    | nil => simp [bytesOf_eq_flatMap]
    | cons next names =>
      simp only [List.map_cons, List.intercalate_cons_cons, List.flatMap_append, hslash] at ih ⊢
      rw [ih, bytesOf_eq_flatMap name]

/-! ### Directories on a path -/

/-- Every name but the last has its slash after it. -/
theorem intercalate_append (front : List (List Char)) {back : List (List Char)} (hback : back ≠ []) :
    ['/'].intercalate (front ++ back) = front.flatMap (· ++ ['/']) ++ ['/'].intercalate back := by
  induction front with
  | nil => rfl
  | cons name front ih =>
    rw [List.cons_append, List.intercalate_cons_of_ne_nil (by simp [hback]), ih, List.flatMap_cons]
    simp only [List.append_assoc]

/-- The names of directories on a path: they stand before a slash, at the beginning or after another one. -/
theorem exists_append_iff_mem_dropLast {names : List (List Char)} {name : List Char}
    (hnames : ∀ n ∈ names, '/' ∉ n) (hne : names ≠ []) (hname : '/' ∉ name) :
    (∃ before after, ['/'].intercalate names = before ++ (name ++ '/' :: after) ∧
      (before = [] ∨ ∃ rest, before = rest ++ ['/'])) ↔ name ∈ names.dropLast := by
  have hsplit := List.splitOn_intercalate '/' hnames hne
  constructor
  · rintro ⟨before, after, hpath, hbefore⟩
    rw [hpath] at hsplit
    have hlast (later : List (List Char)) : name ∈ (later ++ name :: after.splitOn '/').dropLast := by
      rw [List.dropLast_append_of_ne_nil (List.cons_ne_nil _ _),
        List.dropLast_cons_of_ne_nil (List.splitOn_ne_nil '/' after)]
      simp
    rcases hbefore with rfl | ⟨rest, rfl⟩
    · rw [List.nil_append, List.splitOn_append_cons_self_of_not_mem hname] at hsplit
      exact hsplit ▸ hlast []
    · rw [List.append_assoc, List.singleton_append, List.splitOn_append_cons_self,
        List.splitOn_append_cons_self_of_not_mem hname] at hsplit
      exact hsplit ▸ hlast _
  · intro hmem
    obtain ⟨front, back, hdrop⟩ := List.append_of_mem hmem
    obtain ⟨last, hlast⟩ : ∃ last, names = front ++ name :: (back ++ [last]) := by
      refine ⟨names.getLast hne, ?_⟩
      rw [← List.cons_append, ← List.append_assoc, ← hdrop, List.dropLast_append_getLast hne]
    refine ⟨front.flatMap (· ++ ['/']), ['/'].intercalate (back ++ [last]), ?_, ?_⟩
    · rw [hlast, intercalate_append front (List.cons_ne_nil _ _), List.intercalate_cons_of_ne_nil (by simp),
        List.append_assoc, List.singleton_append]
    · rcases List.eq_nil_or_concat front with rfl | ⟨front, next, rfl⟩
      · exact .inl rfl
      · exact .inr ⟨front.flatMap (· ++ ['/']) ++ next, by simp⟩

/-! ### Words of tokens -/

variable {w : List Char}

theorem accepts_literal_iff {c : Char} : (regexOf (.literal c)).Accepts w ↔ w = charBytes c := by
  rw [regexOf, bytesOf_toString, Regex.accepts_seqs_singles_iff]

theorem accepts_literals_append_iff {name : List Char} {rest : List GlobToken} :
    (regexOfAll (name.map .literal ++ rest)).Accepts w ↔
      ∃ after, w = name.flatMap charBytes ++ after ∧ (regexOfAll rest).Accepts after := by
  induction name generalizing w with
  | nil => simp
  | cons c name ih =>
    simp only [List.map_cons, List.cons_append, regexOfAll, Regex.Accepts, accepts_literal_iff, ih,
      List.flatMap_cons, List.append_assoc]
    constructor
    · rintro ⟨u, v, rfl, rfl, after, rfl, h⟩
      exact ⟨after, rfl, h⟩
    · rintro ⟨after, rfl, h⟩
      exact ⟨_, _, rfl, rfl, after, rfl, h⟩

theorem contains_nameByte {c : Char} : nameByte.contains c ↔ anyByte.contains c ∧ c ≠ '/' := by
  have hranges : nameByte = ⟨[(0, 46), (48, 255)]⟩ := rfl
  have hslash : c = '/' ↔ c.toNat = 47 := Char.toNat_inj.symm
  rw [hranges, Ne, hslash]
  simp only [CharSet.contains, anyByte, CharSet.memberOf]
  grind

/-- Some bytes up to a slash. -/
theorem accepts_upToSlash_iff :
    (Regex.seq (many anyByte) (.set (.single '/'))).Accepts w ↔
      ∃ u, w = u ++ ['/'] ∧ ∀ c ∈ u, anyByte.contains c := by
  constructor
  · rintro ⟨u, v, rfl, hu, hv⟩
    obtain rfl := Regex.accepts_set_single_iff.mp hv
    exact ⟨u, rfl, Regex.accepts_rep_set_iff.mp hu⟩
  · rintro ⟨u, rfl, hu⟩
    exact ⟨u, ['/'], rfl, Regex.accepts_rep_set_iff.mpr hu, Regex.accepts_set_single_iff.mpr rfl⟩

/-- Nothing, or something that ends with a slash. -/
theorem accepts_leading_iff (hbytes : ∀ c ∈ w, anyByte.contains c) :
    (regexOf .leading).Accepts w ↔ w = [] ∨ ∃ u, w = u ++ ['/'] := by
  constructor
  · rintro (⟨pieces, rfl, hpieces, -, hmax⟩ | h)
    · have hfew : pieces.length ≤ 1 := hmax 1 rfl
      rcases pieces with _ | ⟨piece, _ | _⟩
      · exact .inl rfl
      · obtain rfl := Regex.accepts_set_single_iff.mp (hpieces piece (by simp))
        exact .inr ⟨[], rfl⟩
      · simp at hfew
    · obtain ⟨u, rfl, -⟩ := accepts_upToSlash_iff.mp h
      exact .inr ⟨u, rfl⟩
  · rintro (rfl | ⟨u, rfl⟩)
    · exact .inl ⟨[], rfl, nofun, Nat.le_refl 0, fun _ _ => Nat.zero_le _⟩
    · exact .inr (accepts_upToSlash_iff.mpr ⟨u, rfl, fun c hc => hbytes c (List.mem_append_left _ hc)⟩)

theorem accepts_someBytes (hbytes : ∀ c ∈ w, anyByte.contains c) (hslash : '/' ∉ w) :
    (regexOfAll [.someBytes]).Accepts w := by
  refine ⟨w, [], (List.append_nil w).symm, Regex.accepts_rep_set_iff.mpr fun c hc => ?_, rfl⟩
  exact contains_nameByte.mpr ⟨hbytes c hc, fun h => hslash (h ▸ hc)⟩

/-- A slash, and then whatever there is: the name at the end begins behind the last slash. -/
theorem accepts_between_someBytes_iff (hbytes : ∀ c ∈ w, anyByte.contains c) :
    (regexOfAll [.between, .someBytes]).Accepts w ↔ ∃ after, w = '/' :: after := by
  have hsingle : (Regex.set (.single '/')).Accepts ['/'] := Regex.accepts_set_single_iff.mpr rfl
  constructor
  · rintro ⟨u, v, rfl, ⟨a, b, rfl, ha, -⟩, -⟩
    obtain rfl := Regex.accepts_set_single_iff.mp ha
    exact ⟨b ++ v, by simp⟩
  · rintro ⟨after, rfl⟩
    rw [List.forall_mem_cons] at hbytes
    by_cases hslash : '/' ∈ after
    · obtain ⟨back, front, hreverse, hback⟩ := List.eq_append_cons_of_mem (List.mem_reverse.mpr hslash)
      obtain rfl : after = front.reverse ++ ['/'] ++ back.reverse := by
        simpa using congrArg List.reverse hreverse
      rw [List.forall_mem_append, List.forall_mem_append] at hbytes
      have hupTo := accepts_upToSlash_iff.mpr ⟨front.reverse, rfl, hbytes.2.1.1⟩
      exact ⟨'/' :: (front.reverse ++ ['/']), back.reverse, rfl, ⟨['/'], _, rfl, hsingle, .inr hupTo⟩,
        accepts_someBytes hbytes.2.2 (by simpa using hback)⟩
    · exact ⟨['/'], after, rfl, ⟨['/'], [], rfl, hsingle, .inl rfl⟩, accepts_someBytes hbytes.2 hslash⟩

/-! ### The pattern of an exclusion -/

/-- A character that means only itself in a pattern. -/
def IsLiteral (c : Char) : Prop := c ∉ ['?', '*', '[', '\x7b', '\x7d', '\\']

instance (c : Char) : Decidable (IsLiteral c) := inferInstanceAs (Decidable (c ∉ _))

/-- The tokens of the pattern that excludes a name. -/
def exclusionTokens (name : List Char) : List GlobToken :=
  .leading :: (name.map .literal ++ [.between, .someBytes])

theorem draft?_literal {fuel : Nat} {tokens : List GlobToken} {last : Option Char} {c : Char}
    {rest : List Char} (hc : IsLiteral c) :
    draft? (fuel + 1) ⟨tokens, [], last⟩ (c :: rest) =
      draft? fuel ⟨.literal c :: tokens, [], some c⟩ rest := by
  by_cases hcomma : c = ','
  · subst hcomma
    rfl
  · simp only [IsLiteral, List.mem_cons, List.not_mem_nil, or_false, not_or] at hc
    rw [draft?] <;> simp only [hc, hcomma, imp_self, GlobDraft.add]

theorem exists_draft?_literals {fuel : Nat} {tokens : List GlobToken} {last : Option Char}
    {text rest : List Char} (htext : ∀ c ∈ text, IsLiteral c) :
    ∃ last', draft? (text.length + fuel) ⟨tokens, [], last⟩ (text ++ rest) =
      draft? fuel ⟨(text.map .literal).reverse ++ tokens, [], last'⟩ rest := by
  induction text generalizing tokens last with
  | nil => exact ⟨last, by simp⟩
  | cons c text ih =>
    rw [List.forall_mem_cons] at htext
    rw [List.length_cons, Nat.add_right_comm, List.cons_append, draft?_literal htext.1, List.map_cons,
      List.reverse_cons, List.append_assoc]
    exact ih htext.2

theorem draft?_exclusion {name : List Char} (hname : ∀ c ∈ name, IsLiteral c) :
    draft? (name.length + 9) ⟨[], [], none⟩ ('*' :: '*' :: '/' :: (name ++ ['/', '*', '*', '/', '*'])) =
      some ⟨(exclusionTokens name).reverse, [], some '*'⟩ := by
  obtain ⟨last, hliterals⟩ : ∃ last, draft? (name.length + 8) ⟨[.leading], [], some '/'⟩ _ = draft? 8 _ _ :=
    exists_draft?_literals hname
  have htokens : (exclusionTokens name).reverse =
      .someBytes :: .between :: ((name.map .literal).reverse ++ [.leading]) := by
    simp [exclusionTokens]
  rw [htokens]
  -- What stands around the name is read by computation; the second stars take up the slash before them.
  exact hliterals

/-- The pattern for some tokens, from the beginning of a path to its end. -/
def ofTokens (tokens : List GlobToken) : Glob := ⟨.seqs [.look .start, regexOfAll tokens, .look .stop]⟩

theorem ofPattern?_exclusion {name : List Char} (hname : ∀ c ∈ name, IsLiteral c) :
    ofPattern? (String.ofList ('*' :: '*' :: '/' :: (name ++ ['/', '*', '*', '/', '*']))) =
      some (ofTokens (exclusionTokens name)) := by
  have hlength : (String.ofList ('*' :: '*' :: '/' :: (name ++ ['/', '*', '*', '/', '*']))).length + 1 =
      name.length + 9 := by
    rw [String.length_ofList]
    simp
  rw [ofPattern?, hlength, String.toList_ofList, draft?_exclusion hname]
  simp only [List.reverse_reverse]
  rfl

/-- With stars at its end a line has neither blanks nor a slash there. -/
theorem ofLine?_stars {front : List Char} :
    IgnoreRule.ofLine? (String.ofList ('!' :: '*' :: '*' :: '/' :: (front ++ ['/', '*', '*']))) =
      (ofPattern? (String.ofList ('*' :: '*' :: '/' :: (front ++ ['/', '*', '*', '/', '*'])))).map
        (⟨·, true, false⟩) := by
  have hback (text : List Char) : (text ++ ['/', '*', '*']).reverse = '*' :: '*' :: '/' :: text.reverse := by
    simp
  have htrim (text : List Char) : Blank.trimEnd (text ++ ['/', '*', '*']) = text ++ ['/', '*', '*'] := by
    rw [Blank.trimEnd, hback, List.dropWhile_cons_of_neg (by decide), ← hback, List.reverse_reverse]
  have hsplit (text : List Char) :
      IgnoreRule.splitDirectory (text ++ ['/', '*', '*']) = (false, text ++ ['/', '*', '*']) := by
    rw [IgnoreRule.splitDirectory, hback]
    rfl
  have hends (text : List Char) : IgnoreRule.endsWith ['/', '*', '*'] (text ++ ['/', '*', '*']) := by
    rw [IgnoreRule.endsWith, hback]
    rfl
  have hmeant (text : List Char) :
      IgnoreRule.meant false (text ++ ['/', '*', '*']) = text ++ ['/', '*', '*', '/', '*'] := by
    simp [IgnoreRule.meant, hends]
  have hline := htrim ('!' :: '*' :: '*' :: '/' :: front)
  have hpattern := hsplit ('*' :: '*' :: '/' :: front)
  have hwhole := hmeant ('*' :: '*' :: '/' :: front)
  simp only [List.cons_append] at hline hpattern hwhole
  rw [IgnoreRule.ofLine?, String.toList_ofList, hline, ite_self]
  dsimp only
  rw [if_neg (by simp)]
  change (ofPattern? (String.ofList (IgnoreRule.meant false
      (IgnoreRule.splitDirectory ('*' :: '*' :: '/' :: (front ++ ['/', '*', '*']))).2))).map
    (IgnoreRule.mk · true (IgnoreRule.splitDirectory ('*' :: '*' :: '/' :: (front ++ ['/', '*', '*']))).1) = _
  rw [hpattern, hwhole]

theorem ofLine?_exclusion {name : String} (hname : ∀ c ∈ name.toList, IsLiteral c) :
    IgnoreRule.ofLine? ("!**/" ++ name ++ "/**") =
      some ⟨ofTokens (exclusionTokens name.toList), true, false⟩ := by
  have hline : "!**/" ++ name ++ "/**" =
      String.ofList ('!' :: '*' :: '*' :: '/' :: (name.toList ++ ['/', '*', '*'])) := by
    rw [← String.toList_inj]
    simp
  rw [hline, ofLine?_stars, ofPattern?_exclusion hname, Option.map_some]

theorem covers_ofTokens_iff {tokens : List GlobToken} (hfree : (regexOfAll tokens).LookFree) {path : String} :
    (ofTokens tokens).covers path ↔ (regexOfAll tokens).Accepts (bytesOf path) := by
  have hiff := Regex.exists_matches_stop_iff hfree (Nat.zero_le (bytesOf path).length)
  rw [List.drop_zero] at hiff
  rw [covers, bne_iff_ne, ← hiff]
  constructor
  · intro h
    obtain ⟨k, hk⟩ := List.exists_mem_of_ne_nil _ h
    obtain ⟨-, ⟨-, rfl⟩, hrest⟩ := (Regex.mem_ends (Nat.zero_le _)).mp hk
    exact ⟨k, hrest⟩
  · rintro ⟨k, hrest⟩
    exact List.ne_nil_of_mem ((Regex.mem_ends (Nat.zero_le _)).mpr ⟨0, ⟨rfl, rfl⟩, hrest⟩)

theorem lookFree_exclusion (name : List Char) : (regexOfAll (exclusionTokens name)).LookFree := by
  refine ⟨⟨trivial, trivial, trivial⟩, ?_⟩
  induction name with
  | nil => exact ⟨⟨trivial, trivial, trivial, trivial⟩, trivial, trivial⟩
  | cons c name ih =>
    refine ⟨?_, ih⟩
    rw [regexOf]
    refine Regex.lookFree_seqs fun r hr => ?_
    obtain ⟨b, -, rfl⟩ := List.mem_map.mp hr
    trivial

/-- The pattern of an exclusion covers what lies in a directory with the excluded name, at any depth. -/
theorem covers_iff_mem_dropLast {name : String} (hslash : '/' ∉ name.toList) {names : List String}
    (hnames : ∀ n ∈ names, '/' ∉ n.toList) (hne : names ≠ []) :
    (ofTokens (exclusionTokens name.toList)).covers ("/".intercalate names) ↔ name ∈ names.dropLast := by
  have hbytes : ∀ c ∈ bytesOf ("/".intercalate names), anyByte.contains c := contains_anyByte
  have hmem : name ∈ names.dropLast ↔ bytesOf name ∈ (names.map bytesOf).dropLast := by
    rw [← List.map_dropLast, List.mem_map_of_injective bytesOf_injective]
  have hpieces : ∀ n ∈ names.map bytesOf, '/' ∉ n :=
    List.forall_mem_map.mpr fun n hn => slash_notMem_bytesOf (hnames n hn)
  rw [covers_ofTokens_iff (lookFree_exclusion _), hmem, ← exists_append_iff_mem_dropLast hpieces
    (by simpa using hne) (slash_notMem_bytesOf hslash), ← bytesOf_intercalate]
  generalize bytesOf ("/".intercalate names) = path at hbytes
  simp only [exclusionTokens, regexOfAll, Regex.Accepts, accepts_literals_append_iff, ← bytesOf_eq_flatMap]
  constructor
  · rintro ⟨before, v, rfl, hbefore, behind, rfl, hbehind⟩
    simp only [List.forall_mem_append] at hbytes
    obtain ⟨after, rfl⟩ := (accepts_between_someBytes_iff hbytes.2.2).mp hbehind
    exact ⟨before, after, rfl, (accepts_leading_iff hbytes.1).mp hbefore⟩
  · rintro ⟨before, after, rfl, hbefore⟩
    rw [List.forall_mem_append, List.forall_mem_append] at hbytes
    exact ⟨before, _, rfl, (accepts_leading_iff hbytes.1).mpr hbefore, '/' :: after, rfl,
      (accepts_between_someBytes_iff hbytes.2.2).mpr ⟨after, rfl⟩⟩

end Glob

namespace SourceSearch

/-- A name that has neither slashes nor characters with a meaning in patterns. -/
def IsExcludable (name : String) : Prop := '/' ∉ name.toList ∧ ∀ c ∈ name.toList, Glob.IsLiteral c

instance (name : String) : Decidable (IsExcludable name) :=
  decidable_of_iff ('/' ∉ name.toList ∧ name.toList.all fun c => decide (Glob.IsLiteral c)) <| by
    simp [IsExcludable]

/-- The exclusions of a search cover what lies in a directory with one of the names. -/
theorem any_covers_iff {files : FileTree} {settings : ScannerSettings} {names : List String}
    (hexcluded : ∀ n ∈ settings.excludedDirectories, IsExcludable n) (hnames : ∀ n ∈ names, '/' ∉ n.toList)
    (hne : names ≠ []) :
    ((ofSettings files settings).excluded.any fun g => g.covers ("/".intercalate names)) ↔
      ∃ n ∈ names.dropLast, n ∈ settings.excludedDirectories := by
  rw [ofSettings, List.any_filterMap, List.any_eq_true]
  constructor
  · rintro ⟨n, hn, hcovers⟩
    rw [Glob.ofLine?_exclusion (hexcluded n hn).2] at hcovers
    exact ⟨n, (Glob.covers_iff_mem_dropLast (hexcluded n hn).1 hnames hne).mp hcovers, hn⟩
  · rintro ⟨n, hmem, hn⟩
    refine ⟨n, hn, ?_⟩
    rw [Glob.ofLine?_exclusion (hexcluded n hn).2]
    exact (Glob.covers_iff_mem_dropLast (hexcluded n hn).1 hnames hne).mpr hmem

end SourceSearch

end CodeAudit
