import CodeAudit.Command.Scan
import Mathlib.Order.Basic

/-!
# Zero bytes in sources

A source of which more than one byte in a hundred is zero is taken for binary and passed over. The share of
the zeros is rounded down to a whole percentage before it is compared, and so it is only from two in a hundred
on that a source is passed over. `auditFile_passes_over_iff` gives the bound that is kept, and says what
becomes of the sources between the two bounds.
-/

namespace CodeAudit

/-- The number of zero bytes. -/
def zeroCount (content : ByteArray) : Nat := content.data.toList.count 0

theorem foldl_zeros (content : ByteArray) :
    content.data.foldl (fun n b => if b == 0 then n + 1 else n) 0 = zeroCount content := by
  have hcount (bytes : List UInt8) (n : Nat) :
      bytes.foldl (fun n b => if b == 0 then n + 1 else n) n = n + bytes.count 0 := by
    induction bytes generalizing n with
    | nil => rfl
    | cons b bytes ih =>
      rw [List.foldl_cons, ih, List.count_cons]
      split <;> omega
  rw [← Array.foldl_toList, hcount, Nat.zero_add, zeroCount]

/-- The share of the zeros is at least two in a hundred. -/
theorem looksBinary_iff {content : ByteArray} :
    looksBinary content ↔ 0 < zeroCount content ∧ 2 * content.size ≤ 100 * zeroCount content := by
  have hpos : 0 < max content.size 1 := by omega
  rw [looksBinary, foldl_zeros, decide_eq_true_eq, gt_iff_lt, ← Nat.succ_le_iff, Nat.le_div_iff_mul_le hpos]
  omega

/-- Binary content has more than one zero in a hundred bytes. -/
theorem lt_of_looksBinary {content : ByteArray} (h : looksBinary content) :
    content.size < 100 * zeroCount content := by
  obtain ⟨hzeros, hshare⟩ := looksBinary_iff.mp h
  omega

theorem Registry.auditFile_of_read (g : Registry) {files : FileTree} {path : String} {content : ByteArray}
    (isSource : (SourceExtension.ofPath? path).isSome) (read : files.read? path = some content) :
    g.auditFile files path = if looksBinary content then .ok [] else g.auditSource content := by
  obtain ⟨extension, hextension⟩ := Option.isSome_iff_exists.mp isSource
  rw [auditFile, hextension, read]
  rfl

/-- A source is passed over if at least two bytes in a hundred are zero, whatever the others are, and is
scanned otherwise. This is what a bound of one in a hundred would come to, exactly if the source is not between
the two bounds or nothing is found in it. -/
theorem Registry.auditFile_passes_over_iff (g : Registry) {files : FileTree} {path : String} {content : ByteArray}
    (isSource : (SourceExtension.ofPath? path).isSome) (read : files.read? path = some content) :
    g.auditFile files path =
        (if 0 < zeroCount content ∧ 2 * content.size ≤ 100 * zeroCount content then .ok []
        else g.auditSource content) ∧
      (g.auditFile files path =
          (if content.size < 100 * zeroCount content then .ok [] else g.auditSource content) ↔
        (content.size < 100 * zeroCount content ∧ 100 * zeroCount content < 2 * content.size →
          g.auditSource content = .ok [])) := by
  rw [g.auditFile_of_read isSource read]
  refine ⟨if_congr looksBinary_iff rfl rfl, ?_⟩
  by_cases hbinary : looksBinary content
  · have hshare := (looksBinary_iff.mp hbinary).2
    rw [if_pos hbinary, if_pos (lt_of_looksBinary hbinary)]
    exact iff_of_true rfl fun h => absurd h.2 (Nat.not_lt.mpr hshare)
  · rw [if_neg hbinary]
    split_ifs with hmore
    · have hless : 100 * zeroCount content < 2 * content.size := by
        rw [looksBinary_iff] at hbinary
        omega
      exact ⟨fun h _ => h, fun h => h ⟨hmore, hless⟩⟩
    · exact iff_of_true rfl fun h => absurd h.1 hmore

namespace SparseZeros

/-- A byte that no text has, a zero, and some more bytes. -/
def sparseBytes (more : Nat) : ByteArray := ⟨#[0xFF, 0] ++ Array.replicate more 0x23⟩

def sparseFiles (more : Nat) : FileTree := .directory [("a.py", .file (sparseBytes more))]

theorem isSome_ofPath? : (SourceExtension.ofPath? "a.py").isSome := by decide +kernel

theorem read? (more : Nat) : (sparseFiles more).read? "a.py" = some (sparseBytes more) := by
  have hnames : FileTree.names "a.py" = ["a.py"] := by decide +kernel
  simp [FileTree.read?, FileTree.resolve?, hnames, FileTree.follow?, sparseFiles, FileTree.contentAt?, FileTree.get?,
    FileTree.entries]

end SparseZeros

open SparseZeros

/-- One zero in fifty bytes is enough, although the bytes are no text. -/
theorem Registry.auditFile_passes_over_iff_fifty :
    (SourceExtension.ofPath? "a.py").isSome ∧ (sparseFiles 48).read? "a.py" = some (sparseBytes 48) ∧
      (sparseBytes 48).size = 50 ∧ ∀ g : Registry, g.auditFile (sparseFiles 48) "a.py" = .ok [] := by
  refine ⟨isSome_ofPath?, read? 48, rfl, fun g => ?_⟩
  rw [(g.auditFile_passes_over_iff isSome_ofPath? (read? 48)).1]
  exact if_pos (by decide)

/-- One zero in fifty-one bytes is more than one in a hundred, and the file is scanned all the same. -/
theorem Registry.auditFile_scans_sparse_zeros :
    (SourceExtension.ofPath? "a.py").isSome ∧ (sparseFiles 49).read? "a.py" = some (sparseBytes 49) ∧
      (sparseBytes 49).size < 100 * zeroCount (sparseBytes 49) ∧
      ∀ g : Registry, g.auditFile (sparseFiles 49) "a.py" = .error (.source (.notUtf8 ⟨0, some 1⟩)) := by
  have hbinary : ¬ looksBinary (sparseBytes 49) := by decide
  have hfault : Utf8.decode (sparseBytes 49) = .error ⟨0, some 1⟩ := rfl
  refine ⟨isSome_ofPath?, read? 49, by decide, fun g => ?_⟩
  rw [g.auditFile_of_read isSome_ofPath? (read? 49), if_neg hbinary, auditSource, Node.ofSource, hfault]

end CodeAudit
