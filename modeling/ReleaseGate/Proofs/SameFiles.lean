/-
ReleaseGate/Proofs/SameFiles.lean

When two files are said to be the same.

Design.  Two files are told apart by their fingerprints, or not read at all
if their paths have one real place.  The way round reading is safe because a
path that leads to a file has the end of its walk as real place
(`on_realPlace_iff`), so one place is one file with one fingerprint; with it
or without, the answer is that of the fingerprints (`same_iff`).  Sameness is
an equivalence for that reason alone.

Nothing is assumed of all contents, since some do collide: the answer is
about bytes for each two files that do not.

Main result: `sameFiles_compares_contents`.
-/
import Mathlib.Order.Defs.Unbundled
import ReleaseGate.Proofs.Digest
import ReleaseGate.Proofs.Failing

namespace ReleaseGate.Action

open FileTree (Grounded IsPlain)

variable {host : Host} {m : Machine}

/-- A path that leads to a file, with what is read there. -/
structure Readable (host : Host) (m : Machine) where
  path : String
  content : ByteArray
  read : m.files.read host.here path = .ok content

namespace Readable

variable {a b : Readable host m}

/-- The two are said to be the same. -/
def Same (a b : Readable host m) : Prop := (sameFiles host a.path b.path).on m = (.ok true, m)

/-- The two paths lead to one file. -/
def Meets (a b : Readable host m) : Prop :=
  ∃ p, m.files.locate host.here a.path true = .ok p ∧ m.files.locate host.here b.path true = .ok p

/-- The two paths have one real place, and neither file is read. -/
def ShareRealPlace (a b : Readable host m) : Prop :=
  ∃ p, (realPlace host a.path).on m = (.ok p, m) ∧ (realPlace host b.path).on m = (.ok p, m)

theorem on_fingerprint (a : Readable host m) :
    (fingerprint host a.path).on m = (.ok (Digest.ofBytes a.content), m) := by
  rw [← Digest.ofPieces_eq_ofBytes]
  exact fingerprint_eq_ok.2 ⟨a.content, a.read, rfl, rfl⟩

/-! ### Real places -/

variable (hground : Grounded m.files) (hhere : m.files.get? host.here = some .dir)
  (hplain : IsPlain host.here)

include hground hhere hplain

/-- The real place of a readable path is the place of the file. -/
theorem on_realPlace_iff (a : Readable host m) {p : Place} :
    (realPlace host a.path).on m = (.ok p, m) ↔ m.files.locate host.here a.path true = .ok p := by
  obtain ⟨q, hq, -⟩ := FileTree.read_eq_ok.1 a.read
  obtain ⟨place, hreal⟩ := (failsIn_realPlace hground hhere hplain a.read).exists_ok
    (readOnly_realPlace host a.path)
  -- the end of the walk is the real place, and there is one answer
  obtain rfl : q = place := by rw [← (realPlace_eq_ok hreal).1, FileTree.realPlace_of_locate hq]
  rw [hreal, hq]
  simp

theorem shareRealPlace_iff : ShareRealPlace a b ↔ Meets a b := by
  simp only [ShareRealPlace, Meets, on_realPlace_iff hground hhere hplain]

/-! ### The answer -/

theorem exists_sameFiles (a b : Readable host m) :
    ∃ same, (sameFiles host a.path b.path).on m = (.ok same, m) :=
  (failsIn_sameFiles hground hhere hplain a.read b.read).exists_ok
    (readOnly_sameFiles host a.path b.path)

theorem same_iff : Same a b ↔ Digest.ofBytes a.content = Digest.ofBytes b.content := by
  obtain ⟨same, h⟩ := exists_sameFiles hground hhere hplain a b
  rw [← Digest.ofPieces_eq_ofBytes, ← Digest.ofPieces_eq_ofBytes, Same, h,
    ← (sameFiles_eq_ok_iff a.read b.read h).2]
  simp

theorem same_iff_eq (h : ¬ Collides a.content b.content) : Same a b ↔ a.content = b.content := by
  rw [same_iff hground hhere hplain]
  refine ⟨fun hdigest => ?_, congrArg _⟩
  by_contra hne
  refine h ⟨hne, ?_⟩
  rwa [Digest.ofPieces_eq_ofBytes, Digest.ofPieces_eq_ofBytes]

theorem equivalence_same : Equivalence (@Same host m) where
  refl _ := (same_iff hground hhere hplain).2 rfl
  symm h := (same_iff hground hhere hplain).2 ((same_iff hground hhere hplain).1 h).symm
  trans h h' := (same_iff hground hhere hplain).2
    (((same_iff hground hhere hplain).1 h).trans ((same_iff hground hhere hplain).1 h'))

end Readable

/-- **Sameness of files** is sameness of their bytes.  A content read in
pieces of any size is read to its end, each byte once, and has the
fingerprint of the whole.  Two readable paths are always compared, whatever
links lead to the files, and found the same if the fingerprints are, hence if
and only if the contents are equal, unless these two collide.  Only two paths
to one file have one real place.  So sameness is an equivalence. -/
theorem sameFiles_compares_contents (hground : Grounded m.files)
    (hhere : m.files.get? host.here = some .dir) (hplain : IsPlain host.here) :
    (∀ size content, 0 < size →
      Digest.Cuts size content (Digest.pieces size content) ∧
      ((Digest.pieces size content).foldl Digest.Hasher.update {}).fingerprint =
        Digest.ofBytes content ∧
      ∀ ps last, Digest.Reads size content 0 ps last ↔
        ps = Digest.pieces size content ∧ last = content.size) ∧
    (∀ a : Readable host m,
      (fingerprint host a.path).on m = (.ok (Digest.ofBytes a.content), m)) ∧
    (∀ a b : Readable host m,
      (∃ same, (sameFiles host a.path b.path).on m = (.ok same, m)) ∧
      (a.ShareRealPlace b ↔ a.Meets b) ∧
      (a.Same b ↔ Digest.ofBytes a.content = Digest.ofBytes b.content) ∧
      (¬ Collides a.content b.content → (a.Same b ↔ a.content = b.content))) ∧
    Equivalence (@Readable.Same host m) := by
  refine ⟨fun size content hsize => ?_, Readable.on_fingerprint, fun a b => ?_,
    Readable.equivalence_same hground hhere hplain⟩
  · have hcuts := Digest.cuts_pieces hsize content
    exact ⟨hcuts, hcuts.fingerprint, fun ps last => Digest.reads_iff hsize⟩
  · exact ⟨Readable.exists_sameFiles hground hhere hplain a b,
      Readable.shareRealPlace_iff hground hhere hplain, Readable.same_iff hground hhere hplain,
      Readable.same_iff_eq hground hhere hplain⟩

/-! ### A file, a link to it, a copy and another file -/

/-- A link at the root leads to a file in a directory. -/
def besideCopies : Machine where
  files := ⟨[(["lib.jar", "a"], .file ⟨#[1]⟩), (["a"], .dir), (["link"], .link "a/../a/lib.jar"),
    (["copy.jar"], .file ⟨#[1]⟩), (["other.jar"], .file ⟨#[0]⟩)]⟩

theorem grounded_besideCopies : Grounded besideCopies.files :=
  FileTree.grounded_of_nodes (by decide)

theorem sameFiles_besideCopies :
    (sameFiles .bare "link" "/a/./lib.jar").on besideCopies = (.ok true, besideCopies) ∧
      (sameFiles .bare "link" "copy.jar").on besideCopies = (.ok true, besideCopies) ∧
      (sameFiles .bare "link" "other.jar").on besideCopies ≠ (.ok true, besideCopies) ∧
      Digest.Reads 2 ⟨#[7, 8, 9]⟩ 0 [⟨#[7, 8]⟩, ⟨#[9]⟩] 3 := by
  have hplain : IsPlain Host.bare.here := by rintro n ⟨⟩
  obtain ⟨hdigest, -, hfiles, -⟩ :=
    sameFiles_compares_contents grounded_besideCopies rfl hplain
  let link : Readable .bare besideCopies := ⟨"link", ⟨#[1]⟩, rfl⟩
  let direct : Readable .bare besideCopies := ⟨"/a/./lib.jar", ⟨#[1]⟩, rfl⟩
  let copy : Readable .bare besideCopies := ⟨"copy.jar", ⟨#[1]⟩, rfl⟩
  let other : Readable .bare besideCopies := ⟨"other.jar", ⟨#[0]⟩, rfl⟩
  have hreads := (hdigest 2 ⟨#[7, 8, 9]⟩ (by decide)).2.2 [⟨#[7, 8]⟩, ⟨#[9]⟩] 3
  refine ⟨(hfiles link direct).2.2.1.2 rfl, (hfiles link copy).2.2.1.2 rfl, ?_, ?_⟩
  · have hne : ¬ Collides link.content other.content := fun h => Digest.ofPieces_one_ne_zero h.2
    exact fun hsame => absurd (((hfiles link other).2.2.2 hne).1 hsame) (by decide)
  · exact hreads.2 ⟨by decide +kernel, rfl⟩

end ReleaseGate.Action
