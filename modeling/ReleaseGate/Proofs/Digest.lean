/-
ReleaseGate/Proofs/Digest.lean

The fingerprint of a content that is read piece by piece.

A file is read by asking for the next bytes, again and again, until nothing
comes.  `Reads` says just that, with the positions at which it is asked; it
cuts nothing.  `pieces` computes the answers by cutting the content.

Design.  A hasher takes its bytes one at a time and does not know how they
were handed over, so all that counts of a list of pieces is the bytes in them
in a row (`update_pieces`).  That a reading is the cut is an induction on what
is left behind a position: it is cut as the whole is, and an answer shorter
than what was asked for comes at the end only.

Main results: `Cuts.fingerprint`, `reads_iff`.
-/
import ReleaseGate.Digest

namespace ReleaseGate.Digest

variable {size pos last : Nat} {content : ByteArray} {ps : List ByteArray}

/-! ### Pieces in a row -/

/-- The pieces are the content from its first byte to its last, each byte in
one of them.  No piece is empty or too long, and only the last may be short. -/
structure Cuts (size : Nat) (content : ByteArray) (ps : List ByteArray) : Prop where
  whole : ps.flatMap ByteArray.toList = content.toList
  bounds : ∀ p ∈ ps, 0 < p.size ∧ p.size ≤ size
  full : ∀ p ∈ ps.dropLast, p.size = size

theorem Hasher.update_eq_foldl (h : Hasher) (bytes : ByteArray) :
    h.update bytes = bytes.toList.foldl Hasher.push h := by
  rw [Hasher.update, toList_eq_data, Array.foldl_toList]

/-- Taking pieces is taking the bytes in them, one after the other. -/
theorem Hasher.update_pieces (h : Hasher) (ps : List ByteArray) :
    ps.foldl Hasher.update h = (ps.flatMap ByteArray.toList).foldl Hasher.push h := by
  induction ps generalizing h with
  | nil => rfl
  | cons p ps ih =>
    rw [List.foldl_cons, ih, List.flatMap_cons, List.foldl_append, Hasher.update_eq_foldl]

/-- However a content is cut, its fingerprint is the same. -/
theorem Cuts.fingerprint (h : Cuts size content ps) :
    (ps.foldl Hasher.update {}).fingerprint = ofBytes content := by
  rw [Hasher.update_pieces, h.whole, ← Hasher.update_eq_foldl, ofBytes]

theorem toList_extract (content : ByteArray) (i j : Nat) :
    (content.extract i j).toList = (content.toList.take j).drop i := by
  rw [toList_eq_data, toList_eq_data, ByteArray.data_extract, Array.toList_extract]
  simp [List.extract, List.drop_take]

theorem pieces_eq_nil_iff (hsize : 0 < size) : pieces size content = [] ↔ content.size = 0 := by
  rw [pieces]
  split
  · next h => exact ⟨nofun, fun hzero => by omega⟩
  · next h => exact ⟨fun _ => by omega, fun _ => rfl⟩

theorem cuts_pieces (hsize : 0 < size) (content : ByteArray) :
    Cuts size content (pieces size content) := by
  fun_induction pieces size content with
  | case1 content hcontent ih =>
    have hall : content.toList.take content.size = content.toList := by
      rw [toList_eq_data]
      exact List.take_length
    refine ⟨?_, ?_, ?_⟩
    · rw [List.flatMap_cons, ih.whole, toList_extract, toList_extract, hall, List.drop_zero,
        List.take_append_drop]
    · refine List.forall_mem_cons.2 ⟨?_, ih.bounds⟩
      rw [ByteArray.size_extract]
      omega
    · intro p hp
      by_cases hlast : pieces size (content.extract size content.size) = []
      · rw [hlast] at hp
        cases hp
      · -- something is left, so the piece before it has all its bytes
        rw [List.dropLast_cons_of_ne_nil hlast] at hp
        rw [pieces_eq_nil_iff hsize, ByteArray.size_extract] at hlast
        rcases List.mem_cons.1 hp with rfl | hp
        · rw [ByteArray.size_extract]
          omega
        · exact ih.full p hp
  | case2 content hcontent =>
    obtain rfl : content = .empty := ByteArray.size_eq_zero_iff.1 (by omega)
    exact ⟨by simp, nofun, nofun⟩

theorem ofPieces_eq_ofBytes (content : ByteArray) : ofPieces content = ofBytes content :=
  (cuts_pieces (by decide) content).fingerprint

/-- Two contents that do not collide. -/
theorem ofPieces_one_ne_zero : ofPieces ⟨#[1]⟩ ≠ ofPieces ⟨#[0]⟩ := by
  decide +kernel

/-! ### Reading -/

/-- From a position on, the next `size` bytes are asked for until none come;
`last` is the position then. -/
inductive Reads (size : Nat) (content : ByteArray) : Nat → List ByteArray → Nat → Prop
  | stop {pos : Nat} : content.extract pos (pos + size) = .empty → Reads size content pos [] pos
  | next {pos last : Nat} {ps : List ByteArray} : content.extract pos (pos + size) ≠ .empty →
      Reads size content (pos + (content.extract pos (pos + size)).size) ps last →
      Reads size content pos (content.extract pos (pos + size) :: ps) last

theorem Reads.unique {ps' : List ByteArray} {last' : Nat} (h : Reads size content pos ps last)
    (h' : Reads size content pos ps' last') : ps = ps' ∧ last = last' := by
  induction h generalizing ps' last' with
  | stop hempty =>
    cases h' with
    | stop => exact ⟨rfl, rfl⟩
    | next hne => exact absurd hempty hne
  | next hne _ ih =>
    cases h' with
    | stop hempty => exact absurd hempty hne
    | next _ h' =>
      obtain ⟨rfl, rfl⟩ := ih h'
      exact ⟨rfl, rfl⟩

theorem extract_min (content : ByteArray) (i j : Nat) :
    content.extract i (min j content.size) = content.extract i j := by
  have h : (content.extract 0 content.size).extract i j = content.extract i j := by
    rw [ByteArray.extract_zero_size]
  rwa [ByteArray.extract_extract, Nat.zero_add, Nat.zero_add] at h

/-- What is left behind a position is read as it is cut. -/
theorem reads_rest (hsize : 0 < size) (hpos : pos ≤ content.size) :
    Reads size content pos (pieces size (content.extract pos content.size)) content.size := by
  generalize hrest : content.extract pos content.size = rest
  fun_induction pieces size rest generalizing pos with
  | case1 rest hmore ih =>
    subst hrest
    have hpiece : (content.extract pos content.size).extract 0 size =
        content.extract pos (pos + size) := by
      rw [ByteArray.extract_extract, Nat.add_zero, extract_min]
    rw [ByteArray.size_extract] at hmore
    rw [hpiece]
    refine .next ?_ (ih ?_ ?_)
    · rw [Ne, ByteArray.extract_eq_empty_iff]
      omega
    · rw [ByteArray.size_extract]
      omega
    · rw [ByteArray.size_extract, ByteArray.size_extract, ByteArray.extract_extract]
      by_cases hlast : pos + size ≤ content.size
      · congr 1 <;> omega
      · -- the last piece is short: nothing is left, at either position
        rw [ByteArray.extract_eq_empty_iff.2 (by omega), ByteArray.extract_eq_empty_iff.2 (by omega)]
  | case2 rest hnone =>
    subst hrest
    rw [ByteArray.size_extract] at hnone
    obtain rfl : pos = content.size := by omega
    exact .stop (ByteArray.extract_eq_empty_iff.2 (by omega))

/-- A reading comes to its end, which is that of the content, and its pieces
are the cut. -/
theorem reads_iff (hsize : 0 < size) :
    Reads size content 0 ps last ↔ ps = pieces size content ∧ last = content.size := by
  have hstart : 0 ≤ content.size := Nat.zero_le _
  have h := reads_rest hsize hstart
  rw [ByteArray.extract_zero_size] at h
  constructor
  · exact fun h' => h'.unique h
  · rintro ⟨rfl, rfl⟩
    exact h

end ReleaseGate.Digest
