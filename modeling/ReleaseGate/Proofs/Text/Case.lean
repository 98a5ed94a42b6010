/-
ReleaseGate/Proofs/Text/Case.lean

Points in a text in small letters.

A letter may have a small form of several characters, and letters of all
scripts have one; so a text in small letters does not tell what it was made
from.  Its points do: nothing but a point is a point in small letters
(`point_mem_lowerChar`).

Main result: `lower_eq_point_cons`.
-/
import ReleaseGate.Text.Case

namespace ReleaseGate.Text

variable {c : Char} {x y : List Char}

/-- All small letters of the table come after the point. -/
theorem lt_of_image? {run : CaseRun} {n k : Nat} (hrun : run ∈ smallRuns)
    (h : run.image? n = some k) : '.'.toNat < k := by
  have htable : ∀ run ∈ smallRuns, ('.'.toNat : Int) < run.1 + run.2.2.2 := by decide +kernel
  have hstart := htable run hrun
  obtain ⟨first, count, step, distance⟩ := run
  unfold CaseRun.image? at h
  simp only at h hstart
  split at h
  · next hin =>
    obtain ⟨⟨hfirst, -⟩, -⟩ := by simpa using hin
    obtain rfl := Option.some.inj h
    omega
  · cases h

theorem ofNat_ne_point {k : Nat} (hk : '.'.toNat < k) : Char.ofNat k ≠ '.' := by
  intro h
  by_cases hvalid : k.isValidChar
  · have hchar : Char.ofNat k = Char.ofNatAux k hvalid := dif_pos hvalid
    have hval : k = '.'.toNat := congrArg Char.toNat (hchar.symm.trans h)
    exact Nat.ne_of_gt hk hval
  · have hzero : Char.ofNat k = '\x00' := dif_neg hvalid
    exact absurd (hzero.symm.trans h) (by decide)

/-- Nothing but a point is a point in small letters. -/
theorem point_mem_lowerChar : '.' ∈ lowerChar c ↔ c = '.' := by
  constructor
  · intro h
    -- a letter of ASCII, the one whose small form is long, or one of the table
    unfold lowerChar at h
    split at h
    · next hascii =>
      have hall : ∀ n, n < 128 → (Char.ofNat n).toLower = '.' → Char.ofNat n = '.' := by decide
      have hpoint := hall c.toNat hascii
      rw [Char.ofNat_toNat] at hpoint
      exact hpoint (List.mem_singleton.1 h).symm
    · next hascii =>
      split at h
      · exact absurd h (by decide)
      · rcases hrun : smallRuns.findSome? (·.image? c.toNat) with - | k <;> rw [hrun] at h
        · exact (List.mem_singleton.1 h).symm
        · obtain ⟨run, hmem, himage⟩ := List.exists_of_findSome?_eq_some hrun
          exact absurd (List.mem_singleton.1 h).symm (ofNat_ne_point (lt_of_image? hmem himage))
  · rintro rfl
    decide

theorem lowerChar_ne_nil (c : Char) : lowerChar c ≠ [] := by
  unfold lowerChar
  split
  · simp
  · split <;> simp

theorem point_mem_lower : '.' ∈ lower x ↔ '.' ∈ x := by
  simp [lower, point_mem_lowerChar]

/-- A text that starts with its only point in small letters does so itself. -/
theorem lower_eq_point_cons (h : lower x = '.' :: y) (hy : '.' ∉ y) :
    ∃ tail, x = '.' :: tail ∧ '.' ∉ tail := by
  cases x with
  | nil => cases h
  | cons c tail =>
    obtain ⟨first, others, hfirst⟩ := List.exists_cons_of_ne_nil (lowerChar_ne_nil c)
    have hwhole : lowerChar c ++ lower tail = '.' :: y := h
    have hpoint : '.' ∈ lowerChar c := by
      rw [hfirst, List.cons_append] at hwhole
      rw [hfirst, (List.cons.inj hwhole).1]
      exact List.mem_cons_self
    obtain rfl := point_mem_lowerChar.1 hpoint
    have htail : lower tail = y := (List.cons.inj hwhole).2
    exact ⟨tail, rfl, fun hin => hy (htail ▸ point_mem_lower.2 hin)⟩

end ReleaseGate.Text
