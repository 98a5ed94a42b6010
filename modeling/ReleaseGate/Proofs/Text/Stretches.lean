/-
ReleaseGate/Proofs/Text/Stretches.lean

Where a stretch of a text ends.

A stretch of characters of one kind ends at the first character of another
kind (`span_append`).  Read from the end, that gives what stands behind the last
separator of a text (`behind_last`).
-/
import Mathlib.Data.List.TakeDrop
import Mathlib.Data.List.TakeWhile

namespace ReleaseGate.Text

variable {p : Char → Bool} {sep : Char} {s r before last : List Char}

theorem span_append (hs : ∀ c ∈ s, p c = true) (hr : ∀ c ∈ r.head?, p c = false) :
    (s ++ r).takeWhile p = s ∧ (s ++ r).dropWhile p = r := by
  have hstop : r.takeWhile p = [] ∧ r.dropWhile p = r := by
    cases r with
    | nil => exact ⟨rfl, rfl⟩
    | cons c r => simp [hr c rfl]
  rw [List.takeWhile_append_of_pos hs, List.dropWhile_append_of_pos hs, hstop.1, hstop.2,
    List.append_nil]
  exact ⟨rfl, rfl⟩

/-- What a stretch leaves does not go on with it. -/
theorem head?_dropWhile (p : Char → Bool) (s : List Char) :
    ∀ c ∈ (s.dropWhile p).head?, p c = false := by
  intro c hc
  have hstop := List.head?_dropWhile_not p s
  rw [Option.mem_def.1 hc] at hstop
  exact hstop

/-- What stands behind the last separator, which ends what stands before. -/
theorem behind_last (hbefore : ∀ c ∈ before.getLast?, c = sep) (hlast : sep ∉ last) :
    ((before ++ last).reverse.takeWhile (· ≠ sep)).reverse = last := by
  have hspan := (span_append (p := (· ≠ sep)) (s := last.reverse) (r := before.reverse) ?_ ?_).1
  · rw [List.reverse_append, hspan, List.reverse_reverse]
  · intro c hc
    refine decide_eq_true ?_
    rintro rfl
    exact hlast (List.mem_reverse.1 hc)
  · intro c hc
    rw [List.head?_reverse] at hc
    simpa using hbefore c hc

theorem behind_last_append (hlast : sep ∉ last) :
    ((before ++ sep :: last).reverse.takeWhile (· ≠ sep)).reverse = last := by
  rw [List.append_cons]
  exact behind_last (by simp) hlast

theorem behind_last_of_notMem (h : sep ∉ s) :
    (s.reverse.takeWhile (· ≠ sep)).reverse = s := by
  have hnone : ∀ c ∈ ([] : List Char).getLast?, c = sep := nofun
  exact behind_last hnone h

/-- There is one last separator. -/
theorem append_cons_inj {before' last' : List Char} (hlast : sep ∉ last) (hlast' : sep ∉ last')
    (h : before ++ sep :: last = before' ++ sep :: last') : before = before' ∧ last = last' := by
  obtain rfl : last = last' := by rw [← behind_last_append hlast, h, behind_last_append hlast']
  exact ⟨List.append_cancel_right h, rfl⟩

/-- A text has a last separator, or none. -/
theorem exists_last (sep : Char) (s : List Char) :
    sep ∉ s ∨ ∃ before last, s = before ++ sep :: last ∧ sep ∉ last := by
  by_cases h : sep ∈ s
  · obtain ⟨last, before, hs, hlast⟩ := List.eq_append_cons_of_mem (List.mem_reverse.2 h)
    refine .inr ⟨before.reverse, last.reverse, ?_, by simpa using hlast⟩
    rw [← s.reverse_reverse, hs]
    simp
  · exact .inl h

end ReleaseGate.Text
