/-
ReleaseGate/Text/Split.lean

Cutting a text at a separator, and putting the pieces together again.

`join_split` says that nothing is lost, and `sep_notMem_of_mem_split` that
no piece holds the separator.
-/

namespace ReleaseGate.Text

/-- The pieces of a text between the occurrences of `sep`; there is always
one more piece than separators. -/
def split (sep : Char) : List Char → List (List Char)
  | [] => [[]]
  | c :: rest =>
    if c = sep then [] :: split sep rest
    else
      match split sep rest with
      | [] => [[c]]
      | piece :: pieces => (c :: piece) :: pieces

/-- The pieces with `sep` between them. -/
def join (sep : Char) : List (List Char) → List Char
  | [] => []
  | [piece] => piece
  | piece :: pieces => piece ++ sep :: join sep pieces

theorem split_ne_nil (sep : Char) (s : List Char) : split sep s ≠ [] := by
  cases s with
  | nil => simp [split]
  | cons c rest =>
    unfold split
    split
    · simp
    · split <;> simp

theorem join_split (sep : Char) (s : List Char) : join sep (split sep s) = s := by
  induction s with
  | nil => rfl
  | cons c rest ih =>
    unfold split
    by_cases hc : c = sep
    · rw [if_pos hc]
      match h : split sep rest, split_ne_nil sep rest with
      | piece :: pieces, _ =>
        rw [h] at ih
        rw [join, ih, hc]
        · rfl
        · simp
    · rw [if_neg hc]
      match h : split sep rest, split_ne_nil sep rest with
      | [piece], _ =>
        rw [h] at ih
        simpa [join] using ih
      | piece :: next :: pieces, _ =>
        rw [h] at ih
        simpa [join] using ih

theorem sep_notMem_of_mem_split {sep : Char} {s piece : List Char} (h : piece ∈ split sep s) :
    sep ∉ piece := by
  induction s generalizing piece with
  | nil => simp [split] at h; simp [h]
  | cons c rest ih =>
    unfold split at h
    by_cases hc : c = sep
    · rw [if_pos hc] at h
      rcases List.mem_cons.1 h with rfl | h
      · simp
      · exact ih h
    · rw [if_neg hc] at h
      match hs : split sep rest, split_ne_nil sep rest with
      | first :: others, _ =>
        rw [hs] at h ih
        rcases List.mem_cons.1 h with rfl | h
        · intro hm
          rcases List.mem_cons.1 hm with hm | hm
          · exact hc hm.symm
          · exact ih (List.mem_cons_self ..) hm
        · exact ih (List.mem_cons_of_mem _ h)

end ReleaseGate.Text
