/-
ReleaseGate/Proofs/Text/Lines.lean

Lines of a text, and the blanks around them.

Cutting a text into lines loses no more than the marks between them: a line
feed always cuts (`splitLines_append_lineFeed`), even behind a carriage
return, which then ends the same line.  So lines that hold no mark come back
from a text in which they stand one below the other, unless they are empty
(`splitLines_intercalate`).

Main results: `splitLines_append_lineFeed`, `splitLines_intercalate`,
`splitLines_unifyLineEnds`.
-/
import Mathlib.Data.List.DropRight
import ReleaseGate.Text.Blank
import ReleaseGate.Text.Lines

namespace ReleaseGate.Text

variable {s r line : List Char} {lines : List (List Char)}

/-! ### Blanks -/

/-- What is cut at both ends is a part of the text. -/
theorem strip_infix (s : List Char) : strip s <:+: s :=
  (List.rdropWhile_prefix isBlank _).isInfix.trans (List.dropWhile_suffix isBlank).isInfix

/-- Without blanks there is nothing to cut. -/
theorem strip_eq_self (h : ∀ c ∈ s, isBlank c = false) : strip s = s := by
  have hstart : s.dropWhile isBlank = s := by
    rw [List.dropWhile_eq_self_iff]
    intro hlength
    rw [h _ (List.getElem_mem hlength)]
    exact Bool.false_ne_true
  rw [strip, hstart]
  refine List.rdropWhile_eq_self_iff.2 fun hne => ?_
  rw [h _ (List.getLast_mem hne)]
  exact Bool.false_ne_true

/-- What was cut at both ends has nothing to cut. -/
theorem strip_strip (s : List Char) : strip (strip s) = strip s := by
  have hstart : (strip s).dropWhile isBlank = strip s := by
    rw [List.dropWhile_eq_self_iff]
    intro hlength
    have hprefix : strip s <+: s.dropWhile isBlank := List.rdropWhile_prefix _ _
    have hlength' := Nat.lt_of_lt_of_le hlength hprefix.length_le
    rw [List.IsPrefix.getElem hprefix hlength]
    exact List.dropWhile_get_zero_not isBlank s hlength'
  rw [strip, hstart]
  exact List.rdropWhile_idempotent isBlank (s.dropWhile isBlank)

/-! ### Cutting -/

@[simp] theorem splitLines_lineFeed (s : List Char) : splitLines ('\n' :: s) = [] :: splitLines s := by
  simp [splitLines, isLineEnd]

/-- What is no mark belongs to the first line. -/
theorem splitLines_cons {c : Char} (hc : isLineEnd c = false) (s : List Char) :
    splitLines (c :: s) = match splitLines s with
      | [] => [[c]]
      | line :: lines => (c :: line) :: lines := by
  have hreturn : c ≠ '\r' := by
    rintro rfl
    cases hc
  rw [splitLines, hc]
  · rfl
  · exact fun _ h _ => hreturn h

/-- A mark ends an empty line, if it is not the first half of one. -/
theorem splitLines_mark {c : Char} (hc : isLineEnd c = true)
    (hpair : ∀ rest, c = '\r' → s ≠ '\n' :: rest) : splitLines (c :: s) = [] :: splitLines s := by
  rw [splitLines, if_pos hc]
  exact hpair

theorem splitLines_ne_nil (hne : s ≠ []) : splitLines s ≠ [] := by
  fun_cases splitLines s with
  | case1 => exact absurd rfl hne
  | case2 | case3 | case4 | case5 => exact List.cons_ne_nil _ _

/-- **A line feed cuts.**  The lines of a text that goes on below a line feed
are those of both parts, with an empty one between them at most. -/
theorem splitLines_append_lineFeed (s r : List Char) :
    ∃ empty, (∀ line ∈ empty, line = []) ∧
      splitLines (s ++ '\n' :: r) = splitLines s ++ empty ++ splitLines r := by
  fun_induction splitLines s with
  | case1 => exact ⟨[[]], by simp, by simp⟩
  | case2 rest ih =>
    obtain ⟨empty, hempty, h⟩ := ih
    refine ⟨empty, hempty, ?_⟩
    show [] :: splitLines (rest ++ '\n' :: r) = _
    rw [h]
    rfl
  | case3 c rest hpair hc ih =>
    -- a carriage return at the very end goes together with the line feed
    by_cases hlast : c = '\r' ∧ rest = []
    · obtain ⟨rfl, rfl⟩ := hlast
      exact ⟨[], by simp, rfl⟩
    · obtain ⟨empty, hempty, h⟩ := ih
      refine ⟨empty, hempty, ?_⟩
      rw [List.cons_append, splitLines_mark hc, h]
      · rfl
      · rintro more rfl hmore
        cases rest with
        | nil => exact hlast ⟨rfl, rfl⟩
        | cons d rest =>
          obtain ⟨rfl, -⟩ := List.cons.inj hmore
          exact hpair rest rfl rfl
  | case4 c rest hpair hc hnil ih =>
    have hrest : rest = [] := by
      by_contra hne
      exact splitLines_ne_nil hne hnil
    subst hrest
    refine ⟨[], nofun, ?_⟩
    show splitLines (c :: '\n' :: r) = _
    rw [splitLines_cons (by simpa using hc), splitLines_lineFeed]
    rfl
  | case5 c rest hpair hc line lines hlines ih =>
    obtain ⟨empty, hempty, h⟩ := ih
    refine ⟨empty, hempty, ?_⟩
    rw [List.cons_append, splitLines_cons (by simpa using hc), h, hlines]
    rfl

/-- No line holds a mark. -/
theorem not_isLineEnd_of_mem_splitLines (h : line ∈ splitLines s) :
    ∀ c ∈ line, isLineEnd c = false := by
  fun_induction splitLines s generalizing line with
  | case1 => cases h
  | case2 rest ih =>
    rcases List.mem_cons.1 h with rfl | h
    · nofun
    · exact ih h
  | case3 c rest _ _ ih =>
    rcases List.mem_cons.1 h with rfl | h
    · nofun
    · exact ih h
  | case4 c rest _ hc _ _ =>
    obtain rfl := List.mem_singleton.1 h
    simpa using hc
  | case5 c rest _ hc line lines hlines ih =>
    rw [hlines] at ih
    rcases List.mem_cons.1 h with rfl | h
    · rintro d hd
      rcases List.mem_cons.1 hd with rfl | hd
      · simpa using hc
      · exact ih List.mem_cons_self d hd
    · exact ih (List.mem_cons_of_mem _ h)

/-! ### Lines put together -/

/-- A line that holds no mark is cut off before a line feed. -/
theorem splitLines_line_append (h : ∀ c ∈ line, isLineEnd c = false) (s : List Char) :
    splitLines (line ++ '\n' :: s) = line :: splitLines s := by
  induction line with
  | nil => exact splitLines_lineFeed s
  | cons c line ih =>
    obtain ⟨hc, hline⟩ := List.forall_mem_cons.1 h
    rw [List.cons_append, splitLines_cons hc, ih hline]

/-- A line that holds no mark is the only line of its text. -/
theorem splitLines_line (hne : line ≠ []) (h : ∀ c ∈ line, isLineEnd c = false) :
    splitLines line = [line] := by
  induction line with
  | nil => exact absurd rfl hne
  | cons c line ih =>
    obtain ⟨hc, hline⟩ := List.forall_mem_cons.1 h
    rw [splitLines_cons hc]
    cases line with
    | nil => rfl
    | cons d line => rw [ih (List.cons_ne_nil d line) hline]

/-- **Lines come back** from the text that they make. -/
theorem splitLines_intercalate (hne : ∀ line ∈ lines, line ≠ [])
    (h : ∀ line ∈ lines, ∀ c ∈ line, isLineEnd c = false) :
    splitLines (['\n'].intercalate lines) = lines := by
  induction lines with
  | nil => rfl
  | cons line lines ih =>
    obtain ⟨hline, hlines⟩ := List.forall_mem_cons.1 h
    obtain ⟨hlineNe, hlinesNe⟩ := List.forall_mem_cons.1 hne
    cases lines with
    | nil => rw [List.intercalate_singleton, splitLines_line hlineNe hline]
    | cons next lines =>
      rw [List.intercalate_cons_cons, List.append_assoc, List.singleton_append,
        splitLines_line_append hline, ih hlinesNe hlines]

/-! ### Other marks -/

/-- Lines are the same whichever marks end them. -/
theorem splitLines_unifyLineEnds (s : List Char) :
    splitLines (unifyLineEnds s) = splitLines s := by
  fun_induction unifyLineEnds s with
  | case1 => rfl
  | case2 rest ih => simp [splitLines, ih]
  | case3 c rest hpair ih =>
    by_cases hc : c = '\r'
    · rw [if_pos hc, splitLines, splitLines, ih]
      · simp [hc, isLineEnd]
      · exact hpair
      · simp
    · rw [if_neg hc, splitLines, splitLines, ih]
      · exact fun _ h _ => hc h
      · exact fun _ h _ => hc h

end ReleaseGate.Text
