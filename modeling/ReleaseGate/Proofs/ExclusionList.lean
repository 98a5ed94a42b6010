/-
ReleaseGate/Proofs/ExclusionList.lean

The laws of reading exclusion lists.

A text is read line by line, so the patterns of two texts, one below the
other, are those of the first and then the new ones of the second
(`lines_append`).  What is read is in a normal form, `Listed`: no pattern
twice, and each one a line of its own that reading does not touch.  Lists in
that form are just those that are read back when they are written one
pattern a line (`listed_iff`).  Which marks end the lines does not matter,
so it does not matter that loading a file makes them all one.

Main results: `listed_iff`, `reading_laws`.
-/
import ReleaseGate.Gate.Run
import ReleaseGate.Proofs.Runs
import ReleaseGate.Proofs.Text.Lines

namespace ReleaseGate

/-! ### Repetitions -/

namespace ExclusionList

variable {patterns : List String} {p : String} {text : List Char}

theorem nodup_eraseDups (l : List String) : l.eraseDups.Nodup := by
  match l with
  | [] => simp
  | a :: l =>
    rw [List.eraseDups_cons, List.nodup_cons]
    exact ⟨by simp, nodup_eraseDups _⟩
termination_by l.length
decreasing_by
  rw [List.length_cons]
  exact Nat.lt_succ_of_le (List.length_filter_le _ l)

theorem eraseDups_eq_self_iff {l : List String} : l.eraseDups = l ↔ l.Nodup := by
  constructor
  · intro h
    rw [← h]
    exact nodup_eraseDups l
  · intro h
    induction l with
    | nil => rfl
    | cons a l ih =>
      obtain ⟨ha, hl⟩ := List.nodup_cons.1 h
      have hkeep : l.filter (fun b => !b == a) = l := by
        rw [List.filter_eq_self]
        intro b hb
        have hne : b ≠ a := fun hba => ha (hba ▸ hb)
        simpa using hne
      rw [List.eraseDups_cons, hkeep, ih hl]

/-- Leaving members out and leaving repetitions out do not get in each
other's way. -/
theorem eraseDups_filter (keep : String → Bool) (l : List String) :
    (l.filter keep).eraseDups = l.eraseDups.filter keep := by
  match l with
  | [] => rfl
  | a :: l =>
    have ih := eraseDups_filter keep (l.filter fun b => !b == a)
    rw [List.eraseDups_cons]
    by_cases ha : keep a = true
    · rw [List.filter_cons_of_pos ha, List.filter_cons_of_pos ha, List.eraseDups_cons, ← ih,
        List.filter_filter, List.filter_filter]
      simp only [Bool.and_comm]
    · rw [List.filter_cons_of_neg ha, List.filter_cons_of_neg ha, ← ih, List.filter_filter]
      -- what is left out already is not equal to a member that stays
      have hdrop : ∀ b, (keep b && !b == a) = keep b := by
        intro b
        by_cases hb : b = a
        · simp [hb, ha]
        · simp [hb]
      simp only [hdrop]
termination_by l.length
decreasing_by
  rw [List.length_cons]
  exact Nat.lt_succ_of_le (List.length_filter_le _ l)

theorem eraseDups_append_eq (l₁ l₂ : List String) :
    (l₁ ++ l₂).eraseDups = l₁.eraseDups ++ l₂.eraseDups.filter (· ∉ l₁.eraseDups) := by
  rw [List.eraseDups_append, List.removeAll, eraseDups_filter]
  congr 2
  funext b
  simp

/-! ### Lines with patterns -/

/-- The patterns in the lines of a text, one for each line that is one. -/
def lines (text : List Char) : List String := (patternLines text).map String.ofList

theorem parse_ofList (text : List Char) : parse (String.ofList text) = of (lines text) := by
  rw [parse, String.toList_ofList]
  rfl

/-- A text gives one list, whichever marks end its lines. -/
theorem parse_unifyLineEnds (text : List Char) :
    parse (String.ofList (Text.unifyLineEnds text)) = of (lines text) := by
  rw [parse, String.toList_ofList, patternLines, Text.splitLines_unifyLineEnds]
  rfl

theorem eq_of_patterns {l l' : ExclusionList} (h : l.patterns = l'.patterns) : l = l' := by
  obtain ⟨patterns⟩ := l
  obtain rfl : patterns = l'.patterns := h
  rfl

theorem mem_patterns_of {lines : List String} : p ∈ (of lines).patterns ↔ p ∈ lines :=
  List.mem_eraseDups

theorem bare_of_mem_lines (h : p ∈ lines text) : p ≠ "" ∧ Text.strip p.toList = p.toList := by
  obtain ⟨line, hline, rfl⟩ := List.mem_map.1 h
  obtain ⟨hstripped, hpattern⟩ := List.mem_filter.1 hline
  obtain ⟨whole, -, rfl⟩ := List.mem_map.1 hstripped
  rw [String.toList_ofList]
  refine ⟨fun hnil => ?_, Text.strip_strip whole⟩
  rw [String.ofList_eq_empty_iff.1 hnil] at hpattern
  cases hpattern

theorem isEmpty_of (lines : List String) : (of lines).isEmpty = lines.isEmpty := by
  cases lines with
  | nil => rfl
  | cons p lines =>
    show (p :: lines).eraseDups.isEmpty = false
    rw [List.eraseDups_cons]
    rfl

/-- Below a line feed the patterns go on. -/
theorem lines_append (a b : List Char) : lines (a ++ '\n' :: b) = lines a ++ lines b := by
  obtain ⟨empty, hempty, h⟩ := Text.splitLines_append_lineFeed a b
  have hnone : (empty.map Text.strip).filter isPattern = [] := by
    rw [List.filter_eq_nil_iff, List.forall_mem_map]
    intro line hline
    rw [hempty line hline]
    exact Bool.false_ne_true
  simp only [lines, patternLines, h, List.map_append, List.filter_append, hnone, List.append_nil]

/-! ### The normal form -/

/-- Patterns as reading leaves them: no two are equal, and each is a line
that counts, with nothing around it. -/
structure Listed (patterns : List String) : Prop where
  nodup : patterns.Nodup
  ne_empty : ∀ p ∈ patterns, p ≠ ""
  stripped : ∀ p ∈ patterns, Text.stripped p = p
  one_line : ∀ p ∈ patterns, ∀ c ∈ p.toList, Text.isLineEnd c = false
  not_note : ∀ p ∈ patterns, p.toList.head? ≠ some '#'

/-- What is read is in normal form. -/
theorem listed_parse (text : String) : Listed (parse text).patterns := by
  have hlines : ∀ p ∈ (parse text).patterns, p ∈ lines text.toList := fun p hp =>
    mem_patterns_of.1 hp
  refine ⟨nodup_eraseDups _, fun p hp => ?_, fun p hp => ?_, fun p hp => ?_, fun p hp => ?_⟩
  · exact (bare_of_mem_lines (hlines p hp)).1
  · rw [Text.stripped, (bare_of_mem_lines (hlines p hp)).2, String.ofList_toList]
  · obtain ⟨line, hline, rfl⟩ := List.mem_map.1 (hlines p hp)
    obtain ⟨whole, hwhole, rfl⟩ := List.mem_map.1 (List.mem_filter.1 hline).1
    intro c hc
    rw [String.toList_ofList] at hc
    exact Text.not_isLineEnd_of_mem_splitLines hwhole c ((Text.strip_infix whole).mem hc)
  · obtain ⟨line, hline, rfl⟩ := List.mem_map.1 (hlines p hp)
    have hpattern := (List.mem_filter.1 hline).2
    rw [String.toList_ofList]
    cases line with
    | nil => nofun
    | cons c line => simpa [isPattern] using hpattern

/-- Patterns written one a line. -/
def written (patterns : List String) : String := "\n".intercalate patterns

/-- The lines of a list in normal form are its patterns. -/
theorem Listed.lines_written (h : Listed patterns) : lines (written patterns).toList = patterns := by
  have hmark : "\n".toList = ['\n'] := rfl
  have hsplit : Text.splitLines (written patterns).toList = patterns.map String.toList := by
    rw [written, String.toList_intercalate, hmark, Text.splitLines_intercalate]
    · rw [List.forall_mem_map]
      intro p hp hnil
      exact h.ne_empty p hp (String.toList_eq_nil_iff.1 hnil)
    · rw [List.forall_mem_map]
      exact h.one_line
  have hstrip : (patterns.map String.toList).map Text.strip = patterns.map String.toList := by
    rw [List.map_map]
    refine List.map_congr_left fun p hp => ?_
    have hp := congrArg String.toList (h.stripped p hp)
    rwa [Text.stripped, String.toList_ofList] at hp
  have hkeep : (patterns.map String.toList).filter isPattern = patterns.map String.toList := by
    rw [List.filter_eq_self, List.forall_mem_map]
    intro p hp
    have hnote := h.not_note p hp
    rcases hchars : p.toList with - | ⟨c, rest⟩
    · exact absurd (String.toList_eq_nil_iff.1 hchars) (h.ne_empty p hp)
    · rw [hchars] at hnote
      simpa [isPattern] using hnote
  rw [lines, patternLines, hsplit, hstrip, hkeep]
  simp [Function.comp_def]

/-- **The normal form** is what is read back. -/
theorem listed_iff : Listed patterns ↔ (parse (written patterns)).patterns = patterns := by
  constructor
  · intro h
    show (lines (written patterns).toList).eraseDups = patterns
    rw [h.lines_written]
    exact eraseDups_eq_self_iff.2 h.nodup
  · intro h
    rw [← h]
    exact listed_parse _

end ExclusionList

/-! ### Files -/

open ReleaseGate.Action in
/-- Loading an exclusion file is reading its text as it stands. -/
theorem Gate.on_loadExclusions (host : Host) (path : Path) (m : Machine) :
    (loadExclusions host (some path)).on m = ((do
      let content ← (m.files.read host.here path.text).mapError .file
      let text ← (Text.Utf8.decode content.toList).mapError .utf8
      return ExclusionList.parse (String.ofList text)), m) := by
  rw [loadExclusions, loadText, bind_assoc, on_bind, on_load]
  rcases m.files.read host.here path.text with e | content
  · rfl
  show on (orFail .utf8 (Text.Utf8.decode content.toList) >>= _ >>= _) m = _
  rw [bind_assoc, on_orFail_bind]
  rcases hdecode : Text.Utf8.decode content.toList with e | text
  · simp only [Except.mapError, bind, Except.bind, hdecode]
  · simp only [Except.mapError, bind, Except.bind, hdecode]
    show (Except.ok (ExclusionList.parse (String.ofList (Text.unifyLineEnds text))), m) = _
    rw [ExclusionList.parse_unifyLineEnds, ← ExclusionList.parse_ofList]
    rfl

namespace ExclusionList

/-- **The laws of reading.**  Two texts one below the other give the patterns
of the first and then the new ones of the second.  Reading what was read
changes nothing, for it gives lists in normal form, and those are the lists
that are read back.  The marks that end the lines do not matter, and a file
is read as its text. -/
theorem reading_laws (a b : String) :
    (parse (a ++ "\n" ++ b)).patterns =
      (parse a).patterns ++ (parse b).patterns.filter (· ∉ (parse a).patterns) ∧
    parse (written (parse a).patterns) = parse a ∧
    Listed (parse a).patterns ∧
    (∀ patterns, Listed patterns ↔ (parse (written patterns)).patterns = patterns) ∧
    parse (String.ofList (Text.unifyLineEnds a.toList)) = parse a ∧
    ∀ (host : Host) (path : Path) (m : Machine),
      (Gate.loadExclusions host (some path)).on m = ((do
        let content ← (m.files.read host.here path.text).mapError .file
        let text ← (Text.Utf8.decode content.toList).mapError .utf8
        return parse (String.ofList text)), m) := by
  refine ⟨?_, ?_, listed_parse a, fun _ => listed_iff, parse_unifyLineEnds _,
    Gate.on_loadExclusions⟩
  · have hchars : (a ++ "\n" ++ b).toList = a.toList ++ '\n' :: b.toList := by simp
    show (lines (a ++ "\n" ++ b).toList).eraseDups = _
    rw [hchars, lines_append]
    exact eraseDups_append_eq _ _
  · exact eq_of_patterns (listed_iff.1 (listed_parse a))

example : (parse "a.B \r\n# note\n\n c.D\u2028a.B").patterns = ["a.B", "c.D"] := by decide

end ExclusionList

end ReleaseGate
