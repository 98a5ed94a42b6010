/-
ReleaseGate/Proofs/Report/Printed.lean

What a reader finds in a report.

Both reports end with the required bump and with the version that shows it.
A reader of the plain text looks for the last line with a given label; a
reader of the page looks for the last element of a given kind.  Either finds
what was printed there, whatever stands in the comparison: names and
versions with line ends or tags in them cannot stand behind the end of a
report, and nothing that looks like a label is printed after the labels.

Design.  A text is cut at the character that starts a new piece, and the
last piece with the label counts (`Text.lastBehind?`).  So it is enough to
know the last pieces of a report.

Main results: `TextReport.printedBump_render`, `Page.printedBump_render` and
the same of the version.
-/
import ReleaseGate.Proofs.Path
import ReleaseGate.Report.Page
import ReleaseGate.Report.Text

namespace ReleaseGate

/-! ### Labels -/

namespace Text

variable {sep : Char} {label : List Char} {later pieces : List (List Char)}

/-- What stands behind a label at the start of a text. -/
def behind? (label s : List Char) : Option (List Char) :=
  if label.isPrefixOf s then some (s.drop label.length) else none

/-- What stands behind a label in the last piece that starts with it. -/
def lastBehind? (label : List Char) (pieces : List (List Char)) : Option (List Char) :=
  pieces.reverse.findSome? (behind? label)

theorem behind?_append (label s : List Char) : behind? label (label ++ s) = some s := by
  rw [behind?, if_pos (List.isPrefixOf_iff_prefix.2 (List.prefix_append _ _)), List.drop_left]

theorem lastBehind?_eq (early : List (List Char)) (s : List Char)
    (h : ∀ piece ∈ later, behind? label piece = none) :
    lastBehind? label (early ++ (label ++ s) :: later) = some s := by
  have hlater : later.reverse.findSome? (behind? label) = none :=
    List.findSome?_eq_none_iff.2 fun piece hp => h piece (List.mem_reverse.1 hp)
  rw [lastBehind?, List.reverse_append, List.reverse_cons, List.append_assoc,
    List.findSome?_append, hlater, Option.none_or, List.singleton_append, List.findSome?_cons,
    behind?_append]

/-- What a text has behind a label in the last piece that starts with it.  A
piece starts behind each separator. -/
def printed? (sep : Char) (label text : String) : Option String :=
  (lastBehind? label.toList (split sep text.toList)).map String.ofList

theorem printed?_eq {label text value : String} {early : List (List Char)}
    (hsplit : split sep text.toList = early ++ (label ++ value).toList :: later)
    (hlater : ∀ piece ∈ later, behind? label.toList piece = none) :
    printed? sep label text = some value := by
  rw [printed?, hsplit, String.toList_append, lastBehind?_eq early _ hlater, Option.map_some,
    String.ofList_toList]

/-- A text that ends in pieces without the separator is cut into them there. -/
theorem split_append_join (early : List Char) (hne : pieces ≠ [])
    (h : ∀ piece ∈ pieces, sep ∉ piece) :
    split sep (early ++ sep :: join sep pieces) = split sep early ++ pieces := by
  rw [split_append, split_join hne h]

end Text

open Text

/-! ### The required bump as a version -/

namespace Bump

/-- The versions that are suggested, by the bump that is required. -/
def suggestions : List (Bump × Version) :=
  [(patch, ⟨0, 0, 1, Option.none⟩), (minor, ⟨0, 1, 0, Option.none⟩),
    (major, ⟨1, 0, 0, Option.none⟩)]

/-- Any bump but none has a suggestion. -/
theorem lookup_suggestions {b : Bump} (h : b ≠ none) :
    suggestions.lookup b = some b.suggested := by
  cases b with
  | none => exact absurd rfl h
  | _ => rfl

/-- The suggested version is a step of just that size. -/
theorem bumpTo_suggested {b : Bump} (h : b ≠ none) :
    (⟨0, 0, 0, Option.none⟩ : Version).bumpTo b.suggested = .ok b := by
  cases b with
  | none => exact absurd rfl h
  | _ => rfl

/-- The version that is printed can be read. -/
theorem parse_suggested (b : Bump) :
    (Version.parse b.suggested.text).toOption = some b.suggested := by
  cases b <;> decide +kernel

end Bump

/-! ### The plain text -/

namespace TextReport

/-- The required bump on the last line about it. -/
def printedBump? (report : String) : Option Bump :=
  (printed? '\n' "Required version change: " report).bind Bump.ofName?

/-- The suggested version on the last line about it. -/
def printedVersion? (report : String) : Option Version :=
  (printed? '\n' "Suggested semantic version increment: " report).bind
    fun s => (Version.parse s).toOption

/-- A report ends with the line of the bump, that of the version and a line
end. -/
theorem split_render (c : Comparison) : ∃ early,
    split '\n' (render c).toList =
      early ++ [("Required version change: " ++ c.model.requiredBump.name).toList,
        ("Suggested semantic version increment: " ++ c.model.suggestedVersion.text).toList, []] := by
  have hchars : (render c).toList =
      ((head c ++ body c).flatMap fun line => line.toList ++ ['\n']) ++ '\n' :: join '\n'
        [("Required version change: " ++ c.model.requiredBump.name).toList,
          ("Suggested semantic version increment: " ++ c.model.suggestedVersion.text).toList,
          []] := by
    simp [render, lines, foot, String.toList_join, List.flatMap_map, join]
  have hlines : ∀ b : Bump, '\n' ∉ ("Required version change: " ++ b.name).toList ∧
      '\n' ∉ ("Suggested semantic version increment: " ++ b.suggested.text).toList := by
    intro b
    cases b <;> decide +kernel
  refine ⟨_, hchars ▸ split_append_join _ (List.cons_ne_nil _ _) ?_⟩
  intro line hline
  obtain ⟨hbump, hversion⟩ := hlines c.model.requiredBump
  simp only [List.mem_cons, List.not_mem_nil, or_false] at hline
  rcases hline with rfl | rfl | rfl
  · exact hbump
  · exact hversion
  · exact List.not_mem_nil

/-- **The required bump** is what a reader finds in the plain text. -/
theorem printedBump_render (c : Comparison) :
    printedBump? (render c) = some c.model.requiredBump := by
  obtain ⟨early, hsplit⟩ := split_render c
  rw [printedBump?, printed?_eq hsplit, Option.bind_some, Bump.ofName?_name]
  -- the line of the version has another label, and the line end has none
  simp only [List.forall_mem_cons, List.not_mem_nil, false_implies, implies_true, and_true,
    String.toList_append]
  exact ⟨rfl, rfl⟩

/-- **The suggested version** is what a reader finds in the plain text. -/
theorem printedVersion_render (c : Comparison) :
    printedVersion? (render c) = some c.model.suggestedVersion := by
  obtain ⟨early, hsplit⟩ := split_render c
  rw [List.append_cons] at hsplit
  rw [printedVersion?, printed?_eq hsplit, Option.bind_some, ChangeModel.suggestedVersion,
    Bump.parse_suggested]
  simp only [List.forall_mem_cons, List.not_mem_nil, false_implies, implies_true, and_true]
  rfl

end TextReport

/-! ### The page -/

namespace Page

/-- The required bump in the last strong text. -/
def printedBump? (page : String) : Option Bump := (printed? '<' "strong>" page).bind Bump.ofName?

/-- The suggested version in the last code. -/
def printedVersion? (page : String) : Option Version :=
  (printed? '<' "code>" page).bind fun s => (Version.parse s).toOption

/-- No text starts an element. -/
theorem notMem_escape (s : List Char) : '<' ∉ escape s := by
  intro h
  obtain ⟨c, -, hc⟩ := List.mem_flatMap.1 h
  unfold escapeChar at hc
  split at hc
  · exact absurd hc (by decide)
  · exact absurd hc (by decide)
  · exact absurd hc (by decide)
  · exact absurd hc (by decide)
  · exact absurd hc (by decide)
  · next hother _ _ _ =>
    obtain rfl := List.mem_singleton.1 hc
    exact hother rfl

/-- What a page has behind the bump and before the version. -/
def between : List Char := "/strong>.\n     Suggested semantic version increment: ".toList

/-- What a page has behind the version. -/
def ending (now : String) : List (List Char) :=
  ["/code>.".toList, "/p>\n  ".toList, "footer>".toList,
    "small>".toList ++ escape ("Generated " ++ now).toList, "/small>".toList, "/footer>\n".toList,
    "/body>\n".toList, "/html>".toList]

/-- The end of a page, as it is written. -/
theorem chars_closing (c : Comparison) (now : String) :
    (closing c now).flatMap Piece.chars = "\n  ".toList ++ '<' :: join '<'
      ("p>Required version change: ".toList :: ("strong>" ++ c.model.requiredBump.name).toList ::
        between :: ("code>" ++ c.model.suggestedVersion.text).toList :: ending now) := by
  have hbump : ∀ b : Bump, escape b.name.toList = b.name.toList ∧
      escape b.suggested.text.toList = b.suggested.text.toList := by
    intro b
    cases b <;> decide +kernel
  obtain ⟨hname, hversion⟩ := hbump c.model.requiredBump
  rw [String.toList_append, String.toList_append]
  simp only [closing, List.flatMap_cons, List.flatMap_nil, Piece.chars, hname,
    ChangeModel.suggestedVersion, hversion]
  rfl

/-- A page ends with the strong text of the bump, the code of the version and
the time of writing. -/
theorem split_render (c : Comparison) (now : String) : ∃ early,
    split '<' (render c now).toList =
      early ++ ("strong>" ++ c.model.requiredBump.name).toList :: between ::
        ("code>" ++ c.model.suggestedVersion.text).toList :: ending now := by
  have hvalues : ∀ b : Bump, '<' ∉ ("strong>" ++ b.name).toList ∧
      '<' ∉ ("code>" ++ b.suggested.text).toList := by
    intro b
    cases b <;> decide +kernel
  obtain ⟨hname, hversion⟩ := hvalues c.model.requiredBump
  have hending : ∀ piece ∈ ending now, '<' ∉ piece := by
    simp only [ending, List.forall_mem_cons, List.not_mem_nil, false_implies, implies_true,
      and_true, List.mem_append, not_or]
    refine ⟨?_, ?_, ?_, ⟨?_, notMem_escape _⟩, ?_, ?_, ?_, ?_⟩ <;> decide
  rw [render, write, String.toList_ofList, pieces, List.flatMap_append, chars_closing,
    ← List.append_assoc, split_append_join _ (List.cons_ne_nil _ _), List.append_cons]
  · exact ⟨_, rfl⟩
  · simp only [List.forall_mem_cons]
    exact ⟨by decide, hname, by decide, hversion, hending⟩

/-- Behind the version there is no strong text and no code. -/
theorem behind?_ending (now : String) {label : String} (h : label = "strong>" ∨ label = "code>") :
    ∀ piece ∈ ending now, behind? label.toList piece = none := by
  simp only [ending, List.forall_mem_cons, List.not_mem_nil, false_implies, implies_true,
    and_true]
  rcases h with rfl | rfl <;> refine ⟨?_, ?_, ?_, ?_, ?_, ?_, ?_, ?_⟩ <;> rfl

/-- **The required bump** is what a reader finds on the page. -/
theorem printedBump_render (c : Comparison) (now : String) :
    printedBump? (render c now) = some c.model.requiredBump := by
  obtain ⟨early, hsplit⟩ := split_render c now
  have hcode : behind? "strong>".toList ("code>" ++ c.model.suggestedVersion.text).toList =
      none := by
    rw [String.toList_append]
    rfl
  rw [printedBump?, printed?_eq hsplit, Option.bind_some, Bump.ofName?_name]
  exact List.forall_mem_cons.2 ⟨rfl, List.forall_mem_cons.2 ⟨hcode, behind?_ending now (.inl rfl)⟩⟩

/-- **The suggested version** is what a reader finds on the page. -/
theorem printedVersion_render (c : Comparison) (now : String) :
    printedVersion? (render c now) = some c.model.suggestedVersion := by
  obtain ⟨early, hsplit⟩ := split_render c now
  rw [List.append_cons, List.append_cons] at hsplit
  rw [printedVersion?, printed?_eq hsplit, Option.bind_some, ChangeModel.suggestedVersion,
    Bump.parse_suggested]
  exact behind?_ending now (.inr rfl)

end Page

end ReleaseGate
