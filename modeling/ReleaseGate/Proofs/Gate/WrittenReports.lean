/-
ReleaseGate/Proofs/Gate/WrittenReports.lean

What the notes of a run say of its reports, and when it is so.

A run that ends well notes where each report was written.  The page is
written last, and it is where its note says.  The text report is written
first, and then the page takes its place if both paths lead to one place:
because they are the same, or through links.  Nothing looks at the two paths
together, so both notes are made all the same.

Design.  A report is written where its path leads, so it is the end of the
way that counts and not the path (`LeadTogether`).  The two reports on a
comparison are never the same text, so one file does not hold both.

Main result: `reports_kept_iff`.
-/
import ReleaseGate.Proofs.Gate.PrintedBump

namespace ReleaseGate

/-- A report is either plain text or a page. -/
theorem TextReport.render_ne_page (c : Comparison) (now : String) :
    TextReport.render c ≠ Page.render c now := by
  intro hsame
  have hchars := congrArg String.toList hsame
  obtain ⟨text, htext⟩ : ∃ text, (TextReport.render c).toList = 'O' :: text :=
    ⟨_, by simp [TextReport.render, TextReport.lines, TextReport.head]; rfl⟩
  obtain ⟨page, hpage⟩ : ∃ page, (Page.render c now).toList = '<' :: page :=
    ⟨_, by simp [Page.render, Page.write, Page.pieces, Page.opening, Page.Piece.chars]; rfl⟩
  rw [htext, hpage] at hchars
  exact absurd (List.cons.inj hchars).1 (by decide)

namespace Gate

open ReleaseGate.Action
open FileTree hiding resolve

variable {host : Host} {setup : Setup} {candidate : Candidate} {m m' : Machine} {o : Outcome}

/-- The file that a path leads to holds a text, and nothing else. -/
def Holds (host : Host) (t : FileTree) (path : Path) (text : String) : Prop :=
  t.read host.here path.text = .ok text.toUTF8

/-- A file holds one text. -/
theorem Holds.eq {t : FileTree} {path : Path} {a b : String} (ha : Holds host t path a)
    (hb : Holds host t path b) : a = b :=
  String.toByteArray_inj.1 (Except.ok.inj (ha.symm.trans hb))

/-- Paths that lead to one place hold the same. -/
theorem LeadTogether.holds {t : FileTree} {a b : Path} {text : String}
    (h : LeadTogether host t a b) (hb : Holds host t b text) : Holds host t a text := by
  obtain ⟨p, ha, hp⟩ := h
  obtain ⟨q, hq, hfile⟩ := read_eq_ok.1 hb
  obtain rfl := Except.ok.inj (hp.symm.trans hq)
  exact read_eq_ok.2 ⟨p, ha, hfile⟩

/-- A run that ends well has come to write the reports on its comparison. -/
theorem reported_of_run (h : (run host setup candidate).on m = (.ok o, m')) :
    ∃ m₁, Reported host setup candidate m o.comparison m₁ m' := by
  obtain ⟨old, new, m₁, hold, hnew, hcompares, hwrite, -, htext, hhtml, -⟩ := run_eq_ok_iff.1 h
  rw [htext, hhtml] at hwrite
  exact ⟨m₁, ⟨old, hold⟩, ⟨new, hnew⟩, compare_eq_ok_iff.2 hcompares, hwrite⟩

/-- The reports of a run are at the paths of its candidate, and are noted
last. -/
theorem notes_of_run (h : (run host setup candidate).on m = (.ok o, m')) :
    o.textReport = candidate.textReport.seenFrom host.workingDir ∧
      o.htmlReport = candidate.htmlReport.seenFrom host.workingDir ∧
      ∃ said, o.notes = said ++ ["Text report written to " ++ o.textReport.text,
        "HTML report written to " ++ o.htmlReport.text] := by
  obtain ⟨-, -, -, -, -, -, -, -, htext, hhtml, hnotes⟩ := run_eq_ok_iff.1 h
  exact ⟨htext, hhtml, _, hnotes⟩

/-- **The reports of a run**: both are noted as written.  The page is there in
the end, as of the time of the run.  The text report is there exactly if the
two paths do not lead to one place; if they do, the page is in its place. -/
theorem reports_kept_iff (hsound : host.Sound) (hground : Grounded m.files)
    (hhere : m.files.get? host.here = some .dir)
    (h : (run host setup candidate).on m = (.ok o, m')) :
    (o.textReport = candidate.textReport.seenFrom host.workingDir ∧
      o.htmlReport = candidate.htmlReport.seenFrom host.workingDir ∧
      ∃ said, o.notes = said ++ ["Text report written to " ++ o.textReport.text,
        "HTML report written to " ++ o.htmlReport.text]) ∧
    Holds host m'.files o.htmlReport (Page.render o.comparison host.now) ∧
    (Holds host m'.files o.textReport (TextReport.render o.comparison) ↔
      ¬ LeadTogether host m'.files o.textReport o.htmlReport) ∧
    (LeadTogether host m'.files o.textReport o.htmlReport →
      Holds host m'.files o.textReport (Page.render o.comparison host.now)) := by
  have hnotes := notes_of_run h
  obtain ⟨m₁, hreported⟩ := reported_of_run h
  obtain ⟨hpage, htext⟩ := hreported.reads hsound hground hhere
  rw [← hnotes.1, ← hnotes.2.1] at htext
  rw [← hnotes.2.1] at hpage
  refine ⟨hnotes, hpage, ⟨fun hkept htogether => ?_, htext.resolve_right⟩, fun htogether =>
    htogether.holds hpage⟩
  -- one file would hold both reports
  have hlost : Holds host m'.files o.textReport (Page.render o.comparison host.now) :=
    htogether.holds hpage
  exact TextReport.render_ne_page _ _ (hkept.eq hlost)

/-- A first release with a place for each report, the first of them in a
directory that is still to be made. -/
def reportsApart : Candidate :=
  { firstRelease with textReport := .ofString "out/r.txt" }

/-- Reports in two places are both kept. -/
theorem reports_kept_apart :
    ∃ o m', (run .bare { settings := {} } reportsApart).on (sideBySide "lib.aar") = (.ok o, m') ∧
      o.textReport.text = "/out/r.txt" ∧ o.htmlReport.text = "/r.html" ∧
      Holds .bare m'.files o.textReport (TextReport.render o.comparison) ∧
      Holds .bare m'.files o.htmlReport (Page.render o.comparison "") := by
  have hplaces : (((run .bare { settings := {} } reportsApart).on
      (sideBySide "lib.aar")).1.toOption.map fun o => (o.textReport, o.htmlReport)) =
        some (.ofString "/out/r.txt", .ofString "/r.html") := by
    decide +kernel
  obtain ⟨o, ho, hpaths⟩ := Option.map_eq_some_iff.1 hplaces
  obtain ⟨htext, hhtml⟩ := Prod.mk.inj hpaths
  have h := on_of_toOption ho
  obtain ⟨-, hpage, hkept, -⟩ :=
    reports_kept_iff Host.sound_bare (grounded_sideBySide "lib.aar") rfl h
  refine ⟨o, _, h, congrArg Path.text htext, congrArg Path.text hhtml, hkept.2 ?_, hpage⟩
  rintro ⟨p, hp, hq⟩
  rw [htext] at hp
  rw [hhtml] at hq
  have hends : (((run .bare { settings := {} } reportsApart).on
      (sideBySide "lib.aar")).2.files.locate Host.bare.here "/out/r.txt" true).toOption ≠
        (((run .bare { settings := {} } reportsApart).on
          (sideBySide "lib.aar")).2.files.locate Host.bare.here "/r.html" true).toOption := by
    decide +kernel
  exact hends (congrArg Except.toOption (hp.trans hq.symm))

/-- A first release with one path for both reports. -/
def reportsTogether : Candidate :=
  { firstRelease with htmlReport := .ofString "r.txt" }

/-- With one path for both reports the text report is noted as written, and
is lost. -/
theorem report_lost_together :
    ∃ o m', (run .bare { settings := {} } reportsTogether).on (sideBySide "lib.aar") =
        (.ok o, m') ∧
      "Text report written to /r.txt" ∈ o.notes ∧ o.textReport.text = "/r.txt" ∧
      ¬ Holds .bare m'.files o.textReport (TextReport.render o.comparison) ∧
      Holds .bare m'.files o.textReport (Page.render o.comparison "") := by
  have hplaces : (((run .bare { settings := {} } reportsTogether).on
      (sideBySide "lib.aar")).1.toOption.map fun o => (o.textReport, o.htmlReport)) =
        some (.ofString "/r.txt", .ofString "/r.txt") := by
    decide +kernel
  obtain ⟨o, ho, hpaths⟩ := Option.map_eq_some_iff.1 hplaces
  obtain ⟨htext, hhtml⟩ := Prod.mk.inj hpaths
  have h := on_of_toOption ho
  obtain ⟨-, hplace, said, hnotes⟩ := notes_of_run h
  obtain ⟨m₁, hreported⟩ := reported_of_run h
  obtain ⟨hpage, -⟩ :=
    hreported.reads Host.sound_bare (grounded_sideBySide "lib.aar") rfl
  rw [← hplace, hhtml, ← htext] at hpage
  refine ⟨o, _, h, ?_, congrArg Path.text htext, fun hkept => ?_, hpage⟩
  · rw [hnotes, htext]
    exact List.mem_append_right _ List.mem_cons_self
  · exact TextReport.render_ne_page _ _ (hkept.eq hpage)

end Gate

end ReleaseGate
