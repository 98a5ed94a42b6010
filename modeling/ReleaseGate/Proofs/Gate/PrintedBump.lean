/-
ReleaseGate/Proofs/Gate/PrintedBump.lean

No report without a verdict.

The reports are written before the verdict is worked out, so a verdict that
failed would leave the reports of a run that has no outcome.  It does not
fail: the versions were read when the run began, and they were put in order
before the engine was asked.  A comparison that was skipped has no need of
them.  And the bump that the changes require is never none, so there is a
version to suggest.

The verdict and both reports speak of the same bump, which is found by
reading the reports (`TextReport.printedBump?`, `Page.printedBump?`).

Main result: `reported_has_verdict`.
-/
import ReleaseGate.Proofs.Gate.Footprint
import ReleaseGate.Proofs.Report.Printed

namespace ReleaseGate

/-- Changes never require less than a patch. -/
theorem ChangeModel.requiredBump_ne_none (model : ChangeModel) :
    model.requiredBump ≠ .none := by
  intro hnone
  have hpatch := model.requires_requiredBump.patch
  rw [hnone] at hpatch
  exact absurd hpatch (by decide)

namespace Gate

open ReleaseGate.Action
open FileTree hiding resolve

variable {host : Host} {setup : Setup} {candidate : Candidate} {c : Comparison} {m m₁ m' : Machine}

/-- A run has come to write the reports on a comparison, and has written
both. -/
structure Reported (host : Host) (setup : Setup) (candidate : Candidate) (m : Machine)
    (c : Comparison) (m₁ m' : Machine) : Prop where
  old : ∃ v, Version.parse candidate.oldVersion = .ok v
  new : ∃ v, Version.parse candidate.newVersion = .ok v
  compared : (compare host setup candidate).on m = (.ok c, m₁)
  written : (writeReports host c (candidate.textReport.seenFrom host.workingDir)
    (candidate.htmlReport.seenFrom host.workingDir)).on m₁ = (.ok (), m')

/-- The versions in a comparison can be read again. -/
theorem Reported.versions (h : Reported host setup candidate m c m₁ m') :
    (∃ v, Version.parse c.old.version = .ok v) ∧ ∃ v, Version.parse c.new.version = .ok v := by
  obtain ⟨hold, hnew, hcompared, -⟩ := h
  cases compare_eq_ok_iff.1 hcompared with
  | missing => exact ⟨hnew, hnew⟩
  | identical => exact ⟨hold, hnew⟩
  | different => exact ⟨hold, hnew⟩

/-- What is written can be read in the end. -/
theorem Reported.reads (h : Reported host setup candidate m c m₁ m') (hsound : host.Sound)
    (hground : Grounded m.files) (hhere : m.files.get? host.here = some .dir) :
    m'.files.read host.here (candidate.htmlReport.seenFrom host.workingDir).text =
        .ok (Page.render c host.now).toUTF8 ∧
      (m'.files.read host.here (candidate.textReport.seenFrom host.workingDir).text =
          .ok (TextReport.render c).toUTF8 ∨
        LeadTogether host m'.files (candidate.textReport.seenFrom host.workingDir)
          (candidate.htmlReport.seenFrom host.workingDir)) := by
  obtain ⟨staged, t, hchanges, hhere₁⟩ := changes_compare hsound hground hhere h.compared
  exact reads_of_writeReports hchanges.reports.grounded hhere₁ h.written

/-- Both reports show a bump, and suggest a version for it. -/
structure Shows (host : Host) (c : Comparison) (required : Bump) : Prop where
  text : TextReport.printedBump? (TextReport.render c) = some required
  page : Page.printedBump? (Page.render c host.now) = some required
  suggested : ∃ s, TextReport.printedVersion? (TextReport.render c) = some s ∧
    Page.printedVersion? (Page.render c host.now) = some s ∧
    (⟨0, 0, 0, none⟩ : Version).bumpTo s = .ok required

theorem shows_requiredBump (host : Host) (c : Comparison) :
    Shows host c c.model.requiredBump :=
  ⟨TextReport.printedBump_render c, Page.printedBump_render c host.now, c.model.suggestedVersion,
    TextReport.printedVersion_render c, Page.printedVersion_render c host.now,
    Bump.bumpTo_suggested c.model.requiredBump_ne_none⟩

/-- **A comparison that was reported has a verdict**: once both reports are
written the run ends well.  The versions can be read again, and there is a
version to suggest.  Where something was compared, the verdict and both
reports speak of one bump, which is not none, and the suggested version is a
step of that size. -/
theorem reported_has_verdict (h : Reported host setup candidate m c m₁ m') :
    ∃ o, (run host setup candidate).on m = (.ok o, m') ∧ o.comparison = c ∧
      c.verdict = .ok o.verdict ∧
      ((∃ v, Version.parse c.old.version = .ok v) ∧ ∃ v, Version.parse c.new.version = .ok v) ∧
      Bump.suggestions.lookup c.model.requiredBump = some c.model.suggestedVersion ∧
      (c.skipped = none → ∃ required, required ≠ .none ∧ o.verdict.required = some required ∧
        Shows host c required) ∧
      (host.Sound → Grounded m.files → m.files.get? host.here = some .dir →
        m'.files.read host.here o.htmlReport.text = .ok (Page.render c host.now).toUTF8 ∧
          (m'.files.read host.here o.textReport.text = .ok (TextReport.render c).toUTF8 ∨
            LeadTogether host m'.files o.textReport o.htmlReport)) := by
  -- the order of the versions was checked in the comparison, or it was skipped
  have hcompares := compare_eq_ok_iff.1 h.compared
  obtain ⟨v, hverdict⟩ := hcompares.exists_verdict
  obtain ⟨old, hold⟩ := h.old
  obtain ⟨new, hnew⟩ := h.new
  let textReport := candidate.textReport.seenFrom host.workingDir
  let htmlReport := candidate.htmlReport.seenFrom host.workingDir
  have hrun : (run host setup candidate).on m =
      (.ok ⟨c, v, textReport, htmlReport, notes c v textReport htmlReport⟩, m') :=
    run_eq_ok_iff.2 ⟨old, new, m₁, hold, hnew, hcompares, h.written, hverdict, rfl, rfl, rfl⟩
  refine ⟨_, hrun, rfl, hverdict, h.versions, ?_, fun hcompared => ?_, h.reads⟩
  · exact Bump.lookup_suggestions c.model.requiredBump_ne_none
  · obtain ⟨⟨reason, hskipped⟩, -⟩ | ⟨-, _, _, _, -, -, hdecides⟩ :=
      Comparison.verdict_eq_ok hverdict
    · cases hskipped.symm.trans hcompared
    · exact ⟨c.model.requiredBump, c.model.requiredBump_ne_none, hdecides.shows.2,
        shows_requiredBump host c⟩

/-- A class that is gone, with a name that looks like the end of a report. -/
def misleading : ChangeModel :=
  ⟨[{ name := "A\nRequired version change: NONE\n<strong>NONE</strong>", status := .removed,
      severity := .major }]⟩

/-- A setup with an engine that finds that class is gone. -/
def withMisleading : Setup where
  settings := {}
  engine? := some (.given fun _ _ _ _ => .ok misleading)

/-- The comparison of an archive with the build beside it. -/
def misled : Comparison :=
  withChanges (buildAfter "old.aar") (.ofString "/old.aar") (.ofString "/lib.jar")
    ⟨.ofString "/old.jar", .ofString "/lib.jar", {}⟩ misleading

/-- The call of the engine, and what it leaves. -/
def misleads : Except Failure ChangeModel × Machine :=
  (callEngine .bare withMisleading ⟨.ofString "/old.jar", .ofString "/lib.jar", {}⟩).on
    (readyBeside "old.aar")

theorem reported_misled :
    ∃ m', Reported .bare withMisleading (buildAfter "old.aar") (sideBySide "old.aar") misled
      misleads.2 m' := by
  have hreaches : Reaches .bare withMisleading (buildAfter "old.aar") (sideBySide "old.aar")
      (.ofString "/old.aar") (.ofString "/lib.jar") (sideBySide "old.aar")
      ⟨.ofString "/old.jar", .ofString "/lib.jar", {}⟩ (readyBeside "old.aar") :=
    ⟨reaches_other_stem.find, reaches_other_stem.differ, reaches_other_stem.ready⟩
  have hcall := on_of_toOption (show misleads.1.toOption = some misleading by decide +kernel)
  have hcompared : (compare .bare withMisleading (buildAfter "old.aar")).on
      (sideBySide "old.aar") = (.ok misled, misleads.2) :=
    compare_eq_ok_iff.2 (.different hreaches hcall)
  have hwritten := on_of_toOption (show ((writeReports .bare misled (.ofString "/r.txt")
    (.ofString "/r.html")).on misleads.2).1.toOption = some () by decide +kernel)
  exact ⟨_, ⟨_, rfl⟩, ⟨_, rfl⟩, hcompared, hwritten⟩

/-- The names of classes do not change what a reader finds. -/
theorem reported_has_verdict_misled :
    ∃ o m', (run .bare withMisleading (buildAfter "old.aar")).on (sideBySide "old.aar") =
        (.ok o, m') ∧
      o.comparison = misled ∧ o.verdict.required = some .major ∧
      TextReport.printedBump? (TextReport.render misled) = some .major ∧
      Page.printedBump? (Page.render misled "") = some .major ∧
      m'.files.read Host.bare.here "/r.html" = .ok (Page.render misled "").toUTF8 := by
  obtain ⟨m', h⟩ := reported_misled
  obtain ⟨o, hrun, hc, -, -, -, hshown, hreads⟩ := reported_has_verdict h
  obtain ⟨required, -, hrequired, hshows⟩ := hshown rfl
  obtain ⟨hpage, -⟩ := hreads Host.sound_bare (grounded_sideBySide "old.aar") rfl
  -- what the text shows is known, so the bump of the verdict is
  obtain rfl : Bump.major = required :=
    Option.some.inj ((TextReport.printedBump_render misled).symm.trans hshows.text)
  obtain ⟨-, -, -, -, -, -, -, -, -, hhtml, -⟩ := run_eq_ok_iff.1 hrun
  rw [hhtml] at hpage
  exact ⟨o, m', hrun, hc, hrequired, hshows.text, hshows.page, hpage⟩

end Gate

end ReleaseGate
