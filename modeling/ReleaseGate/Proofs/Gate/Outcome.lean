/-
ReleaseGate/Proofs/Gate/Outcome.lean

What the outcome of a run says.

A comparison ends in one of three ways (`Compares`): there is no old
artifact, both artifacts have the same bytes, or the engine has compared
them.  In the first two the run passes without a look at the order of the
versions, and no engine is made or called (`Skips`).  In the third the
versions do not go down, the engine is called once, and the verdict follows
from the step between the versions and the most severe record (`Judges`).

Design.  A comparison is taken apart once, in `ends_compare`, which covers
the failures as well.  `compare_eq_ok_iff` and `run_eq_ok_iff` say exactly
when a run ends well, with each part of it named, so the main result only
puts together what is known of the parts.

Main result: `justified_of_run`.
-/
import ReleaseGate.Proofs.Gate.Archives
import ReleaseGate.Proofs.Gate.Engine
import ReleaseGate.Proofs.Gate.Reports

namespace ReleaseGate.Gate

open ReleaseGate.Action Artifacts
open FileTree hiding resolve

variable {host : Host} {setup : Setup} {candidate : Candidate} {comparison : Comparison}
variable {m m' m₁ m₂ : Machine} {o : Outcome} {newFile oldFile : Path} {call : Call}

/-! ### The ends of a comparison -/

/-- The comparison without an old artifact: the new one stands for it. -/
def withoutOld (candidate : Candidate) (newFile : Path) : Comparison :=
  let new := newArtifact candidate newFile
  { old := { new with location := candidate.oldLocation }, new, skipped := some .missingOld }

/-- The comparison of two files with the same bytes. -/
def withoutChange (candidate : Candidate) (oldFile newFile : Path) : Comparison :=
  { old := oldArtifact candidate oldFile, new := newArtifact candidate newFile,
    skipped := some .identicalContent }

/-- The comparison that the engine has made. -/
def withChanges (candidate : Candidate) (oldFile newFile : Path) (call : Call)
    (model : ChangeModel) : Comparison :=
  { old := oldArtifact candidate oldFile, new := newArtifact candidate newFile, model,
    exclusions := call.exclusions.patterns }

/-- How a comparison ends, whatever becomes of it. -/
inductive CompareEnds (host : Host) (setup : Setup) (candidate : Candidate) (m : Machine) :
    Except Failure Comparison → Machine → Prop
  | lost {e : Failure} {m' : Machine} :
      (findFiles host setup candidate).on m = (.error e, m') →
      CompareEnds host setup candidate m (.error e) m'
  | missing {newFile : Path} {m' : Machine} :
      (findFiles host setup candidate).on m = (.ok (newFile, none), m') →
      CompareEnds host setup candidate m (.ok (withoutOld candidate newFile)) m'
  | undecided {newFile oldFile : Path} {e : Failure} {m' : Machine} :
      (findFiles host setup candidate).on m = (.ok (newFile, some oldFile), m') →
      (sameFiles host oldFile.text newFile.text).on m' = (.error e, m') →
      CompareEnds host setup candidate m (.error e) m'
  | identical {newFile oldFile : Path} {m' : Machine} :
      (findFiles host setup candidate).on m = (.ok (newFile, some oldFile), m') →
      (sameFiles host oldFile.text newFile.text).on m' = (.ok true, m') →
      CompareEnds host setup candidate m (.ok (withoutChange candidate oldFile newFile)) m'
  | unready {newFile oldFile : Path} {e : Failure} {m₁ m' : Machine} :
      (findFiles host setup candidate).on m = (.ok (newFile, some oldFile), m₁) →
      (prepare host candidate oldFile newFile).on m₁ = (.error e, m') →
      CompareEnds host setup candidate m (.error e) m'
  | reached {newFile oldFile : Path} {m₁ m₂ m' : Machine} {call : Call}
      {model? : Except Failure ChangeModel} :
      Reaches host setup candidate m oldFile newFile m₁ call m₂ →
      (callEngine host setup call).on m₂ = (model?, m') →
      CompareEnds host setup candidate m
        (model?.map (withChanges candidate oldFile newFile call)) m'

theorem ends_compare {r : Except Failure Comparison}
    (h : (compare host setup candidate).on m = (r, m')) :
    CompareEnds host setup candidate m r m' := by
  have hwhole := h
  rw [compare] at h
  rcases on_bind_cases h with ⟨e, hfind, rfl⟩ | ⟨⟨newFile, - | oldFile⟩, m₁, hfind, h⟩
  · exact .lost hfind
  · obtain ⟨rfl, rfl⟩ := Prod.mk.inj h
    exact .missing hfind
  rcases on_bind_cases h with ⟨e, hsame, rfl⟩ | ⟨same, m₂, hsame, h⟩
  · obtain rfl := (readOnly_sameFiles host _ _).eq hsame
    exact .undecided hfind hsame
  obtain rfl := (readOnly_sameFiles host _ _).eq hsame
  cases same with
  | true =>
    obtain ⟨rfl, rfl⟩ := Prod.mk.inj h
    exact .identical hfind hsame
  | false =>
    rcases on_bind_cases h with ⟨e, hready, rfl⟩ | ⟨call, m₃, hready, -⟩
    · exact .unready hfind hready
    have hreaches : Reaches host setup candidate m oldFile newFile m₂ call m₃ :=
      ⟨hfind, hsame, hready⟩
    rw [hreaches.on_compare] at hwhole
    obtain ⟨rfl, rfl⟩ := Prod.mk.inj hwhole
    exact .reached hreaches rfl

/-- How a comparison ends well. -/
inductive Compares (host : Host) (setup : Setup) (candidate : Candidate) (m : Machine) :
    Comparison → Machine → Prop
  | missing {newFile : Path} {m' : Machine} :
      (findFiles host setup candidate).on m = (.ok (newFile, none), m') →
      Compares host setup candidate m (withoutOld candidate newFile) m'
  | identical {newFile oldFile : Path} {m' : Machine} :
      (findFiles host setup candidate).on m = (.ok (newFile, some oldFile), m') →
      (sameFiles host oldFile.text newFile.text).on m' = (.ok true, m') →
      Compares host setup candidate m (withoutChange candidate oldFile newFile) m'
  | different {newFile oldFile : Path} {m₁ m₂ m' : Machine} {call : Call} {model : ChangeModel} :
      Reaches host setup candidate m oldFile newFile m₁ call m₂ →
      (callEngine host setup call).on m₂ = (.ok model, m') →
      Compares host setup candidate m (withChanges candidate oldFile newFile call model) m'

theorem compare_eq_ok_iff :
    (compare host setup candidate).on m = (.ok comparison, m') ↔
      Compares host setup candidate m comparison m' := by
  constructor
  · intro h
    have hends := ends_compare h
    generalize hr : Except.ok comparison = r at hends
    cases hends with
    | missing hfind =>
      obtain rfl := Except.ok.inj hr
      exact .missing hfind
    | identical hfind hsame =>
      obtain rfl := Except.ok.inj hr
      exact .identical hfind hsame
    | @reached newFile oldFile _ _ _ call model? hreaches hcall =>
      cases model? with
      | error e => cases hr
      | ok model =>
        obtain rfl := Except.ok.inj hr
        exact .different hreaches hcall
    | _ => cases hr
  · rintro (hfind | ⟨hfind, hsame⟩ | ⟨hreaches, hcall⟩)
    · rw [compare, on_bind_of_ok hfind]
      rfl
    · rw [compare, on_bind_of_ok hfind]
      exact on_bind_of_ok hsame
    · rw [hreaches.on_compare, hcall]
      rfl

/-- A comparison that ended well has a verdict. -/
theorem Compares.exists_verdict (h : Compares host setup candidate m comparison m') :
    ∃ v, comparison.verdict = .ok v := by
  cases h with
  | missing => exact ⟨.identical, rfl⟩
  | identical => exact ⟨.identical, rfl⟩
  | @different newFile oldFile _ _ _ call model hreaches =>
    obtain ⟨old, new, declared, hold, hnew, hgrows⟩ := (prepares_of_ok hreaches.ready).versions
    obtain ⟨v, hv⟩ := Verdict.exists_decide_eq_ok hgrows model.requiredBump
    refine ⟨v, ?_⟩
    show (do
      let old ← Version.parse candidate.oldVersion
      let new ← Version.parse candidate.newVersion
      Verdict.decide old new model.requiredBump) = _
    rw [hold, hnew]
    exact hv

/-! ### One run -/

/-- What is done with a comparison. -/
def finish (host : Host) (candidate : Candidate) (comparison : Comparison) : Action Outcome := do
  let textReport := candidate.textReport.seenFrom host.workingDir
  let htmlReport := candidate.htmlReport.seenFrom host.workingDir
  writeReports host comparison textReport htmlReport
  let verdict ← Action.orFail .version comparison.verdict
  return ⟨comparison, verdict, textReport, htmlReport,
    notes comparison verdict textReport htmlReport⟩

/-- Once the versions are read, a run compares and finishes. -/
theorem on_run_of_parse (candidate : Candidate) {old new : Version}
    (hold : Version.parse candidate.oldVersion = .ok old)
    (hnew : Version.parse candidate.newVersion = .ok new) :
    (run host setup candidate).on m =
      (compare host setup candidate >>= finish host candidate).on m := by
  rw [run, readVersion, on_bind_of_ok (orFail_eq_ok.2 ⟨hold, rfl⟩), readVersion,
    on_bind_of_ok (orFail_eq_ok.2 ⟨hnew, rfl⟩)]
  rfl

/-- Without both versions a run ends at once. -/
theorem on_run_of_parse_error (candidate : Candidate) {e : VersionError}
    (h : Version.parse candidate.oldVersion = .error e ∨
      (∃ old, Version.parse candidate.oldVersion = .ok old) ∧
        Version.parse candidate.newVersion = .error e) :
    (run host setup candidate).on m = (.error (.version e), m) := by
  rw [run, readVersion, on_orFail_bind]
  rcases h with h | ⟨⟨old, hold⟩, h⟩
  · rw [h]
  · rw [hold]
    simp only
    rw [readVersion, on_orFail_bind, h]

/-- What a comparison fails with, the run fails with. -/
theorem on_run_of_compare_error {old new : Version} {e : Failure}
    (hold : Version.parse candidate.oldVersion = .ok old)
    (hnew : Version.parse candidate.newVersion = .ok new)
    (h : (compare host setup candidate).on m = (.error e, m')) :
    (run host setup candidate).on m = (.error e, m') := by
  rw [on_run_of_parse candidate hold hnew]
  exact on_bind_of_error h

theorem run_eq_ok_iff :
    (run host setup candidate).on m = (.ok o, m') ↔
      ∃ old new m₁, Version.parse candidate.oldVersion = .ok old ∧
        Version.parse candidate.newVersion = .ok new ∧
        Compares host setup candidate m o.comparison m₁ ∧
        (writeReports host o.comparison o.textReport o.htmlReport).on m₁ = (.ok (), m') ∧
        o.comparison.verdict = .ok o.verdict ∧
        o.textReport = candidate.textReport.seenFrom host.workingDir ∧
        o.htmlReport = candidate.htmlReport.seenFrom host.workingDir ∧
        o.notes = notes o.comparison o.verdict o.textReport o.htmlReport := by
  constructor
  · intro h
    rw [run, readVersion] at h
    obtain ⟨old, _, hold, h₁⟩ := on_bind_eq_ok.1 h
    obtain ⟨hparse, rfl⟩ := orFail_eq_ok.1 hold
    rw [readVersion] at h₁
    obtain ⟨new, _, hnew, h₂⟩ := on_bind_eq_ok.1 h₁
    obtain ⟨hparse', rfl⟩ := orFail_eq_ok.1 hnew
    obtain ⟨comparison, m₁, hcompare, h₃⟩ := on_bind_eq_ok.1 h₂
    obtain ⟨u, m₂, hwrite, h₄⟩ := on_bind_eq_ok.1 h₃
    obtain ⟨verdict, m₃, hverdict, hpure⟩ := on_bind_eq_ok.1 h₄
    obtain ⟨hdecided, rfl⟩ := orFail_eq_ok.1 hverdict
    obtain ⟨⟨⟩, ⟨⟩⟩ := hpure
    exact ⟨old, new, m₁, hparse, hparse', compare_eq_ok_iff.1 hcompare, hwrite, hdecided, rfl, rfl,
      rfl⟩
  · rintro ⟨old, new, m₁, hold, hnew, hcompare, hwrite, hverdict, htext, hhtml, hnotes⟩
    rw [on_run_of_parse candidate hold hnew, on_bind_of_ok (compare_eq_ok_iff.2 hcompare), finish,
      ← htext, ← hhtml, on_bind_of_ok hwrite, on_bind_of_ok (orFail_eq_ok.2 ⟨hverdict, rfl⟩),
      on_pure, ← hnotes]

/-! ### What an outcome says -/

/-- The setup with another engine, or with other settings for the usual one. -/
def Setup.withEngine (setup : Setup) (engine? : Option Engine) (toolJar : Option Path)
    (java : String) : Setup :=
  { setup with engine?, settings := { setup.settings with toolJar, java } }

/-- Nothing was compared: the run passes, and would do so with any engine. -/
structure Skips (host : Host) (setup : Setup) (candidate : Candidate) (m : Machine) (o : Outcome)
    (m' : Machine) : Prop where
  verdict : o.verdict = .identical
  calls : m'.calls = m.calls
  engine : ∀ engine? toolJar java,
    (run host (setup.withEngine engine? toolJar java) candidate).on m = (.ok o, m')

/-- Two different artifacts were compared by one call of the engine, and the
verdict follows from what it found. -/
structure Judges (host : Host) (setup : Setup) (candidate : Candidate) (old new : Version)
    (m : Machine) (o : Outcome) (m' : Machine) : Prop where
  not_below : ¬ new.Below old
  call : ∃ oldFile newFile m₁ call m₂ engine m₃ line,
    Reaches host setup candidate m oldFile newFile m₁ call m₂ ∧
    (∃ a b, m₁.files.read host.here oldFile.text = .ok a ∧
      m₁.files.read host.here newFile.text = .ok b ∧ a ≠ b) ∧
    setup.engine = .ok engine ∧
    (engine.compare host call.oldArchive call.newArchive call.exclusions).on m₂ =
      (.ok o.comparison.model, m₃) ∧
    engine.Records call.oldArchive call.newArchive call.exclusions line ∧
    m'.calls = m.calls ++ [line]
  verdict : ∃ required declared, o.comparison.model.Requires required ∧
    Verdict.Decides old new required declared o.verdict

/-- What was found bears the outcome out, by the reason why nothing was
compared. -/
def Justified (host : Host) (setup : Setup) (candidate : Candidate) (old new : Version)
    (m : Machine) (o : Outcome) (m' : Machine) : Prop :=
  match o.comparison.skipped with
  | some .missingOld =>
    candidate.mayBeFirst ∧ NothingAt host candidate.oldLocation m m' ∧
      Skips host setup candidate m o m'
  | some .identicalContent =>
    (∃ oldFile newFile m₁ a b,
      (findFiles host setup candidate).on m = (.ok (newFile, some oldFile), m₁) ∧
      m₁.files.read host.here oldFile.text = .ok a ∧
      m₁.files.read host.here newFile.text = .ok b ∧ (a = b ∨ Collides a b)) ∧
      Skips host setup candidate m o m'
  | none => Judges host setup candidate old new m o m'

/-- Without a look at the engine, any other one does as well. -/
theorem Compares.withEngine (h : Compares host setup candidate m comparison m')
    (hskipped : comparison.skipped ≠ none) (engine? : Option Engine) (toolJar : Option Path)
    (java : String) :
    Compares host (setup.withEngine engine? toolJar java) candidate m comparison m' := by
  cases h with
  | missing hfind => exact .missing hfind
  | identical hfind hsame => exact .identical hfind hsame
  | different => exact absurd rfl hskipped

theorem skips_of_skipped {reason : SkipReason} (h : (run host setup candidate).on m = (.ok o, m'))
    (hskipped : o.comparison.skipped = some reason) (hcalls : m'.calls = m.calls) :
    Skips host setup candidate m o m' := by
  obtain ⟨old, new, m₁, hold, hnew, hcompares, hwrite, hverdict, hrest⟩ := run_eq_ok_iff.1 h
  refine ⟨?_, hcalls, fun engine? toolJar java => ?_⟩
  · rw [Comparison.verdict, hskipped] at hverdict
    exact (Except.ok.inj hverdict).symm
  · have hother := hcompares.withEngine (by simp [hskipped]) engine? toolJar java
    exact run_eq_ok_iff.2 ⟨old, new, m₁, hold, hnew, hother, hwrite, hverdict, hrest⟩

theorem callEngine_eq_ok {model : ChangeModel}
    (h : (callEngine host setup call).on m = (.ok model, m')) :
    ∃ engine, setup.engine = .ok engine ∧
      (engine.compare host call.oldArchive call.newArchive call.exclusions).on m =
        (.ok model, m') := by
  obtain ⟨engine, m₁, hengine, hcall⟩ := on_bind_eq_ok.1 h
  obtain ⟨hok, rfl⟩ := orFail_eq_ok.1 hengine
  exact ⟨engine, hok, hcall⟩

/-- When the engine is reached, the files are in order and it was not called
before. -/
theorem Reaches.in_order (h : Reaches host setup candidate m oldFile newFile m₁ call m₂)
    (hsound : host.Sound) (hground : Grounded m.files)
    (hhere : m.files.get? host.here = some .dir) :
    Grounded m₂.files ∧ m₂.files.get? host.here = some .dir ∧ m₂.calls = m.calls := by
  have hfound := findRun_findFiles hsound h.find
  obtain ⟨staged, hstages⟩ := hfound.stages
  have hprepares := prepares_of_ok h.ready
  obtain ⟨t, ho, hn⟩ := hprepares.archives
  obtain ⟨hground', hhere'⟩ := ho.grounded (hstages.grounded hground hhere)
    (hstages.keeps.dir hhere)
  obtain ⟨hground₂, hhere₂⟩ := hn.grounded hground' hhere'
  exact ⟨hground₂, hhere₂, hprepares.trace.calls.trans hfound.calls⟩

/-- The verdict on two artifacts that were compared. -/
theorem decides_of_verdict {old new : Version} {model : ChangeModel} {v : Verdict}
    (hold : Version.parse candidate.oldVersion = .ok old)
    (hnew : Version.parse candidate.newVersion = .ok new)
    (h : (withChanges candidate oldFile newFile call model).verdict = .ok v) :
    ∃ declared, Verdict.Decides old new model.requiredBump declared v := by
  obtain ⟨⟨_, ⟨⟩⟩, -⟩ | ⟨-, old', new', declared, hold', hnew', hdecides⟩ :=
    Comparison.verdict_eq_ok h
  obtain rfl := Except.ok.inj (hold.symm.trans hold')
  obtain rfl := Except.ok.inj (hnew.symm.trans hnew')
  exact ⟨declared, hdecides⟩

/-- **What an outcome says** is so: by the reason why nothing was compared,
or by the one call of the engine. -/
theorem justified_of_run (hsound : host.Sound) (hground : Grounded m.files)
    (hhere : m.files.get? host.here = some .dir)
    (h : (run host setup candidate).on m = (.ok o, m')) :
    ∃ old new, Version.parse candidate.oldVersion = .ok old ∧
      Version.parse candidate.newVersion = .ok new ∧
      Justified host setup candidate old new m o m' := by
  obtain ⟨old, new, m₁, hold, hnew, hcompares, hwrite, hverdict, -⟩ := run_eq_ok_iff.1 h
  refine ⟨old, new, hold, hnew, ?_⟩
  -- each way to end well justifies one of the three kinds of outcomes
  generalize hc : o.comparison = comparison at hcompares hverdict hwrite
  cases hcompares with
  | @missing newFile _ hfind =>
    have hfound := findRun_findFiles hsound hfind
    obtain ⟨staged, hstages⟩ := hfound.stages
    obtain ⟨hfirst, hnothing⟩ := hfound.missing _ rfl
    obtain ⟨htrace, -⟩ := reports_writeReports (hstages.grounded hground hhere)
      (hstages.keeps.dir hhere) hwrite
    have hskipped : o.comparison.skipped = some .missingOld := by rw [hc]; rfl
    have hcalls : m'.calls = m.calls := htrace.calls.trans hfound.calls
    rw [Justified, hskipped]
    exact ⟨hfirst, hnothing.congr htrace.requests, skips_of_skipped h hskipped hcalls⟩
  | @identical newFile oldFile _ hfind hsame =>
    have hfound := findRun_findFiles hsound hfind
    obtain ⟨staged, hstages⟩ := hfound.stages
    obtain ⟨-, b, -, hb⟩ := hfound.new _ _ rfl
    obtain ⟨-, a, ha⟩ := hfound.found _ _ rfl
    obtain ⟨htrace, -⟩ := reports_writeReports (hstages.grounded hground hhere)
      (hstages.keeps.dir hhere) hwrite
    have hskipped : o.comparison.skipped = some .identicalContent := by rw [hc]; rfl
    have hcalls : m'.calls = m.calls := htrace.calls.trans hfound.calls
    have hequal := (sameFiles_eq_ok ha hb hsame).2
    rw [Justified, hskipped]
    exact ⟨⟨oldFile, newFile, m₁, a, b, hfind, ha, hb, hequal⟩, skips_of_skipped h hskipped hcalls⟩
  | @different newFile oldFile m₂ m₃ _ call model hreaches hcall =>
    have hfound := findRun_findFiles hsound hreaches.find
    obtain ⟨-, b, -, hb⟩ := hfound.new _ _ rfl
    obtain ⟨-, a, ha⟩ := hfound.found _ _ rfl
    have hne : a ≠ b := (sameFiles_eq_ok ha hb hreaches.differ).2
    obtain ⟨hground₃, hhere₃, hcalls₃⟩ := hreaches.in_order hsound hground hhere
    obtain ⟨engine, hengine, hcompare⟩ := callEngine_eq_ok hcall
    obtain ⟨hfiles, -, hrecord⟩ := engineRun_compare hground₃ hcompare
    obtain ⟨line, hline, hcalls⟩ := hrecord model rfl
    obtain ⟨htrace, -⟩ := reports_writeReports (hground₃.congr hfiles) ((hfiles _).trans hhere₃)
      hwrite
    obtain ⟨declared, hdecides⟩ := decides_of_verdict hold hnew hverdict
    have hskipped : o.comparison.skipped = none := by rw [hc]; rfl
    have hmodel : o.comparison.model = model := by rw [hc]; rfl
    rw [Justified, hskipped]
    refine ⟨hdecides.grows.not_below, ?_, model.requiredBump, declared, ?_, hdecides⟩
    · refine ⟨oldFile, newFile, m₂, call, m₃, engine, m₁, line, hreaches, ⟨a, b, ha, hb, hne⟩,
        hengine, ?_, hline, ?_⟩
      · rw [hmodel]
        exact hcompare
      · rw [htrace.calls, hcalls, hcalls₃]
    · rw [hmodel]
      exact model.requires_requiredBump

/-- A first release, whose version is below the one it says it follows. -/
def firstRelease : Candidate :=
  { buildAfter "old.jar" with oldVersion := "2.0.0", mayBeFirst := true }

/-- The first release passes without a call of the engine, whatever its version. -/
theorem justified_of_run_firstRelease :
    ∃ o m', (run .bare { settings := {} } firstRelease).on (sideBySide "lib.aar") = (.ok o, m') ∧
      o.comparison.skipped = some .missingOld ∧ o.verdict = .identical ∧ m'.calls = [] := by
  have hrun : (((run .bare { settings := {} } firstRelease).on
      (sideBySide "lib.aar")).1.toOption.map (·.comparison.skipped)) = some (some .missingOld) := by
    decide +kernel
  obtain ⟨o, ho, hskipped⟩ := Option.map_eq_some_iff.1 hrun
  have h := on_of_toOption ho
  obtain ⟨old, new, -, -, hjustified⟩ := justified_of_run Host.sound_bare
    (grounded_sideBySide "lib.aar") rfl h
  rw [Justified, hskipped] at hjustified
  obtain ⟨-, -, hskips⟩ := hjustified
  exact ⟨o, _, h, hskipped, hskips.verdict, hskips.calls⟩

end ReleaseGate.Gate
