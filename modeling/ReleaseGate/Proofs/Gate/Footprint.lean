/-
ReleaseGate/Proofs/Gate/Footprint.lean

What a run leaves behind.

A run changes files in three steps: it fetches the old artifact (`Stages`),
puts inner archives beside Android archives (`Inner`), and writes the
reports (`Reports`).  Each step may fail in the middle, and what it says of
the files holds then, too; nothing temporary is left by any of them.  So the
places that a run touches can be told from the request alone (`Touches`),
whatever becomes of it.

Design.  `Changes` keeps the trees between the steps, since a path may lead
elsewhere after a step.  A run that stops early has the later steps left out.

Main result: `run_footprint`.
-/
import ReleaseGate.Proofs.Gate.Outcome
import ReleaseGate.Proofs.Gate.VersionFaults

namespace ReleaseGate.Gate

open ReleaseGate.Action AndroidArchive Artifacts
open FileTree hiding resolve

variable {host : Host} {setup : Setup} {candidate : Candidate} {m m' m₁ : Machine}
variable {t t' t'' : FileTree} {oldFile newFile path : Path} {files reports : List Path}
variable {staged : Option Place} {q : Place}

/-! ### Inner archives -/

/-- The tree `t'` is `t` with the inner archives of some files. -/
structure Inner (host : Host) (files : List Path) (t t' : FileTree) : Prop where
  grounded : Grounded t'
  here : t'.get? host.here = some .dir
  off : ∀ q, t'.get? q ≠ t.get? q →
    (∃ file ∈ files, ∃ target, Puts host t file target q) ∧
      ∃ classes, t'.get? q = some (.file classes)

theorem Inner.refl (ht : Grounded t) (hd : t.get? host.here = some .dir) (files : List Path) :
    Inner host files t t :=
  ⟨ht, hd, fun _ hq => absurd rfl hq⟩

theorem Inner.mono {more : List Path} (h : Inner host files t t') (hf : files ⊆ more) :
    Inner host more t t' := by
  refine ⟨h.grounded, h.here, fun q hq => ?_⟩
  obtain ⟨⟨file, hfile, hputs⟩, hclasses⟩ := h.off q hq
  exact ⟨⟨file, hf hfile, hputs⟩, hclasses⟩

theorem Inner.congr (h : Inner host files t t') (hq : ∀ q, t''.get? q = t'.get? q) :
    Inner host files t t'' := by
  refine ⟨h.grounded.congr hq, (hq _).trans h.here, fun q hne => ?_⟩
  rw [hq] at hne ⊢
  exact h.off q hne

theorem inner_of_normalizes {archive : Path} (ht : Grounded t) (hd : t.get? host.here = some .dir)
    (h : Normalizes host path archive t t') : Inner host [path] t t' := by
  obtain ⟨hground, hhere⟩ := h.grounded ht hd
  refine ⟨hground, hhere, fun q hq => ?_⟩
  rcases h with ⟨-, -, rfl⟩ | ⟨ha, hpath, classes, c, hx⟩
  · exact absurd rfl hq
  · obtain rfl : q = c := by
      by_contra hqc
      exact hq (hx.edit.off q hqc)
    have hputs := puts_of_extracts hx ha hpath
    exact ⟨⟨path, List.mem_singleton_self _, archive, hputs⟩, classes, hx.edit.new⟩

/-- A place for an inner archive is the same before others were put. -/
theorem Inner.puts {target : Path} (h : Inner host files t t') (hname : '/' ∉ path.name)
    (hputs : Puts host t' path target q) : Puts host t path target q := by
  obtain ⟨ha, hpath, hl⟩ := hputs
  obtain ⟨before, hbeside⟩ := exists_beside hname hpath hl
  obtain ⟨left, d, hpassage, -⟩ := hbeside.passage
  -- the way to it holds no files, and files are all that is new
  refine ⟨ha, hpath, (hbeside.congr fun r hr => ?_).locate⟩
  by_contra hne
  obtain ⟨-, classes, hfile⟩ := h.off r (Ne.symm hne)
  rcases hpassage.mem_seen hr with hg | ⟨link, hg⟩
  · rw [hfile] at hg
    cases hg
  · rw [hfile] at hg
    cases hg

theorem Inner.trans (h : Inner host files t t') (h' : Inner host [path] t' t'')
    (hname : '/' ∉ path.name) : Inner host (files ++ [path]) t t'' := by
  refine ⟨h'.grounded, h'.here, fun q hq => ?_⟩
  -- the last change of a place says what is there
  by_cases hlast : t''.get? q = t'.get? q
  · rw [hlast] at hq ⊢
    obtain ⟨⟨file, hfile, hputs⟩, hclasses⟩ := h.off q hq
    exact ⟨⟨file, List.mem_append_left _ hfile, hputs⟩, hclasses⟩
  · obtain ⟨⟨file, hfile, target, hputs⟩, hclasses⟩ := h'.off q hlast
    obtain rfl := List.mem_singleton.1 hfile
    exact ⟨⟨file, List.mem_append_right _ hfile, target, h.puts hname hputs⟩, hclasses⟩

theorem inner_normalize {r : Except Failure Path} (ht : Grounded m.files)
    (hd : m.files.get? host.here = some .dir) (h : (normalize host path).on m = (r, m')) :
    SameTrace m m' ∧ Inner host [path] m.files m'.files := by
  rcases r with e | archive
  · obtain ⟨-, htrace, hsame⟩ := normalize_eq_error h
    exact ⟨htrace, (Inner.refl ht hd _).congr hsame⟩
  · obtain ⟨htrace, hnormalizes⟩ := normalizes_of_ok h
    exact ⟨htrace, inner_of_normalizes ht hd hnormalizes⟩

/-- Getting ready for the engine puts inner archives, wherever it stops. -/
theorem inner_prepare {r : Except Failure Call} (ht : Grounded m.files)
    (hd : m.files.get? host.here = some .dir) (hnew : '/' ∉ newFile.name)
    (h : (prepare host candidate oldFile newFile).on m = (r, m')) :
    SameTrace m m' ∧ Inner host [oldFile, newFile] m.files m'.files := by
  rcases on_prepare host candidate oldFile newFile m with ⟨v, hv⟩ | ⟨-, hgather⟩
  · rw [hv] at h
    obtain ⟨rfl, rfl⟩ := Prod.mk.inj h
    exact ⟨.refl m, .refl ht hd _⟩
  rw [hgather, gather] at h
  rcases on_bind_cases h with ⟨e, hold, rfl⟩ | ⟨oldArchive, m₁, hold, h⟩
  · obtain ⟨htrace, hinner⟩ := inner_normalize ht hd hold
    exact ⟨htrace, hinner.mono (by simp)⟩
  obtain ⟨htrace₁, hinner₁⟩ := inner_normalize ht hd hold
  rcases on_bind_cases h with ⟨e, hnorm, rfl⟩ | ⟨newArchive, m₂, hnorm, h⟩
  · obtain ⟨htrace₂, hinner₂⟩ := inner_normalize hinner₁.grounded hinner₁.here hnorm
    exact ⟨htrace₁.trans htrace₂, hinner₁.trans hinner₂ hnew⟩
  obtain ⟨htrace₂, hinner₂⟩ := inner_normalize hinner₁.grounded hinner₁.here hnorm
  obtain rfl := ((readOnly_loadExclusions host _).bind fun _ => readOnly_pure _).eq h
  exact ⟨htrace₁.trans htrace₂, hinner₁.trans hinner₂ hnew⟩

/-- So it does with the files that were found. -/
theorem inner_of_found {r : Except Failure Call} (hsound : host.Sound)
    (hground : Grounded m.files) (hhere : m.files.get? host.here = some .dir)
    (hfind : (findFiles host setup candidate).on m = (.ok (newFile, some oldFile), m₁))
    (h : (prepare host candidate oldFile newFile).on m₁ = (r, m')) :
    SameTrace m₁ m' ∧ Inner host [oldFile, newFile] m₁.files m'.files := by
  have hfound := findRun_findFiles hsound hfind
  obtain ⟨staged, hstages⟩ := hfound.stages
  have hname : '/' ∉ newFile.name := (hfound.new _ _ rfl).1 ▸ notMem_name_newPath host candidate
  exact inner_prepare (hstages.grounded hground hhere) (hstages.keeps.dir hhere) hname h

/-! ### The changes of a run -/

/-- The path is the local file of one of the two artifacts, which are found
with the files `t`. -/
def IsArtifact (host : Host) (setup : Setup) (candidate : Candidate) (m : Machine)
    (t : FileTree) (path : Path) : Prop :=
  ∃ oldFile newFile m₁, (findFiles host setup candidate).on m = (.ok (newFile, some oldFile), m₁) ∧
    m₁.files = t ∧ (path = oldFile ∨ path = newFile)

/-- The files of `m'` are those of `m` after a file was fetched, which gives
`t`, inner archives were put, which gives `t'`, and reports were written. -/
structure Changes (host : Host) (setup : Setup) (candidate : Candidate) (reports : List Path)
    (m : Machine) (staged : Option Place) (t t' : FileTree) (m' : Machine) : Prop where
  stages : Stages host setup.settings staged m.files t
  inner : ∃ files, Inner host files t t' ∧ ∀ file ∈ files, IsArtifact host setup candidate m t file
  reports : Reports host reports t' m'.files

/-- A place that a run may touch, with some reports to write: `t` are the
files once both artifacts are found, `t'` those before the reports. -/
inductive Touches (host : Host) (setup : Setup) (candidate : Candidate) (reports : List Path)
    (m : Machine) (staged : Option Place) (t t' : FileTree) (m' : Machine) (q : Place) : Prop
  /-- The file that was fetched. -/
  | fetched : staged = some q → Touches host setup candidate reports m staged t t' m' q
  /-- A new directory on the way to where fetched files are put. -/
  | stagingDir {dir : Path} : setup.settings.stagingDir = some dir →
      NewDir m.files t host.here dir q → Touches host setup candidate reports m staged t t' m' q
  /-- The inner archive beside an Android archive. -/
  | inner {file target : Path} : IsArtifact host setup candidate m t file →
      Puts host t file target q → Touches host setup candidate reports m staged t t' m' q
  /-- A new directory on the way to a report. -/
  | reportDir {report : Path} : report ∈ reports →
      NewDir t' m'.files host.here report.parent q →
      Touches host setup candidate reports m staged t t' m' q
  /-- A report. -/
  | report {report : Path} : report ∈ reports →
      m'.files.locate host.here report.text true = .ok q →
      Touches host setup candidate reports m staged t t' m' q

/-- Everything that differs afterwards is at a place that the run may touch;
one file at most was fetched, and is where fetched files are put. -/
def Footprint (host : Host) (setup : Setup) (candidate : Candidate) (reports : List Path)
    (m m' : Machine) : Prop :=
  ∃ staged t t', Stages host setup.settings staged m.files t ∧
    ∀ q, m'.files.get? q ≠ m.files.get? q →
      Touches host setup candidate reports m staged t t' m' q

theorem Changes.touches (h : Changes host setup candidate reports m staged t t' m')
    (hq : m'.files.get? q ≠ m.files.get? q) :
    Touches host setup candidate reports m staged t t' m' q := by
  obtain ⟨files, hinner, hfiles⟩ := h.inner
  -- backwards through the three steps, to the last one that changed the place
  by_cases h₃ : m'.files.get? q = t'.get? q
  · by_cases h₂ : t'.get? q = t.get? q
    · have h₁ : t.get? q ≠ m.files.get? q := by rwa [← h₂, ← h₃]
      by_cases hs : staged = some q
      · exact .fetched hs
      · obtain ⟨dir, hdir, hnew⟩ := h.stages.off q hs h₁
        exact .stagingDir hdir hnew
    · obtain ⟨⟨file, hfile, target, hputs⟩, -⟩ := hinner.off q h₂
      exact .inner (hfiles file hfile) hputs
  · obtain ⟨report, hreport, hnew | hl⟩ := h.reports.off q h₃
    · exact .reportDir hreport hnew
    · exact .report hreport hl

theorem Changes.mono {more : List Path}
    (h : Changes host setup candidate reports m staged t t' m') (hr : reports ⊆ more) :
    Changes host setup candidate more m staged t t' m' :=
  ⟨h.stages, h.inner, h.reports.mono hr⟩

theorem Changes.footprint (h : Changes host setup candidate reports m staged t t' m') :
    Footprint host setup candidate reports m m' :=
  ⟨staged, t, t', h.stages, fun _ => h.touches⟩

/-- Nothing but fetching was done. -/
theorem changes_of_stages (hground : Grounded m.files) (hhere : m.files.get? host.here = some .dir)
    (h : Stages host setup.settings staged m.files m'.files) :
    Changes host setup candidate reports m staged m'.files m'.files m' := by
  have hground' := h.grounded hground hhere
  exact ⟨h, ⟨[], .refl hground' (h.keeps.dir hhere) _, nofun⟩, .refl host _ hground'⟩

/-- An engine changes no files, whatever becomes of its call. -/
theorem get?_of_callEngine {call : Call} {r : Except Failure ChangeModel}
    (hground : Grounded m.files) (h : (callEngine host setup call).on m = (r, m')) (q : Place) :
    m'.files.get? q = m.files.get? q := by
  rcases orFail_bind_cases h with ⟨fault, -, rfl, rfl⟩ | ⟨engine, -, h⟩
  · rfl
  · exact (engineRun_compare hground h).files q

/-- With an engine of the caller, calling it is all that is done. -/
theorem on_callEngine_given
    {f : FileTree → Path → Path → ExclusionList → Except Failure ChangeModel}
    (h : setup.engine? = some (.given f)) (call : Call) (m : Machine) :
    (callEngine host setup call).on m = (f m.files call.oldArchive call.newArchive call.exclusions,
      { m with calls := m.calls ++ [["compare", call.oldArchive.text, call.newArchive.text] ++
        call.exclusions.patterns] }) := by
  have hengine : setup.engine = .ok (.given f) := by rw [Setup.engine, h]
  rw [callEngine, on_bind_of_ok (orFail_eq_ok.2 ⟨hengine, rfl⟩), on_compare_given]

/-- What a comparison changes, whatever becomes of it. -/
theorem changes_compare {r : Except Failure Comparison} (hsound : host.Sound)
    (hground : Grounded m.files) (hhere : m.files.get? host.here = some .dir)
    (h : (compare host setup candidate).on m = (r, m')) :
    ∃ staged t, Changes host setup candidate [] m staged t m'.files m' ∧
      m'.files.get? host.here = some .dir := by
  -- a comparison that stops before the engine is prepared has fetched only
  have hstop : ∀ {found m₁}, (findFiles host setup candidate).on m = (found, m₁) →
      ∃ staged t, Changes host setup candidate [] m staged t m₁.files m₁ ∧
        m₁.files.get? host.here = some .dir := by
    intro found m₁ hfind
    obtain ⟨staged, hstages⟩ := (findRun_findFiles hsound hfind).stages
    exact ⟨staged, m₁.files, changes_of_stages hground hhere hstages, hstages.keeps.dir hhere⟩
  -- from there on files change by inner archives only
  have hdone : ∀ {newFile oldFile m₁} {m₂ : Machine},
      (findFiles host setup candidate).on m = (.ok (newFile, some oldFile), m₁) →
      Inner host [oldFile, newFile] m₁.files m₂.files →
      ∃ staged t, Changes host setup candidate [] m staged t m₂.files m₂ ∧
        m₂.files.get? host.here = some .dir := by
    intro newFile oldFile m₁ m₂ hfind hinner
    obtain ⟨staged, hstages⟩ := (findRun_findFiles hsound hfind).stages
    have hartifact : ∀ file ∈ [oldFile, newFile],
        IsArtifact host setup candidate m m₁.files file := by
      intro file hfile
      exact ⟨oldFile, newFile, m₁, hfind, rfl, by simpa using hfile⟩
    have hchanges : Changes host setup candidate [] m staged m₁.files m₂.files m₂ :=
      ⟨hstages, ⟨_, hinner, hartifact⟩, .refl host _ hinner.grounded⟩
    exact ⟨staged, m₁.files, hchanges, hinner.here⟩
  cases ends_compare h with
  | lost hfind => exact hstop hfind
  | missing hfind => exact hstop hfind
  | undecided hfind => exact hstop hfind
  | identical hfind => exact hstop hfind
  | unready hfind hready =>
    exact hdone hfind (inner_of_found hsound hground hhere hfind hready).2
  | reached hreaches hcall =>
    obtain ⟨-, hinner⟩ := inner_of_found hsound hground hhere hreaches.find hreaches.ready
    exact hdone hreaches.find (hinner.congr (get?_of_callEngine hinner.grounded hcall))

/-! ### The ends of a run -/

/-- Where the reports of a candidate are written. -/
def reportPaths (host : Host) (candidate : Candidate) : List Path :=
  [candidate.textReport.seenFrom host.workingDir, candidate.htmlReport.seenFrom host.workingDir]

/-- Both versions of a candidate can be read. -/
def Readable (candidate : Candidate) : Prop :=
  (∃ v, Version.parse candidate.oldVersion = .ok v) ∧
    ∃ v, Version.parse candidate.newVersion = .ok v

/-- How a run ends: with versions that cannot be read, in the comparison, or
after it, when reports were written or not. -/
inductive Ends (host : Host) (setup : Setup) (candidate : Candidate) (m : Machine) :
    Except Failure Outcome → Machine → Prop
  | unread {v : VersionError} : ¬ Readable candidate →
      Ends host setup candidate m (.error (.version v)) m
  | stopped {e : Failure} {m' : Machine} : Readable candidate →
      (compare host setup candidate).on m = (.error e, m') →
      Ends host setup candidate m (.error e) m'
  | compared {comparison : Comparison} {textReport htmlReport : Path} {m₁ m' : Machine}
      {written : Except Failure Unit} {r : Except Failure Outcome} : Readable candidate →
      (compare host setup candidate).on m = (.ok comparison, m₁) →
      [textReport, htmlReport] = reportPaths host candidate →
      (writeReports host comparison textReport htmlReport).on m₁ = (written, m') →
      (∀ e, r = .error e → written = .error e) →
      Ends host setup candidate m r m'

theorem ends_run {r : Except Failure Outcome}
    (h : (run host setup candidate).on m = (r, m')) : Ends host setup candidate m r m' := by
  rw [run, readVersion] at h
  rcases orFail_bind_cases h with ⟨v, hold, rfl, rfl⟩ | ⟨old, hold, h⟩
  · refine .unread ?_
    rintro ⟨⟨v', hv⟩, -⟩
    rw [hold] at hv
    cases hv
  rw [readVersion] at h
  rcases orFail_bind_cases h with ⟨v, hnew, rfl, rfl⟩ | ⟨new, hnew, h⟩
  · refine .unread ?_
    rintro ⟨-, v', hv⟩
    rw [hnew] at hv
    cases hv
  have hreadable : Readable candidate := ⟨⟨old, hold⟩, new, hnew⟩
  rcases on_bind_cases h with ⟨e, hcompare, rfl⟩ | ⟨comparison, m₁, hcompare, h⟩
  · exact .stopped hreadable hcompare
  rcases on_bind_cases h with ⟨e, hwrite, rfl⟩ | ⟨u, m₂, hwrite, h⟩
  · refine .compared hreadable hcompare rfl hwrite ?_
    rintro _ ⟨⟩
    rfl
  · -- the verdict does not fail once a comparison was made
    obtain ⟨v, hv⟩ := (compare_eq_ok_iff.1 hcompare).exists_verdict
    rw [hv] at h
    obtain ⟨rfl, rfl⟩ := Prod.mk.inj h
    refine .compared hreadable hcompare rfl hwrite ?_
    rintro e ⟨⟩

/-! ### The footprint of a run -/

/-- A version cannot be read, or the new artifact is not there. -/
def Unfit (host : Host) (candidate : Candidate) (m : Machine) : Prop :=
  ¬ Readable candidate ∨
    m.files.isFile host.here (newPath host candidate).text ≠ .ok true

/-- The engine was called, is one of the caller, and fails with a version
error itself. -/
def EngineBlames (host : Host) (setup : Setup) (candidate : Candidate) (m : Machine)
    (v : VersionError) : Prop :=
  ∃ f oldFile newFile m₁ call m₂, setup.engine? = some (.given f) ∧
    Reaches host setup candidate m oldFile newFile m₁ call m₂ ∧
    f m₂.files call.oldArchive call.newArchive call.exclusions = .error (.version v)

theorem unversioned_gather (host : Host) (candidate : Candidate) (oldFile newFile : Path) :
    Unversioned (gather host candidate oldFile newFile) :=
  (unversioned_normalize host oldFile).bind fun _ => (unversioned_normalize host newFile).bind
    fun _ => (unversioned_loadExclusions host _).bind fun _ => unversioned_pure _

/-- Versions are compared before anything is done for the engine. -/
theorem prepare_version {v : VersionError}
    (h : (prepare host candidate oldFile newFile).on m = (.error (.version v), m')) : m' = m := by
  rcases on_prepare host candidate oldFile newFile m with ⟨v', hv⟩ | ⟨-, hgather⟩
  · rw [hv] at h
    exact (Prod.mk.inj h).2.symm
  · rw [hgather] at h
    exact absurd h (unversioned_gather host candidate oldFile newFile m v m')

/-- A comparison that fails on the versions has fetched the old artifact, and
done nothing more. -/
theorem compare_version {v : VersionError} (hsound : host.Sound)
    (h : (compare host setup candidate).on m = (.error (.version v), m')) :
    ((∃ staged, Stages host setup.settings staged m.files m'.files) ∧ m'.calls = m.calls) ∨
      EngineBlames host setup candidate m v := by
  have hends := ends_compare h
  generalize hr : (Except.error (.version v) : Except Failure Comparison) = r at hends
  cases hends with
  | lost hfind =>
    obtain rfl := Except.error.inj hr
    exact absurd hfind (unversioned_findFiles host setup candidate m v m')
  | undecided _ hsame =>
    obtain rfl := Except.error.inj hr
    exact absurd hsame (unversioned_sameFiles host _ _ m' v m')
  | unready hfind hready =>
    obtain rfl := Except.error.inj hr
    obtain rfl := prepare_version hready
    have hfound := findRun_findFiles hsound hfind
    exact .inl ⟨hfound.stages, hfound.calls⟩
  | @reached newFile oldFile m₁ m₂ _ call model? hreaches hcall =>
    cases model? with
    | error e =>
      obtain rfl := Except.error.inj hr
      obtain ⟨f, hgiven, hf⟩ := given_of_callEngine hcall
      exact .inr ⟨f, oldFile, newFile, m₁, call, m₂, hgiven, hreaches, hf⟩
    | ok model => cases hr
  | _ => cases hr

/-- Without the new artifact a comparison does nothing. -/
theorem compare_of_absent {r : Except Failure Comparison} (hsound : host.Sound)
    (habsent : m.files.isFile host.here (newPath host candidate).text ≠ .ok true)
    (h : (compare host setup candidate).on m = (r, m')) : m' = m ∧ ∃ e, r = .error e := by
  rw [compare] at h
  rcases on_bind_cases h with ⟨e, hfind, rfl⟩ | ⟨found, m₁, hfind, -⟩
  · obtain ⟨-, rfl⟩ := (findRun_findFiles hsound hfind).absent habsent
    exact ⟨rfl, e, rfl⟩
  · obtain ⟨⟨e, he⟩, -⟩ := (findRun_findFiles hsound hfind).absent habsent
    cases he

/-- **The footprint of a run**, whatever becomes of it.  A run that fails in
the comparison touches no report, one that fails on the versions has only
fetched a file, and one without the new artifact does nothing at all. -/
theorem run_footprint {r : Except Failure Outcome} (hsound : host.Sound)
    (hground : Grounded m.files) (hhere : m.files.get? host.here = some .dir)
    (h : (run host setup candidate).on m = (r, m')) :
    Footprint host setup candidate (reportPaths host candidate) m m' ∧
    ((∀ comparison m₁, (compare host setup candidate).on m ≠ (.ok comparison, m₁)) →
      Footprint host setup candidate [] m m') ∧
    (Unfit host candidate m → (∃ e, r = .error e) ∧ m' = m) ∧
    (∀ v, r = .error (.version v) →
      ((∃ staged, Stages host setup.settings staged m.files m'.files) ∧ m'.calls = m.calls) ∨
        EngineBlames host setup candidate m v) := by
  cases ends_run h with
  | unread hreadable =>
    have hnone : ∀ reports, Footprint host setup candidate reports m m := fun reports =>
      (changes_of_stages hground hhere (.refl host setup.settings m.files)).footprint
    exact ⟨hnone _, fun _ => hnone _, fun _ => ⟨⟨_, rfl⟩, rfl⟩,
      fun _ _ => .inl ⟨⟨none, .refl host _ _⟩, rfl⟩⟩
  | stopped hreadable hcompare =>
    obtain ⟨staged, t, hchanges, -⟩ := changes_compare hsound hground hhere hcompare
    refine ⟨(hchanges.mono (by simp)).footprint, fun _ => hchanges.footprint, ?_, ?_⟩
    · rintro (hunread | habsent)
      · exact absurd hreadable hunread
      · exact ⟨⟨_, rfl⟩, (compare_of_absent hsound habsent hcompare).1⟩
    · rintro v ⟨⟩
      exact compare_version hsound hcompare
  | @compared comparison textReport htmlReport m₁ _ written _ hreadable hcompare hpaths hwrite
      hfails =>
    obtain ⟨staged, t, hchanges, hhere₁⟩ := changes_compare hsound hground hhere hcompare
    obtain ⟨-, hreports⟩ := reports_writeReports hchanges.reports.grounded hhere₁ hwrite
    have hall : Changes host setup candidate (reportPaths host candidate) m staged t m₁.files m' :=
      ⟨hchanges.stages, hchanges.inner, hpaths ▸ hreports⟩
    refine ⟨hall.footprint, fun hnot => absurd hcompare (hnot _ _), ?_, ?_⟩
    · rintro (hunread | habsent)
      · exact absurd hreadable hunread
      · obtain ⟨-, e, he⟩ := compare_of_absent hsound habsent hcompare
        cases he
    · intro v hv
      rw [hfails _ hv] at hwrite
      exact absurd hwrite (unversioned_writeReports host comparison _ _ m₁ v m')

/-! ### A staging directory behind a link -/

/-- A host at the root, whose server has an empty file at every address. -/
def emptyServer : Host := { Host.bare with server := fun _ _ => .response { status := 200 } }

/-- Fetched files are put behind a link, one directory up. -/
def upFromLink : Setup where
  settings := { stagingDir := some (.ofString "/link/../stage") }
  fetcher := .given

/-- The link leads to `/a/b`, and one directory up from there is no `stage`. -/
def linkedTree : Machine where
  files := ⟨[(["a"], .dir), (["b", "a"], .dir), (["link"], .link "/a/b"), (["stage"], .dir),
    (["lib.jar"], .file .empty)]⟩

theorem grounded_linkedTree : Grounded linkedTree.files := grounded_of_nodes (by decide)

/-- The run that fetches a file to the staging directory. -/
def linkedRun : Except Failure Outcome × Machine :=
  (run emptyServer upFromLink (buildAfter "http://h/old.jar")).on linkedTree

/-- What an outcome says of the files of both artifacts and of the reports. -/
def Outcome.places (o : Outcome) : List (Option String) :=
  [o.comparison.old.path.map Path.text, o.comparison.new.path.map Path.text,
    some o.textReport.text, some o.htmlReport.text]

theorem linkedRun_ends :
    linkedRun.1.toOption.map Outcome.places =
        some [some "/stage/bumpgate-00000001.jar", some "/lib.jar", some "/r.txt", some "/r.html"] ∧
      linkedRun.2.files.get? ["bumpgate-00000001.jar", "stage"] = some (.file .empty) ∧
      linkedRun.2.files.get? ["stage", "a"] = some .dir := by
  decide +kernel

theorem run_footprint_linkedTree : ∃ o, linkedRun.1 = .ok o ∧
    Footprint emptyServer upFromLink (buildAfter "http://h/old.jar")
      [.ofString "/r.txt", .ofString "/r.html"] linkedTree linkedRun.2 := by
  obtain ⟨o, ho, -⟩ := Option.map_eq_some_iff.1 linkedRun_ends.1
  have h := run_footprint ⟨by decide, by decide⟩ grounded_linkedTree rfl (rfl : _ = linkedRun)
  exact ⟨o, eq_ok_of_toOption ho, h.1⟩

/-! ### An engine that blames a version -/

/-- An engine of the caller that fails with a version error. -/
def blamingEngine : Setup where
  settings := {}
  engine? := some (.given fun _ _ _ _ => .error (.version (.unreadable "")))

/-- The run whose engine blames a version, with an Android archive to compare. -/
def blamedRun : Except Failure Outcome × Machine :=
  (run .bare blamingEngine (buildAfter "old.aar")).on (sideBySide "old.aar")

theorem blamedRun_ends : blamedRun = (.error (.version (.unreadable "")),
    { readyBeside "old.aar" with calls := [["compare", "/old.jar", "/lib.jar"]] }) := by
  have hreaches : Reaches .bare blamingEngine (buildAfter "old.aar") (sideBySide "old.aar")
      (.ofString "/old.aar") (.ofString "/lib.jar") (sideBySide "old.aar")
      ⟨.ofString "/old.jar", .ofString "/lib.jar", {}⟩ (readyBeside "old.aar") :=
    ⟨reaches_other_stem.find, reaches_other_stem.differ, reaches_other_stem.ready⟩
  have hprepares := prepares_of_ok hreaches.ready
  have hcalls : (readyBeside "old.aar").calls = [] := hprepares.trace.calls
  obtain ⟨old, new, -, hold, hnew, -⟩ := hprepares.versions
  have hcall : (callEngine .bare blamingEngine ⟨.ofString "/old.jar", .ofString "/lib.jar", {}⟩).on
      (readyBeside "old.aar") = (.error (.version (.unreadable "")),
        { readyBeside "old.aar" with calls := [["compare", "/old.jar", "/lib.jar"]] }) := by
    rw [on_callEngine_given rfl, hcalls]
    rfl
  have hcompare := hreaches.on_compare
  rw [hcall] at hcompare
  rw [blamedRun, run, readVersion, on_bind_of_ok (orFail_eq_ok.2 ⟨hold, rfl⟩), readVersion,
    on_bind_of_ok (orFail_eq_ok.2 ⟨hnew, rfl⟩)]
  exact on_bind_of_error hcompare

/-- Two exceptions to the plain picture of a footprint.  In the first run a
directory and a fetched file are new, and they are no inner archive and no
report: wherever the staging directory is, the new directory is not on the way
to it, or the file is not in it.  The second run ends with a version error of
its engine, which was called after the inner archive was put. -/
theorem footprint_exceptions :
    ((∃ o, linkedRun.1 = .ok o ∧ o.places =
        [some "/stage/bumpgate-00000001.jar", some "/lib.jar", some "/r.txt", some "/r.html"]) ∧
      linkedTree.files.get? ["stage", "a"] = none ∧
      linkedRun.2.files.get? ["stage", "a"] = some .dir ∧
      linkedTree.files.get? ["bumpgate-00000001.jar", "stage"] = none ∧
      linkedRun.2.files.get? ["bumpgate-00000001.jar", "stage"] = some (.file .empty) ∧
      ∀ d, ¬ (["stage", "a"] <:+ d ∧ ["bumpgate-00000001.jar", "stage"].tail = d)) ∧
    ∃ v, blamedRun.1 = .error (.version v) ∧
      (sideBySide "old.aar").files.get? ["old.jar"] = none ∧
      blamedRun.2.files.get? ["old.jar"] = some (.file .empty) ∧
      blamedRun.2.calls = [["compare", "/old.jar", "/lib.jar"]] := by
  constructor
  · obtain ⟨hplaces, hfetched, hmade⟩ := linkedRun_ends
    obtain ⟨o, ho, hplaces⟩ := Option.map_eq_some_iff.1 hplaces
    refine ⟨⟨o, eq_ok_of_toOption ho, hplaces⟩, rfl, hmade, rfl, hfetched, ?_⟩
    rintro d ⟨hway, rfl⟩
    exact absurd hway (by decide)
  · have hput : blamedRun.2.files.get? ["old.jar"] = some (.file .empty) := by
      rw [blamedRun_ends]
      decide +kernel
    refine ⟨.unreadable "", ?_, rfl, hput, ?_⟩
    · rw [blamedRun_ends]
    · rw [blamedRun_ends]

end ReleaseGate.Gate
