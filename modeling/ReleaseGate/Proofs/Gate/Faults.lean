/-
ReleaseGate/Proofs/Gate/Faults.lean

What each part of a run can fail with.

There is one list of causes for each part: for getting a local file
(`ResolveFault`), for normalizing an archive (`NormalizeFault`), for reading
exclusions, for the difference tool (`ToolFault`) and for writing reports.  A
cause says where it is found: in the request, in the bytes of a file, or in
the words of a server or a program.

Main results: `failsIn_resolve`, `failsIn_normalize`, `failsIn_compare`,
`failsIn_writeReports`.
-/
import ReleaseGate.Proofs.Failing
import ReleaseGate.Proofs.Gate.Engine
import ReleaseGate.Proofs.Gate.FindFiles
import ReleaseGate.Proofs.Gate.Reports

namespace ReleaseGate

open ReleaseGate.Action
open Failure (OnFiles)

/-! ### Getting a local file -/

namespace Artifacts

variable {host : Host} {settings : Settings} {fetcher : Fetcher} {location : String}
variable {m m' : Machine} {path : Path}

/-- There is a null character in the path of a fetched file, as it is put
together from the settings and the location. -/
def StagesNull (host : Host) (settings : Settings) (suffix : List Char) : Prop :=
  (settings.stagingDir.getD host.tempDir).HasNull ∨ host.workingDir.HasNull ∨ '\x00' ∈ suffix

/-- What getting a local file for a location can fail with. -/
inductive ResolveFault (host : Host) (settings : Settings) (fetcher : Fetcher) (location : String)
    (m : Machine) : Failure → Prop
  | location {fault : LocationError} : Location.split location.toList = .error fault →
      ResolveFault host settings fetcher location m (.location fault)
  | fetch (f : FetchError) : ResolveFault host settings fetcher location m (.fetch f)
  | files {l : Location} {e : Failure} : Location.split location.toList = .ok l →
      e.OnFiles (l.isRemote ∧ StagesNull host settings l.suffix) →
      ResolveFault host settings fetcher location m e
  | agent {l : Location} {fault : Text.AsciiFault} : Location.split location.toList = .ok l →
      l.isRemote → fetcher.client settings = .error fault →
      ResolveFault host settings fetcher location m (.notAscii fault)
  | stopped {l : Location} {client : Net.Client} {fault : Net.Fault}
      {sent : List Net.Request} : Location.split location.toList = .ok l → l.isRemote →
      fetcher.client settings = .ok client →
      Net.get host.library host.server client location m.requests = (.stopped fault, sent) →
      ResolveFault host settings fetcher location m (fetchFailure location fault)

theorem failsIn_findLocal : FailsIn (fun e => e.OnFiles False ∨ ∃ f, e = .fetch f)
    (findLocal host location path) m := by
  refine FailsIn.bind (failsIn_isFile.mono fun e h => .inl h) fun found m' _ => ?_
  cases found with
  | false => exact failsIn_throw (.inr ⟨_, rfl⟩)
  | true => exact failsIn_pure _

theorem failsIn_download {client : Net.Client} {target : Path} (hnull : ¬ target.HasNull) :
    FailsIn (fun e => e.OnFiles False ∨ (∃ f, e = .fetch f) ∨ ∃ fault sent,
      Net.get host.library host.server client location m.requests = (.stopped fault, sent) ∧
        e = fetchFailure location fault) (download host client location target) m := by
  intro e m' h
  rw [download, on_bind_of_ok (on_fetch host client location m)] at h
  rcases hget : Net.get host.library host.server client location m.requests with ⟨outcome, sent⟩
  rw [hget] at h
  rcases outcome with status | fault | content
  · obtain ⟨⟨⟩, -⟩ := h
    exact .inr (.inl ⟨_, rfl⟩)
  · obtain ⟨⟨⟩, -⟩ := h
    exact .inr (.inr ⟨fault, sent, rfl, rfl⟩)
  · refine .inl ((failsIn_store e m' h).mono fun hmem => ?_)
    exact hnull (Path.mem_text.1 hmem)

theorem failsIn_makeStagingDir :
    FailsIn (OnFiles (∃ dir, settings.stagingDir = some dir ∧ dir.HasNull))
      (makeStagingDir host settings) m := by
  unfold makeStagingDir
  split
  · next dir hdir =>
    exact failsIn_makeDirs.mono fun e h => h.mono fun hnull => ⟨dir, hdir, hnull⟩
  · exact failsIn_pure _

theorem failsIn_stage {l : Location} (hl : Location.split location.toList = .ok l)
    (hremote : l.isRemote) :
    FailsIn (ResolveFault host settings fetcher location m)
      (stage host settings fetcher location l.suffix) m := by
  have hfiles : ∀ {c : Prop} {e : Failure}, e.OnFiles c →
      (c → StagesNull host settings l.suffix) →
      ResolveFault host settings fetcher location m e :=
    fun he hc => .files hl (he.mono fun h => ⟨hremote, hc h⟩)
  refine FailsIn.bind (failsIn_makeStagingDir.mono fun e he => hfiles he ?_) fun _ m₁ hmake => ?_
  · rintro ⟨dir, hdir, hnull⟩
    exact .inl (by rwa [hdir])
  obtain ⟨made, t, hmade, -⟩ := on_makeStagingDir host settings m
  obtain ⟨-, rfl⟩ := Prod.mk.inj (hmade.symm.trans hmake)
  refine FailsIn.bind (failsIn_createFresh.mono fun e he => hfiles he ?_) fun temp m₂ htemp => ?_
  · rintro (hdir | hstart | hsuffix)
    · rcases hdir.of_collapsed.of_seenFrom with hnull | hnull
      · exact .inr (.inl hnull)
      · exact .inl hnull
    · exact absurd hstart (by decide)
    · exact .inr (.inr hsuffix)
  -- nothing was sent before the file is fetched
  have hrequests : m₂.requests = m.requests := (createFresh_eq_ok htemp).2.2.requests
  have hnull := not_hasNull_of_createFresh htemp
  refine FailsIn.bind (failsIn_orFail fun fault h => .agent hl hremote h) fun client m₃ hmade => ?_
  obtain ⟨hclient, rfl⟩ := orFail_eq_ok.1 hmade
  refine FailsIn.bind ?_ fun _ _ _ => failsIn_pure _
  refine FailsIn.orElseDo ((failsIn_download hnull).mono ?_) fun m₄ => ?_
  · rintro e (he | ⟨f, rfl⟩ | ⟨fault, sent, hget, rfl⟩)
    · exact hfiles he False.elim
    · exact .fetch f
    · rw [hrequests] at hget
      exact .stopped hl hremote hclient hget
  · exact failsIn_unlink.mono fun e he => hfiles he fun hmem =>
      absurd (Path.mem_text.1 hmem) hnull

/-- **A local file** for a location is not had for one of these causes. -/
theorem failsIn_resolve :
    FailsIn (ResolveFault host settings fetcher location m)
      (resolve host settings fetcher location) m := by
  refine FailsIn.bind (failsIn_orFail fun fault h => .location h) fun l m₁ hsplit => ?_
  obtain ⟨hl, rfl⟩ := orFail_eq_ok.1 hsplit
  have hlocal : ∀ path, FailsIn (ResolveFault host settings fetcher location m₁)
      (findLocal host location path) m₁ := by
    intro path
    refine failsIn_findLocal.mono ?_
    rintro e (he | ⟨f, rfl⟩)
    · exact .files hl (he.mono False.elim)
    · exact .fetch f
  split
  · exact hlocal _
  split
  · exact hlocal _
  split
  · next hremote => exact failsIn_stage hl hremote
  · exact failsIn_throw (.fetch _)

/-- That nothing is at a location may be no failure; any other failure is the
same. -/
theorem failsIn_resolve? {P : Failure → Prop}
    (h : FailsIn P (resolve host settings fetcher location) m) :
    FailsIn P (resolve? host settings fetcher location) m := by
  intro e m' he
  change (lookFor host settings fetcher location true).on m = _ at he
  obtain ⟨found, hresolve, hr⟩ := lookFor_cases he
  rcases hr with hr | ⟨-, ⟨⟩, -⟩
  rcases found with e₁ | path
  · obtain rfl := Except.error.inj hr
    exact h e m' hresolve
  · cases hr

end Artifacts

/-! ### Normalizing an archive -/

namespace AndroidArchive

variable {host : Host} {path target : Path} {m m' : Machine}

/-- The inner archive cannot be had from some bytes, for a reason. -/
def Unreadable (reader : Archive.Reader) (data : ByteArray) (e : Archive.ZipError) : Prop :=
  Archive.directory data = .error e ∨
    ∃ members entry, Archive.directory data = .ok members ∧
      Archive.member? members classEntry = some entry ∧
      Archive.contents reader data entry = .error e

/-- What normalizing an archive can fail with. -/
inductive NormalizeFault (host : Host) (path : Path) (m : Machine) : Failure → Prop
  | android (fault : AndroidFault) : NormalizeFault host path m (.android path fault)
  | files {e : Failure} : e.OnFiles (path.HasNull ∨ host.workingDir.HasNull) →
      NormalizeFault host path m e
  | zip {data : ByteArray} {e : Archive.ZipError} : isAndroid path = true →
      m.files.read host.here path.text = .ok data → Unreadable host.archives data e →
      NormalizeFault host path m (zipFailure path e)

theorem failsIn_place {temp : Path} {content : Except Failure ByteArray} {P : Failure → Prop}
    (hfiles : ∀ {e : Failure}, e.OnFiles (temp.HasNull ∨ target.HasNull) → P e)
    (hcontent : ∀ e, content = .error e → P e) : FailsIn P (place host temp target content) m := by
  refine FailsIn.bind (failsIn_orFail hcontent) fun classes m₁ _ => ?_
  refine FailsIn.bind (failsIn_store.mono fun e he => hfiles (he.mono fun hmem => ?_)) ?_
  · exact .inl (Path.mem_text.1 hmem)
  · refine fun _ m₂ _ => failsIn_changeFiles fun fault h => hfiles fun he => ?_
    exact (FileTree.mem_of_move h he).imp Path.mem_text.1 Path.mem_text.1

theorem failsIn_extract (ha : isAndroid path = true) (ht : normalPath? path = some target) :
    FailsIn (NormalizeFault host path m) (extract host path target) m := by
  have htarget : target.HasNull → path.HasNull := fun h => h.of_withSuffix? ht (by decide)
  refine FailsIn.bind (failsIn_load.mono fun e he => .files (he.mono fun hmem => ?_)) ?_
  · exact .inl (Path.mem_text.1 hmem)
  intro data m₁ hload
  obtain ⟨hread, rfl⟩ := load_eq_ok.1 hload
  refine FailsIn.bind (failsIn_orFail fun e he => ?_) fun members m₂ hmade => ?_
  · exact .zip ha hread (.inl he)
  obtain ⟨hdirectory, rfl⟩ := orFail_eq_ok.1 hmade
  rcases hmember : Archive.member? members classEntry with - | entry
  · exact failsIn_throw (.android .noClasses)
  refine FailsIn.bind (failsIn_createFresh.mono fun e he => .files (he.mono ?_)) ?_
  · -- the temporary file is put beside the inner archive, under its name
    rintro (hdir | hbefore | hafter)
    · rcases hdir.of_collapsed.of_seenFrom with hnull | hnull
      · exact .inr hnull
      · exact .inl (htarget hnull.of_parent)
    · have hname : '\x00' ∈ target.name := by
        simpa using hbefore
      refine .inl (htarget ?_)
      by_contra hnull
      exact Path.notMem_name (fun n hn h => hnull ⟨n, hn, h⟩) hname
    · exact absurd hafter (by decide)
  intro temp m₃ htemp
  have hnull := not_hasNull_of_createFresh htemp
  refine FailsIn.orElseDo (failsIn_place ?_ ?_) fun m₄ => ?_
  · intro e he
    exact .files (he.mono fun h => .inl (htarget (h.resolve_left hnull)))
  · intro e he
    rcases hc : Archive.contents host.archives data entry with fault | content
    · rw [hc] at he
      obtain rfl := Except.error.inj he
      exact .zip ha hread (.inr ⟨members, entry, hdirectory, hmember, hc⟩)
    · rw [hc] at he
      cases he
  · exact failsIn_unlink.mono fun e he => .files (he.mono fun hmem =>
      absurd (Path.mem_text.1 hmem) hnull)

/-- **Normalizing** fails for one of these causes. -/
theorem failsIn_normalize : FailsIn (NormalizeFault host path m) (normalize host path) m := by
  unfold normalize
  split
  · next target ha ht => exact (failsIn_extract ha ht).bind fun _ _ _ => failsIn_pure _
  · exact failsIn_pure _

end AndroidArchive

/-! ### The difference tool -/

namespace DiffTool

variable {host : Host} {tool : DiffTool} {old new : Path} {exclusions : ExclusionList}
variable {m : Machine}

/-- What comparing two archives with the tool can fail with. -/
inductive ToolFault (host : Host) (tool : DiffTool) (old new : Path) (exclusions : ExclusionList) :
    Failure → Prop
  | engine (fault : EngineFault) : ToolFault host tool old new exclusions (.engine fault)
  | files {e : Failure} : e.OnFiles host.tempDir.HasNull →
      ToolFault host tool old new exclusions e
  /-- There is a null character in the command. -/
  | command {report : Path} :
      host.process (tool.command old new exclusions report) = .nullCharacter →
      ToolFault host tool old new exclusions (.file ⟨.nullCharacter, none, none⟩)
  /-- What the tool has written is no text. -/
  | written {report : Path} {status : Int} {errors output : Written}
      {content? : Option ByteArray} {fault : Text.Utf8.Fault} :
      host.process (tool.command old new exclusions report) =
        .exited status errors content? output →
      readErrors output errors = .error fault →
      ToolFault host tool old new exclusions (.utf8 fault)
  /-- The report of the tool is no text. -/
  | report {report : Path} {errors output : Written} {content : ByteArray}
      {fault : Text.Utf8.Fault} :
      host.process (tool.command old new exclusions report) =
        .exited 0 errors (some content) output →
      Text.Utf8.decode content.toList = .error fault →
      ToolFault host tool old new exclusions (.utf8 fault)

/-- A run fails for reasons of its own or of files, or for what stands in its
command, or else something that should be a text is none. -/
theorem failsIn_run {P : Failure → Prop} {command : List String} {report : Path}
    (hengine : ∀ fault, P (.engine fault))
    (hfiles : ∀ {e : Failure}, e.OnFiles report.HasNull → P e)
    (hcommand : host.process command = .nullCharacter → P (.file ⟨.nullCharacter, none, none⟩))
    (hwritten : ∀ {status errors content? output fault},
      host.process command = .exited status errors content? output →
      readErrors output errors = .error fault → P (.utf8 fault))
    (htext : ∀ {errors content? output m' content fault},
      host.process command = .exited 0 errors content? output →
      (keepReport host report content?).on { m with calls := m.calls ++ [command] } =
        (.ok (), m') →
      m'.files.read host.here report.text = .ok content →
      Text.Utf8.decode content.toList = .error fault → P (.utf8 fault)) :
    FailsIn P (tool.run host command report) m := by
  unfold run
  rcases hp : host.process command with - | ⟨number, text⟩ | - | ⟨status, errors, content?, output⟩
  · exact failsIn_throw (hengine _)
  · refine FailsIn.bind (fun e m' h => ?_) fun _ _ _ => failsIn_throw (hengine _)
    cases h
  · exact failsIn_throw (hcommand hp)
  refine FailsIn.bind (fun e m' h => ?_) fun _ m₁ hcall => ?_
  · cases h
  obtain ⟨-, rfl⟩ := Prod.mk.inj hcall
  refine FailsIn.bind ?_ fun _ m₂ hkeep => ?_
  · cases content? with
    | none => exact failsIn_pure _
    | some content => exact failsIn_store.mono fun e he => hfiles (he.mono Path.mem_text.1)
  refine FailsIn.bind (failsIn_orFail fun fault h => hwritten hp h) fun shown m₃ hshown => ?_
  obtain ⟨-, rfl⟩ := orFail_eq_ok.1 hshown
  split
  · next hstatus =>
    subst hstatus
    refine FailsIn.bind (failsIn_isFile.mono fun e he => hfiles (he.mono False.elim)) ?_
    intro found m₄ hfound
    obtain ⟨hfile, rfl⟩ := isFile_eq_ok.1 hfound
    cases found with
    | false => exact failsIn_throw (hengine _)
    | true =>
      refine FailsIn.bind (failsIn_loadText.mono ?_) fun _ _ _ => failsIn_orFail fun x _ =>
        hengine _
      rintro e (he | ⟨content, fault, hread, hfault, rfl⟩)
      · exact hfiles (he.mono Path.mem_text.1)
      · exact htext hp hkeep hread hfault
  · exact failsIn_throw (hengine _)

/-- Around the run, only the directory of the tool can fail. -/
theorem failsIn_compare_of_run {P : Failure → Prop}
    (hfiles : ∀ {e : Failure}, e.OnFiles host.tempDir.HasNull → P e)
    (hrun : ∀ {dir m'}, (newTempDir host "bumpgate-japicmp-".toList).on m = (.ok dir, m') →
      FailsIn P (tool.run host (tool.command old new exclusions (reportIn dir)) (reportIn dir)) m') :
    FailsIn P (tool.compare host old new exclusions) m := by
  refine FailsIn.bind (failsIn_createFresh.mono fun e he => hfiles (he.mono ?_)) ?_
  · rintro (hdir | hbefore | hafter)
    · exact hdir
    · exact absurd hbefore (by decide)
    · exact absurd hafter (by decide)
  intro dir m₁ hdir
  have hnull := not_hasNull_of_createFresh hdir
  have hclear : ∀ m', FailsIn P (Action.clear host dir.text) m' := fun m' =>
    failsIn_clear.mono fun e he => hfiles (he.mono fun hmem =>
      absurd (Path.mem_text.1 hmem) hnull)
  refine FailsIn.bind ((hrun hdir).orElseDo hclear) fun model m₂ _ => ?_
  exact (hclear m₂).bind fun _ _ _ => failsIn_pure _

/-- In a new directory there is no report yet. -/
theorem read_reportIn_ne {d : Path} {n : List Char} {f : Place} {t t' : FileTree}
    (hn : Path.IsFileName n) (htemp : HasTempDir host (d.child n) t f t')
    (hnone : t'.get? ("japicmp.xml" :: f) = none) (content : ByteArray) :
    t'.read host.here (reportIn (d.child n)).text ≠ .ok content := by
  intro hread
  have hname : Path.IsFileName "japicmp.xml".toList := ⟨by decide, by decide⟩
  obtain ⟨q, hq, hg⟩ := FileTree.read_eq_ok.1 hread
  obtain rfl := locate_child_of_none hn hname (by decide) (by decide) (htemp.locate_now true)
    hnone hq
  cases hg.symm.trans hnone

/-- **The tool** fails for one of these causes. -/
theorem failsIn_compare (hground : FileTree.Grounded m.files) :
    FailsIn (ToolFault host tool old new exclusions) (tool.compare host old new exclusions) m := by
  refine failsIn_compare_of_run .files fun hdir => ?_
  have hnull := not_hasNull_of_createFresh hdir
  obtain ⟨⟨number, rfl⟩, hadd, -⟩ := createFresh_eq_ok hdir
  obtain ⟨f, htemp, hedit⟩ := hasTempDir_add hadd
  have hname : Path.IsFileName (freshName "bumpgate-japicmp-".toList [] number) :=
    isFileName_freshName (by decide) (by decide) number
  refine failsIn_run .engine (fun he => .files (he.mono fun h => ?_)) .command .written ?_
  · exact absurd ((Path.hasNull_child.1 h).resolve_right (by decide)) hnull
  intro errors content? output m₂ content fault hprocess hkeep hread hfault
  have hnone : _ = none := (hedit.off _ (by simp)).trans
    (hground.eq_none_of_suffix (by simp [htemp.free]) (List.suffix_cons "japicmp.xml" f) (by simp))
  have hbefore := read_reportIn_ne hname htemp hnone
  -- what is read is what the tool has written
  cases content? with
  | none =>
    obtain ⟨-, rfl⟩ := Prod.mk.inj hkeep
    exact absurd hread (hbefore content)
  | some written =>
    obtain ⟨t, hwrite, rfl⟩ := changeFiles_eq_ok.1 hkeep
    obtain ⟨q, -, -, hput⟩ := FileTree.write_eq_ok hwrite
    rcases hput.read_inv hread with rfl | hold
    · exact .report hprocess hfault
    · exact absurd hold (hbefore content)

end DiffTool

/-! ### Exclusions and reports -/

namespace Gate

variable {host : Host} {setup : Setup} {m : Machine} {comparison : Comparison}
variable {textReport htmlReport : Path}

/-- What reading the exclusions can fail with. -/
inductive ExclusionsFault (host : Host) (path : Path) (m : Machine) : Failure → Prop
  | files {e : Failure} : e.OnFiles path.HasNull → ExclusionsFault host path m e
  /-- The file is no text. -/
  | text {content : ByteArray} {fault : Text.Utf8.Fault} :
      m.files.read host.here path.text = .ok content →
      Text.Utf8.decode content.toList = .error fault →
      ExclusionsFault host path m (.utf8 fault)

theorem failsIn_loadExclusions {path? : Option Path} :
    FailsIn (fun e => ∃ path, path? = some path ∧ ExclusionsFault host path m e)
      (loadExclusions host path?) m := by
  cases path? with
  | none => exact failsIn_pure _
  | some path =>
    refine FailsIn.bind (failsIn_loadText.mono ?_) fun _ _ _ => failsIn_pure _
    rintro e (he | ⟨content, fault, hread, hfault, rfl⟩)
    · exact ⟨path, rfl, .files (he.mono Path.mem_text.1)⟩
    · exact ⟨path, rfl, .text hread hfault⟩

/-- **Writing reports** fails for reasons of files only. -/
theorem failsIn_writeReports :
    FailsIn (OnFiles (textReport.HasNull ∨ htmlReport.HasNull))
      (writeReports host comparison textReport htmlReport) m := by
  have hwrite : ∀ (path : Path) (report : String) (m : Machine),
      FailsIn (OnFiles path.HasNull) (writeReport host path report) m := by
    intro path report m
    refine FailsIn.bind ?_ fun _ _ _ => ?_
    · exact failsIn_makeDirs.mono fun e he => he.mono Path.HasNull.of_parent
    · exact failsIn_store.mono fun e he => he.mono Path.mem_text.1
  refine FailsIn.bind ?_ fun _ _ _ => ?_
  · exact (hwrite textReport _ m).mono fun e he => he.mono .inl
  · exact (hwrite htmlReport _ _).mono fun e he => he.mono .inr

/-! ### Engines of the caller -/

theorem engine?_of_given
    {f : FileTree → Path → Path → ExclusionList → Except Failure ChangeModel}
    (h : setup.engine = .ok (.given f)) : setup.engine? = some (.given f) := by
  rw [Setup.engine] at h
  rcases he : setup.engine? with - | engine
  · rw [he, DiffTool.ofSettings] at h
    cases hjar : setup.settings.toolJar with
    | none =>
      rw [hjar] at h
      cases h
    | some jar =>
      rw [hjar] at h
      cases h
  · rw [he] at h
    rw [Except.ok.inj h]

end Gate

end ReleaseGate
