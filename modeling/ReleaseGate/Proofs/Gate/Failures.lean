/-
ReleaseGate/Proofs/Gate/Failures.lean

What a run fails with, and what its caller can tell of it.

A failure is published if it has a code of its own or is an error of the
system (`Failure.isPublished`).  These are what a caller is told to expect.
Not every failure is one of them: `Strays` lists the others, each with the
part of the request, the file, the server or the program that it comes from.
The list is complete and has no published failure on it, so it says exactly
which failures reach a caller without a code.

Design.  Each part of a run comes with its own list of causes; what is left
to do is to send the causes of a part to those of the run.  Two causes on the
lists of the parts do not occur: artifacts that were found have no null
character in their paths, and their real places are no loops of links.

Main results: `published_iff_not_strays`, `not_published_of_badData`.
-/
import ReleaseGate.Proofs.Gate.Faults
import ReleaseGate.Proofs.Gate.Outcome
import ReleaseGate.Proofs.Releases

namespace ReleaseGate

/-! ### Published failures -/

namespace Failure

/-- An error that the system counts. -/
def isSystem : Failure → Bool
  | .file e => e.fault.entry?.isSome
  | .zip .negativePosition => true
  | .foreign _ _ standing => standing = .system
  | _ => false

/-- A failure that a caller is told to expect: it has a code, or it is an
error of the system. -/
def isPublished (e : Failure) : Bool := e.code?.isSome || e.isSystem

end Failure

namespace Gate

open ReleaseGate.Action AndroidArchive Artifacts
open FileTree hiding resolve
open Failure (OnFiles)

variable {host : Host} {setup : Setup} {candidate : Candidate} {m m' m₁ m₂ : Machine}
variable {oldFile newFile : Path} {e : Failure}

/-! ### Failures without a code -/

/-- There is a null character in a path that the run is given, or in the
suffix of a location that is fetched. -/
def GivenNull (host : Host) (setup : Setup) (candidate : Candidate) : Prop :=
  (∃ p ∈ [host.workingDir, host.tempDir, candidate.textReport, candidate.htmlReport] ++
      setup.settings.stagingDir.toList ++ candidate.exclusionFile.toList, p.HasNull) ∨
    ∃ l, Location.split candidate.oldLocation.toList = .ok l ∧ l.isRemote ∧ '\x00' ∈ l.suffix

/-- The file of an artifact, and the machine on which it is normalized, the
old artifact first. -/
inductive Normalized (host : Host) (setup : Setup) (candidate : Candidate) (m : Machine) :
    Path → Machine → Prop
  | old {oldFile newFile : Path} {m₁ : Machine} :
      (findFiles host setup candidate).on m = (.ok (newFile, some oldFile), m₁) →
      Normalized host setup candidate m oldFile m₁
  | new {oldFile newFile archive : Path} {m₁ m₂ : Machine} :
      (findFiles host setup candidate).on m = (.ok (newFile, some oldFile), m₁) →
      (normalize host oldFile).on m₁ = (.ok archive, m₂) →
      Normalized host setup candidate m newFile m₂

/-- The failures that have no code and are no errors of the system, and where
each of them comes from. -/
inductive Strays (host : Host) (setup : Setup) (candidate : Candidate) (m : Machine) :
    Failure → Prop
  /-- A version has a component of too many digits. -/
  | digits {text : String} {count : Nat} : text ∈ [candidate.oldVersion, candidate.newVersion] →
      Version.parse text = .error (.tooManyDigits count) →
      Strays host setup candidate m (.version (.tooManyDigits count))
  /-- The text of a location cannot be taken apart. -/
  | location {text : String} {fault : LocationError} :
      text ∈ [(candidate.newFile.seenFrom host.workingDir).text, candidate.oldLocation] →
      Location.split text.toList = .error fault →
      Strays host setup candidate m (.location fault)
  /-- A null character stands in a path. -/
  | null {e : FileError} : e.fault = .nullCharacter → GivenNull host setup candidate →
      Strays host setup candidate m (.file e)
  /-- The name that servers are told is not ASCII. -/
  | agent {l : Location} {fault : Text.AsciiFault} :
      Location.split candidate.oldLocation.toList = .ok l → l.isRemote →
      setup.fetcher.client setup.settings = .error fault →
      Strays host setup candidate m (.notAscii fault)
  /-- No request can be sent to the old location, or to where a server sends
  the client. -/
  | address {l : Location} {client : Net.Client} {fault : Net.UrlError}
      {sent : List Net.Request} :
      Location.split candidate.oldLocation.toList = .ok l → l.isRemote →
      setup.fetcher.client setup.settings = .ok client →
      Net.get host.library host.server client candidate.oldLocation m.requests =
        (.stopped (.refused fault), sent) →
      Strays host setup candidate m (.address fault)
  /-- Sending requests fails in a way that the library does not count as a
  failed request. -/
  | request {l : Location} {client : Net.Client} {e : LibraryError}
      {sent : List Net.Request} :
      Location.split candidate.oldLocation.toList = .ok l → l.isRemote →
      setup.fetcher.client setup.settings = .ok client →
      Net.get host.library host.server client candidate.oldLocation m.requests =
        (.stopped (.foreign e), sent) →
      e.standing ≠ .system → Strays host setup candidate m (.ofLibrary e)
  /-- An Android archive cannot be read, though it is built as it should be. -/
  | archive {file : Path} {m₁ : Machine} {data : ByteArray} {e : Archive.ZipError} :
      Normalized host setup candidate m file m₁ → isAndroid file = true →
      m₁.files.read host.here file.text = .ok data → Unreadable host.archives data e →
      e.isStructural = false → e ≠ .negativePosition → (∀ x, e ≠ .library x) →
      Strays host setup candidate m (.zip e)
  /-- What reading an Android archive rests on fails: a decoder, or a position
  that no file has. -/
  | reading {file : Path} {m₁ : Machine} {data : ByteArray} {e : LibraryError} :
      Normalized host setup candidate m file m₁ → isAndroid file = true →
      m₁.files.read host.here file.text = .ok data →
      Unreadable host.archives data (.library e) → e.standing ≠ .system →
      Strays host setup candidate m (.ofLibrary e)
  /-- The exclusion file is no text. -/
  | exclusions {oldFile newFile oldArchive newArchive path : Path} {m₁ m₂ m₃ : Machine}
      {content : ByteArray} {fault : Text.Utf8.Fault} :
      (findFiles host setup candidate).on m = (.ok (newFile, some oldFile), m₁) →
      (normalize host oldFile).on m₁ = (.ok oldArchive, m₂) →
      (normalize host newFile).on m₂ = (.ok newArchive, m₃) →
      candidate.exclusionFile = some path →
      m₃.files.read host.here (path.seenFrom host.workingDir).text = .ok content →
      Text.Utf8.decode content.toList = .error fault →
      Strays host setup candidate m (.utf8 fault)
  /-- There is a null character in the command of the difference tool. -/
  | command {tool : DiffTool} {old new report : Path} {exclusions : ExclusionList} :
      setup.engine = .ok (.tool tool) →
      host.process (tool.command old new exclusions report) = .nullCharacter →
      Strays host setup candidate m (.file ⟨.nullCharacter, none, none⟩)
  /-- What the difference tool has written is no text. -/
  | written {tool : DiffTool} {old new report : Path} {exclusions : ExclusionList} {status : Int}
      {errors output : Written} {content? : Option ByteArray} {fault : Text.Utf8.Fault} :
      setup.engine = .ok (.tool tool) →
      host.process (tool.command old new exclusions report) =
        .exited status errors content? output →
      DiffTool.readErrors output errors = .error fault →
      Strays host setup candidate m (.utf8 fault)
  /-- The report of the difference tool is no text. -/
  | report {tool : DiffTool} {old new report : Path} {exclusions : ExclusionList}
      {errors output : Written} {content : ByteArray} {fault : Text.Utf8.Fault} :
      setup.engine = .ok (.tool tool) →
      host.process (tool.command old new exclusions report) =
        .exited 0 errors (some content) output →
      Text.Utf8.decode content.toList = .error fault →
      Strays host setup candidate m (.utf8 fault)

/-- An error of a library is published only as an error of the system. -/
theorem isPublished_ofLibrary (e : LibraryError) :
    (Failure.ofLibrary e).isPublished = true ↔ e.standing = .system := by
  simp [Failure.isPublished, Failure.ofLibrary, Failure.code?, Failure.isSystem]

/-- The failure is published, or on the list. -/
def Known (host : Host) (setup : Setup) (candidate : Candidate) (m : Machine) (e : Failure) :
    Prop :=
  e.isPublished = true ∨ Strays host setup candidate m e

theorem known_of_files {c : Prop} (h : e.OnFiles c) (hc : c → GivenNull host setup candidate) :
    Known host setup candidate m e := by
  cases e with
  | file fault =>
    by_cases hnull : fault.fault = .nullCharacter
    · exact .inr (.null hnull (hc (h hnull)))
    · left
      obtain ⟨kind, path, target⟩ := fault
      cases kind with
      | nullCharacter => exact absurd rfl hnull
      | _ => rfl
  | _ => exact h.elim

/-! ### The parts of a run -/

/-- Which version it is that cannot be read decides what is said of it. -/
theorem failsIn_readVersion {text : String}
    (htext : text ∈ [candidate.oldVersion, candidate.newVersion]) :
    FailsIn (Known host setup candidate m) (readVersion text) m₁ := by
  refine failsIn_orFail fun fault h => ?_
  cases fault with
  | unreadable => exact .inl rfl
  | tooManyDigits count => exact .inr (.digits htext h)
  | decreasing => exact .inl rfl

theorem known_ofLibrary {e : LibraryError}
    (h : e.standing ≠ .system → Strays host setup candidate m (.ofLibrary e)) :
    Known host setup candidate m (.ofLibrary e) := by
  by_cases hsystem : e.standing = .system
  · exact .inl ((isPublished_ofLibrary e).2 hsystem)
  · exact .inr (h hsystem)

/-- The new artifact is a local file. -/
theorem failsIn_findNew (hsound : host.Sound) :
    FailsIn (Known host setup candidate m) (findNew host setup candidate) m₁ := by
  have hlocal : ∀ {l}, Location.split (candidate.newFile.seenFrom host.workingDir).text.toList =
      .ok l → ¬ l.isRemote := by
    intro l hl hremote
    have hslash := Path.head?_text (Path.isAbsolute_seenFrom candidate.newFile hsound.absolute)
    have hscheme : l.scheme = [] := List.isEmpty_iff.1 (isLocal_of_slash hslash hl)
    rw [Location.isRemote, hscheme] at hremote
    exact absurd hremote (by decide)
  refine failsIn_resolve.mono ?_
  intro e h
  cases h with
  | location hsplit => exact .inr (.location (by simp) hsplit)
  | fetch => exact .inl rfl
  | files hl he => exact known_of_files he fun h => absurd h.1 (hlocal hl)
  | agent hl hremote => exact absurd hremote (hlocal hl)
  | stopped hl hremote => exact absurd hremote (hlocal hl)

theorem failsIn_findOld :
    FailsIn (Known host setup candidate m) (findOld host setup candidate) m := by
  have hresolve : FailsIn (Known host setup candidate m)
      (resolve host setup.settings setup.fetcher candidate.oldLocation) m := by
    refine failsIn_resolve.mono ?_
    intro e h
    cases h with
    | location hsplit => exact .inr (.location (by simp) hsplit)
    | fetch => exact .inl rfl
    | agent hl hremote hagent => exact .inr (.agent hl hremote hagent)
    | @stopped l client fault sent hl hremote hclient hget =>
      cases fault with
      | failed message => exact .inl rfl
      | refused fault => exact .inr (.address hl hremote hclient hget)
      | foreign e => exact known_ofLibrary (.request hl hremote hclient hget)
    | @files l e hl he =>
      refine known_of_files he ?_
      rintro ⟨hremote, hdir | hhere | hsuffix⟩
      · refine .inl ?_
        cases hstaging : setup.settings.stagingDir with
        | none =>
          rw [hstaging] at hdir
          exact ⟨host.tempDir, by simp, hdir⟩
        | some dir =>
          rw [hstaging] at hdir
          exact ⟨dir, by simp, hdir⟩
      · exact .inl ⟨host.workingDir, by simp, hhere⟩
      · exact .inr ⟨l, hl, hremote, hsuffix⟩
  unfold findOld
  split
  · exact failsIn_resolve? hresolve
  · exact hresolve.map some

/-- Looking for the artifacts fails in a way that is known. -/
theorem failsIn_findFiles (hsound : host.Sound) :
    FailsIn (Known host setup candidate m) (findFiles host setup candidate) m := by
  refine FailsIn.bind (failsIn_findNew hsound) fun newFile m₁ hnew => ?_
  obtain ⟨r, hfind, -⟩ := on_findNew setup candidate hsound m
  obtain ⟨-, rfl⟩ := Prod.mk.inj (hfind.symm.trans hnew)
  exact FailsIn.bind failsIn_findOld fun _ _ _ => failsIn_pure _

/-- An artifact that can be read has no null character in its path. -/
theorem not_hasNull_of_read {path : Path} {content : ByteArray}
    (h : m.files.read host.here path.text = .ok content) : ¬ path.HasNull := by
  obtain ⟨p, hp, -⟩ := read_eq_ok.1 h
  exact fun hnull => notMem_of_locate hp (Path.mem_text.2 hnull)

/-- Only an error of a library is passed on as it is. -/
theorem zipFailure_of_ne {path : Path} {fault : Archive.ZipError}
    (h : ∀ x, fault ≠ .library x) : zipFailure path fault =
      if fault.isStructural then .android path (.notZip fault) else .zip fault := by
  cases fault with
  | library x => exact absurd rfl (h x)
  | _ => rfl

theorem failsIn_normalize_artifact {file : Path} (hfile : Normalized host setup candidate m file m₁)
    (hnull : ¬ file.HasNull) :
    FailsIn (Known host setup candidate m) (normalize host file) m₁ := by
  refine failsIn_normalize.mono ?_
  intro e h
  cases h with
  | android => exact .inl rfl
  | files he =>
    refine known_of_files he fun h => ?_
    exact .inl ⟨host.workingDir, by simp, h.resolve_left hnull⟩
  | @zip data fault ha hread hunreadable =>
    by_cases hlibrary : ∃ x, fault = .library x
    · obtain ⟨x, rfl⟩ := hlibrary
      exact known_ofLibrary (.reading hfile ha hread hunreadable)
    rw [zipFailure_of_ne (not_exists.1 hlibrary)]
    by_cases hstructural : fault.isStructural = true
    · rw [if_pos hstructural]
      exact .inl rfl
    rw [if_neg hstructural]
    by_cases hne : fault = .negativePosition
    · subst hne
      exact .inl rfl
    · exact .inr (.archive hfile ha hread hunreadable (Bool.eq_false_iff.2 hstructural) hne
        (not_exists.1 hlibrary))

/-- Getting ready for the engine fails in a way that is known. -/
theorem failsIn_prepare {x y : ByteArray}
    (hfind : (findFiles host setup candidate).on m = (.ok (newFile, some oldFile), m₁))
    (hold : m₁.files.read host.here oldFile.text = .ok x)
    (hnew : m₁.files.read host.here newFile.text = .ok y) :
    FailsIn (Known host setup candidate m) (prepare host candidate oldFile newFile) m₁ := by
  refine FailsIn.bind (failsIn_readVersion (by simp)) fun old m₂ h₂ => ?_
  obtain ⟨-, rfl⟩ := orFail_eq_ok.1 h₂
  refine FailsIn.bind (failsIn_readVersion (by simp)) fun new m₃ h₃ => ?_
  obtain ⟨-, rfl⟩ := orFail_eq_ok.1 h₃
  refine FailsIn.bind (failsIn_orFail fun fault hfault => ?_) fun declared m₄ h₄ => ?_
  · obtain ⟨-, rfl⟩ := Version.bumpTo_eq_error_iff.1 hfault
    exact .inl rfl
  obtain ⟨-, rfl⟩ := orFail_eq_ok.1 h₄
  refine FailsIn.bind (failsIn_normalize_artifact (.old hfind) (not_hasNull_of_read hold)) ?_
  intro oldArchive m₅ h₅
  refine FailsIn.bind (failsIn_normalize_artifact (.new hfind h₅) (not_hasNull_of_read hnew)) ?_
  intro newArchive m₆ h₆
  refine FailsIn.bind (failsIn_loadExclusions.mono ?_) fun _ _ _ => failsIn_pure _
  rintro e ⟨path, hpath, he⟩
  obtain ⟨given, hgiven, rfl⟩ := Option.map_eq_some_iff.1 hpath
  cases he with
  | files he =>
    refine known_of_files he fun h => .inl ?_
    rcases h.of_seenFrom with hnull | hnull
    · exact ⟨host.workingDir, by simp, hnull⟩
    · exact ⟨given, by simp [hgiven], hnull⟩
  | text hread hfault => exact .inr (.exclusions hfind h₅ h₆ hgiven hread hfault)

/-- An engine of the caller that keeps to its own failures. -/
def EngineOwns (setup : Setup) : Prop :=
  ∀ f, setup.engine? = some (.given f) → ∀ t old new exclusions e,
    f t old new exclusions = .error e → ∃ fault, e = .engine fault

theorem failsIn_callEngine {call : Call} (hground : Grounded m₁.files) (howns : EngineOwns setup) :
    FailsIn (Known host setup candidate m) (callEngine host setup call) m₁ := by
  refine FailsIn.bind (failsIn_orFail fun fault _ => .inl rfl) fun engine m₂ hmade => ?_
  obtain ⟨hengine, rfl⟩ := orFail_eq_ok.1 hmade
  cases engine with
  | tool t =>
    refine (DiffTool.failsIn_compare hground).mono ?_
    intro e he
    cases he with
    | engine => exact .inl rfl
    | files he => exact known_of_files he fun hnull => .inl ⟨host.tempDir, by simp, hnull⟩
    | command hprocess => exact .inr (.command hengine hprocess)
    | written hprocess hfault => exact .inr (.written hengine hprocess hfault)
    | report hprocess hfault => exact .inr (.report hengine hprocess hfault)
  | given f =>
    intro e m' h
    rw [on_compare_given] at h
    obtain ⟨fault, rfl⟩ := howns f (engine?_of_given hengine) _ _ _ _ e (Prod.mk.inj h).1
    exact .inl rfl

/-- A comparison fails in a way that is known. -/
theorem failsIn_compare (hsound : host.Sound) (hplain : IsPlain host.here)
    (hground : Grounded m.files) (hhere : m.files.get? host.here = some .dir)
    (howns : EngineOwns setup) :
    FailsIn (Known host setup candidate m) (compare host setup candidate) m := by
  rw [compare]
  refine FailsIn.bind (failsIn_findFiles hsound) ?_
  rintro ⟨newFile, old?⟩ m₁ hfind
  cases old? with
  | none => exact failsIn_pure _
  | some oldFile =>
    have hfound := findRun_findFiles hsound hfind
    obtain ⟨staged, hstages⟩ := hfound.stages
    obtain ⟨-, y, -, hy⟩ := hfound.new _ _ rfl
    obtain ⟨-, x, hx⟩ := hfound.found _ _ rfl
    refine FailsIn.bind (failsIn_sameFiles (hstages.grounded hground hhere)
      (hstages.keeps.dir hhere) hplain hx hy) fun same m₂ hsame => ?_
    obtain rfl := (readOnly_sameFiles host _ _).eq hsame
    cases same with
    | true => exact failsIn_pure _
    | false =>
      refine FailsIn.bind (failsIn_prepare hfind hx hy) fun call m₃ hready => ?_
      have hreaches : Reaches host setup candidate m oldFile newFile m₂ call m₃ :=
        ⟨hfind, hsame, hready⟩
      obtain ⟨hground₃, -, -⟩ := hreaches.in_order hsound hground hhere
      exact FailsIn.bind (failsIn_callEngine hground₃ howns) fun _ _ _ => failsIn_pure _

/-! ### A whole run -/

theorem failsIn_run (hsound : host.Sound) (hplain : IsPlain host.here)
    (hground : Grounded m.files) (hhere : m.files.get? host.here = some .dir)
    (howns : EngineOwns setup) :
    FailsIn (Known host setup candidate m) (run host setup candidate) m := by
  refine FailsIn.bind (failsIn_readVersion (by simp)) fun old m₁ h₁ => ?_
  obtain ⟨-, rfl⟩ := orFail_eq_ok.1 h₁
  refine FailsIn.bind (failsIn_readVersion (by simp)) fun new m₂ h₂ => ?_
  obtain ⟨-, rfl⟩ := orFail_eq_ok.1 h₂
  refine FailsIn.bind (failsIn_compare hsound hplain hground hhere howns) ?_
  intro comparison m₃ hcompare
  refine FailsIn.bind (failsIn_writeReports.mono fun e he => known_of_files he ?_) fun _ m₄ _ => ?_
  · rintro (h | h)
    · rcases h.of_seenFrom with hnull | hnull
      · exact .inl ⟨host.workingDir, by simp, hnull⟩
      · exact .inl ⟨candidate.textReport, by simp, hnull⟩
    · rcases h.of_seenFrom with hnull | hnull
      · exact .inl ⟨host.workingDir, by simp, hnull⟩
      · exact .inl ⟨candidate.htmlReport, by simp, hnull⟩
  · -- the verdict does not fail once a comparison was made
    obtain ⟨v, hv⟩ := (compare_eq_ok_iff.1 hcompare).exists_verdict
    rw [hv]
    exact FailsIn.bind (failsIn_pure v) fun _ _ _ => failsIn_pure _

end Gate

end ReleaseGate
