/-
ReleaseGate/Proofs/Gate/Artifacts.lean

What it takes to get a local file for a location.

A bare path and a `file:` location only look.  Anything that is fetched is
put into a new file: `Stages host settings staged t t'` says that `t'` is `t`
with the missing directories on the way to where fetched files are put, and
with the file `staged` there, if it is given.  This holds of every outcome.
What a failure leaves of the new file goes with the failure (`Leaves`).  A
file that is found can be read; one that is not found is missing by the tree
or by the word of a server (`NothingAt`).

Main results: `stageRun_stage`, `resolveRun_resolve`.
-/
import ReleaseGate.Gate.Artifacts
import ReleaseGate.Proofs.Net.Chain
import ReleaseGate.Proofs.Runs

namespace ReleaseGate.Artifacts

open FileTree ReleaseGate.Action

variable {host : Host} {settings : Settings} {fetcher : Fetcher} {location : String}
variable {m m' : Machine} {t t' t'' : FileTree} {path p : Path} {e : Failure}

/-! ### Files that are there -/

theorem findLocal_eq_ok :
    (findLocal host location path).on m = (.ok p, m') ↔
      p = path.seenFrom host.workingDir ∧ m' = m ∧
        m.files.isFile host.here p.text = .ok true := by
  rw [findLocal, on_bind_eq_ok]
  constructor
  · rintro ⟨found, m₁, h, hrest⟩
    obtain ⟨hfile, rfl⟩ := isFile_eq_ok.1 h
    cases found with
    | false => cases hrest
    | true =>
      obtain ⟨⟨⟩, ⟨⟩⟩ := hrest
      exact ⟨rfl, rfl, hfile⟩
  · rintro ⟨rfl, rfl, hfile⟩
    exact ⟨true, _, isFile_eq_ok.2 ⟨hfile, rfl⟩, rfl⟩

theorem readOnly_findLocal (host : Host) (location : String) (path : Path) :
    ReadOnly (findLocal host location path) := by
  refine (readOnly_isFile host _).bind fun found => ?_
  cases found with
  | false => exact readOnly_throw _
  | true => exact readOnly_pure _

/-- Looking fails, or there is no file to find. -/
theorem findLocal_eq_error (h : (findLocal host location path).on m = (.error e, m')) :
    (∃ fault, e = .file fault) ∨
      e = .fetch ⟨location, .absent (path.seenFrom host.workingDir)⟩ ∧
        m.files.isFile host.here (path.seenFrom host.workingDir).text = .ok false := by
  rw [findLocal] at h
  rcases on_bind_eq_error.1 h with h | ⟨found, m₁, h, hrest⟩
  · rw [Action.isFile, on_bind_of_ok (on_files m), on_orFail] at h
    generalize FileTree.blame _ _ = answer at h
    rcases answer with fault | found
    · obtain ⟨⟨⟩, -⟩ := h
      exact .inl ⟨fault, rfl⟩
    · cases h
  · obtain ⟨hfile, -⟩ := isFile_eq_ok.1 h
    cases found with
    | false =>
      obtain ⟨⟨⟩, -⟩ := hrest
      exact .inr ⟨rfl, hfile⟩
    | true => cases hrest

/-! ### Files that are fetched -/

/-- Where fetched files are put; each `..` is taken together with the name
before it. -/
def stagingPath (host : Host) (settings : Settings) : Path :=
  ((settings.stagingDir.getD host.tempDir).seenFrom host.workingDir).collapsed

/-- The path of a fetched file. -/
def stagedPath (host : Host) (settings : Settings) (suffix : List Char) (number : Nat) : Path :=
  (stagingPath host settings).child (freshName stagedStart suffix number)

/-- The tree `t'` is `t` with the directories for fetched files, and with the
file `staged` where they are put, if there is one. -/
structure Stages (host : Host) (settings : Settings) (staged : Option Place)
    (t t' : FileTree) : Prop where
  keeps : KeepsWays t t'
  grounded : Grounded t → t.get? host.here = some .dir → Grounded t'
  file : ∀ f, staged = some f → t.get? f = none ∧ (∃ content, t'.get? f = some (.file content)) ∧
    ∃ suffix number,
      t'.locate host.here (stagedPath host settings suffix number).text false = .ok f
  off : ∀ q, staged ≠ some q → t'.get? q ≠ t.get? q →
    ∃ dir, settings.stagingDir = some dir ∧ NewDir t t' host.here dir q

theorem Stages.refl (host : Host) (settings : Settings) (t : FileTree) :
    Stages host settings none t t :=
  ⟨.refl t, fun ht _ => ht, nofun, fun _ _ h => absurd rfl h⟩

/-- Nothing that was there is lost or changed. -/
theorem Stages.get?_eq {staged : Option Place} (h : Stages host settings staged t t') {q : Place}
    (hq : t.get? q ≠ none) : t'.get? q = t.get? q := by
  by_contra hne
  by_cases hs : staged = some q
  · exact hq (h.file q hs).1
  · obtain ⟨dir, -, hnew⟩ := h.off q hs hne
    exact hq hnew.1

theorem Stages.read {staged : Option Place} {text : String} {content : ByteArray}
    (h : Stages host settings staged t t') (hr : t.read host.here text = .ok content) :
    t'.read host.here text = .ok content := by
  obtain ⟨q, hq, hg⟩ := read_eq_ok.1 hr
  exact read_eq_ok.2 ⟨q, locate_mono h.keeps hq, (h.get?_eq (by simp [hg])).trans hg⟩

theorem Stages.congr (h : Stages host settings none t t') (hq : ∀ q, t''.get? q = t'.get? q) :
    Stages host settings none t t'' := by
  have hways : KeepsWays t' t'' := ⟨fun hd => (hq _).trans hd, by simp [hq]⟩
  refine ⟨h.keeps.trans hways, fun ht hd => (h.grounded ht hd).congr hq, nofun, fun q hs hne => ?_⟩
  rw [hq] at hne
  obtain ⟨dir, hdir, hnone, hnew, a, ha, hl⟩ := h.off q hs hne
  exact ⟨dir, hdir, hnone, (hq q).trans hnew, a, ha, locate_mono hways hl⟩

/-- A new file is put where fetched files are put. -/
theorem Stages.stage {f : Place} {suffix : List Char} {number : Nat} {content : ByteArray}
    (h : Stages host settings none t t')
    (hl : t'.locate host.here (stagedPath host settings suffix number).text false = .ok f)
    (hn : t'.get? f = none) (hedit : t'.Edit f (some (.file content)) t'') :
    Stages host settings (some f) t t'' := by
  have hways := hedit.keepsWays hn (by simp)
  refine ⟨h.keeps.trans hways, fun ht hd => ?_, ?_, fun q hs hne => ?_⟩
  · exact (h.grounded ht hd).edit_of_locate (h.keeps.dir hd) hl (by simp [hn]) hedit
  · rintro _ ⟨⟩
    refine ⟨?_, ⟨content, hedit.new⟩, suffix, number, hedit.locate_new hl hn false⟩
    by_contra hf
    exact hf ((h.get?_eq hf).symm.trans hn)
  · -- any other new place was made before the file
    have hoff := hedit.off q fun hqf => hs (by rw [hqf])
    rw [hoff] at hne
    obtain ⟨dir, hdir, hnone, hnew, a, ha, hl⟩ := h.off q nofun hne
    exact ⟨dir, hdir, hnone, hoff.trans hnew, a, ha, locate_mono hways hl⟩

theorem on_makeStagingDir (host : Host) (settings : Settings) (m : Machine) :
    ∃ r t, (makeStagingDir host settings).on m = (r, { m with files := t }) ∧
      Stages host settings none m.files t ∧ ∀ e, r = .error e → ∃ fault, e = .file fault := by
  unfold makeStagingDir
  rcases hd : settings.stagingDir with - | dir
  · exact ⟨.ok (), m.files, rfl, .refl host settings _, nofun⟩
  · have hdirs := addsDirs_makeDirs m.files host.here dir
    refine ⟨_, _, on_makeDirs host dir m, ⟨hdirs.keeps, hdirs.grounded, nofun, ?_⟩, fun e => ?_⟩
    · exact fun q _ hq => ⟨dir, hd, hdirs.new q hq⟩
    · split
      · nofun
      · rintro ⟨⟩
        exact ⟨_, rfl⟩

/-- A client that was stopped does not say that nothing is there. -/
theorem not_isMissing_of_fetchFailure {fault : Net.Fault} {f : FetchError}
    (h : fetchFailure location fault = .fetch f) : ¬ f.isMissing := by
  cases fault with
  | failed message =>
    obtain ⟨⟩ := h
    exact nofun
  | refused | foreign => cases h

theorem fetchFailure_ne_notAscii (fault : Net.Fault) (ascii : Text.AsciiFault) :
    fetchFailure location fault ≠ .notAscii ascii := by
  cases fault <;> exact nofun

theorem download_eq_ok {client : Net.Client} {target : Path} {u : Unit}
    (h : (download host client location target).on m = (.ok u, m')) :
    m'.calls = m.calls ∧
      ∃ content, m.files.write host.here target.text content = .ok m'.files := by
  rw [download, on_bind_of_ok (on_fetch host client location m)] at h
  rcases hget : Net.get host.library host.server client location m.requests with ⟨outcome, sent⟩
  rw [hget] at h
  rcases outcome with status | fault | content
  · cases h
  · cases h
  · obtain ⟨t, hwrite, rfl⟩ := changeFiles_eq_ok.1 h
    exact ⟨rfl, content, hwrite⟩

theorem download_eq_error {client : Net.Client} {target : Path}
    (h : (download host client location target).on m = (.error e, m')) :
    m'.files = m.files ∧ m'.calls = m.calls ∧ (∀ fault, e ≠ .notAscii fault) ∧
      ∀ f, e = .fetch f → f.isMissing →
        Net.HasNothing host.library host.server location m.requests m'.requests := by
  rw [download, on_bind_of_ok (on_fetch host client location m)] at h
  rcases hget : Net.get host.library host.server client location m.requests with ⟨outcome, sent⟩
  rw [hget] at h
  rcases outcome with status | fault | content
  · obtain ⟨⟨⟩, ⟨⟩⟩ := h
    refine ⟨rfl, rfl, nofun, ?_⟩
    rintro _ ⟨⟩ -
    exact Net.hasNothing_of_get hget
  · obtain ⟨⟨⟩, ⟨⟩⟩ := h
    refine ⟨rfl, rfl, fetchFailure_ne_notAscii fault, fun f hf hmissing => ?_⟩
    exact absurd hmissing (not_isMissing_of_fetchFailure hf)
  · obtain ⟨fault, -, rfl, rfl⟩ := changeFiles_eq_error.1 h
    exact ⟨rfl, rfl, nofun, nofun⟩

/-! ### Staging -/

/-- What a failure leaves of the file that was to be fetched: nothing, unless
no client can be made.  By then the file is there, and it stays as it is. -/
inductive Leaves (host : Host) (settings : Settings) (fetcher : Fetcher) (t t' : FileTree) :
    Failure → Prop
  | nothing {e : Failure} : (∀ fault, e ≠ .notAscii fault) → Stages host settings none t t' →
      Leaves host settings fetcher t t' e
  | empty {fault : Text.AsciiFault} {f : Place} : fetcher.client settings = .error fault →
      Stages host settings (some f) t t' → t'.get? f = some (.file .empty) →
      Leaves host settings fetcher t t' (.notAscii fault)

/-- What comes of fetching a file. -/
structure StageRun (host : Host) (settings : Settings) (fetcher : Fetcher) (location : String)
    (suffix : List Char) (m : Machine) (r : Except Failure Path) (m' : Machine) : Prop where
  calls : m'.calls = m.calls
  stages : ∃ staged, Stages host settings staged m.files m'.files
  ok : ∀ path, r = .ok path → (∃ number, path = stagedPath host settings suffix number) ∧
    ∃ content, m'.files.read host.here path.text = .ok content
  failed : ∀ e, r = .error e → Leaves host settings fetcher m.files m'.files e
  missing : ∀ f, r = .error (.fetch f) → f.isMissing →
    Net.HasNothing host.library host.server location m.requests m'.requests

/-- What happens once the temporary file is there: it is filled or taken away
again. -/
theorem stages_fill {client : Net.Client} {suffix : List Char} {number : Nat} {f : Place}
    {r : Except Failure Unit} (hstages : Stages host settings none t t')
    (hl : t'.locate host.here (stagedPath host settings suffix number).text false = .ok f)
    (hnone : t'.get? f = none) (hedit : t'.Edit f (some (.file .empty)) m.files)
    (h : (orElseDo (download host client location (stagedPath host settings suffix number))
      (unlink host (stagedPath host settings suffix number).text)).on m = (r, m')) :
    m'.calls = m.calls ∧ (∃ staged, Stages host settings staged t m'.files) ∧
      (r = .ok () → ∃ content, m'.files.read host.here
        (stagedPath host settings suffix number).text = .ok content) ∧
      (∀ e, r = .error e → (∀ fault, e ≠ .notAscii fault) ∧
        Stages host settings none t m'.files) ∧
      ∀ f, r = .error (.fetch f) → f.isMissing →
        Net.HasNothing host.library host.server location m.requests m'.requests := by
  have hat := fun fl => hedit.locate_new hl hnone fl
  rcases hdown : (download host client location (stagedPath host settings suffix number)).on m with
    ⟨e | u, m₃⟩
  · obtain ⟨hfiles, hcalls, hagent, hmissing⟩ := download_eq_error hdown
    have hl₃ : m₃.files.locate host.here (stagedPath host settings suffix number).text false =
        .ok f := by
      rw [hfiles]
      exact hat false
    have hnew₃ : m₃.files.get? f = some (.file .empty) := by
      rw [hfiles]
      exact hedit.new
    rw [on_orElseDo_of_error hdown (unlink_of_locate hl₃ hnew₃)] at h
    obtain ⟨rfl, rfl⟩ := Prod.mk.inj h
    have hf : f ≠ [] := ne_root_of_not_dir (t := t') (by simp [hnone])
    have hgone : m.files.Edit f none (m₃.files.erase f) := by
      rw [hfiles]
      exact edit_erase hf
    have hback := hstages.congr ((hedit.trans hgone).get?_eq hnone)
    refine ⟨hcalls, ⟨none, hback⟩, nofun, ?_, fun f hf hm => ?_⟩
    · rintro _ ⟨⟩
      exact ⟨hagent, hback⟩
    · exact hmissing f (Except.error.inj hf) hm
  · obtain ⟨hcalls, content, hwrite⟩ := download_eq_ok hdown
    rw [on_orElseDo_of_ok hdown] at h
    obtain ⟨rfl, rfl⟩ := Prod.mk.inj h
    obtain ⟨q, hq, -, hfill⟩ := write_eq_ok hwrite
    obtain rfl : f = q := Except.ok.inj ((hat true).symm.trans hq)
    have hnew := hedit.trans hfill
    refine ⟨hcalls, ⟨some f, hstages.stage hl hnone hnew⟩, fun _ => ⟨content, ?_⟩, nofun, nofun⟩
    exact read_eq_ok.2 ⟨f, hnew.locate_new hl hnone true, hnew.new⟩

/-- **Fetching** leaves directories and one file at most, and no file where
it fails with a client. -/
theorem stageRun_stage {suffix : List Char} {r : Except Failure Path}
    (h : (stage host settings fetcher location suffix).on m = (r, m')) :
    StageRun host settings fetcher location suffix m r m' := by
  obtain ⟨made, t₁, hmake, hstages, hfault⟩ := on_makeStagingDir host settings m
  rw [stage] at h
  rcases on_bind_cases h with ⟨e, hstop, rfl⟩ | ⟨u, m₁, hgo, h⟩
  · obtain ⟨rfl, rfl⟩ := Prod.mk.inj (hmake.symm.trans hstop)
    obtain ⟨fault, rfl⟩ := hfault e rfl
    refine ⟨rfl, ⟨none, hstages⟩, nofun, ?_, nofun⟩
    rintro _ ⟨⟩
    exact .nothing nofun hstages
  obtain ⟨rfl, rfl⟩ := Prod.mk.inj (hmake.symm.trans hgo)
  rcases on_bind_cases h with ⟨e, htemp, rfl⟩ | ⟨temp, m₂, htemp, h⟩
  · obtain ⟨⟨fault, rfl⟩, hfiles, htrace⟩ := createFresh_eq_error htemp
    refine ⟨htrace.calls, ⟨none, hfiles ▸ hstages⟩, nofun, ?_, nofun⟩
    rintro _ ⟨⟩
    exact .nothing nofun (hfiles ▸ hstages)
  obtain ⟨⟨number, rfl⟩, hadd, htrace⟩ := createFresh_eq_ok htemp
  obtain ⟨f, hl, hnone, hedit⟩ := add_eq_ok hadd
  -- without a client the new file stays, and is empty
  rcases orFail_bind_cases h with ⟨fault, hclient, rfl, rfl⟩ | ⟨client, -, h⟩
  · have hstaged := hstages.stage hl hnone hedit
    refine ⟨htrace.calls, ⟨some f, hstaged⟩, nofun, ?_, nofun⟩
    rintro _ ⟨⟩
    exact .empty hclient hstaged hedit.new
  rcases on_bind_cases h with ⟨e, hfill, rfl⟩ | ⟨u, m₃, hfill, hpure⟩
  · obtain ⟨hcalls, hstaged, -, hleaves, hmissing⟩ := stages_fill hstages hl hnone hedit hfill
    have hrequests : m₂.requests = m.requests := htrace.requests
    rw [hrequests] at hmissing
    obtain ⟨hagent, hback⟩ := hleaves e rfl
    refine ⟨hcalls.trans htrace.calls, hstaged, nofun, ?_, fun f hf => hmissing f ?_⟩
    · rintro _ ⟨⟩
      exact .nothing hagent hback
    · exact congrArg Except.error (Except.error.inj hf)
  · obtain ⟨rfl, rfl⟩ := Prod.mk.inj hpure
    obtain ⟨hcalls, hstaged, hread, -, -⟩ := stages_fill hstages hl hnone hedit hfill
    refine ⟨hcalls.trans htrace.calls, hstaged, ?_, nofun, nofun⟩
    rintro _ ⟨⟩
    exact ⟨⟨number, rfl⟩, hread rfl⟩

/-! ### The file for a location -/

/-- The path that a location names itself; none for one that has to be
fetched. -/
def localPath? (location : String) (l : Location) : Option Path :=
  if l.isLocal then some (.ofString location)
  else if l.scheme = "file".toList then some l.filePath
  else none

/-- Nothing is at a location: no regular file is at the path that it names,
or the last server that was asked for it has nothing there. -/
def NothingAt (host : Host) (location : String) (m m' : Machine) : Prop :=
  ∃ l, Location.split location.toList = .ok l ∧
    ((∃ path, localPath? location l = some path ∧
        m.files.isFile host.here (path.seenFrom host.workingDir).text = .ok false) ∨
      (l.isRemote ∧ Net.HasNothing host.library host.server location m.requests m'.requests))

theorem NothingAt.congr {m'' : Machine} (h : NothingAt host location m m')
    (hr : m''.requests = m'.requests) : NothingAt host location m m'' := by
  obtain ⟨l, hl, hlocal | ⟨hremote, hnothing⟩⟩ := h
  · exact ⟨l, hl, .inl hlocal⟩
  · exact ⟨l, hl, .inr ⟨hremote, hr ▸ hnothing⟩⟩

/-- What comes of getting a local file for a location. -/
structure ResolveRun (host : Host) (settings : Settings) (fetcher : Fetcher) (location : String)
    (m : Machine) (r : Except Failure Path) (m' : Machine) : Prop where
  calls : m'.calls = m.calls
  stages : ∃ staged, Stages host settings staged m.files m'.files
  ok : ∀ path, r = .ok path → ∃ content, m'.files.read host.here path.text = .ok content
  name : host.Sound → ∀ path, r = .ok path → '/' ∉ path.name
  failed : ∀ e, r = .error e → Leaves host settings fetcher m.files m'.files e
  missing : ∀ f, r = .error (.fetch f) → f.isMissing → NothingAt host location m m'

/-- What is refused before anything is looked for leaves all as it is. -/
theorem resolveRun_throw (hagent : ∀ fault, e ≠ .notAscii fault)
    (hthere : ∀ f, e = .fetch f → ¬ f.isMissing) :
    ResolveRun host settings fetcher location m (.error e) m := by
  refine ⟨rfl, ⟨none, .refl host settings _⟩, nofun, fun _ => nofun, ?_, ?_⟩
  · rintro _ ⟨⟩
    exact .nothing hagent (.refl host settings _)
  · rintro f ⟨⟩ hm
    exact absurd hm (hthere f rfl)

theorem notMem_suffix (l : Location) : '/' ∉ l.suffix := by
  have hlast : '/' ∉ (Location.splitLast l.path).2 := by
    intro h
    have hall := List.all_eq_true.1 List.all_takeWhile '/' (List.mem_reverse.1 h)
    simp at hall
  unfold Location.suffix
  simp only
  split
  · exact List.not_mem_nil
  · intro h
    rcases List.mem_cons.1 h with h | h
    · cases h
    · have hmem := (List.takeWhile_sublist _).mem (List.mem_reverse.1 h)
      exact hlast (List.mem_reverse.1 hmem)

/-- A file that is there is found without a change. -/
theorem resolveRun_findLocal {l : Location} {r : Except Failure Path}
    (hl : Location.split location.toList = .ok l) (hp : localPath? location l = some path)
    (hnames : ∀ n ∈ path.names, '/' ∉ n)
    (h : (findLocal host location path).on m = (r, m')) :
    ResolveRun host settings fetcher location m r m' := by
  obtain rfl := (readOnly_findLocal host location path).eq h
  refine ⟨rfl, ⟨none, .refl host settings _⟩, ?_, fun hsound => ?_, ?_, ?_⟩
  · rintro found rfl
    obtain ⟨-, -, hfile⟩ := findLocal_eq_ok.1 h
    exact isFile_eq_true.1 hfile
  · rintro found rfl
    obtain ⟨rfl, -, -⟩ := findLocal_eq_ok.1 h
    refine Path.notMem_name fun n hn => ?_
    rcases Path.mem_names_seenFrom hn with hn | hn
    · exact hsound.names n hn
    · exact hnames n hn
  · rintro e rfl
    refine .nothing ?_ (.refl host settings _)
    rintro fault rfl
    rcases findLocal_eq_error h with ⟨_, ⟨⟩⟩ | ⟨⟨⟩, -⟩
  · rintro f rfl -
    rcases findLocal_eq_error h with ⟨_, ⟨⟩⟩ | ⟨-, hfile⟩
    exact ⟨l, hl, .inl ⟨path, hp, hfile⟩⟩

/-- **A local file** for a location is found, or fetched, or nothing is left
of it but directories, unless no client can be made. -/
theorem resolveRun_resolve {r : Except Failure Path}
    (h : (resolve host settings fetcher location).on m = (r, m')) :
    ResolveRun host settings fetcher location m r m' := by
  -- by where the location leads: nowhere, to a path, or over the net
  rw [resolve] at h
  rcases orFail_bind_cases h with ⟨fault, -, rfl, rfl⟩ | ⟨l, hl, h⟩
  · exact resolveRun_throw nofun nofun
  have hchars : ∀ s, ∀ n ∈ (Path.ofChars s).names, '/' ∉ n := fun s n hn =>
    (Path.names_ofChars s n hn).2.2
  by_cases hlocal : l.isLocal = true
  · rw [if_pos hlocal] at h
    exact resolveRun_findLocal hl (by rw [localPath?, if_pos hlocal]; rfl) (hchars _) h
  rw [if_neg hlocal] at h
  by_cases hfile : l.scheme = "file".toList
  · rw [if_pos hfile] at h
    exact resolveRun_findLocal hl (by rw [localPath?, if_neg hlocal, if_pos hfile]; rfl)
      (hchars _) h
  rw [if_neg hfile] at h
  by_cases hremote : l.isRemote = true
  · rw [if_pos hremote] at h
    obtain ⟨hcalls, hstages, hok, hfailed, hmissing⟩ := stageRun_stage h
    refine ⟨hcalls, hstages, fun path hr => (hok path hr).2, fun _ path hr => ?_, hfailed, ?_⟩
    · obtain ⟨⟨number, rfl⟩, -⟩ := hok path hr
      rw [stagedPath, Path.name_child]
      exact (isFileName_freshName (by decide) (notMem_suffix l) number).2
    · intro f hr hm
      exact ⟨l, hl, .inr ⟨hremote, hmissing f hr hm⟩⟩
  · rw [if_neg hremote] at h
    obtain ⟨rfl, rfl⟩ := Prod.mk.inj h
    refine resolveRun_throw nofun ?_
    rintro _ ⟨⟩ hm
    cases hm

/-! ### A file that may be missing -/

/-- A missing artifact is no failure. -/
theorem resolve?_of_missing {f : FetchError}
    (h : (resolve host settings fetcher location).on m = (.error (.fetch f), m'))
    (hmissing : f.isMissing) :
    (resolve? host settings fetcher location).on m = (.ok none, m') := by
  rw [resolve?, on_tryCatch, on_map, h]
  show (if f.isMissing = true then pure none else throw (.fetch f) :
    Action (Option Path)).on m' = _
  rw [if_pos hmissing, on_pure]

/-- Whatever else comes of looking for an artifact stays as it is. -/
theorem resolve?_of_not_missing
    (h : ∀ f m', (resolve host settings fetcher location).on m = (.error (.fetch f), m') →
      ¬ f.isMissing) :
    (resolve? host settings fetcher location).on m =
      (some <$> resolve host settings fetcher location).on m := by
  rw [resolve?, on_tryCatch, on_map]
  rcases hr : (resolve host settings fetcher location).on m with ⟨e | path, m'⟩
  · cases e with
    | fetch f =>
      show (if f.isMissing = true then pure none else throw (.fetch f) :
        Action (Option Path)).on m' = _
      rw [if_neg (h f m' hr), on_throw]
      rfl
    | _ => rfl
  · rfl

/-- The local file for a location; that there is nothing at it is a failure
unless it may be missing. -/
def lookFor (host : Host) (settings : Settings) (fetcher : Fetcher) (location : String)
    (mayBeMissing : Bool) : Action (Option Path) :=
  if mayBeMissing then resolve? host settings fetcher location
  else some <$> resolve host settings fetcher location

theorem lookFor_of_missing {mayBeMissing : Bool} {f : FetchError}
    (h : (resolve host settings fetcher location).on m = (.error (.fetch f), m'))
    (hmissing : f.isMissing) :
    (lookFor host settings fetcher location mayBeMissing).on m =
      (if mayBeMissing then .ok none else .error (.fetch f), m') := by
  cases mayBeMissing with
  | false =>
    show (some <$> resolve host settings fetcher location).on m = _
    rw [on_map, h]
    rfl
  | true => exact resolve?_of_missing h hmissing

theorem lookFor_of_not_missing {mayBeMissing : Bool} {found : Except Failure Path}
    (h : (resolve host settings fetcher location).on m = (found, m'))
    (hthere : ∀ f, found = .error (.fetch f) → ¬ f.isMissing) :
    (lookFor host settings fetcher location mayBeMissing).on m = (found.map some, m') := by
  have hmap : (some <$> resolve host settings fetcher location).on m = (found.map some, m') := by
    rw [on_map, h]
  cases mayBeMissing with
  | false => exact hmap
  | true =>
    show (resolve? host settings fetcher location).on m = _
    rw [resolve?_of_not_missing, hmap]
    intro f m₁ hf
    exact hthere f (Prod.mk.inj (h.symm.trans hf)).1

/-- What is looked for is what is found, unless it is missing and may be. -/
theorem lookFor_cases {mayBeMissing : Bool} {r : Except Failure (Option Path)}
    (h : (lookFor host settings fetcher location mayBeMissing).on m = (r, m')) :
    ∃ found, (resolve host settings fetcher location).on m = (found, m') ∧
      (r = found.map some ∨ mayBeMissing = true ∧ r = .ok none ∧
        ∃ f, found = .error (.fetch f) ∧ f.isMissing) := by
  rcases hr : (resolve host settings fetcher location).on m with ⟨found, m₁⟩
  by_cases hmissing : ∃ f, found = .error (.fetch f) ∧ f.isMissing
  · obtain ⟨f, rfl, hm⟩ := hmissing
    obtain ⟨rfl, rfl⟩ := Prod.mk.inj ((lookFor_of_missing hr hm).symm.trans h)
    refine ⟨_, rfl, ?_⟩
    cases mayBeMissing with
    | false => exact .inl rfl
    | true => exact .inr ⟨rfl, rfl, f, rfl, hm⟩
  · have hthere : ∀ f, found = .error (.fetch f) → ¬ f.isMissing := fun f hf hm =>
      hmissing ⟨f, hf, hm⟩
    obtain ⟨rfl, rfl⟩ := Prod.mk.inj ((lookFor_of_not_missing hr hthere).symm.trans h)
    exact ⟨found, rfl, .inl rfl⟩

/-- What is found is what is got. -/
theorem lookFor_eq_some {mayBeMissing : Bool} :
    (lookFor host settings fetcher location mayBeMissing).on m = (.ok (some path), m') ↔
      (resolve host settings fetcher location).on m = (.ok path, m') := by
  rcases hlook : (lookFor host settings fetcher location mayBeMissing).on m with ⟨r, m₁⟩
  obtain ⟨found, hresolve, hr⟩ := lookFor_cases hlook
  rw [hresolve]
  rcases hr with rfl | ⟨-, rfl, f, rfl, -⟩
  · cases found with
    | error e => simp [Except.map]
    | ok q => simp [Except.map]
  · simp

/-! ### A path that a location names itself -/

/-- A location that names a path is looked up. -/
theorem resolve_of_localPath {l : Location} (hl : Location.split location.toList = .ok l)
    (hp : localPath? location l = some path) :
    (resolve host settings fetcher location).on m = (findLocal host location path).on m := by
  rw [resolve, hl, on_orFail_bind]
  show (if l.isLocal = true then _ else if l.scheme = "file".toList then _ else _ :
    Action Path).on m = _
  rw [localPath?] at hp
  by_cases hlocal : l.isLocal = true
  · rw [if_pos hlocal] at hp ⊢
    obtain rfl := Option.some.inj hp
    rfl
  rw [if_neg hlocal] at hp ⊢
  by_cases hfile : l.scheme = "file".toList
  · rw [if_pos hfile] at hp ⊢
    obtain rfl := Option.some.inj hp
    rfl
  · rw [if_neg hfile] at hp
    cases hp

/-- **A location that names a path** leads to that path, made whole, if it is
a regular file, and nothing is changed. -/
theorem found_iff_of_localPath {mayBeMissing : Bool} {l : Location}
    {r : Except Failure (Option Path)} (hl : Location.split location.toList = .ok l)
    (hp : localPath? location l = some path)
    (h : (lookFor host settings fetcher location mayBeMissing).on m = (r, m')) :
    m' = m ∧ ∀ found, r = .ok (some found) ↔
      found = path.seenFrom host.workingDir ∧
        m.files.isFile host.here found.text = .ok true := by
  have hsame : m' = m := by
    obtain ⟨found, hresolve, -⟩ := lookFor_cases h
    rw [resolve_of_localPath hl hp] at hresolve
    exact (readOnly_findLocal host location path).eq hresolve
  subst hsame
  refine ⟨rfl, fun found => ?_⟩
  have hlook : r = .ok (some found) ↔
      (lookFor host settings fetcher location mayBeMissing).on m' = (.ok (some found), m') := by
    rw [h]
    simp
  rw [hlook, lookFor_eq_some, resolve_of_localPath hl hp, findLocal_eq_ok]
  constructor
  · rintro ⟨hfound, -, hfile⟩
    exact ⟨hfound, hfile⟩
  · rintro ⟨hfound, hfile⟩
    exact ⟨hfound, rfl, hfile⟩

end ReleaseGate.Artifacts
