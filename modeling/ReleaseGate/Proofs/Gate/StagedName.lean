/-
ReleaseGate/Proofs/Gate/StagedName.lean

The name and the place of a fetched file.

A fetched file gets a name of its own, of which only the suffix is taken from
its location.  So it is right in the directory where fetched files are put,
whatever the location says; and it is taken for an Android archive if and only
if the last segment of the URL names one.

Design.  Three notions of a suffix meet: that of a location, where points at
the start do not count, that of a path, where a point at the end does not
count either, and that of Android archives, which may be in any letters.  The
first is known from the segment (`Location.suffix_eq_iff`); the name that is
put in front of it holds no point, so the second is the first or only a point
(`suffix_stagedPath`); and nothing but a point is a point in small letters
(`Text.lower_eq_point_cons`), which settles the third.

The directory is the one that the path for fetched files leads to with each
`..` folded away, and this is where the path itself leads, unless a `..`
follows a link.

Main result: `resolve_remote_staged`.
-/
import ReleaseGate.Proofs.Files.FoldedWay
import ReleaseGate.Proofs.Gate.InnerArchive
import ReleaseGate.Proofs.Gate.Locations
import ReleaseGate.Proofs.Location.Segment
import ReleaseGate.Proofs.Text.Case

namespace ReleaseGate

open ReleaseGate.Action AndroidArchive
open FileTree hiding resolve

namespace Artifacts

variable {host : Host} {settings : Settings} {fetcher : Fetcher} {location : String}
variable {m m' : Machine} {path : Path} {l : Location} {u : Location.Url} {number : Nat}

/-! ### The name of a fetched file -/

/-- The last segment of a URL names an Android archive: it ends in the suffix
of one, in any letters, and there is more than points before. -/
def NamesAndroid (segment : List Char) : Prop :=
  ∃ s x, segment = s ++ x ∧ Text.lower x = AndroidArchive.suffix ∧ ∃ c ∈ s, c ≠ '.'

/-- A fetched file keeps the suffix of its location, unless that is only a
point. -/
theorem suffix_stagedPath (host : Host) (settings : Settings) (l : Location) (number : Nat) :
    (stagedPath host settings l.suffix number).suffix =
      if l.suffix = ['.'] then [] else l.suffix := by
  have hname : (stagedPath host settings l.suffix number).name =
      (stagedStart ++ paddedNumber number) ++ l.suffix := Path.name_child _ _
  -- what is put in front of the suffix is some text without a point
  have hstart : '.' ∉ stagedStart ++ paddedNumber number := by
    intro h
    rcases List.mem_append.1 h with h | h
    · exact absurd h (by decide)
    · exact absurd (isDigit_of_mem_paddedNumber h) (by decide)
  have hempty : (stagedStart ++ paddedNumber number).isEmpty = false := rfl
  rw [Path.suffix, hname]
  rcases l.suffix_eq_nil_or with hnil | ⟨tail, htail, hpoint⟩
  · rw [hnil, List.append_nil, Path.splitSuffix_of_notMem hstart]
    rfl
  · rw [htail, Path.splitSuffix_append hpoint, hempty]
    cases tail <;> simp

theorem isAndroid_stagedPath_iff :
    isAndroid (stagedPath host settings l.suffix number) = true ↔
      Text.lower l.suffix = AndroidArchive.suffix := by
  rw [isAndroid, suffix_stagedPath, beq_iff_eq]
  split
  · next h =>
    rw [h]
    decide
  · exact Iff.rfl

theorem isAndroid_iff_namesAndroid (hu : Location.Spells location.toList u)
    (hl : Location.split location.toList = .ok l) (hremote : l.isRemote) :
    isAndroid (stagedPath host settings l.suffix number) = true ↔ NamesAndroid u.segment := by
  have hsegment := Location.segment_eq hu hl hremote
  rw [isAndroid_stagedPath_iff]
  constructor
  · intro hlower
    have hne : l.suffix ≠ [] := by
      intro hnil
      rw [hnil] at hlower
      exact absurd hlower (by decide)
    obtain ⟨stem, tail, hstem, -, -, hmore⟩ := (Location.suffix_eq_iff hne).1 rfl
    exact ⟨stem, l.suffix, hsegment.symm.trans hstem, hlower, hmore⟩
  · rintro ⟨s, x, hx, hlower, hmore⟩
    obtain ⟨tail, rfl, hpoint⟩ := Text.lower_eq_point_cons hlower (by decide)
    rw [(Location.suffix_eq_iff (List.cons_ne_nil _ _)).2
      ⟨s, tail, hsegment.trans hx, rfl, hpoint, hmore⟩]
    exact hlower

/-! ### The place of a fetched file -/

/-- The path for fetched files as it is given, seen from the current
directory. -/
def givenStagingPath (host : Host) (settings : Settings) : Path :=
  (settings.stagingDir.getD host.tempDir).seenFrom host.workingDir

/-- The path leads to the file `n` in the directory `d`, to which the path for
fetched files leads once each `..` is folded away.  That is the directory to
which it leads itself, unless a `..` follows a link. -/
structure IsStaged (host : Host) (settings : Settings) (t : FileTree) (path : Path)
    (n : List Char) (d : Place) : Prop where
  name : path = (stagingPath host settings).child n
  place : ∀ followLast,
    t.locate host.here path.text followLast = .ok (String.ofList n :: d)
  file : ∃ content, t.get? (String.ofList n :: d) = some (.file content)
  folded : Denotes t (stagingPath host settings) d
  given : FoldsNoLink t (givenStagingPath host settings) →
    ∀ d', Denotes t (givenStagingPath host settings) d' → d' = d

/-- A file that was fetched is at the end of its path, whether links are
followed there or not. -/
theorem stage_eq_ok {suffix : List Char}
    (h : (stage host settings fetcher location suffix).on m = (.ok path, m')) :
    ∃ number f content, path = stagedPath host settings suffix number ∧
      (∀ followLast, m'.files.locate host.here path.text followLast = .ok f) ∧
      m'.files.get? f = some (.file content) := by
  rw [stage] at h
  obtain ⟨made, m₁, -, h₁⟩ := on_bind_eq_ok.1 h
  obtain ⟨temp, m₂, htemp, h₂⟩ := on_bind_eq_ok.1 h₁
  obtain ⟨client, m₃, hclient, h₃⟩ := on_bind_eq_ok.1 h₂
  obtain ⟨-, rfl⟩ := orFail_eq_ok.1 hclient
  obtain ⟨filled, m₄, hfill, hpure⟩ := on_bind_eq_ok.1 h₃
  obtain ⟨htold, rfl⟩ := Prod.mk.inj hpure
  obtain rfl := Except.ok.inj htold
  obtain ⟨⟨number, hpath⟩, hadd, -⟩ := createFresh_eq_ok htemp
  obtain ⟨f, hl, hfree, hnew⟩ := add_eq_ok hadd
  obtain ⟨-, content, hwrite⟩ := download_eq_ok (orElseDo_eq_ok.1 hfill)
  obtain ⟨q, hq, -, hedit⟩ := write_eq_ok hwrite
  obtain rfl : f = q := Except.ok.inj ((hnew.locate_new hl hfree true).symm.trans hq)
  -- the empty file and its content together are one change at a free place
  have hput := hnew.trans hedit
  exact ⟨number, f, content, hpath, hput.locate_new hl hfree, hput.new⟩

/-- The name of a fetched file is no point, and not two. -/
theorem isEntry_freshName (suffix : List Char) (number : Nat) :
    IsEntry (freshName stagedStart suffix number) :=
  ⟨nofun, nofun⟩

theorem isStaged_of_stage (hsound : host.Sound) (hproper : (givenStagingPath host settings).IsProper)
    (h : (stage host settings fetcher location l.suffix).on m = (.ok path, m')) :
    ∃ number d, path = stagedPath host settings l.suffix number ∧
      IsStaged host settings m'.files path (freshName stagedStart l.suffix number) d := by
  have habs : (givenStagingPath host settings).isAbsolute :=
    Path.isAbsolute_seenFrom _ hsound.absolute
  have hnames : ∀ n ∈ (stagingPath host settings).names, Path.IsFileName n := by
    intro n hn
    rcases Path.mem_foldUps hn with hn | hn
    · exact (hproper n hn).2
    · cases hn
  obtain ⟨number, f, content, rfl, hplace, hfile⟩ := stage_eq_ok h
  have hname : Path.IsFileName (freshName stagedStart l.suffix number) :=
    isFileName_freshName (by decide) (notMem_suffix l) number
  obtain ⟨d, rfl, hfolded⟩ := exists_denotes_of_locate (p := stagingPath host settings) habs hnames
    hname (isEntry_freshName l.suffix number) (hplace false)
  refine ⟨number, d, rfl, rfl, hplace, ⟨content, hfile⟩, hfolded, fun hlinks d' hgiven => ?_⟩
  exact (hgiven.collapsed habs hproper hlinks).unique hfolded

/-! ### Unpacking -/

theorem on_normalize_of_not_android (h : isAndroid path = false) (m : Machine) :
    (AndroidArchive.normalize host path).on m = (.ok path, m) := by
  rw [AndroidArchive.normalize, h, on_pure]

/-- An Android archive is unpacked, or normalizing it fails. -/
theorem extracts_of_isAndroid {archive : Path} (ha : isAndroid path = true)
    (h : (AndroidArchive.normalize host path).on m = (.ok archive, m')) :
    archive ≠ path ∧ ∃ classes c, Extracts host path archive m.files classes c m'.files := by
  obtain ⟨-, ⟨hplain, -, -⟩ | ⟨-, htarget, hextracts⟩⟩ := normalize_eq_ok h
  · rw [ha] at hplain
    cases hplain
  refine ⟨?_, hextracts⟩
  -- the inner archive has another name than the archive itself
  rintro rfl
  obtain ⟨-, htarget⟩ := Path.withSuffix?_eq_some htarget
  have hname := congrArg Path.name htarget
  rw [Path.name_child] at hname
  exact Gate.name_ne_of_isAndroid ha hname

/-! ### Every location -/

/-- **A file from the net** is put right into the directory for fetched files,
under a name that nothing of its location but the suffix goes into.  It is
taken for an Android archive if and only if the last segment of the URL names
one; and then, and only then, what is compared in the end is the inner archive
that was taken out of it. -/
theorem resolve_remote_staged (hsound : host.Sound)
    (hproper : (givenStagingPath host settings).IsProper)
    (hremote : Location.hasToBeFetched location.toList = .ok true)
    (h : (resolve host settings fetcher location).on m = (.ok path, m')) :
    (∃ suffix number d,
      IsStaged host settings m'.files path (freshName stagedStart suffix number) d) ∧
    (∃ u, Location.Spells location.toList u) ∧
    ∀ u, Location.Spells location.toList u →
      (isAndroid path = true ↔ NamesAndroid u.segment) ∧
      (¬ NamesAndroid u.segment → (AndroidArchive.normalize host path).on m' = (.ok path, m')) ∧
      (NamesAndroid u.segment → ∀ archive m'',
        (AndroidArchive.normalize host path).on m' = (.ok archive, m'') →
        archive ≠ path ∧ ∃ classes c, Extracts host path archive m'.files classes c m''.files) := by
  rw [Location.hasToBeFetched_eq] at hremote
  rcases hl : Location.split location.toList with e | l <;> rw [hl] at hremote
  · cases hremote
  have hremote : l.isRemote = true := Except.ok.inj hremote
  rw [resolve_of_remote hl hremote] at h
  obtain ⟨number, d, rfl, hstaged⟩ := isStaged_of_stage hsound hproper h
  refine ⟨⟨l.suffix, number, d, hstaged⟩, Location.exists_url hl hremote, fun u hu => ?_⟩
  have hnames : isAndroid (stagedPath host settings l.suffix number) = true ↔
      NamesAndroid u.segment := isAndroid_iff_namesAndroid hu hl hremote
  refine ⟨hnames, fun hnot => ?_, fun hnamed archive m'' hnorm => ?_⟩
  · exact on_normalize_of_not_android (Bool.eq_false_iff.2 (mt hnames.1 hnot)) m'
  · exact extracts_of_isAndroid (hnames.2 hnamed) hnorm

/-- The search for a release whose URL has parameters, a query and a
fragment. -/
def disguisedRun : Except Failure Path × Machine :=
  (resolve having (fetchingAs "bumpgate") .standard "http://h/a;b/x..AaR;v=1?q=.jar#f").on {}

/-- The release is put into the directory that was set, and taken for an
Android archive. -/
theorem resolve_remote_staged_disguised :
    ∃ path suffix number, disguisedRun.1 = .ok path ∧
      IsStaged having (fetchingAs "bumpgate") disguisedRun.2.files path
        (freshName stagedStart suffix number) ["s"] ∧
      isAndroid path = true := by
  have hfound : disguisedRun.1.toOption = some (.ofString "/s/bumpgate-00000001.AaR") := by
    decide +kernel
  have hfetched : Location.hasToBeFetched "http://h/a;b/x..AaR;v=1?q=.jar#f".toList = .ok true :=
    eq_ok_of_toOption (by decide +kernel)
  have hpath : givenStagingPath having (fetchingAs "bumpgate") = .ofString "/s" := by decide
  have hproper : (givenStagingPath having (fetchingAs "bumpgate")).IsProper := by
    rw [hpath]
    exact Path.isProper_ofString _
  obtain ⟨⟨suffix, number, d, hstaged⟩, ⟨u, hu⟩, hurl⟩ :=
    resolve_remote_staged ⟨by decide, by decide⟩ hproper hfetched (on_of_toOption hfound)
  have hplace : (disguisedRun.2.files.locate having.here
      (givenStagingPath having (fetchingAs "bumpgate")).text true).toOption = some ["s"] := by
    decide +kernel
  have hgiven := denotes_of_locate (by decide) hproper (eq_ok_of_toOption hplace)
  obtain rfl := hstaged.given (foldsNoLink_of_notMem _ (by decide)) ["s"] hgiven
  refine ⟨_, suffix, number, eq_ok_of_toOption hfound, hstaged, (hurl u hu).1.2 ?_⟩
  have hl : Location.split "http://h/a;b/x..AaR;v=1?q=.jar#f".toList =
      .ok ⟨"http".toList, "h".toList, "/a;b/x..AaR".toList⟩ := eq_ok_of_toOption (by decide +kernel)
  rw [← Location.segment_eq hu hl (by decide)]
  exact ⟨"x.".toList, ".AaR".toList, by decide, by decide, 'x', by decide, by decide⟩

/-- A directory for fetched files whose path goes up behind a link.  The file
that is fetched is in another directory than the one that was set. -/
theorem resolve_beside_stagingDir :
    ∃ path m', (resolve Gate.emptyServer Gate.upFromLink.settings .given "http://h/old.jar").on
        Gate.linkedTree = (.ok path, m') ∧
      m'.files.locate Gate.emptyServer.here path.text true =
        .ok ["bumpgate-00000001.jar", "stage"] ∧
      m'.files.get? ["bumpgate-00000001.jar", "stage"] = some (.file .empty) ∧
      Gate.upFromLink.settings.stagingDir = some (.ofString "/link/../stage") ∧
      m'.files.locate Gate.emptyServer.here "/link/../stage" true = .ok ["stage", "a"] ∧
      m'.files.get? ["stage", "a"] = some .dir ∧
      ["bumpgate-00000001.jar", "stage"].tail ≠ ["stage", "a"] := by
  have hrun := on_of_toOption (show ((resolve Gate.emptyServer Gate.upFromLink.settings .given
    "http://h/old.jar").on Gate.linkedTree).1.toOption =
      some (.ofString "/stage/bumpgate-00000001.jar") by decide +kernel)
  refine ⟨_, _, hrun, eq_ok_of_toOption ?_, ?_, rfl, eq_ok_of_toOption ?_, ?_, by decide⟩
  all_goals decide +kernel

end Artifacts

end ReleaseGate
