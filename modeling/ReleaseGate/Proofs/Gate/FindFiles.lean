/-
ReleaseGate/Proofs/Gate/FindFiles.lean

Looking for the two artifacts of a candidate.

The new artifact is a local file, since its path is made whole first; so
looking for it changes nothing, and without it nothing else is done.  The
old one may be fetched.  `FindRun` collects what comes of looking for both:
the tree grows by what is fetched, files that were found can be read, and
an old artifact that is left out is missing.

Main result: `findRun_findFiles`.
-/
import ReleaseGate.Gate.Run
import ReleaseGate.Proofs.Gate.Artifacts

namespace ReleaseGate.Gate

open ReleaseGate.Action Artifacts
open FileTree hiding resolve

variable {host : Host} {setup : Setup} {candidate : Candidate} {m m' : Machine}

/-! ### The new artifact -/

/-- The path of the new artifact as it is looked for. -/
def newPath (host : Host) (candidate : Candidate) : Path :=
  .ofString (candidate.newFile.seenFrom host.workingDir).text

theorem notMem_name_newPath (host : Host) (candidate : Candidate) :
    '/' ∉ (newPath host candidate).name :=
  Path.notMem_name fun n hn => (Path.names_ofChars _ n hn).2.2

/-- What starts with a slash is a local path. -/
theorem isLocal_of_slash {s : List Char} {l : Location} (hs : s.head? = some '/')
    (h : Location.split s = .ok l) : l.isLocal = true := by
  obtain ⟨rest, rfl⟩ := List.head?_eq_some_iff.1 hs
  have hsig : Location.significant ('/' :: rest) =
      '/' :: rest.filter fun c => !Location.isIgnored c := rfl
  have hscheme : ∀ s, Location.splitScheme ('/' :: s) = ([], '/' :: s) := fun _ => rfl
  rw [Location.split, hsig, hscheme] at h
  simp only at h
  rcases hc : Location.checkAuthority (Location.splitAuthority
      ('/' :: rest.filter fun c => !Location.isIgnored c)).1 with e | u
  · rw [hc] at h
    cases h
  · rw [hc] at h
    obtain rfl := Except.ok.inj h
    rfl

/-- The new artifact is looked for where it should be, and nowhere else. -/
theorem on_findNew (setup : Setup) (candidate : Candidate) (hsound : host.Sound) (m : Machine) :
    ∃ r, (findNew host setup candidate).on m = (r, m) ∧ ((∃ e, r = .error e) ∨
      r = .ok (newPath host candidate) ∧
        ∃ content, m.files.read host.here (newPath host candidate).text = .ok content) := by
  have habs : (newPath host candidate).isAbsolute := by
    have hhead := Path.head?_text (Path.isAbsolute_seenFrom candidate.newFile hsound.absolute)
    have hroot : Path.rootOf (candidate.newFile.seenFrom host.workingDir).text.toList ≠ .current :=
      fun h => Path.rootOf_eq_current.1 h hhead
    simpa [Path.isAbsolute, newPath, Path.ofString, Path.ofChars] using hroot
  have hseen : (newPath host candidate).seenFrom host.workingDir = newPath host candidate :=
    if_pos habs
  rcases h : (findNew host setup candidate).on m with ⟨r, m'⟩
  rw [findNew, resolve] at h
  rcases orFail_bind_cases h with ⟨fault, -, rfl, rfl⟩ | ⟨l, hl, hrest⟩
  · exact ⟨_, rfl, .inl ⟨_, rfl⟩⟩
  -- the path is whole, so the location is a local one
  have hlocal : l.isLocal = true := by
    refine isLocal_of_slash (Path.head?_text ?_) hl
    exact Path.isAbsolute_seenFrom candidate.newFile hsound.absolute
  rw [if_pos hlocal] at hrest
  obtain rfl := (readOnly_findLocal host _ _).eq hrest
  refine ⟨r, rfl, ?_⟩
  rcases r with e | found
  · exact .inl ⟨e, rfl⟩
  · obtain ⟨rfl, -, hfile⟩ := findLocal_eq_ok.1 hrest
    show _ ∨ (.ok ((newPath host candidate).seenFrom host.workingDir) : Except Failure Path) = _ ∧ _
    change m'.files.isFile host.here ((newPath host candidate).seenFrom host.workingDir).text = _
      at hfile
    rw [hseen] at hfile ⊢
    exact .inr ⟨rfl, isFile_eq_true.1 hfile⟩

/-! ### Both artifacts -/

/-- What comes of looking for the old artifact. -/
structure FindOldRun (host : Host) (setup : Setup) (candidate : Candidate) (m : Machine)
    (r : Except Failure (Option Path)) (m' : Machine) : Prop where
  calls : m'.calls = m.calls
  stages : ∃ staged, Stages host setup.settings staged m.files m'.files
  found : ∀ old, r = .ok (some old) → ∃ content, m'.files.read host.here old.text = .ok content
  name : host.Sound → ∀ old, r = .ok (some old) → '/' ∉ old.name
  missing : r = .ok none → candidate.mayBeFirst ∧ NothingAt host candidate.oldLocation m m'

theorem findOldRun_findOld {r : Except Failure (Option Path)}
    (h : (findOld host setup candidate).on m = (r, m')) :
    FindOldRun host setup candidate m r m' := by
  change (lookFor host setup.settings setup.fetcher candidate.oldLocation
    candidate.mayBeFirst).on m = _ at h
  obtain ⟨found, hresolve, hr⟩ := lookFor_cases h
  obtain ⟨hcalls, hstages, hok, hname, -, hmissing⟩ := resolveRun_resolve hresolve
  rcases hr with rfl | ⟨hfirst, rfl, f, rfl, hm⟩
  · rcases found with e | path
    · exact ⟨hcalls, hstages, nofun, fun _ => nofun, nofun⟩
    · refine ⟨hcalls, hstages, ?_, fun hs => ?_, nofun⟩
      · rintro _ ⟨⟩
        exact hok path rfl
      · rintro _ ⟨⟩
        exact hname hs path rfl
  · exact ⟨hcalls, hstages, nofun, fun _ => nofun, fun _ => ⟨hfirst, hmissing f rfl hm⟩⟩

/-- What comes of looking for both artifacts. -/
structure FindRun (host : Host) (setup : Setup) (candidate : Candidate) (m : Machine)
    (r : Except Failure (Path × Option Path)) (m' : Machine) : Prop where
  calls : m'.calls = m.calls
  stages : ∃ staged, Stages host setup.settings staged m.files m'.files
  new : ∀ new old?, r = .ok (new, old?) → new = newPath host candidate ∧
    ∃ content, m.files.read host.here new.text = .ok content ∧
      m'.files.read host.here new.text = .ok content
  found : ∀ new old, r = .ok (new, some old) →
    '/' ∉ old.name ∧ ∃ content, m'.files.read host.here old.text = .ok content
  missing : ∀ new, r = .ok (new, none) →
    candidate.mayBeFirst ∧ NothingAt host candidate.oldLocation m m'
  /-- Without the new artifact nothing is done. -/
  absent : m.files.isFile host.here (newPath host candidate).text ≠ .ok true →
    (∃ e, r = .error e) ∧ m' = m

/-- **Looking for both artifacts** changes no more than fetching one. -/
theorem findRun_findFiles (hsound : host.Sound) {r : Except Failure (Path × Option Path)}
    (h : (findFiles host setup candidate).on m = (r, m')) :
    FindRun host setup candidate m r m' := by
  obtain ⟨found, hnew, ⟨e, rfl⟩ | ⟨rfl, content, hread⟩⟩ := on_findNew setup candidate hsound m
  · rw [findFiles, on_bind_of_error hnew] at h
    obtain ⟨rfl, rfl⟩ := Prod.mk.inj h
    exact ⟨rfl, ⟨none, .refl host _ _⟩, nofun, nofun, nofun, fun _ => ⟨⟨e, rfl⟩, rfl⟩⟩
  have hthere : m.files.isFile host.here (newPath host candidate).text = .ok true :=
    isFile_eq_true.2 ⟨content, hread⟩
  rw [findFiles, on_bind_of_ok hnew] at h
  rcases on_bind_cases h with ⟨e, hold, rfl⟩ | ⟨old?, m₁, hold, hpure⟩
  · obtain ⟨hcalls, hstages, -, -, -⟩ := findOldRun_findOld hold
    exact ⟨hcalls, hstages, nofun, nofun, nofun, fun habsent => absurd hthere habsent⟩
  · obtain ⟨hcalls, ⟨staged, hstages⟩, hfound, hname, hmissing⟩ := findOldRun_findOld hold
    obtain ⟨rfl, rfl⟩ := Prod.mk.inj hpure
    refine ⟨hcalls, ⟨staged, hstages⟩, ?_, ?_, ?_, fun habsent => absurd hthere habsent⟩
    · rintro _ _ ⟨⟩
      exact ⟨rfl, content, hread, hstages.read hread⟩
    · rintro _ old ⟨⟩
      exact ⟨hname hsound old rfl, hfound old rfl⟩
    · rintro _ ⟨⟩
      exact hmissing rfl

end ReleaseGate.Gate
