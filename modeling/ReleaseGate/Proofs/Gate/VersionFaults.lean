/-
ReleaseGate/Proofs/Gate/VersionFaults.lean

Where faults in versions come from.

Versions are read and compared in a few places only.  Everything else a run
does, it does without them: `Unversioned a` says that the action `a` never
fails with a version error.  For the parts of a run it is read off the lists
of their faults, on which there is no version error.

What is left are the two versions of the candidate, and an engine of the
caller that blames a version itself.
-/
import ReleaseGate.Proofs.Gate.Faults

namespace ReleaseGate

open ReleaseGate.Action

variable {α β : Type} {a : Action α} {f : α → Action β} {e : Failure}

/-- The action never fails with a version error. -/
def Action.Unversioned (a : Action α) : Prop :=
  ∀ m v m', on a m ≠ (.error (.version v), m')

/-! ### Ways to build an action -/

namespace Action

theorem unversioned_of_failsIn {P : Machine → Failure → Prop} (ha : ∀ m, FailsIn (P m) a m)
    (hP : ∀ m v, ¬ P m (.version v)) : Unversioned a :=
  fun m v m' h => hP m v (ha m _ m' h)

theorem unversioned_pure (x : α) : Unversioned (pure x : Action α) := by
  intro m v m' h
  cases h

theorem unversioned_throw (he : ∀ v, e ≠ .version v) : Unversioned (throw e : Action α) := by
  intro m v m' h
  obtain ⟨⟨⟩, -⟩ := h
  exact he v rfl

theorem Unversioned.bind (ha : Unversioned a) (hf : ∀ x, Unversioned (f x)) :
    Unversioned (a >>= f) := by
  intro m v m' h
  rcases on_bind_eq_error.1 h with h | ⟨x, m₁, -, h⟩
  · exact ha m v m' h
  · exact hf x m₁ v m' h

/-! ### Sameness -/

theorem unversioned_realPlace (host : Host) (path : String) :
    Unversioned (realPlace host path) := by
  have hfiles : Unversioned files :=
    unversioned_of_failsIn (P := fun _ _ => False) (fun _ => failsIn_files) fun _ _ => id
  refine hfiles.bind fun t => ?_
  split
  · exact unversioned_pure _
  · exact unversioned_throw nofun
  · exact unversioned_throw nofun

theorem unversioned_sameFiles (host : Host) (x y : String) : Unversioned (sameFiles host x y) := by
  have hload : ∀ path, Unversioned (load host path) := fun path =>
    unversioned_of_failsIn (fun _ => failsIn_load) fun _ _ => id
  have hprint : ∀ path, Unversioned (fingerprint host path) := fun path =>
    (hload path).bind fun _ => unversioned_pure _
  refine (unversioned_realPlace host x).bind fun first => ?_
  refine (unversioned_realPlace host y).bind fun second => ?_
  split
  · exact unversioned_pure _
  · exact (hprint x).bind fun _ => (hprint y).bind fun _ => unversioned_pure _

end Action

/-! ### The parts of a run -/

theorem AndroidArchive.zipFailure_ne_version (path : Path) (fault : Archive.ZipError)
    (v : VersionError) : zipFailure path fault ≠ .version v := by
  unfold zipFailure
  split
  · exact nofun
  · split <;> exact nofun

theorem AndroidArchive.unversioned_normalize (host : Host) (path : Path) :
    Unversioned (normalize host path) := by
  refine unversioned_of_failsIn (fun _ => failsIn_normalize) fun m v h => ?_
  generalize hv : Failure.version v = e at h
  cases h with
  | files he =>
    subst hv
    exact he
  | zip => exact zipFailure_ne_version path _ v hv.symm
  | _ => cases hv

theorem Artifacts.fetchFailure_ne_version (location : String) (fault : Net.Fault)
    (v : VersionError) : fetchFailure location fault ≠ .version v := by
  cases fault <;> exact nofun

namespace Gate

variable {host : Host} {setup : Setup} {candidate : Candidate} {call : Call}

theorem unversioned_findFiles (host : Host) (setup : Setup) (candidate : Candidate) :
    Unversioned (findFiles host setup candidate) := by
  have hfault : ∀ location m v,
      ¬ Artifacts.ResolveFault host setup.settings setup.fetcher location m (.version v) := by
    intro location m v h
    generalize hv : Failure.version v = e at h
    cases h with
    | files _ he =>
      subst hv
      exact he
    | stopped => exact Artifacts.fetchFailure_ne_version _ _ v hv.symm
    | _ => cases hv
  have hold : Unversioned (findOld host setup candidate) := by
    refine unversioned_of_failsIn (fun m => ?_) (hfault candidate.oldLocation)
    unfold findOld
    split
    · exact Artifacts.failsIn_resolve? Artifacts.failsIn_resolve
    · exact Artifacts.failsIn_resolve.map some
  have hnew : Unversioned (findNew host setup candidate) :=
    unversioned_of_failsIn (fun _ => Artifacts.failsIn_resolve) (hfault _)
  exact hnew.bind fun _ => hold.bind fun _ => unversioned_pure _

theorem unversioned_writeReports (host : Host) (comparison : Comparison)
    (textReport htmlReport : Path) :
    Unversioned (writeReports host comparison textReport htmlReport) :=
  unversioned_of_failsIn (fun _ => failsIn_writeReports) fun _ _ => id

theorem unversioned_loadExclusions (host : Host) (path? : Option Path) :
    Unversioned (loadExclusions host path?) := by
  refine unversioned_of_failsIn (fun _ => failsIn_loadExclusions) fun m v h => ?_
  obtain ⟨path, -, hfault⟩ := h
  cases hfault with
  | files he => exact he

theorem unversioned_compare_tool (host : Host) (tool : DiffTool) (old new : Path)
    (exclusions : ExclusionList) : Unversioned (tool.compare host old new exclusions) := by
  refine unversioned_of_failsIn (P := fun _ e => ∀ v, e ≠ .version v) (fun m => ?_)
    fun m v h => h v rfl
  have hfiles : ∀ {c : Prop} {e : Failure}, e.OnFiles c → ∀ v, e ≠ .version v := by
    rintro c e he v rfl
    exact he
  exact DiffTool.failsIn_compare_of_run hfiles fun _ =>
    DiffTool.failsIn_run nofun hfiles nofun nofun nofun

/-- An engine fails with a version error only if it is one of the caller that
says so. -/
theorem given_of_callEngine {m m' : Machine} {v : VersionError}
    (h : (callEngine host setup call).on m = (.error (.version v), m')) :
    ∃ f, setup.engine? = some (.given f) ∧
      f m.files call.oldArchive call.newArchive call.exclusions = .error (.version v) := by
  rcases on_bind_eq_error.1 h with hengine | ⟨engine, m₁, hengine, hcall⟩
  · have hmake : FailsIn (· ≠ .version v) (orFail .engine setup.engine) m :=
      failsIn_orFail fun _ _ => nofun
    exact absurd rfl (hmake _ _ hengine)
  · obtain ⟨hok, rfl⟩ := orFail_eq_ok.1 hengine
    cases engine with
    | tool t => exact absurd hcall (unversioned_compare_tool host t _ _ _ m₁ v m')
    | given f =>
      refine ⟨f, engine?_of_given hok, ?_⟩
      rw [on_compare_given] at hcall
      exact (Prod.mk.inj hcall).1

end Gate

end ReleaseGate
