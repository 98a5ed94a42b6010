/-
ReleaseGate/Proofs/Releases.lean

Several releases in a row, judged one by one and judged as one.

Steps compose: if `b` is the step from one version to the next and `c` the
step from there on, the worse of the two is the step over both
(`Grows.trans`).  Verdicts compose with them (`Passes.trans`): the worse of
the two required bumps passes for the pair of the ends.

Design.  The exemption below 1.0.0 is what could break composition, since it
lets any change through.  It does not: a pair that is exempt says nothing
about the changes, but a way that leaves the exempt region crosses from
major 0 to a greater one, so its step is major and covers every bump.

A version that only goes up passes when nothing is required
(`Passes.of_grows`).  So to judge a wider pair is to compose with a step at
either end, and the order of verdicts comes out of their composition.

Main results: `chain_passes`, `passes_widen`.
-/
import Mathlib.Data.List.Perm.Subperm
import ReleaseGate.Proofs.Policy

namespace ReleaseGate

/-! ### The worse of two bumps -/

namespace Bump

variable {a b : Bump} {bumps : List Bump}

theorem le_major (a : Bump) : a ≤ .major := by
  cases a <;> decide

theorem le_max_left (a b : Bump) : a ≤ a.max b := (max_le_iff.1 (le_refl _)).1

theorem le_max_right (a b : Bump) : b ≤ a.max b := (max_le_iff.1 (le_refl _)).2

@[simp] theorem none_max (a : Bump) : Bump.none.max a = a := by
  cases a <;> rfl

@[simp] theorem max_none (a : Bump) : a.max .none = a := by
  cases a <;> rfl

/-- The worst of a list, by its first member. -/
theorem worst_cons (b : Bump) (bumps : List Bump) :
    worst (b :: bumps) = b.max (worst bumps) := by
  refine le_antisymm (worst_le_iff.2 fun x hx => ?_) (max_le_iff.2 ⟨?_, ?_⟩)
  · rcases List.mem_cons.1 hx with rfl | hx
    · exact le_max_left x _
    · exact le_trans (le_worst hx) (le_max_right b _)
  · exact le_worst List.mem_cons_self
  · exact worst_le_iff.2 fun x hx => le_worst (List.mem_cons_of_mem b hx)

end Bump

/-- Fewer records require no more. -/
theorem ChangeModel.requiredBump_le_of_subset {model' model : ChangeModel}
    (h : model'.changes ⊆ model.changes) : model'.requiredBump ≤ model.requiredBump := by
  have hall := model.requires_requiredBump
  refine Bump.worst_le_iff.2 fun b hb => ?_
  rcases List.mem_cons.1 hb with rfl | hb
  · exact hall.patch
  · obtain ⟨c, hc, rfl⟩ := List.mem_map.1 hb
    exact hall.records c (h hc)

/-! ### Steps compose -/

namespace Version

variable {u v w : Version} {b c : Bump}

theorem below_iff_triple_lt : v.Below w ↔ v.triple < w.triple := by
  simp only [Below, triple, List.cons_lt_cons_iff, List.lt_irrefl, and_false, or_false]

/-- A pair that goes down is refused, and no other pair is. -/
theorem bumpTo_eq_error_iff {e : VersionError} :
    v.bumpTo w = .error e ↔ w.triple < v.triple ∧ e = .decreasing v w := by
  rw [← below_iff_triple_lt, ← lt_iff]
  by_cases hlt : w.lt v = true
  · rw [bumpTo, if_pos hlt]
    constructor
    · intro h
      exact ⟨hlt, (Except.error.inj h).symm⟩
    · rintro ⟨-, rfl⟩
      rfl
  · refine ⟨fun h => ?_, fun h => absurd h.1 hlt⟩
    rw [bumpTo, if_neg hlt] at h
    split at h
    · cases h
    split at h
    · cases h
    split at h <;> cases h

/-- Versions that do not go down have a step between them. -/
theorem exists_grows (h : ¬ w.triple < v.triple) : ∃ b, Grows v w b := by
  rcases hb : v.bumpTo w with e | b
  · exact absurd (bumpTo_eq_error_iff.1 hb).1 h
  · exact ⟨b, bumpTo_eq_ok_iff.1 hb⟩

theorem Grows.refl (v : Version) : Grows v v .none := rfl

theorem Grows.major_le (h : Grows v w b) : v.major ≤ w.major := by
  cases b <;> simp only [Grows, triple, List.cons.injEq] at h <;> omega

/-- The step over a greater major is a major one. -/
theorem Grows.eq_major (h : Grows v w b) (hlt : v.major < w.major) : b = .major := by
  cases b with
  | major => rfl
  | minor => exact absurd h.1 (Nat.ne_of_lt hlt)
  | patch => exact absurd h.1 (Nat.ne_of_lt hlt)
  | none => exact absurd (List.cons.inj h).1 (Nat.ne_of_lt hlt)

/-- **Steps compose.**  The first component that differs over the whole way
is the first one that differs on a part of it. -/
theorem Grows.trans (h : Grows u v b) (h' : Grows v w c) : Grows u w (b.max c) := by
  cases b <;> cases c <;>
    simp only [Grows, triple, List.cons.injEq, and_true] at h h' <;>
    simp [Bump.max, Bump.rank, Grows, triple] <;> omega

end Version

/-! ### Verdicts compose -/

namespace Verdict

variable {u v w : Version} {b r s : Bump}

/-- The pair has a verdict, and it lets the release go out. -/
def Passes (old new : Version) (required : Bump) : Prop :=
  ∃ verdict, decide old new required = .ok verdict ∧ verdict.passed

theorem passes_iff :
    Passes v w r ↔ ∃ b, v.Grows w b ∧ ((v.major = 0 ∧ w.major = 0) ∨ r ≤ b) := by
  constructor
  · rintro ⟨verdict, hverdict, hpassed⟩
    obtain ⟨b, hb⟩ := decide_eq_ok hverdict
    exact ⟨b, hb.grows, hb.passed_iff.1 hpassed⟩
  · rintro ⟨b, hgrows, hcovers⟩
    obtain ⟨verdict, hverdict⟩ := exists_decide_eq_ok hgrows r
    obtain ⟨b', hb'⟩ := decide_eq_ok hverdict
    -- the verdict is about the one step that the pair has
    have hbump := Version.bumpTo_eq_ok_iff.2 hgrows
    rw [Version.bumpTo_eq_ok_iff.2 hb'.grows] at hbump
    obtain rfl := Except.ok.inj hbump
    exact ⟨verdict, hverdict, hb'.passed_iff.2 hcovers⟩

instance (old new : Version) (required : Bump) : Decidable (Passes old new required) :=
  match h : decide old new required with
  | .error _ => isFalse fun ⟨_, hverdict, _⟩ => by
    rw [h] at hverdict
    cases hverdict
  | .ok verdict =>
    if hpassed : verdict.passed then isTrue ⟨verdict, h, hpassed⟩
    else isFalse fun ⟨_, hverdict, hp⟩ => by
      rw [h] at hverdict
      obtain rfl := Except.ok.inj hverdict
      exact hpassed hp

/-- A release that requires nothing passes if it does not go down. -/
theorem Passes.of_grows (h : v.Grows w b) : Passes v w .none :=
  passes_iff.2 ⟨b, h, .inr (Bump.none_le b)⟩

/-- Less may be required. -/
theorem Passes.mono (h : Passes v w r) (hle : s ≤ r) : Passes v w s := by
  obtain ⟨b, hgrows, hcovers⟩ := passes_iff.1 h
  exact passes_iff.2 ⟨b, hgrows, hcovers.imp_right (Bump.le_trans hle)⟩

/-- **Verdicts compose.** -/
theorem Passes.trans (h : Passes u v r) (h' : Passes v w s) : Passes u w (r.max s) := by
  obtain ⟨b, hgrows, hcovers⟩ := passes_iff.1 h
  obtain ⟨c, hgrows', hcovers'⟩ := passes_iff.1 h'
  have hway := hgrows.trans hgrows'
  refine passes_iff.2 ⟨b.max c, hway, ?_⟩
  have huv := hgrows.major_le
  have hvw := hgrows'.major_le
  rcases Nat.eq_zero_or_pos w.major with hw | hw
  · -- all three are below 1.0.0
    exact .inl ⟨by omega, hw⟩
  right
  rcases Nat.eq_zero_or_pos u.major with hu | hu
  · -- the way leaves the exempt region
    rw [hway.eq_major (by omega)]
    exact Bump.le_major _
  · -- neither part is exempt
    have hr : r ≤ b := hcovers.resolve_left (by omega)
    have hs : s ≤ c := hcovers'.resolve_left (by omega)
    exact Bump.max_le_iff.2 ⟨Bump.le_trans hr (Bump.le_max_left b c),
      Bump.le_trans hs (Bump.le_max_right b c)⟩

/-- **A wider step and fewer records keep the verdict.**  If the changes of
a model pass between two versions, some of them pass between an old version
that is no higher and a new one that is no lower.  The versions of the first
pair do not go down, or there would be no verdict; just the pairs that go
down are refused. -/
theorem passes_widen :
    (∀ {old' old new new' : Version} {model' model : ChangeModel},
      ¬ old.triple < old'.triple → ¬ new'.triple < new.triple →
      model'.changes.Subperm model.changes →
      Passes old new model.requiredBump → Passes old' new' model'.requiredBump) ∧
    ∀ (old new : Version) (e : VersionError),
      old.bumpTo new = .error e ↔ new.triple < old.triple ∧ e = .decreasing old new := by
  refine ⟨?_, fun old new e => Version.bumpTo_eq_error_iff⟩
  intro old' old new new' model' model hold hnew hfewer hpasses
  obtain ⟨b, hbefore⟩ := Version.exists_grows hold
  obtain ⟨c, hafter⟩ := Version.exists_grows hnew
  -- a step in front and a step behind, neither with a change to cover
  have hwide := ((Passes.of_grows hbefore).trans hpasses).trans (Passes.of_grows hafter)
  rw [Bump.none_max, Bump.max_none] at hwide
  exact hwide.mono (ChangeModel.requiredBump_le_of_subset hfewer.subset)

/-- A class that is gone, and a new one. -/
def replacement : ChangeModel :=
  ⟨[{ name := "a.B", status := .removed, severity := .major },
    { name := "a.C", status := .new, severity := .minor }]⟩

/-- A class that is gone. -/
def removal : ChangeModel :=
  ⟨[{ name := "a.B", status := .removed, severity := .major }]⟩

/-- From 0.2.0 to 0.3.0 the removal of a class is exempt.  It passes from
0.1.0 to 1.0.0 as well, where the exemption ends. -/
theorem passes_widen_leaving_exempt :
    Passes ⟨0, 2, 0, none⟩ ⟨0, 3, 0, none⟩ replacement.requiredBump ∧
      Passes ⟨0, 1, 0, none⟩ ⟨1, 0, 0, some "-rc1"⟩ removal.requiredBump := by
  have hpasses : Passes ⟨0, 2, 0, none⟩ ⟨0, 3, 0, none⟩ replacement.requiredBump := by decide
  have hfewer : removal.changes.Subperm replacement.changes :=
    (List.sublist_append_left removal.changes _).subperm
  exact ⟨hpasses, passes_widen.1 (by decide) (by decide) hfewer hpasses⟩

end Verdict

/-! ### Chains of releases -/

/-- A release after an earlier one: its version, and the bump that its
changes require. -/
structure Release where
  version : Version
  required : Bump
  deriving DecidableEq, Repr

namespace Release

variable {first : Version} {releases : List Release}

/-- The version that a chain of releases ends with. -/
def latest (first : Version) : List Release → Version
  | [] => first
  | release :: rest => latest release.version rest

/-- The steps along a chain of releases. -/
def steps (first : Version) : List Release → Except VersionError (List Bump)
  | [] => .ok []
  | release :: rest => do
    let step ← first.bumpTo release.version
    return step :: (← steps release.version rest)

/-- Every release of the chain passes, judged against the one before it. -/
def Accepted (first : Version) : List Release → Prop
  | [] => True
  | release :: rest =>
    Verdict.Passes first release.version release.required ∧ Accepted release.version rest

instance decidableAccepted (first : Version) :
    (releases : List Release) → Decidable (Accepted first releases)
  | [] => isTrue trivial
  | release :: rest =>
    have := decidableAccepted release.version rest
    inferInstanceAs (Decidable (_ ∧ _))

/-- The steps of a chain that is accepted add up to the step from its first
version to its last. -/
theorem Accepted.exists_steps (h : Accepted first releases) :
    ∃ bumps, steps first releases = .ok bumps ∧
      first.Grows (latest first releases) (Bump.worst bumps) := by
  induction releases generalizing first with
  | nil => exact ⟨[], rfl, Version.Grows.refl first⟩
  | cons release rest ih =>
    obtain ⟨hpasses, hrest⟩ := h
    obtain ⟨step, hstep, -⟩ := Verdict.passes_iff.1 hpasses
    obtain ⟨bumps, hbumps, hgrows⟩ := ih hrest
    refine ⟨step :: bumps, ?_, ?_⟩
    · rw [steps, Version.bumpTo_eq_ok_iff.2 hstep]
      simp only [bind, Except.bind, hbumps, pure, Except.pure]
    · rw [Bump.worst_cons]
      exact hstep.trans hgrows

/-- A chain that is accepted passes as one release that requires the worst
of what was required along it. -/
theorem Accepted.passes (h : Accepted first releases) :
    Verdict.Passes first (latest first releases) (Bump.worst (releases.map (·.required))) := by
  induction releases generalizing first with
  | nil => exact Verdict.Passes.of_grows (Version.Grows.refl first)
  | cons release rest ih =>
    obtain ⟨hpasses, hrest⟩ := h
    rw [List.map_cons, Bump.worst_cons]
    exact hpasses.trans (ih hrest)

/-- **Accepted releases do not add up to a rejected one.**  If every release
of a chain passes against the one before it, the last version has a step from
the first, the worst of the steps along the chain, and passes against it with
the worst of the bumps that were required. -/
theorem chain_passes (h : Accepted first releases) :
    ∃ bumps, steps first releases = .ok bumps ∧
      first.bumpTo (latest first releases) = .ok (Bump.worst bumps) ∧
      Verdict.Passes first (latest first releases) (Bump.worst (releases.map (·.required))) := by
  obtain ⟨bumps, hsteps, hgrows⟩ := h.exists_steps
  exact ⟨bumps, hsteps, Version.bumpTo_eq_ok_iff.2 hgrows, h.passes⟩

/-- A chain that starts in the exempt region with breaking changes, leaves it
and ends with a fix. -/
def leaving : List Release :=
  [⟨⟨0, 2, 0, none⟩, .major⟩, ⟨⟨1, 0, 0, none⟩, .major⟩, ⟨⟨1, 0, 1, none⟩, .patch⟩]

/-- The chain passes as one release, which is a major one. -/
theorem chain_passes_leaving :
    Accepted ⟨0, 1, 0, none⟩ leaving ∧
      Verdict.Passes ⟨0, 1, 0, none⟩ ⟨1, 0, 1, none⟩ .major := by
  have haccepted : Accepted ⟨0, 1, 0, none⟩ leaving := by decide
  obtain ⟨bumps, -, -, hpasses⟩ := chain_passes haccepted
  exact ⟨haccepted, hpasses⟩

end Release

end ReleaseGate
