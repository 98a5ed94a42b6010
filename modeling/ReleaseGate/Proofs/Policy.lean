/-
ReleaseGate/Proofs/Policy.lean

The order of bumps, the step between two versions, and the verdict.

Bumps are a chain of four, and `Bump.worst` is the least upper bound of a
list in it (`worst_le_iff`), taken on by a member if there is one
(`worst_mem`).

`Grows old new b` says with the components of two versions what it means
that `b` is the step between them, and `Version.bumpTo_eq_ok_iff` that
`bumpTo` gives just that step.  A pair has a step if it does not go down
(`Grows.not_below`).

Main results: `worst_le_iff`, `Version.bumpTo_eq_ok_iff`,
`Verdict.decide_eq_ok`.
-/
import Mathlib.Tactic.MkIffOfInductiveProp
import ReleaseGate.Comparison

namespace ReleaseGate

namespace Bump

/-! ### The order of bumps -/

variable {a b c : Bump} {bumps : List Bump}

theorem le_refl (a : Bump) : a ≤ a := Nat.le_refl a.rank

theorem le_trans : a ≤ b → b ≤ c → a ≤ c := Nat.le_trans

theorem le_antisymm (h : a ≤ b) (h' : b ≤ a) : a = b := rank_injective (Nat.le_antisymm h h')

theorem eq_of_forall_le_iff (h : ∀ c, a ≤ c ↔ b ≤ c) : a = b :=
  le_antisymm ((h b).2 (le_refl b)) ((h a).1 (le_refl a))

theorem none_le (a : Bump) : Bump.none ≤ a := Nat.zero_le a.rank

theorem max_le_iff : a.max b ≤ c ↔ a ≤ c ∧ b ≤ c := by
  cases a <;> cases b <;> cases c <;> decide

theorem max_eq (a b : Bump) : a.max b = a ∨ a.max b = b := by
  cases a <;> cases b <;> decide

theorem foldl_max_le_iff : bumps.foldl max a ≤ b ↔ a ≤ b ∧ ∀ x ∈ bumps, x ≤ b := by
  induction bumps generalizing a with
  | nil => simp
  | cons x bumps ih =>
    rw [List.foldl_cons, ih, max_le_iff, List.forall_mem_cons, and_assoc]

/-- The worst bump is a least upper bound. -/
theorem worst_le_iff : worst bumps ≤ b ↔ ∀ x ∈ bumps, x ≤ b := by
  rw [worst, foldl_max_le_iff]
  exact ⟨And.right, fun h => ⟨none_le b, h⟩⟩

theorem le_worst (h : a ∈ bumps) : a ≤ worst bumps := worst_le_iff.1 (le_refl _) a h

theorem foldl_max_mem : bumps.foldl max a = a ∨ bumps.foldl max a ∈ bumps := by
  induction bumps generalizing a with
  | nil => exact .inl rfl
  | cons x bumps ih =>
    rw [List.foldl_cons]
    rcases ih (a := a.max x) with h | h
    · rcases max_eq a x with hx | hx
      · exact .inl (h.trans hx)
      · exact .inr (by rw [h, hx]; exact List.mem_cons_self)
    · exact .inr (List.mem_cons_of_mem x h)

/-- The worst bump of some is one of them. -/
theorem worst_mem (h : bumps ≠ []) : worst bumps ∈ bumps := by
  obtain ⟨x, rest, rfl⟩ := List.exists_cons_of_ne_nil h
  have hfold : worst (x :: rest) = .none ∨ worst (x :: rest) ∈ x :: rest := foldl_max_mem
  rcases hfold with hw | hw
  · have hx : x ≤ .none := by
      rw [← hw]
      exact le_worst List.mem_cons_self
    obtain rfl := le_antisymm hx (none_le x)
    rw [hw]
    exact List.mem_cons_self
  · exact hw

/-- The worst bump of a list is settled by its members, in whatever order and
however often they come. -/
theorem worst_eq_of_mem_iff {others : List Bump} (h : ∀ x, x ∈ bumps ↔ x ∈ others) :
    worst bumps = worst others := by
  refine eq_of_forall_le_iff fun c => ?_
  simp only [worst_le_iff, h]

/-- Two lists put together need the worse of what each needs. -/
theorem worst_append (xs ys : List Bump) : worst (xs ++ ys) = worst [worst xs, worst ys] := by
  refine eq_of_forall_le_iff fun c => ?_
  simp only [worst_le_iff, List.forall_mem_append, List.forall_mem_cons, List.not_mem_nil,
    false_implies, implies_true, and_true]

/-! ### Bumps by what they follow from -/

/-- The bump is major if something breaks, otherwise minor if something
grows, and otherwise a patch. -/
@[mk_iff weighs_iff]
structure Weighs (b : Bump) (breaks grows : Prop) : Prop where
  major : b = .major ↔ breaks
  minor : b = .minor ↔ ¬ breaks ∧ grows
  patch : b = .patch ↔ ¬ breaks ∧ ¬ grows

/-- To weigh reasons it is enough to know when a bump is small. -/
theorem Weighs.of_le {breaks grows : Prop} (hbreaks : b ≤ .minor ↔ ¬ breaks)
    (hgrows : b ≤ .patch ↔ ¬ breaks ∧ ¬ grows) (hpatch : .patch ≤ b) : b.Weighs breaks grows := by
  by_cases hB : breaks
  · have hb : ¬ b ≤ .minor := fun h => hbreaks.1 h hB
    obtain rfl : b = .major := by cases b <;> first | rfl | exact absurd (by decide) hb
    simp [weighs_iff, hB]
  · have hle := hbreaks.2 hB
    by_cases hG : grows
    · have hb : ¬ b ≤ .patch := fun h => (hgrows.1 h).2 hG
      obtain rfl : b = .minor := by
        cases b <;> first | rfl | exact absurd (by decide) hb | exact absurd hle (by decide)
      simp [weighs_iff, hB, hG]
    · obtain rfl := le_antisymm (hgrows.2 ⟨hB, hG⟩) hpatch
      simp [weighs_iff, hB, hG]

end Bump

/-- The bump covers a patch and all records of a model, and one of them needs it. -/
structure ChangeModel.Requires (model : ChangeModel) (b : Bump) : Prop where
  patch : .patch ≤ b
  records : ∀ c ∈ model.changes, c.severity ≤ b
  reached : b = .patch ∨ ∃ c ∈ model.changes, c.severity = b

theorem ChangeModel.requires_requiredBump (model : ChangeModel) :
    model.Requires model.requiredBump := by
  refine ⟨Bump.le_worst List.mem_cons_self, fun c hc => ?_, ?_⟩
  · exact Bump.le_worst (List.mem_cons_of_mem _ (List.mem_map_of_mem hc))
  · have hmem : model.requiredBump ∈ .patch :: model.changes.map (·.severity) :=
      Bump.worst_mem (List.cons_ne_nil _ _)
    rcases List.mem_cons.1 hmem with h | h
    · exact .inl h
    · exact .inr (List.mem_map.1 h)

/-- From a patch upwards only the records count. -/
theorem ChangeModel.requiredBump_le_iff {model : ChangeModel} {b : Bump} (hb : .patch ≤ b) :
    model.requiredBump ≤ b ↔ ∀ c ∈ model.changes, c.severity ≤ b := by
  rw [requiredBump, Bump.worst_le_iff, List.forall_mem_cons, and_iff_right hb,
    List.forall_mem_map]

/-! ### The step between two versions -/

namespace Version

variable {old new : Version} {b : Bump}

/-- The step from one version to the next is named after the first component
that differs, which has to grow. -/
def Grows (old new : Version) : Bump → Prop
  | .major => old.major < new.major
  | .minor => old.major = new.major ∧ old.minor < new.minor
  | .patch => old.major = new.major ∧ old.minor = new.minor ∧ old.patch < new.patch
  | .none => old.triple = new.triple

/-- The first component that differs is smaller. -/
def Below (v w : Version) : Prop :=
  v.major < w.major ∨ v.major = w.major ∧
    (v.minor < w.minor ∨ v.minor = w.minor ∧ v.patch < w.patch)

theorem lt_iff : new.lt old = true ↔ new.Below old := by
  simp only [lt, Below, Bool.or_eq_true, Bool.and_eq_true, decide_eq_true_eq, beq_iff_eq]

theorem bumpTo_eq_ok_iff : old.bumpTo new = .ok b ↔ Grows old new b := by
  unfold bumpTo
  by_cases hlt : new.lt old = true
  · -- a pair that goes down has no step
    rw [if_pos hlt]
    rw [lt_iff, Below] at hlt
    refine ⟨nofun, fun h => ?_⟩
    cases b <;> simp only [Grows, triple, List.cons.injEq] at h <;> omega
  rw [if_neg hlt]
  rw [lt_iff, Below] at hlt
  split
  · cases b <;> simp [Grows, triple] <;> omega
  split
  · cases b <;> simp [Grows, triple] <;> omega
  split
  · cases b <;> simp [Grows, triple] <;> omega
  · cases b <;> simp [Grows, triple] <;> omega

/-- A pair with a step does not go down. -/
theorem Grows.not_below (h : Grows old new b) : ¬ new.Below old := by
  intro hlt
  rw [← lt_iff] at hlt
  have hbump := bumpTo_eq_ok_iff.2 h
  rw [bumpTo, if_pos hlt] at hbump
  cases hbump

end Version

/-! ### The verdict -/

namespace Verdict

variable {old new : Version} {required declared : Bump} {v : Verdict}

/-- What a verdict says on two versions, given the bump that is required and
the one that is declared. -/
structure Decides (old new : Version) (required declared : Bump) (v : Verdict) : Prop where
  grows : old.Grows new declared
  shows : v.declared = some declared ∧ v.required = some required
  passed_iff : v.passed ↔ (old.major = 0 ∧ new.major = 0) ∨ required ≤ declared
  reason : v.reason =
    if old.major = 0 ∧ new.major = 0 then .belowOne
    else if v.passed then .compliant
    else .insufficientBump
  message : v.message =
    if v.passed then none else some (mismatchMessage old new declared required)

theorem decide_eq_ok (h : decide old new required = .ok v) :
    ∃ declared, Decides old new required declared v := by
  unfold decide at h
  rcases hb : old.bumpTo new with e | declared
  · rw [hb] at h
    cases h
  rw [hb] at h
  have hgrows := Version.bumpTo_eq_ok_iff.1 hb
  simp only [bind, Except.bind, pure, Except.pure] at h
  split at h
  · next hzero =>
    obtain rfl := Except.ok.inj h
    exact ⟨declared, hgrows, ⟨rfl, rfl⟩, by simp [passed, hzero], by rw [if_pos hzero], rfl⟩
  · next hzero =>
    split at h
    · next hlt =>
      have hle : ¬ required ≤ declared := Nat.not_le.2 hlt
      obtain rfl := Except.ok.inj h
      exact ⟨declared, hgrows, ⟨rfl, rfl⟩, by simp [passed, hzero, hle],
        by rw [if_neg hzero]; rfl, rfl⟩
    · next hlt =>
      have hle : required ≤ declared := Nat.not_lt.1 hlt
      obtain rfl := Except.ok.inj h
      exact ⟨declared, hgrows, ⟨rfl, rfl⟩, by simp [passed, hle],
        by rw [if_neg hzero]; rfl, rfl⟩

/-- Two versions that do not go down have a verdict. -/
theorem exists_decide_eq_ok (h : old.Grows new declared) (required : Bump) :
    ∃ v, decide old new required = .ok v := by
  unfold decide
  rw [Version.bumpTo_eq_ok_iff.2 h]
  simp only [bind, Except.bind, pure, Except.pure]
  split
  · exact ⟨_, rfl⟩
  split
  · exact ⟨_, rfl⟩
  · exact ⟨_, rfl⟩

end Verdict

/-- The verdict on a comparison is that on its versions and changes, unless
it was skipped. -/
theorem Comparison.verdict_eq_ok {c : Comparison} {v : Verdict} (h : c.verdict = .ok v) :
    ((∃ reason, c.skipped = some reason) ∧ v = .identical) ∨
      c.skipped = none ∧ ∃ old new declared, Version.parse c.old.version = .ok old ∧
        Version.parse c.new.version = .ok new ∧
        Verdict.Decides old new c.model.requiredBump declared v := by
  unfold verdict at h
  rcases hskipped : c.skipped with - | reason <;> rw [hskipped] at h
  · rcases hold : Version.parse c.old.version with e | old
    · rw [hold] at h
      cases h
    rcases hnew : Version.parse c.new.version with e | new
    · rw [hold, hnew] at h
      cases h
    rw [hold, hnew] at h
    obtain ⟨declared, hdecides⟩ := Verdict.decide_eq_ok h
    exact .inr ⟨rfl, old, new, declared, rfl, rfl, hdecides⟩
  · exact .inl ⟨⟨reason, rfl⟩, (Except.ok.inj h).symm⟩

end ReleaseGate
