/-
ReleaseGate/Proofs/RequiredBump.lean

The bump that changes require, as a join.

Design.  `Crowns` says what the worst of a list is by its members alone: the
least bump that covers them, and one of them where there are any.  No two
bumps crown the same list (`Crowns.unique`), so that `crowns_worst` settles
the fold that computes it.  A model folds its severities behind a patch,
which makes `requiredBump` the same join raised to a patch: two models put
together repeat that patch, and a repetition changes nothing.

Main result: `requiredBump_joins`.
-/
import Mathlib.Order.Bounds.Defs
import ReleaseGate.Proofs.Policy

namespace ReleaseGate

namespace Bump

variable {a b : Bump} {bumps : List Bump}

/-! ### The worst of a list -/

/-- The bump is the least one that covers the list, and a member unless the
list is empty. -/
structure Crowns (bumps : List Bump) (b : Bump) : Prop where
  lub : IsLUB {x | x ∈ bumps} b
  empty : bumps = [] → b = .none
  member : bumps ≠ [] → b ∈ bumps

theorem Crowns.unique (ha : Crowns bumps a) (hb : Crowns bumps b) : a = b :=
  le_antisymm (ha.lub.2 hb.lub.1) (hb.lub.2 ha.lub.1)

theorem crowns_worst (bumps : List Bump) : Crowns bumps (worst bumps) where
  lub := ⟨fun _ hx => le_worst hx, fun _ hb => worst_le_iff.2 fun _ hx => hb hx⟩
  empty := by rintro rfl; rfl
  member := worst_mem

theorem crowns_iff : Crowns bumps b ↔ b = worst bumps := by
  refine ⟨fun h => h.unique (crowns_worst bumps), ?_⟩
  rintro rfl
  exact crowns_worst bumps

end Bump

/-! ### The bump a model requires -/

namespace ChangeModel

/-- The records of two models, one after the other. -/
def append (M N : ChangeModel) : ChangeModel := ⟨M.changes ++ N.changes⟩

theorem requiredBump_append (M N : ChangeModel) :
    (M.append N).requiredBump = Bump.worst [M.requiredBump, N.requiredBump] := by
  rw [requiredBump, requiredBump, requiredBump, ← Bump.worst_append]
  refine Bump.worst_eq_of_mem_iff fun x => ?_
  simp only [append, List.map_append, List.mem_cons, List.mem_append]
  grind

theorem weighs_severities (M : ChangeModel) :
    M.requiredBump.Weighs (∃ c ∈ M.changes, c.severity = .major)
      (∃ c ∈ M.changes, c.severity = .minor) := by
  -- what is required is below a level if each of the records is
  refine .of_le ?_ ?_ M.requires_requiredBump.patch
  · simp only [requiredBump_le_iff (show Bump.patch ≤ .minor by decide), not_exists, not_and]
    refine forall₂_congr fun c _ => ?_
    cases c.severity <;> decide
  · simp only [requiredBump_le_iff (Bump.le_refl .patch), not_exists, not_and,
      ← forall_and]
    refine forall₂_congr fun c _ => ?_
    cases c.severity <;> decide

end ChangeModel

/-- **The required bump joins.**  The worst of a list is its least upper
bound, whatever the order and the number of its members, and the worst of two
lists together is that of their worsts.  The bump required by two models
together is the worse of the two required ones.  It is never below a patch,
and it is major if a record is major, and minor if one is minor and none
major. -/
theorem requiredBump_joins {xs xs' : List Bump} (hsame : ∀ x, x ∈ xs' ↔ x ∈ xs)
    (ys : List Bump) (M N : ChangeModel) :
    (∀ b, Bump.Crowns xs b ↔ b = Bump.worst xs) ∧
      Bump.worst xs' = Bump.worst xs ∧
      Bump.worst (xs ++ ys) = Bump.worst [Bump.worst xs, Bump.worst ys] ∧
      (M.append N).requiredBump = Bump.worst [M.requiredBump, N.requiredBump] ∧
      .patch ≤ M.requiredBump ∧
      M.requiredBump.Weighs (∃ c ∈ M.changes, c.severity = .major)
        (∃ c ∈ M.changes, c.severity = .minor) :=
  ⟨fun _ => Bump.crowns_iff, Bump.worst_eq_of_mem_iff hsame, Bump.worst_append xs ys,
    M.requiredBump_append N, M.requires_requiredBump.patch, M.weighs_severities⟩

/-- A list with its members swapped and repeated, and two models of which the
first has no record that counts. -/
theorem requiredBump_joins_of_repeated :
    Bump.worst [.minor, .none, .minor, .none] = .minor ∧
      Bump.worst ([.none, .minor] ++ [.major]) = .major ∧
      ∃ M N : ChangeModel, M.changes.map (·.severity) = [.none] ∧
        N.changes.map (·.severity) = [.none, .minor] ∧
        M.requiredBump = .patch ∧ (M.append N).requiredBump = .minor := by
  have hsame : ∀ x, x ∈ [Bump.minor, .none, .minor, .none] ↔ x ∈ [Bump.none, .minor] := by
    rintro (_ | _ | _ | _) <;> decide
  let A : ClassChange := { name := "A", status := .unchanged, severity := .none }
  let B : ClassChange := { name := "B", status := .modified, severity := .minor }
  obtain ⟨-, hxs, happend, hmodels, -, -⟩ := requiredBump_joins hsame [.major] ⟨[A]⟩ ⟨[A, B]⟩
  exact ⟨hxs, happend, ⟨[A]⟩, ⟨[A, B]⟩, rfl, rfl, rfl, hmodels⟩

end ReleaseGate
