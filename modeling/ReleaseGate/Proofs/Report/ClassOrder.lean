/-
ReleaseGate/Proofs/Report/ClassOrder.lean

The order in which a report lists its classes does not matter.

A change model is sorted by name, so two reports of the same classes give
models that agree in all that does not depend on the order of equal names
(`Agree`): the same records, the same names one after the other, and with
them the same required bump.  If no name is repeated, nothing else is left
to differ in: there is only one way to sort the records, so the models are
equal, and so are the reports written from them.

Main results: `agree_changeModel`, `classes_in_any_order`.
-/
import Mathlib.Data.List.Nodup
import ReleaseGate.Proofs.ToolReport
import ReleaseGate.Report.Page
import ReleaseGate.Report.Text

namespace ReleaseGate

/-! ### Models with the same records -/

/-- Two models that differ in the order of equal names at most. -/
structure ChangeModel.Agree (model other : ChangeModel) : Prop where
  records : model.changes.Perm other.changes
  names : model.changes.map (·.name) = other.changes.map (·.name)
  required : model.requiredBump = other.requiredBump
  suggested : model.suggestedVersion = other.suggestedVersion
  incompatible : model.incompatible.length = other.incompatible.length

namespace ToolReport

open Xml (Element)

variable {given given' sorted sorted' : List ClassChange} {root root' : Element}

/-- Sorted records have their names in one order only. -/
theorem SortsByName.names_eq (h : SortsByName given sorted) (h' : SortsByName given' sorted')
    (hperm : given'.Perm given) : sorted'.map (·.name) = sorted.map (·.name) := by
  have hnames : (sorted.map (·.name)).Pairwise (· ≤ ·) := List.pairwise_map.2 h.ordered
  have hnames' : (sorted'.map (·.name)).Pairwise (· ≤ ·) := List.pairwise_map.2 h'.ordered
  have hall : sorted'.Perm sorted := (h'.perm.trans hperm).trans h.perm.symm
  refine List.Perm.eq_of_pairwise ?_ hnames' hnames (hall.map _)
  exact fun a b _ _ hab hba => le_antisymm hab hba

/-- Records with different names are sorted in one way only. -/
theorem SortsByName.eq_of_nodup (h : SortsByName given sorted) (h' : SortsByName given' sorted')
    (hperm : given'.Perm given) (hnodup : (given.map (·.name)).Nodup) : sorted' = sorted := by
  have hall : sorted'.Perm given := h'.perm.trans hperm
  refine List.Perm.eq_of_pairwise ?_ h'.ordered h.ordered (hall.trans h.perm.symm)
  intro a b ha hb hab hba
  exact List.inj_on_of_nodup_map hnodup (hall.mem_iff.1 ha) (h.perm.mem_iff.1 hb)
    (le_antisymm hab hba)

/-- The same records agree in whatever order they are sorted. -/
theorem agree_of_perm {model model' : ChangeModel} (hperm : model'.changes.Perm model.changes)
    (hnames : model'.changes.map (·.name) = model.changes.map (·.name)) : model'.Agree model := by
  have hrequired : model'.requiredBump = model.requiredBump :=
    Bump.worst_eq_of_mem_iff fun x => ((hperm.map (·.severity)).cons .patch).mem_iff
  refine ⟨hperm, hnames, hrequired, ?_, (hperm.filter _).length_eq⟩
  rw [ChangeModel.suggestedVersion, hrequired]
  rfl

/-! ### Reports of the same classes -/

/-- The name of the class of an element; empty without one. -/
def className (e : Element) : String := (e.attribute? "fullyQualifiedName").getD ""

/-- Reports of the same classes give models that agree. -/
theorem agree_changeModel (h : (classes root').Perm (classes root)) :
    (changeModel root').Agree (changeModel root) := by
  have hsorts := sortsByName_mergeSort ((classes root).map classChange)
  have hsorts' := sortsByName_mergeSort ((classes root').map classChange)
  have hperm := h.map classChange
  refine agree_of_perm ?_ (hsorts.names_eq hsorts' hperm)
  exact (hsorts'.perm.trans hperm).trans hsorts.perm.symm

/-- **The order of the classes** in a report does not matter.  What is read
from a report is the model of its root; the models of two roots with the same
classes agree, and if no name is repeated they are equal, as is all that is
written from them. -/
theorem classes_in_any_order (h : (classes root').Perm (classes root)) :
    (∀ text, parse text = (Xml.parse text).map changeModel) ∧
    (changeModel root').Agree (changeModel root) ∧
    (((classes root).map className).Nodup →
      changeModel root' = changeModel root ∧
      (∀ c : Comparison, TextReport.render { c with model := changeModel root' } =
        TextReport.render { c with model := changeModel root }) ∧
      ∀ (c : Comparison) (now : String), Page.render { c with model := changeModel root' } now =
        Page.render { c with model := changeModel root } now) := by
  refine ⟨fun _ => rfl, agree_changeModel h, fun hnodup => ?_⟩
  have hnames : (((classes root).map classChange).map (·.name)).Nodup := by
    rw [List.map_map]
    exact hnodup
  have hsorts := sortsByName_mergeSort ((classes root).map classChange)
  have hsorts' := sortsByName_mergeSort ((classes root').map classChange)
  have hsame : changeModel root' = changeModel root :=
    congrArg ChangeModel.mk (hsorts.eq_of_nodup hsorts' (h.map classChange) hnames)
  exact ⟨hsame, fun c => by rw [hsame], fun c now => by rw [hsame]⟩

/-- A report of classes with these names and nothing to say about them. -/
def reportOf (names : List String) : Element :=
  .mk "japicmp" [] "" [.mk "classes" [] ""
    (names.map fun name => .mk "class" [("fullyQualifiedName", name)] "" [])]

/-- Two classes listed the other way round. -/
theorem classes_in_any_order_swapped :
    changeModel (reportOf ["b.B", "a.A"]) = changeModel (reportOf ["a.A", "b.B"]) := by
  have hswap : (classes (reportOf ["b.B", "a.A"])).Perm (classes (reportOf ["a.A", "b.B"])) :=
    .swap _ _ []
  obtain ⟨-, -, hequal⟩ := classes_in_any_order hswap
  exact (hequal (by decide)).1

end ToolReport

end ReleaseGate
