/-
ReleaseGate/Proofs/ToolReport.lean

What a report of the difference tool is read as.

Every `class` element gives one record.  Its severity and its members are
taken from the whole tree below it, by three walks of their own: one for the
flags, one for the levels, and one for each kind of member.  `Summarizes e c`
says what the record `c` of the class element `e` has to be, in terms of the
elements that `e` holds and of their attributes.

Design.  Flags and statuses are read with defaults, so they are restated
first: `Breaks`, `HasStatus` and `SetsLevel` name the attribute that has to
be there.  The severity is a least upper bound, so it is enough to know when
it is below a given bump (`severity_le_patch_iff`, `severity_le_minor_iff`).

Main results: `summarizes_classChange` and `parse_summarizes_classes`.
-/
import Mathlib.Data.String.Basic
import ReleaseGate.Proofs.Policy
import ReleaseGate.Proofs.Xml.Addresses
import ReleaseGate.ToolReport

namespace ReleaseGate.ToolReport

open Xml (Element)

/-! ### Attributes -/

/-- A flag of the element says that old callers break. -/
def Breaks (x : Element) : Prop :=
  ∃ name ∈ ["binaryCompatible", "sourceCompatible"], ∃ v, x.attribute? name = some v ∧
    Text.lower (Text.strip v.toList) = "false".toList

/-- The element has a status by its attribute; without one, or with an
unknown word in it, it counts as modified. -/
def HasStatus (x : Element) (s : ChangeStatus) : Prop :=
  (∃ v, x.attribute? "changeStatus" = some v ∧ keyword v = s.name) ∨
    (s = .modified ∧ ∀ v, x.attribute? "changeStatus" = some v → ∀ s : ChangeStatus,
      keyword v ≠ s.name)

/-- The element is a broken rule with a version level. -/
def SetsLevel (b : Bump) (x : Element) : Prop :=
  x.tag = "compatibilityChange" ∧
    ∃ v, x.attribute? "semanticVersionLevel" = some v ∧ keyword v = b.name

theorem flag_eq_false {x : Element} {name : String} :
    flag x name = false ↔
      ∃ v, x.attribute? name = some v ∧ Text.lower (Text.strip v.toList) = "false".toList := by
  unfold flag
  rcases x.attribute? name with - | v
  · exact ⟨nofun, nofun⟩
  · show (_ != _) = false ↔ _
    rw [bne_eq_false_iff_eq]
    exact ⟨fun h => ⟨v, rfl, h⟩, by rintro ⟨_, ⟨⟩, h⟩; exact h⟩

theorem compatible_eq_false {x : Element} : compatible x = false ↔ Breaks x := by
  rw [compatible, Bool.and_eq_false_iff, binaryCompatible, sourceCompatible, flag_eq_false,
    flag_eq_false, Breaks]
  simp only [List.mem_cons, List.not_mem_nil, or_false, exists_eq_or_imp, exists_eq_left]

theorem ofName?_eq_some {s : String} {c : ChangeStatus} :
    ChangeStatus.ofName? s = some c ↔ s = c.name := by
  constructor
  · intro h
    have hc := List.find?_some h
    exact (beq_iff_eq.1 hc).symm
  · rintro rfl
    cases c <;> decide

theorem ofName?_eq_none {s : String} :
    ChangeStatus.ofName? s = none ↔ ∀ c : ChangeStatus, s ≠ c.name := by
  rw [Option.eq_none_iff_forall_ne_some]
  exact forall_congr' fun c => not_congr ofName?_eq_some

/-- The words for statuses are distinct. -/
theorem name_injective {c d : ChangeStatus} (h : c.name = d.name) : c = d :=
  Option.some.inj ((ofName?_eq_some.2 rfl).symm.trans (ofName?_eq_some.2 h))

theorem status_eq_iff {x : Element} {s : ChangeStatus} : status x = s ↔ HasStatus x s := by
  unfold status HasStatus
  rcases x.attribute? "changeStatus" with - | v
  · constructor
    · rintro rfl
      exact .inr ⟨rfl, nofun⟩
    · rintro (⟨_, ⟨⟩, -⟩ | ⟨rfl, -⟩)
      rfl
  · show (ChangeStatus.ofName? (keyword v)).getD .modified = s ↔ _
    rcases h : ChangeStatus.ofName? (keyword v) with - | c
    · have hv := ofName?_eq_none.1 h
      constructor
      · rintro rfl
        refine .inr ⟨rfl, ?_⟩
        rintro _ ⟨⟩
        exact hv
      · rintro (⟨_, ⟨⟩, hs⟩ | ⟨rfl, -⟩)
        · exact absurd hs (hv s)
        · rfl
    · have hv := ofName?_eq_some.1 h
      constructor
      · rintro rfl
        exact .inl ⟨v, rfl, hv⟩
      · rintro (⟨_, ⟨⟩, hs⟩ | ⟨-, hs⟩)
        · exact name_injective (hv.symm.trans hs)
        · exact absurd hv (hs v rfl c)

theorem isChanged_iff {x : Element} : isChanged x ↔ ¬ HasStatus x .unchanged ∨ Breaks x := by
  rw [isChanged, ← status_eq_iff, ← compatible_eq_false]
  cases hs : status x <;> cases hc : compatible x <;> simp

theorem bump_ofName?_eq_some {s : String} {b : Bump} : Bump.ofName? s = some b ↔ s = b.name := by
  constructor
  · intro h
    have hb := List.find?_some h
    exact (beq_iff_eq.1 hb).symm
  · rintro rfl
    exact Bump.ofName?_name b

theorem mem_levels {e : Element} {b : Bump} : b ∈ levels e ↔ ∃ x, e.Holds x ∧ SetsLevel b x := by
  rw [levels, List.mem_filterMap]
  constructor
  · rintro ⟨x, hx, hb⟩
    obtain ⟨hx, htag⟩ := List.mem_filter.1 hx
    obtain ⟨v, hv, hb⟩ := Option.bind_eq_some_iff.1 hb
    exact ⟨x, Element.mem_nodes_iff.1 hx, beq_iff_eq.1 htag, v, hv, bump_ofName?_eq_some.1 hb⟩
  · rintro ⟨x, hx, htag, v, hv, hb⟩
    refine ⟨x, List.mem_filter.2 ⟨Element.mem_nodes_iff.2 hx, beq_iff_eq.2 htag⟩, ?_⟩
    exact Option.bind_eq_some_iff.2 ⟨v, hv, bump_ofName?_eq_some.2 hb⟩

/-! ### Severity -/

/-- Something in the class breaks old callers, or says that it is major. -/
def IsMajor (e : Element) : Prop := ∃ x, e.Holds x ∧ (Breaks x ∨ SetsLevel .major x)

/-- The class or one of its members changed, or something in it says that it
is minor. -/
def IsMinor (e : Element) : Prop :=
  ¬ HasStatus e .unchanged ∨
    ∃ x, e.Holds x ∧ (x.tag ∈ memberKinds ∧ ¬ HasStatus x .unchanged ∨ SetsLevel .minor x)

theorem any_incompatible_iff {e : Element} :
    (e.nodes.any fun n => !compatible n) = true ↔ ∃ x, e.Holds x ∧ Breaks x := by
  rw [List.any_eq_true]
  simp only [Bool.not_eq_true', compatible_eq_false, Element.mem_nodes_iff]

theorem members_eq_nil_iff {e : Element} :
    members e = [] ↔ ∀ x, e.Holds x → x.tag ∈ memberKinds → isChanged x = false := by
  rw [members, List.flatMap_eq_nil_iff]
  constructor
  · intro h x hx hk
    have hnil := List.filter_eq_nil_iff.1 (List.map_eq_nil_iff.1 (h x.tag hk))
    have hmem : x ∈ e.withTag x.tag :=
      List.mem_filter.2 ⟨Element.mem_nodes_iff.2 hx, beq_iff_eq.2 rfl⟩
    simpa using hnil x hmem
  · intro h kind hk
    rw [List.map_eq_nil_iff, List.filter_eq_nil_iff]
    intro x hx
    obtain ⟨hn, htag⟩ := List.mem_filter.1 hx
    obtain rfl := beq_iff_eq.1 htag
    rw [h x (Element.mem_nodes_iff.1 hn) hk]
    exact Bool.false_ne_true

theorem ownSeverity_le_minor_iff {e : Element} :
    ownSeverity e ≤ .minor ↔ ¬ ∃ x, e.Holds x ∧ Breaks x := by
  rw [← any_incompatible_iff, ownSeverity]
  split
  · next h => exact iff_of_false (by decide) (not_not_intro h)
  · next h =>
    refine iff_of_true ?_ h
    split <;> decide

theorem ownSeverity_le_patch_iff {e : Element} :
    ownSeverity e ≤ .patch ↔
      (¬ ∃ x, e.Holds x ∧ Breaks x) ∧ HasStatus e .unchanged ∧
        ∀ x, e.Holds x → x.tag ∈ memberKinds → HasStatus x .unchanged := by
  rw [← any_incompatible_iff, ownSeverity]
  split
  · next h => exact iff_of_false (by decide) fun h' => h'.1 h
  · next h =>
    -- without broken flags a member is worth a record by its status alone
    have hsound : ∀ x, e.Holds x → ¬ Breaks x := fun x hx hb =>
      h (any_incompatible_iff.2 ⟨x, hx, hb⟩)
    have hmembers : members e = [] ↔
        ∀ x, e.Holds x → x.tag ∈ memberKinds → HasStatus x .unchanged := by
      rw [members_eq_nil_iff]
      refine forall_congr' fun x => forall_congr' fun hx => forall_congr' fun _ => ?_
      rw [Bool.eq_false_iff, Ne, isChanged_iff, not_or, not_not]
      exact and_iff_left (hsound x hx)
    rw [← hmembers, ← status_eq_iff]
    split
    · next hc =>
      refine iff_of_false (by decide) fun h' => ?_
      simp [h'.2.1, h'.2.2] at hc
    · next hc =>
      refine iff_of_true (by decide) ⟨h, ?_⟩
      simpa using hc

theorem severity_le_minor_iff {e : Element} : (classChange e).severity ≤ .minor ↔ ¬ IsMajor e := by
  show Bump.worst (ownSeverity e :: levels e) ≤ _ ↔ _
  rw [Bump.worst_le_iff, List.forall_mem_cons, ownSeverity_le_minor_iff]
  constructor
  · rintro ⟨hflags, hlevels⟩ ⟨x, hx, hb | hl⟩
    · exact hflags ⟨x, hx, hb⟩
    · exact absurd (hlevels .major (mem_levels.2 ⟨x, hx, hl⟩)) (by decide)
  · intro h
    refine ⟨fun ⟨x, hx, hb⟩ => h ⟨x, hx, .inl hb⟩, fun b hb => ?_⟩
    obtain ⟨x, hx, hl⟩ := mem_levels.1 hb
    -- of the levels only a major one is above minor
    cases b with
    | major => exact absurd ⟨x, hx, .inr hl⟩ h
    | none | patch | minor => decide

theorem severity_le_patch_iff {e : Element} :
    (classChange e).severity ≤ .patch ↔ ¬ IsMajor e ∧ ¬ IsMinor e := by
  show Bump.worst (ownSeverity e :: levels e) ≤ _ ↔ _
  rw [Bump.worst_le_iff, List.forall_mem_cons, ownSeverity_le_patch_iff]
  constructor
  · rintro ⟨⟨hflags, hstatus, hmembers⟩, hlevels⟩
    constructor
    · rintro ⟨x, hx, hb | hl⟩
      · exact hflags ⟨x, hx, hb⟩
      · exact absurd (hlevels .major (mem_levels.2 ⟨x, hx, hl⟩)) (by decide)
    · rintro (hs | ⟨x, hx, ⟨hk, hs⟩ | hl⟩)
      · exact hs hstatus
      · exact hs (hmembers x hx hk)
      · exact absurd (hlevels .minor (mem_levels.2 ⟨x, hx, hl⟩)) (by decide)
  · rintro ⟨hmajor, hminor⟩
    refine ⟨⟨fun ⟨x, hx, hb⟩ => hmajor ⟨x, hx, .inl hb⟩, ?_, fun x hx hk => ?_⟩, fun b hb => ?_⟩
    · by_contra hs
      exact hminor (.inl hs)
    · by_contra hs
      exact hminor (.inr ⟨x, hx, .inl ⟨hk, hs⟩⟩)
    · obtain ⟨x, hx, hl⟩ := mem_levels.1 hb
      cases b with
      | major => exact absurd ⟨x, hx, .inr hl⟩ hmajor
      | minor => exact absurd (.inr ⟨x, hx, .inr hl⟩) hminor
      | none | patch => decide

/-- No class record has a severity below a patch. -/
theorem patch_le_severity (e : Element) : .patch ≤ (classChange e).severity := by
  have hown : Bump.patch ≤ ownSeverity e := by
    unfold ownSeverity
    split
    · decide
    · split <;> decide
  exact Bump.le_trans hown (Bump.le_worst List.mem_cons_self)

/-! ### One class -/

/-- What the record of a class element has to be. -/
structure Summarizes (e : Element) (c : ClassChange) : Prop where
  name : c.name = (e.attribute? "fullyQualifiedName").getD ""
  status : HasStatus e c.status
  severity : c.severity.Weighs (IsMajor e) (IsMinor e)
  /-- The members are grouped by kind; `found` are those of a kind. -/
  members : ∃ found : String → List Element,
    (∀ kind, e.Lists (fun _ x => x.tag = kind ∧ (¬ HasStatus x .unchanged ∨ Breaks x))
      (found kind)) ∧
    c.members = memberKinds.flatMap fun kind => (found kind).map (member kind)

/-- The members of one kind that are worth a record, in document order. -/
theorem lists_changed (e : Element) (kind : String) :
    e.Lists (fun _ x => x.tag = kind ∧ (¬ HasStatus x .unchanged ∨ Breaks x))
      ((e.withTag kind).filter isChanged) := by
  have hfilter : (e.withTag kind).filter isChanged =
      e.nodes.filter fun x => x.tag == kind && isChanged x := by
    rw [Element.withTag, List.filter_filter]
    exact List.filter_congr fun x _ => Bool.and_comm _ _
  have hprop : ∀ x : Element, (x.tag == kind && isChanged x) = true ↔
      x.tag = kind ∧ (¬ HasStatus x .unchanged ∨ Breaks x) := fun x => by
    rw [Bool.and_eq_true, beq_iff_eq, isChanged_iff]
  rw [hfilter]
  obtain ⟨places, hsorted, hmem, hmap⟩ := Element.lists_filter_nodes e fun x =>
    x.tag == kind && isChanged x
  refine ⟨places, hsorted, fun a => (hmem a).trans ?_, hmap⟩
  exact exists_congr fun x => and_congr_right fun _ => hprop x

/-- **One record** says of a class what its element and all that is in it
say. -/
theorem summarizes_classChange (e : Element) : Summarizes e (classChange e) where
  name := rfl
  status := status_eq_iff.1 rfl
  severity := .of_le severity_le_minor_iff severity_le_patch_iff (patch_le_severity e)
  members := ⟨fun kind => (e.withTag kind).filter isChanged, lists_changed e, rfl⟩

/-! ### The whole report -/

/-- The records `sorted` are the records `given`, by name, and those of one
name in the order in which they were given. -/
structure SortsByName (given sorted : List ClassChange) : Prop where
  perm : sorted.Perm given
  ordered : sorted.Pairwise fun a b => a.name ≤ b.name
  stable : ∀ name, sorted.filter (·.name = name) = given.filter (·.name = name)

theorem sortsByName_mergeSort (given : List ClassChange) :
    SortsByName given (given.mergeSort fun a b => a.name ≤ b.name) := by
  have htrans : ∀ a b c : ClassChange, decide (a.name ≤ b.name) = true →
      decide (b.name ≤ c.name) = true → decide (a.name ≤ c.name) = true := by
    intro a b c hab hbc
    rw [decide_eq_true_iff] at *
    exact le_trans hab hbc
  have htotal : ∀ a b : ClassChange,
      (decide (a.name ≤ b.name) || decide (b.name ≤ a.name)) = true := by
    intro a b
    simpa using le_total a.name b.name
  have hperm := List.mergeSort_perm given fun a b => a.name ≤ b.name
  refine ⟨hperm, ?_, fun name => ?_⟩
  · exact (List.pairwise_mergeSort htrans htotal given).imp fun h => of_decide_eq_true h
  · -- the records of one name are in order already, so sorting keeps them as they are
    have hsame : (given.filter (·.name = name)).Pairwise fun a b => decide (a.name ≤ b.name) := by
      refine List.pairwise_of_forall_mem_list fun a ha b hb => ?_
      have ha := of_decide_eq_true (List.mem_filter.1 ha).2
      have hb := of_decide_eq_true (List.mem_filter.1 hb).2
      rw [ha, hb]
      exact decide_eq_true (le_refl name)
    have hsub := (List.sublist_mergeSort htrans htotal hsame List.filter_sublist).filter
      (·.name = name)
    rw [List.filter_filter, List.filter_congr fun _ _ => Bool.and_self _] at hsub
    exact (hsub.eq_of_length (hperm.filter _).length_eq.symm).symm

theorem requiredBump_le_iff {found : List Element} {model : ChangeModel} {b : Bump}
    (h : model.changes.Perm (found.map classChange)) (hb : .patch ≤ b) :
    model.requiredBump ≤ b ↔ ∀ e ∈ found, (classChange e).severity ≤ b := by
  rw [ChangeModel.requiredBump_le_iff hb]
  constructor
  · intro hall e he
    exact hall _ (h.mem_iff.2 (List.mem_map_of_mem he))
  · intro hall c hc
    obtain ⟨e, he, rfl⟩ := List.mem_map.1 (h.mem_iff.1 hc)
    exact hall e he

theorem weighs_requiredBump {found : List Element} {model : ChangeModel}
    (h : model.changes.Perm (found.map classChange)) :
    model.requiredBump.Weighs (∃ e ∈ found, IsMajor e) (∃ e ∈ found, IsMinor e) := by
  refine .of_le ?_ ?_ (Bump.le_worst List.mem_cons_self)
  · rw [requiredBump_le_iff h (by decide), not_exists]
    refine forall_congr' fun e => ?_
    rw [severity_le_minor_iff, not_and]
  · rw [requiredBump_le_iff h (by decide), not_exists, not_exists, ← forall_and]
    refine forall_congr' fun e => ?_
    rw [severity_le_patch_iff, not_and, not_and, ← imp_and]

/-- **The classes of a report** are the `class` children of the `classes`
children of its root, each with one record, and nothing else has one.  What
the records say of them decides which bump is required. -/
theorem parse_summarizes_classes (text : List Char) :
    match Xml.parse text with
    | .error e => parse text = .error e
    | .ok root => ∃ model found, parse text = .ok model ∧
      root.Lists (fun a x => ∃ i j c, a = [i, j] ∧ root.at? [i] = some c ∧ c.tag = "classes" ∧
        x.tag = "class") found ∧
      SortsByName (found.map classChange) model.changes ∧
      (∀ e ∈ found, Summarizes e (classChange e)) ∧
      model.requiredBump.Weighs (∃ e ∈ found, IsMajor e) (∃ e ∈ found, IsMinor e) := by
  rcases h : Xml.parse text with e | root
  · show parse text = .error e
    rw [parse, h]
    rfl
  · have hsorts := sortsByName_mergeSort ((classes root).map classChange)
    refine ⟨changeModel root, classes root, by rw [parse, h]; rfl, ?_, hsorts, ?_, ?_⟩
    · have hlists := Element.lists_grandchildren root (·.tag == "classes") (·.tag == "class")
      simp only [beq_iff_eq] at hlists
      exact hlists
    · exact fun e _ => summarizes_classChange e
    · exact weighs_requiredBump hsorts.perm

end ReleaseGate.ToolReport
