/-
ReleaseGate/Proofs/Xml/Addresses.lean

Addresses of the elements in a tree, and document order.

An address is the list of the child numbers that lead from an element to one
below it; `e.at? a` is the element at an address.  Document order is the
lexicographic order of addresses: an element comes before what is below it,
and all that is below a child before what is below the next one.

`e.Lists p xs` says that `xs` are exactly the elements with the property
`p`, each once and in document order.  It pins the list down, since the
addresses are strictly increasing.

Main results: `lists_filter_nodes` for the elements at any depth, and
`lists_grandchildren` for those two levels down.
-/
import Mathlib.Data.List.Basic
import ReleaseGate.Xml.Element

namespace ReleaseGate.Xml.Element

/-- The element at an address. -/
def at? (e : Element) : List Nat → Option Element
  | [] => some e
  | i :: a => (e.children[i]?).bind (·.at? a)

/-- Below `e`, or `e` itself, is the element `x`. -/
def Holds (e x : Element) : Prop := ∃ a, e.at? a = some x

/-- The elements of the tree `e` with the property `p` are `xs`, each once
and in document order. -/
def Lists (e : Element) (p : List Nat → Element → Prop) (xs : List Element) : Prop :=
  ∃ places : List (List Nat), places.Pairwise (· < ·) ∧
    (∀ a, a ∈ places ↔ ∃ x, e.at? a = some x ∧ p a x) ∧
    places.map e.at? = xs.map some

theorem at?_nil (e : Element) : e.at? [] = some e := by simp [at?]

theorem at?_cons (e : Element) (i : Nat) (a : List Nat) :
    e.at? (i :: a) = (e.children[i]?).bind (·.at? a) := by simp [at?]

/-- Induction over an element by way of its children. -/
theorem induct {motive : Element → Prop}
    (mk : ∀ t a x children, (∀ c ∈ children, motive c) → motive (.mk t a x children)) :
    ∀ e, motive e := by
  intro e
  -- the lists of children go along with the elements
  apply @Element.rec motive fun l => ∀ c ∈ l, motive c
  · intro t a x children ih
    exact mk t a x children ih
  · intro c hc
    cases hc
  · intro head tail hhead htail c hc
    rcases List.mem_cons.1 hc with rfl | hc
    · exact hhead
    · exact htail c hc

/-! ### All addresses -/

mutual

/-- The addresses of an element and of all elements below it, in document
order. -/
def places : Element → List (List Nat)
  | mk _ _ _ children => [] :: placesOf 0 children

/-- The same for a list of elements, the first of them being the child `k`. -/
def placesOf : Nat → List Element → List (List Nat)
  | _, [] => []
  | k, e :: rest => (e.places.map (k :: ·)) ++ placesOf (k + 1) rest

end

/-- The addresses in a list of children start with the numbers of these. -/
theorem mem_placesOf {k : Nat} {l : List Element} {a : List Nat} :
    a ∈ placesOf k l ↔ ∃ i b, ∃ h : i < l.length, a = (k + i) :: b ∧ b ∈ (l[i]).places := by
  induction l generalizing k with
  | nil => simp [placesOf]
  | cons e rest ih =>
    rw [placesOf, List.mem_append, List.mem_map, ih]
    constructor
    · rintro (⟨b, hb, rfl⟩ | ⟨i, b, hi, rfl, hb⟩)
      · exact ⟨0, b, by simp, rfl, hb⟩
      · exact ⟨i + 1, b, by simpa using hi, by rw [Nat.add_right_comm, Nat.add_assoc], hb⟩
    · rintro ⟨i, b, hi, rfl, hb⟩
      cases i with
      | zero => exact .inl ⟨b, hb, rfl⟩
      | succ i =>
        refine .inr ⟨i, b, by simpa using hi, ?_, hb⟩
        rw [Nat.add_right_comm, Nat.add_assoc]

theorem mem_places {e : Element} {a : List Nat} : a ∈ e.places ↔ ∃ x, e.at? a = some x := by
  induction e using induct generalizing a with
  | mk t attributes x children ih =>
    rw [places, List.mem_cons, mem_placesOf]
    cases a with
    | nil => simp [at?_nil]
    | cons i a =>
      rw [at?_cons]
      show _ ↔ ∃ y, (children[i]?).bind _ = some y
      constructor
      · rintro (h | ⟨j, b, hj, h, hb⟩)
        · cases h
        · obtain ⟨rfl, rfl⟩ : i = j ∧ a = b := by simpa using h
          obtain ⟨y, hy⟩ := (ih _ (List.getElem_mem hj)).1 hb
          exact ⟨y, by rw [List.getElem?_eq_getElem hj]; exact hy⟩
      · rintro ⟨y, hy⟩
        obtain ⟨c, hc, hy⟩ := Option.bind_eq_some_iff.1 hy
        obtain ⟨hi, rfl⟩ := List.getElem?_eq_some_iff.1 hc
        exact .inr ⟨i, a, hi, by simp, (ih _ (List.getElem_mem hi)).2 ⟨y, hy⟩⟩

theorem pairwise_placesOf {l : List Element} (h : ∀ e ∈ l, e.places.Pairwise (· < ·)) (k : Nat) :
    (placesOf k l).Pairwise (· < ·) := by
  induction l generalizing k with
  | nil => exact .nil
  | cons e rest ih =>
    rw [placesOf, List.pairwise_append]
    refine ⟨?_, ih (fun e he => h e (List.mem_cons_of_mem _ he)) _, ?_⟩
    · rw [List.pairwise_map]
      exact (h e List.mem_cons_self).imp fun hab => List.cons_lt_cons_self.2 hab
    · -- the number of the first child is smaller than all that come later
      intro a ha b hb
      obtain ⟨a, -, rfl⟩ := List.mem_map.1 ha
      obtain ⟨i, b, -, rfl, -⟩ := mem_placesOf.1 hb
      exact List.cons_lt_cons_iff.2 (.inl (by omega))

theorem pairwise_places (e : Element) : e.places.Pairwise (· < ·) := by
  induction e using induct with
  | mk t attributes x children ih =>
    rw [places, List.pairwise_cons]
    refine ⟨fun a ha => ?_, pairwise_placesOf ih 0⟩
    obtain ⟨i, b, -, rfl, -⟩ := mem_placesOf.1 ha
    exact List.nil_lt_cons _ _

/-- `look` finds the elements of a list that stand from the number `k` on. -/
theorem map_placesOf {l : List Element} (h : ∀ e ∈ l, e.places.map e.at? = e.nodes.map some)
    {k : Nat} {look : List Nat → Option Element}
    (hlook : ∀ i a, look ((k + i) :: a) = (l[i]?).bind (·.at? a)) :
    (placesOf k l).map look = (nodesOf l).map some := by
  induction l generalizing k with
  | nil => rfl
  | cons e rest ih =>
    rw [placesOf, nodesOf, List.map_append, List.map_append, List.map_map,
      ← h e List.mem_cons_self, ih (fun e he => h e (List.mem_cons_of_mem _ he)) fun i a => ?_]
    · congr 1
      refine List.map_congr_left fun a _ => ?_
      simpa using hlook 0 a
    · rw [Nat.add_right_comm, Nat.add_assoc, hlook, List.getElem?_cons_succ]

/-- The elements at all addresses are all elements. -/
theorem map_places (e : Element) : e.places.map e.at? = e.nodes.map some := by
  induction e using induct with
  | mk t attributes x children ih =>
    rw [places, nodes, List.map_cons, List.map_cons, at?_nil,
      map_placesOf ih fun i a => by rw [at?_cons, Nat.zero_add]; rfl]

/-! ### Lists in document order -/

theorem mem_nodes_iff {e x : Element} : x ∈ e.nodes ↔ e.Holds x := by
  have hx : x ∈ e.nodes ↔ some x ∈ e.places.map e.at? := by simp [map_places]
  rw [hx, List.mem_map]
  constructor
  · rintro ⟨a, -, ha⟩
    exact ⟨a, ha⟩
  · rintro ⟨a, ha⟩
    exact ⟨a, mem_places.2 ⟨x, ha⟩, ha⟩

/-- Picking from all elements keeps them in document order. -/
theorem lists_filter_nodes (e : Element) (p : Element → Bool) :
    e.Lists (fun _ x => p x) (e.nodes.filter p) := by
  refine ⟨e.places.filter fun a => (e.at? a).any p, (pairwise_places e).filter _, fun a => ?_, ?_⟩
  · rw [List.mem_filter, mem_places]
    constructor
    · rintro ⟨⟨x, hx⟩, hp⟩
      exact ⟨x, hx, by simpa [hx] using hp⟩
    · rintro ⟨x, hx, hp⟩
      exact ⟨⟨x, hx⟩, by simpa [hx] using hp⟩
  · have h := congrArg (List.filter (Option.any p)) (map_places e)
    rw [List.filter_map, List.filter_map] at h
    exact h

/-! ### Children of children -/

/-- The children with the property `p`, each with its number. -/
def numbered (e : Element) (p : Element → Bool) : List (Element × Nat) :=
  e.children.zipIdx.filter (p ·.1)

theorem mem_numbered {e x : Element} {p : Element → Bool} {i : Nat} :
    (x, i) ∈ e.numbered p ↔ e.at? [i] = some x ∧ p x := by
  rw [numbered, List.mem_filter, List.mk_mem_zipIdx_iff_getElem?, at?_cons]
  cases e.children[i]? <;> simp [at?_nil]

theorem pairwise_numbered (e : Element) (p : Element → Bool) :
    (e.numbered p).Pairwise (·.2 < ·.2) := by
  refine List.Pairwise.filter _ ?_
  rw [← List.pairwise_map (f := Prod.snd) (R := (· < ·)), List.zipIdx_map_snd]
  exact List.pairwise_lt_range'

theorem map_numbered (e : Element) (p : Element → Bool) :
    (e.numbered p).map Prod.fst = e.children.filter p := by
  have h := List.filter_map (f := Prod.fst) (p := p) (l := e.children.zipIdx)
  rw [List.zipIdx_map_fst] at h
  exact h.symm

/-- The addresses of some children of some children. -/
def grandchildPlaces (e : Element) (p q : Element → Bool) : List (List Nat) :=
  (e.numbered p).flatMap fun c => (c.1.numbered q).map fun x => [c.2, x.2]

/-- Picking children and then their children keeps document order. -/
theorem lists_grandchildren (e : Element) (p q : Element → Bool) :
    e.Lists (fun a x => ∃ i j c, a = [i, j] ∧ e.at? [i] = some c ∧ p c ∧ q x)
      ((e.children.filter p).flatMap fun c => c.children.filter q) := by
  have hat : ∀ {c x : Element} {i j : Nat}, e.at? [i] = some c →
      (e.at? [i, j] = some x ↔ c.at? [j] = some x) := by
    intro c x i j hc
    obtain ⟨d, hd, hdc⟩ := Option.bind_eq_some_iff.1 ((at?_cons e i []).symm.trans hc)
    obtain rfl : d = c := Option.some.inj (d.at?_nil.symm.trans hdc)
    rw [at?_cons, hd]
    rfl
  refine ⟨e.grandchildPlaces p q, ?_, fun a => ?_, ?_⟩
  · -- by the number of the child, then by that of its own child
    rw [grandchildPlaces, List.pairwise_flatMap]
    refine ⟨fun c _ => ?_, (pairwise_numbered e p).imp fun {c d} hcd a ha b hb => ?_⟩
    · rw [List.pairwise_map]
      exact (pairwise_numbered c.1 q).imp fun hxy =>
        List.cons_lt_cons_self.2 (List.cons_lt_cons_iff.2 (.inl hxy))
    · obtain ⟨x, -, rfl⟩ := List.mem_map.1 ha
      obtain ⟨y, -, rfl⟩ := List.mem_map.1 hb
      exact List.cons_lt_cons_iff.2 (.inl hcd)
  · rw [grandchildPlaces, List.mem_flatMap]
    constructor
    · rintro ⟨⟨c, i⟩, hc, ha⟩
      obtain ⟨⟨x, j⟩, hx, rfl⟩ := List.mem_map.1 ha
      obtain ⟨hci, hpc⟩ := mem_numbered.1 hc
      obtain ⟨hxj, hqx⟩ := mem_numbered.1 hx
      exact ⟨x, (hat hci).2 hxj, i, j, c, rfl, hci, hpc, hqx⟩
    · rintro ⟨x, hx, i, j, c, rfl, hc, hpc, hqx⟩
      refine ⟨(c, i), mem_numbered.2 ⟨hc, hpc⟩, List.mem_map.2 ⟨(x, j), ?_, rfl⟩⟩
      exact mem_numbered.2 ⟨(hat hc).1 hx, hqx⟩
  · rw [grandchildPlaces, List.map_flatMap, List.map_flatMap, ← map_numbered, List.flatMap_map]
    refine List.flatMap_congr fun ⟨c, i⟩ hc => ?_
    rw [← map_numbered, List.map_map, List.map_map]
    refine List.map_congr_left fun ⟨x, j⟩ hx => ?_
    exact (hat (mem_numbered.1 hc).1).2 (mem_numbered.1 hx).1

end ReleaseGate.Xml.Element
