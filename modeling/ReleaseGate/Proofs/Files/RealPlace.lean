/-
ReleaseGate/Proofs/Files/RealPlace.lean

The real place of a path that leads somewhere.

`Leads t k here path p`: from `here` the path leads to `p` over `k` links,
each of them resolved on its own.  Every walk that follows links comes to
the place that its path leads to (`Walk.leads`), and the real place is that
place as well (`resolve_of_leads`); so two paths with the same real place
lead to the same file.

Design.  `resolve` keeps a list of the links met.  The induction is over the
way that the path takes, and carries what the list says: a link with a place
leads to that place, and the way of a link that is being resolved is at
least as long as what is left (`Links.Fits`).  Hence no such link is met
again, as the way from it would be longer than itself.  Every link that is
entered is new to the list, which bounds the depth (`Links.unmet`).

Nor is the real place of a file taken for a loop of links: its names lead
from the root to it through directories only (`Walk.from_root`).

Main results: `resolve_of_leads`, `realPlace_of_locate`,
`realPlace?_ne_loop`.
-/
import Mathlib.Tactic.ByContra
import ReleaseGate.Files.RealPath
import ReleaseGate.Proofs.Files.Edits

namespace ReleaseGate.FileTree

/-- From `here` the path leads to a place, over so many links. -/
inductive Leads (t : FileTree) : Nat → Place → List String → Place → Prop
  | done {here : Place} : Leads t 0 here [] here
  | stay {k here rest p} : Leads t k here rest p → Leads t k here ("." :: rest) p
  | up {k here rest p} : Leads t k here.tail rest p → Leads t k here (".." :: rest) p
  | pass {k here n rest p} : n ≠ "." → n ≠ ".." →
      (∀ target, t.get? (n :: here) ≠ some (.link target)) →
      Leads t k (n :: here) rest p → Leads t k here (n :: rest) p
  | link {k l here n rest target q p} : n ≠ "." → n ≠ ".." →
      t.get? (n :: here) = some (.link target) →
      Leads t k (startOf here target) (steps target) q → Leads t l q rest p →
      Leads t (k + l + 1) here (n :: rest) p

variable {t : FileTree} {k l bound : Nat} {here p q : Place} {path rest : List String}
variable {n : String}

/-! ### Where a path leads -/

theorem Leads.stay_inv (h : Leads t k here ("." :: rest) p) : Leads t k here rest p := by
  generalize hpath : "." :: rest = path at h
  cases h with
  | done => cases hpath
  | stay h => exact (List.cons.inj hpath).2 ▸ h
  | up => exact absurd (List.cons.inj hpath).1 (by decide)
  | pass hdot | link hdot => exact absurd (List.cons.inj hpath).1.symm hdot

theorem Leads.up_inv (h : Leads t k here (".." :: rest) p) : Leads t k here.tail rest p := by
  generalize hpath : ".." :: rest = path at h
  cases h with
  | done => cases hpath
  | stay => exact absurd (List.cons.inj hpath).1 (by decide)
  | up h => exact (List.cons.inj hpath).2 ▸ h
  | pass _ hup | link _ hup => exact absurd (List.cons.inj hpath).1.symm hup

/-- A path leads to one place, over one number of links. -/
theorem Leads.unique (h : Leads t k here path p) (h' : Leads t l here path q) :
    k = l ∧ p = q := by
  induction h generalizing l q with
  | done => cases h'; exact ⟨rfl, rfl⟩
  | stay _ ih => exact ih h'.stay_inv
  | up _ ih => exact ih h'.up_inv
  | pass hdot hup hg _ ih =>
    cases h' with
    | stay => exact absurd rfl hdot
    | up => exact absurd rfl hup
    | pass _ _ _ h' => exact ih h'
    | link _ _ hg' => exact absurd hg' (hg _)
  | link hdot hup hg _ _ ih₁ ih₂ =>
    cases h' with
    | stay => exact absurd rfl hdot
    | up => exact absurd rfl hup
    | pass _ _ hg' => exact absurd hg (hg' _)
    | link _ _ hg' h₁ h₂ =>
      obtain rfl := Node.link.inj (Option.some.inj (hg.symm.trans hg'))
      obtain ⟨rfl, rfl⟩ := ih₁ h₁
      obtain ⟨rfl, rfl⟩ := ih₂ h₂
      exact ⟨rfl, rfl⟩

/-- What two paths in a row lead to. -/
theorem Leads.split (h : Leads t k here (path ++ rest) p) :
    ∃ a b q, Leads t a here path q ∧ Leads t b q rest p := by
  induction path generalizing here k with
  | nil => exact ⟨0, k, here, .done, h⟩
  | cons n path ih =>
    cases h with
    | stay h =>
      obtain ⟨a, b, q, ha, hb⟩ := ih h
      exact ⟨a, b, q, .stay ha, hb⟩
    | up h =>
      obtain ⟨a, b, q, ha, hb⟩ := ih h
      exact ⟨a, b, q, .up ha, hb⟩
    | pass hdot hup hg h =>
      obtain ⟨a, b, q, ha, hb⟩ := ih h
      exact ⟨a, b, q, .pass hdot hup hg ha, hb⟩
    | link hdot hup hg h₁ h₂ =>
      obtain ⟨a, b, q, ha, hb⟩ := ih h₂
      exact ⟨_, b, q, .link hdot hup hg h₁ ha, hb⟩

/-- A walk that follows all links comes to where its path leads. -/
theorem Walk.leads {links : Nat} {seen : List Place} (hw : Walk t true links here path seen p) :
    ∃ k, Leads t k here path p := by
  induction hw with
  | done => exact ⟨0, .done⟩
  | stay _ ih =>
    obtain ⟨k, h⟩ := ih
    exact ⟨k, .stay h⟩
  | up _ ih =>
    obtain ⟨k, h⟩ := ih
    exact ⟨k, .up h⟩
  | last hn he =>
    refine ⟨0, .pass hn.1 hn.2.1 (fun target hg => ?_) .done⟩
    rw [hg] at he
    cases he
  | enter hn hg _ ih =>
    obtain ⟨k, h⟩ := ih
    exact ⟨k, .pass hn.1 hn.2.1 (by simp [hg]) h⟩
  | follow hn hg _ _ ih =>
    obtain ⟨k, h⟩ := ih
    obtain ⟨a, b, q, ha, hb⟩ := h.split
    exact ⟨_, .link hn.1 hn.2.1 hg ha hb⟩

/-- The name `.` says nothing. -/
theorem leads_filter : Leads t k here (path.filter (· ≠ ".")) p ↔ Leads t k here path p := by
  induction path generalizing k here with
  | nil => rfl
  | cons n path ih =>
    by_cases hdot : n = "."
    · subst hdot
      rw [List.filter_cons_of_neg (by simp), ih]
      exact ⟨.stay, Leads.stay_inv⟩
    · rw [List.filter_cons_of_pos (by simpa using hdot)]
      constructor
      · intro h
        cases h with
        | stay => exact absurd rfl hdot
        | up h => exact .up (ih.1 h)
        | pass _ hup hg h => exact .pass hdot hup hg (ih.1 h)
        | link _ hup hg h₁ h₂ => exact .link hdot hup hg h₁ (ih.1 h₂)
      · intro h
        cases h with
        | stay => exact absurd rfl hdot
        | up h => exact .up (ih.2 h)
        | pass _ hup hg h => exact .pass hdot hup hg (ih.2 h)
        | link _ hup hg h₁ h₂ => exact .link hdot hup hg h₁ (ih.2 h₂)

/-! ### The links met -/

/-- The link at a place leads on to another place. -/
def LinkLeads (t : FileTree) (k : Nat) (place p : Place) : Prop :=
  ∃ n here target, place = n :: here ∧ t.get? place = some (.link target) ∧
    Leads t k (startOf here target) (steps target) p

theorem LinkLeads.unique (h : LinkLeads t k q p) {p' : Place} (h' : LinkLeads t l q p') :
    k = l ∧ p = p' := by
  obtain ⟨n, here, target, rfl, hg, h⟩ := h
  obtain ⟨_, _, _, hq, hg', h'⟩ := h'
  obtain ⟨rfl, rfl⟩ := List.cons.inj hq
  obtain rfl := Node.link.inj (Option.some.inj (hg.symm.trans hg'))
  exact h.unique h'

/-- What the list of links says is right, and no link on it that is being
resolved is met again within so many links. -/
structure Links.Fits (t : FileTree) (bound : Nat) (links : Links) : Prop where
  resolved : ∀ q p, links.lookup q = some (some p) → ∃ k, LinkLeads t k q p
  pending : ∀ q k p, links.lookup q = some none → LinkLeads t k q p → bound ≤ k

/-- The list `links'` goes on from `links`, and nothing more is pending. -/
structure Links.Extends (links links' : Links) : Prop where
  pending : ∀ q, links'.lookup q = some none → links.lookup q = some none
  met : ∀ q, links'.lookup q = none → links.lookup q = none

/-- How many nodes of a tree are not on the list. -/
def Links.unmet (t : FileTree) (links : Links) : Nat :=
  (t.nodes.filter fun e => (links.lookup e.1).isNone).length

theorem lookup_cons (q x : Place) (v : Option Place) (links : Links) :
    List.lookup x ((q, v) :: links) = if x = q then some v else links.lookup x := by
  rw [List.lookup_cons]
  by_cases h : x = q
  · rw [if_pos h, beq_iff_eq.2 h]
  · rw [if_neg h, beq_false_of_ne h]

theorem Links.unmet_le {links links' : Links}
    (h : ∀ q, links'.lookup q = none → links.lookup q = none) :
    Links.unmet t links' ≤ Links.unmet t links := by
  rw [unmet, unmet, ← List.countP_eq_length_filter, ← List.countP_eq_length_filter]
  refine List.countP_mono_left fun e _ he => ?_
  rw [Option.isNone_iff_eq_none] at he ⊢
  exact h e.1 he

/-- A link that is put on the list was one of those not met. -/
theorem Links.unmet_lt {links : Links} {target : String} {v : Option Place}
    (hg : t.get? (n :: here) = some (.link target)) (hl : links.lookup (n :: here) = none) :
    Links.unmet t ((n :: here, v) :: links) < Links.unmet t links := by
  obtain ⟨e, he, -⟩ := Option.map_eq_some_iff.1 ((get?_cons t n here).symm.trans hg)
  have hfound := List.find?_some he
  have hplace : e.1 = n :: here := beq_iff_eq.1 hfound
  have hmem : e ∈ t.nodes.filter fun e => (links.lookup e.1).isNone :=
    List.mem_filter.2 ⟨List.mem_of_find?_eq_some he, by simp [hplace, hl]⟩
  have hfilter : (t.nodes.filter fun e => (List.lookup e.1 ((n :: here, v) :: links)).isNone) =
      (t.nodes.filter fun e => (links.lookup e.1).isNone).filter fun e => e.1 ≠ n :: here := by
    rw [List.filter_filter]
    refine List.filter_congr fun e _ => ?_
    rw [lookup_cons]
    by_cases h : e.1 = n :: here <;> simp [h]
  rw [Links.unmet, hfilter]
  exact List.length_filter_lt_length_iff_exists.2 ⟨e, hmem, by simp [hplace]⟩

/-- Entering a link: inside, the link itself is pending. -/
theorem Links.Fits.enter {links : Links} (h : Links.Fits t bound links)
    (hlink : LinkLeads t k q p) (hk : k ≤ bound) : Links.Fits t k ((q, none) :: links) := by
  refine ⟨fun x y hx => ?_, fun x j y hx hj => ?_⟩
  · rw [lookup_cons] at hx
    split at hx
    · cases hx
    · exact h.resolved x y hx
  · rw [lookup_cons] at hx
    split at hx
    · next hxq =>
      subst hxq
      exact Nat.le_of_eq (hlink.unique hj).1
    · exact Nat.le_trans hk (h.pending x j y hx hj)

/-- Leaving a link: it is pending no more. -/
theorem Links.Extends.leave {links found : Links} (h : Links.Extends ((q, none) :: links) found)
    (p : Place) : Links.Extends links ((q, some p) :: found) := by
  refine ⟨fun x hx => ?_, fun x hx => ?_⟩
  · rw [lookup_cons] at hx
    split at hx
    · cases hx
    · next hxq =>
      have hx := h.pending x hx
      rwa [lookup_cons, if_neg hxq] at hx
  · rw [lookup_cons] at hx
    split at hx
    · cases hx
    · next hxq =>
      have hx := h.met x hx
      rwa [lookup_cons, if_neg hxq] at hx

theorem Links.Fits.leave {links found : Links} (h : Links.Fits t bound links)
    (hext : Links.Extends links ((q, some p) :: found)) (hlink : LinkLeads t k q p)
    (hfound : ∀ x y, found.lookup x = some (some y) → ∃ j, LinkLeads t j x y) :
    Links.Fits t bound ((q, some p) :: found) := by
  refine ⟨fun x y hx => ?_, fun x j y hx hj => h.pending x j y (hext.pending x hx) hj⟩
  rw [lookup_cons] at hx
  split at hx
  · next hxq =>
    subst hxq
    obtain rfl := Option.some.inj (Option.some.inj hx)
    exact ⟨k, hlink⟩
  · exact hfound x y hx

/-! ### Resolving -/

theorem resolve_nil (depth : Nat) (links : Links) :
    t.resolve depth here [] links = ⟨here, true, links⟩ := by
  cases depth <;> rfl

theorem resolve_stay (depth : Nat) (links : Links) :
    t.resolve depth here ("." :: rest) links = t.resolve depth here rest links := by
  cases depth <;> simp [resolve, resolveWith]

theorem resolve_up (depth : Nat) (links : Links) :
    t.resolve depth here (".." :: rest) links = t.resolve depth here.tail rest links := by
  cases depth <;> simp [resolve, resolveWith]

theorem resolve_pass {links : Links} (depth : Nat) (hdot : n ≠ ".") (hup : n ≠ "..")
    (hg : ∀ target, t.get? (n :: here) ≠ some (.link target)) :
    t.resolve depth here (n :: rest) links = t.resolve depth (n :: here) rest links := by
  rcases h : t.get? (n :: here) with - | (content | - | target)
  case some.link => exact absurd h (hg target)
  all_goals cases depth <;> simp [resolve, resolveWith, hdot, hup, h]

theorem resolve_met {links : Links} {target : String} (depth : Nat) (hdot : n ≠ ".")
    (hup : n ≠ "..") (hg : t.get? (n :: here) = some (.link target))
    (hl : links.lookup (n :: here) = some (some p)) :
    t.resolve depth here (n :: rest) links = t.resolve depth p rest links := by
  cases depth <;> simp [resolve, resolveWith, hdot, hup, hg, hl]

/-- A new link is entered, and left again if its path has a real place. -/
theorem resolve_link {links : Links} {target : String} (depth : Nat) (hdot : n ≠ ".")
    (hup : n ≠ "..") (hg : t.get? (n :: here) = some (.link target))
    (hl : links.lookup (n :: here) = none) {r : Real}
    (hr : t.resolve depth (startOf here target) (steps target) ((n :: here, none) :: links) = r)
    (hwhole : r.isWhole = true) :
    t.resolve (depth + 1) here (n :: rest) links =
      t.resolve depth r.place rest ((n :: here, some r.place) :: r.links) := by
  rw [resolve, resolveWith, if_neg hdot, if_neg hup]
  simp only [hg, hl, hr, hwhole, if_true]

/-- What comes out of resolving a path that leads to `p`. -/
structure Real.Finds (t : FileTree) (p : Place) (links : Links) (r : Real) : Prop where
  place : r.place = p
  isWhole : r.isWhole = true
  resolved : ∀ q p, r.links.lookup q = some (some p) → ∃ k, LinkLeads t k q p
  grows : Links.Extends links r.links

/-- **The real place** of a path is where the path leads. -/
theorem resolve_of_leads (h : Leads t k here path p) {depth : Nat} {links : Links}
    (hfits : Links.Fits t bound links) (hk : k ≤ bound) (hdepth : Links.unmet t links ≤ depth) :
    Real.Finds t p links (t.resolve depth here path links) := by
  -- the list and the bound differ between a link and what follows it
  induction h generalizing depth links bound with
  | done =>
    rw [resolve_nil]
    exact ⟨rfl, rfl, hfits.resolved, fun _ => id, fun _ => id⟩
  | stay _ ih =>
    rw [resolve_stay]
    exact ih hfits hk hdepth
  | up _ ih =>
    rw [resolve_up]
    exact ih hfits hk hdepth
  | pass hdot hup hg _ ih =>
    rw [resolve_pass depth hdot hup hg]
    exact ih hfits hk hdepth
  | @link k l here n rest target q p hdot hup hg h₁ _ ih₁ ih₂ =>
    have hlink : LinkLeads t k (n :: here) q := ⟨n, here, target, rfl, hg, h₁⟩
    rcases hl : links.lookup (n :: here) with - | (- | place)
    · -- a new link: its own way is shorter, so inside it the bound is `k`
      have hlt := Links.unmet_lt (v := none) hg hl
      obtain - | depth := depth
      · omega
      have hunmet : Links.unmet t ((n :: here, none) :: links) ≤ depth := by omega
      have hin := hfits.enter hlink (by omega)
      obtain ⟨hplace, hwhole, hresolved, hgrows⟩ := ih₁ hin (Nat.le_refl k) hunmet
      rw [resolve_link depth hdot hup hg hl rfl hwhole, hplace]
      generalize (t.resolve depth (startOf here target) (steps target)
        ((n :: here, none) :: links)).links = found at *
      have hafter := hgrows.leave q
      have hless : Links.unmet t ((n :: here, some q) :: found) ≤
          Links.unmet t ((n :: here, none) :: links) := by
        refine Links.unmet_le fun x hx => ?_
        rw [lookup_cons] at hx ⊢
        split at hx
        · cases hx
        · next hxn => rw [if_neg hxn, hafter.met x (by rw [lookup_cons, if_neg hxn, hx])]
      obtain ⟨hp, hw, hres, hlast⟩ :=
        ih₂ (hfits.leave hafter hlink hresolved) (by omega) (Nat.le_trans hless hunmet)
      exact ⟨hp, hw, hres, fun x hx => hafter.pending x (hlast.pending x hx),
        fun x hx => hafter.met x (hlast.met x hx)⟩
    · -- a pending link would be met again on its own way
      have hb := hfits.pending _ k q hl hlink
      omega
    · -- a link met before is taken to where the list says that it leads
      obtain ⟨j, hj⟩ := hfits.resolved _ place hl
      obtain rfl := (hlink.unique hj).2
      rw [resolve_met depth hdot hup hg hl]
      exact ih₂ hfits (by omega) hdepth

theorem place_resolve (h : Leads t k here path p) :
    (t.resolve (t.nodes.length + 1) here path []).place = p := by
  have hfits : Links.Fits t k [] := ⟨nofun, nofun⟩
  have hunmet : Links.unmet t [] ≤ t.nodes.length + 1 :=
    Nat.le_trans (List.length_filter_le ..) (Nat.le_succ _)
  exact (resolve_of_leads h hfits (Nat.le_refl k) hunmet).place

/-! ### Paths as they are given -/

/-- A path that leads somewhere, read and written again, has its end as real
place. -/
theorem realPlace_of_locate {dir : Place} {path : String} (h : t.locate dir path true = .ok p) :
    t.realPlace dir (Path.ofString path).text = p := by
  obtain ⟨k, hk⟩ := (walk_of_locate h).leads
  rw [← leads_filter, ← Path.filter_steps_ofString, leads_filter,
    ← Path.startOf_ofString] at hk
  exact place_resolve hk

theorem realPlace?_eq_ok {dir : Place} {path : String} (h : t.realPlace? dir path = .ok p) :
    t.realPlace dir path = p := by
  unfold realPlace? at h
  split at h
  · cases h
  · simp only at h
    split at h
    · cases h
    · exact Except.ok.inj h

/-- Two files with one real place are one file. -/
theorem read_eq_of_realPlace {dir : Place} {a b : String} {x y : ByteArray}
    (hx : t.read dir a = .ok x) (hy : t.read dir b = .ok y)
    (h : t.realPlace dir (Path.ofString a).text = t.realPlace dir (Path.ofString b).text) :
    x = y := by
  obtain ⟨p, hp, hgp⟩ := read_eq_ok.1 hx
  obtain ⟨q, hq, hgq⟩ := read_eq_ok.1 hy
  rw [realPlace_of_locate hp, realPlace_of_locate hq] at h
  subst h
  exact Node.file.inj (Option.some.inj (hgp.symm.trans hgq))

/-! ### Real places as paths -/

/-- A place with names that files can have, each of which leads to something
in a directory. -/
def IsPlain (p : Place) : Prop := ∀ n ∈ p, IsEntryName n ∧ Path.IsFileName n.toList

theorem IsPlain.startOf (hp : IsPlain p) (target : String) : IsPlain (startOf p target) := by
  unfold FileTree.startOf
  split
  · nofun
  · exact hp

/-- A step of a path is the name of a file, or one of the two names that lead
on. -/
theorem isFileName_of_mem_steps {path : String} (h : n ∈ steps path) :
    Path.IsFileName n.toList := by
  have hpiece : ∀ {s : List Char}, s ∈ (Text.split '/' path.toList).filter (fun n => !n.isEmpty) →
      Path.IsFileName s := by
    intro s hs
    obtain ⟨hs, hne⟩ := List.mem_filter.1 hs
    exact ⟨by simpa using hne, Text.sep_notMem_of_mem_split hs⟩
  obtain ⟨s, hs, rfl⟩ := List.mem_map.1 h
  rw [String.toList_ofList]
  split at hs
  · rcases List.mem_append.1 hs with hs | hs
    · exact hpiece hs
    · obtain rfl := List.mem_singleton.1 hs
      exact ⟨by decide, by decide⟩
  · exact hpiece hs

/-- A walk takes names from its steps and from links. -/
theorem Walk.isPlain {links : Nat} {seen : List Place} (hw : Walk t fl links here path seen p)
    (hp : IsPlain here) (hsteps : ∀ n ∈ path, Path.IsFileName n.toList) : IsPlain p := by
  have hcons : ∀ {n : String} {here : Place}, IsEntryName n → Path.IsFileName n.toList →
      IsPlain here → IsPlain (n :: here) := by
    intro n here hn hname hplain
    exact List.forall_mem_cons.2 ⟨⟨hn, hname⟩, hplain⟩
  induction hw with
  | done => exact hp
  | stay _ ih => exact ih hp fun n hn => hsteps n (List.mem_cons_of_mem _ hn)
  | up _ ih =>
    refine ih (fun n hn => hp n (List.mem_of_mem_tail hn)) fun n hn => ?_
    exact hsteps n (List.mem_cons_of_mem _ hn)
  | last hn => exact hcons hn (hsteps _ List.mem_cons_self) hp
  | enter hn _ _ ih =>
    refine ih (hcons hn (hsteps _ List.mem_cons_self) hp) fun n hn => ?_
    exact hsteps n (List.mem_cons_of_mem _ hn)
  | @follow links here n rest target seen p hn hg hl hw ih =>
    refine ih (hp.startOf target) fun m hm => ?_
    rcases List.mem_append.1 hm with hm | hm
    · exact isFileName_of_mem_steps hm
    · exact hsteps m (List.mem_cons_of_mem _ hm)

/-- The names of a directory, from the root on, lead to it. -/
theorem Walk.from_root {links : Nat} {seen : List Place} (ht : Grounded t) (hp : IsPlain p)
    (hd : t.get? p = some .dir) (hw : Walk t fl links p rest seen q) :
    ∃ seen', Walk t fl links [] (p.reverse ++ rest) seen' q := by
  induction p generalizing rest seen with
  | nil => exact ⟨seen, hw⟩
  | cons n p ih =>
    rw [List.reverse_cons, List.append_assoc]
    obtain ⟨hn, hp⟩ := List.forall_mem_cons.1 hp
    exact ih hp (ht.dir_tail hd) (.enter hn.1 hd hw)

/-- A place as a path from the root. -/
def placePath (p : Place) : Path := ⟨.slash, p.reverse.map String.toList⟩

theorem placePath_cons (n : String) (p : Place) :
    placePath (n :: p) = (placePath p).child n.toList := by
  simp [placePath, Path.child]

theorem text_placePath (p : Place) : (placePath p).text = placeText p := by
  have hchars : (placePath p).chars = '/' :: Text.join '/' (p.reverse.map String.toList) := rfl
  rw [Path.text, hchars, Text.join_eq_intercalate, placeText]
  refine String.toList_inj.1 ?_
  rw [String.toList_ofList, String.toList_append, String.toList_intercalate]
  rfl

theorem leadSteps_placePath (hp : IsPlain p) : (placePath p).leadSteps = p.reverse := by
  have hnames : ∀ n ∈ (placePath p).names, Path.IsFileName n := by
    intro n hn
    obtain ⟨m, hm, rfl⟩ := List.mem_map.1 hn
    exact (hp m (List.mem_reverse.1 hm)).2
  rw [Path.leadSteps_eq hnames, placePath, List.map_map]
  exact List.map_id'' (fun _ => String.ofList_toList) _

/-- On the way to a file in a directory no link is followed. -/
theorem locate_placeText {content : ByteArray} (ht : Grounded t) (hp : IsPlain (n :: p))
    (hg : t.get? (n :: p) = some (.file content)) :
    t.locate [] (placeText (n :: p)) true ≠ .error .tooManyLinks := by
  have hname : Path.IsFileName n.toList := (hp n List.mem_cons_self).2
  have hend : Walk t true maxLinks p [n] [n :: p] (n :: p) :=
    .last (hp n List.mem_cons_self).1 (by rw [hg]; trivial)
  have hplain : IsPlain p := fun m hm => hp m (List.mem_cons_of_mem _ hm)
  obtain ⟨seen, hw⟩ := Walk.from_root ht hplain (ht n p (by simp [hg])) hend
  have hsteps : steps (placeText (n :: p)) = p.reverse ++ [n] := by
    rw [← text_placePath, placePath_cons, Path.steps_child _ hname, leadSteps_placePath hplain,
      String.ofList_toList]
  have hstart : startOf [] (placeText (n :: p)) = [] := by simp [startOf]
  intro h
  unfold locate at h
  split at h
  · cases h
  split at h
  · cases h
  split at h
  · cases h
  · rw [hsteps, hstart, hw.walk_eq] at h
    cases h

/-- The real place of a file is no loop of links. -/
theorem realPlace?_ne_loop {dir : Place} {path : String} {content : ByteArray} (ht : Grounded t)
    (hd : t.get? dir = some .dir) (hplain : IsPlain dir) (h : t.read dir path = .ok content)
    (q : Place) : t.realPlace? dir (Path.ofString path).text ≠ .error (.loop q) := by
  obtain ⟨p, hp, hg⟩ := read_eq_ok.1 h
  obtain ⟨n, d, rfl, -⟩ := locate_arrives ht hd hp (by simp [hg])
  have hwhole : IsPlain (n :: d) :=
    (walk_of_locate hp).isPlain (hplain.startOf path) fun m hm => isFileName_of_mem_steps hm
  have hfound := locate_placeText ht hwhole hg
  unfold realPlace?
  rw [realPlace_of_locate hp]
  split
  · nofun
  · simp only
    split
    · next hlookup =>
      intro _
      unfold lookup at hlookup
      rcases hl : t.locate [] (placeText (n :: d)) true with fault | r
      · rw [hl] at hlookup hfound
        obtain rfl := Except.error.inj hlookup
        exact hfound rfl
      · rw [hl] at hlookup
        simp only [bind, Except.bind] at hlookup
        split at hlookup <;> cases hlookup
    · nofun

end ReleaseGate.FileTree
