/-
ReleaseGate/Proofs/Files/Passage.lean

Ways through directories.

`Passage t links here path seen left d`: from `here` the path leads to `d`,
through directories and links only, with a look at the places `seen`, and
`left` of the links are left.  It is what a walk does before its last steps:
`Walk.split` cuts a walk in two, and `Passage.append` puts a passage in
front of a walk again.

Design.  Two paths that differ in their last name only share a passage.
A change of the tree off the passage leaves it as it is (`Passage.congr`),
and a file on it stops every walk that goes on (`Passage.blocked`), so both
paths are then affected alike.

Main results: `Walk.split`, `Passage.append`, `Passage.congr`,
`Passage.blocked`.
-/
import ReleaseGate.Proofs.Files.Trail

namespace ReleaseGate.FileTree

/-- From `here` the path leads through directories and links to `d`. -/
inductive Passage (t : FileTree) :
    Nat → Place → List String → List Place → Nat → Place → Prop
  | done {links : Nat} {here : Place} : Passage t links here [] [] links here
  | stay {links here rest seen left d} :
      Passage t links here rest seen left d →
      Passage t links here ("." :: rest) seen left d
  | up {links here rest seen left d} :
      Passage t links here.tail rest seen left d →
      Passage t links here (".." :: rest) seen left d
  | enter {links here n rest seen left d} : IsEntryName n → t.get? (n :: here) = some .dir →
      Passage t links (n :: here) rest seen left d →
      Passage t links here (n :: rest) ((n :: here) :: seen) left d
  | follow {links here n rest target seen left d} : IsEntryName n →
      t.get? (n :: here) = some (.link target) →
      Passage t links (startOf here target) (steps target ++ rest) seen left d →
      Passage t (links + 1) here (n :: rest) ((n :: here) :: seen) left d

variable {t t' : FileTree} {followLast : Bool} {links left : Nat} {here d p q : Place}
variable {path rest : List String} {n : String} {seen before : List Place}

/-! ### Cutting and joining -/

/-- A walk along two paths passes along the first of them. -/
theorem Walk.split (hw : Walk t followLast links here (path ++ rest) seen p) (hr : rest ≠ []) :
    ∃ before after left d, Passage t links here path before left d ∧
      Walk t followLast left d rest after p ∧ seen = before ++ after := by
  -- induction on the walk; the first path may end before any of its steps
  generalize hpath : path ++ rest = whole at hw
  induction hw generalizing path with
  | done => exact absurd (List.append_eq_nil_iff.1 hpath).2 hr
  | @stay links here tail seen p hw ih =>
    obtain - | ⟨m, path⟩ := path
    · obtain rfl : rest = "." :: tail := hpath
      exact ⟨[], seen, links, here, .done, .stay hw, rfl⟩
    · obtain ⟨rfl, rfl⟩ := List.cons.inj hpath
      obtain ⟨before, after, left, d, hp, hw, hs⟩ := ih rfl
      exact ⟨before, after, left, d, .stay hp, hw, hs⟩
  | @up links here tail seen p hw ih =>
    obtain - | ⟨m, path⟩ := path
    · obtain rfl : rest = ".." :: tail := hpath
      exact ⟨[], seen, links, here, .done, .up hw, rfl⟩
    · obtain ⟨rfl, rfl⟩ := List.cons.inj hpath
      obtain ⟨before, after, left, d, hp, hw, hs⟩ := ih rfl
      exact ⟨before, after, left, d, .up hp, hw, hs⟩
  | @last links here m hm he =>
    obtain - | ⟨k, path⟩ := path
    · obtain rfl : rest = [m] := hpath
      exact ⟨[], _, links, here, .done, .last hm he, rfl⟩
    · obtain ⟨-, hnil⟩ := List.cons.inj hpath
      exact absurd (List.append_eq_nil_iff.1 hnil).2 hr
  | @enter links here m tail seen p hm hg hw ih =>
    obtain - | ⟨k, path⟩ := path
    · obtain rfl : rest = m :: tail := hpath
      exact ⟨[], _, links, here, .done, .enter hm hg hw, rfl⟩
    · obtain ⟨rfl, rfl⟩ := List.cons.inj hpath
      obtain ⟨before, after, left, d, hp, hrest, rfl⟩ := ih rfl
      exact ⟨_, after, left, d, .enter hm hg hp, hrest, rfl⟩
  | @follow links here m tail target seen p hm hg hl hw ih =>
    obtain - | ⟨k, path⟩ := path
    · obtain rfl : rest = m :: tail := hpath
      exact ⟨[], _, links + 1, here, .done, .follow hm hg hl hw, rfl⟩
    · obtain ⟨rfl, rfl⟩ := List.cons.inj hpath
      obtain ⟨before, after, left, d, hp, hrest, rfl⟩ := ih (List.append_assoc ..)
      exact ⟨_, after, left, d, .follow hm hg hp, hrest, rfl⟩

/-- A walk may start with a passage. -/
theorem Passage.append {after : List Place} (hp : Passage t links here path before left d)
    (hw : Walk t followLast left d rest after p) (hr : rest ≠ []) :
    Walk t followLast links here (path ++ rest) (before ++ after) p := by
  induction hp with
  | done => exact hw
  | stay _ ih => exact .stay (ih hw)
  | up _ ih => exact .up (ih hw)
  | enter hn hg _ ih => exact .enter hn hg (ih hw)
  | @follow links here n tail target seen left d hn hg _ ih =>
    have hlast : tail ++ rest = [] → followLast = true := fun h =>
      absurd (List.append_eq_nil_iff.1 h).2 hr
    refine .follow hn hg hlast ?_
    have hwalk := ih hw
    rw [List.append_assoc] at hwalk
    exact hwalk

/-- A passage is a walk that follows all links. -/
theorem Passage.toWalk (hp : Passage t links here path seen left d) :
    Walk t true links here path seen d := by
  induction hp with
  | done => exact .done
  | stay _ ih => exact .stay ih
  | up _ ih => exact .up ih
  | enter hn hg _ ih => exact .enter hn hg ih
  | follow hn hg _ ih => exact .follow hn hg (fun _ => rfl) ih

/-- A walk that ends in a directory is a passage. -/
theorem Walk.toPassage (hw : Walk t true links here path seen d) (hd : t.get? d = some .dir) :
    ∃ left, Passage t links here path seen left d := by
  induction hw with
  | @done links here => exact ⟨links, .done⟩
  | stay _ ih =>
    obtain ⟨left, hp⟩ := ih hd
    exact ⟨left, .stay hp⟩
  | up _ ih =>
    obtain ⟨left, hp⟩ := ih hd
    exact ⟨left, .up hp⟩
  | last hn he =>
    rw [hd] at he
    cases he
  | enter hn hg _ ih =>
    obtain ⟨left, hp⟩ := ih hd
    exact ⟨left, .enter hn hg hp⟩
  | follow hn hg _ _ ih =>
    obtain ⟨left, hp⟩ := ih hd
    exact ⟨left, .follow hn hg hp⟩

/-- A passage looks at directories and links only. -/
theorem Passage.mem_seen (hp : Passage t links here path seen left d) (hq : q ∈ seen) :
    t.get? q = some .dir ∨ ∃ target, t.get? q = some (.link target) := by
  induction hp with
  | done => cases hq
  | stay _ ih => exact ih hq
  | up _ ih => exact ih hq
  | enter _ hg _ ih =>
    rcases List.mem_cons.1 hq with rfl | hq
    · exact .inl hg
    · exact ih hq
  | follow _ hg _ ih =>
    rcases List.mem_cons.1 hq with rfl | hq
    · exact .inr ⟨_, hg⟩
    · exact ih hq

/-! ### Changes of the tree -/

theorem Passage.congr (hp : Passage t links here path seen left d)
    (h : ∀ q ∈ seen, t'.get? q = t.get? q) : Passage t' links here path seen left d := by
  induction hp with
  | done => exact .done
  | stay _ ih => exact .stay (ih h)
  | up _ ih => exact .up (ih h)
  | enter hn hg _ ih =>
    have hg' := (h _ List.mem_cons_self).trans hg
    exact .enter hn hg' (ih fun q hq => h q (List.mem_cons_of_mem _ hq))
  | follow hn hg _ ih =>
    have hg' := (h _ List.mem_cons_self).trans hg
    exact .follow hn hg' (ih fun q hq => h q (List.mem_cons_of_mem _ hq))

/-- A file on a passage stops every walk that goes on. -/
theorem Passage.blocked {c : Place} {content : ByteArray}
    (hp : Passage t links here path seen left d) (hc : c ∈ seen) (hdir : t.get? c ≠ some .dir)
    (h : ∀ q, q ≠ c → t'.get? q = t.get? q) (hfile : t'.get? c = some (.file content))
    (hr : rest ≠ []) :
    t'.walk followLast links here (path ++ rest) = .error .notDirectory := by
  induction hp with
  | done => cases hc
  | stay _ ih => rw [List.cons_append, walk_stay]; exact ih hc
  | up _ ih => rw [List.cons_append, walk_up]; exact ih hc
  | @enter links here n tail seen left d hn hg _ ih =>
    have hq : n :: here ≠ c := by rintro rfl; exact hdir hg
    rw [List.cons_append, walk_enter hn ((h _ hq).trans hg)]
    exact ih ((List.mem_cons.1 hc).resolve_left hq.symm)
  | @follow links here n tail target seen left d hn hg _ ih =>
    -- `rest` is still to come, so the link is not the end of the path
    have hrest : tail ++ rest ≠ [] := fun h => hr (List.append_eq_nil_iff.1 h).2
    rw [List.cons_append]
    by_cases hq : n :: here = c
    · subst hq
      exact walk_notDirectory hn hfile hrest
    · rw [walk_follow hn ((h _ hq).trans hg) fun h => absurd h hrest, ← List.append_assoc]
      exact ih ((List.mem_cons.1 hc).resolve_left (Ne.symm hq))

/-! ### Names in one directory -/

/-- A name other than the points, where no link at the end is followed, leads
to its place whatever is there. -/
theorem walk_name (t : FileTree) (links : Nat) (d : Place) (hn : IsEntryName n) :
    Walk t false links d [n] [n :: d] (n :: d) := by
  rcases hg : t.get? (n :: d) with - | (content | - | target)
  · exact .last hn (by simp [hg, EndsAt])
  · exact .last hn (by simp [hg, EndsAt])
  · exact .enter hn hg .done
  · exact .last hn (by simp [hg, EndsAt])

/-- The first step of a walk looks at the name it takes. -/
theorem Walk.step_inv (hw : Walk t followLast links d [n] seen p) (hdot : n ≠ ".")
    (hup : n ≠ "..") :
    IsEntryName n ∧ (∃ after, seen = (n :: d) :: after) ∧
      (followLast = false → seen = [n :: d] ∧ p = n :: d) := by
  cases hw with
  | stay => exact absurd rfl hdot
  | up => exact absurd rfl hup
  | last hn he => exact ⟨hn, ⟨[], rfl⟩, fun _ => ⟨rfl, rfl⟩⟩
  | enter hn hg hw =>
    cases hw
    exact ⟨hn, ⟨[], rfl⟩, fun _ => ⟨rfl, rfl⟩⟩
  | follow hn hg hl hw =>
    refine ⟨hn, ⟨_, rfl⟩, fun hf => ?_⟩
    rw [hl rfl] at hf
    cases hf

end ReleaseGate.FileTree
