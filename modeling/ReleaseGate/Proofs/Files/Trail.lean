/-
ReleaseGate/Proofs/Files/Trail.lean

Walks through a tree of files as derivations.

`FileTree.walk` says where a path leads.  `Walk t followLast links here path
trail p` says the same as an inductive relation and keeps the *trail* `seen`:
all places that were looked at, in order.  `trail` computes it.

Design.  Nothing but the nodes on the trail decides a walk, so a change of
the tree that stays off the trail changes nothing (`Walk.congr`).  Of the
nodes on the trail all but the last are directories and links
(`Walk.mem_trail`), so a change that keeps those, and makes no new links,
leaves every walk as it is, wherever it happens (`Walk.mono`).  What is left
are changes that put a file in the way: `Walk.blocked` says what becomes of
a walk then.

Main results: `Walk.of_walk`, `Walk.walk_eq`, `Walk.congr`, `Walk.mono`, `Walk.blocked`.
-/
import ReleaseGate.Files.Walk

namespace ReleaseGate.FileTree

/-! ### The trail of a walk -/

/-- The places that are looked at from a directory on; `follow` gives those
behind a link. -/
def trailWith (t : FileTree) (followLast : Bool) (follow : Place → List String → List Place) :
    Place → List String → List Place
  | _, [] => []
  | here, n :: rest =>
    if n = "." then t.trailWith followLast follow here rest
    else if n = ".." then t.trailWith followLast follow here.tail rest
    else
      (n :: here) ::
        match t.get? (n :: here) with
        | some .dir => t.trailWith followLast follow (n :: here) rest
        | some (.link target) =>
          if rest.isEmpty && !followLast then []
          else follow (startOf here target) (steps target ++ rest)
        | _ => []

/-- The places that are looked at on the way that a path takes from a
directory. -/
def trail (t : FileTree) (followLast : Bool) : Nat → Place → List String → List Place
  | 0 => t.trailWith followLast fun _ _ => []
  | left + 1 => t.trailWith followLast (t.trail followLast left)

/-- A name that leads from a directory to something in it. -/
def IsEntryName (n : String) : Prop := n ≠ "." ∧ n ≠ ".." ∧ ¬ maxNameSize < n.utf8ByteSize

/-- A walk may end at what is at a place: at nothing, at a file, or at a link
that is not followed. -/
def EndsAt (followLast : Bool) : Option Node → Prop
  | none | some (.file _) => True
  | some .dir => False
  | some (.link _) => followLast = false

/-- `Walk t followLast links here path seen p`: from `here` the path leads to
`p`, with a look at the places `seen`. -/
inductive Walk (t : FileTree) (followLast : Bool) :
    Nat → Place → List String → List Place → Place → Prop
  | done {links : Nat} {here : Place} : Walk t followLast links here [] [] here
  | stay {links here rest seen p} :
      Walk t followLast links here rest seen p →
      Walk t followLast links here ("." :: rest) seen p
  | up {links here rest seen p} :
      Walk t followLast links here.tail rest seen p →
      Walk t followLast links here (".." :: rest) seen p
  | last {links : Nat} {here : Place} {n : String} : IsEntryName n →
      EndsAt followLast (t.get? (n :: here)) →
      Walk t followLast links here [n] [n :: here] (n :: here)
  | enter {links here n rest seen p} : IsEntryName n → t.get? (n :: here) = some .dir →
      Walk t followLast links (n :: here) rest seen p →
      Walk t followLast links here (n :: rest) ((n :: here) :: seen) p
  | follow {links here n rest target seen p} : IsEntryName n →
      t.get? (n :: here) = some (.link target) → (rest = [] → followLast = true) →
      Walk t followLast links (startOf here target) (steps target ++ rest) seen p →
      Walk t followLast (links + 1) here (n :: rest) ((n :: here) :: seen) p

variable {t t' : FileTree} {followLast : Bool} {links : Nat} {here p q : Place}
variable {path rest : List String} {n : String} {seen : List Place}

/-! ### The relation and the function -/

/-- One level of the induction on the links that are left. -/
theorem Walk.of_walkWith {follow : Place → List String → Except FileFault Place}
    {followTrail : Place → List String → List Place}
    (hf : ∀ {here path p n rest target}, IsEntryName n →
      t.get? (n :: here) = some (.link target) → (rest = [] → followLast = true) →
      path = steps target ++ rest → follow (startOf here target) path = .ok p →
      Walk t followLast links here (n :: rest)
        ((n :: here) :: followTrail (startOf here target) path) p)
    (h : t.walkWith followLast follow here path = .ok p) :
    Walk t followLast links here path (t.trailWith followLast followTrail here path) p := by
  -- induction on the path; what comes behind a link is left to `hf`
  induction path generalizing here with
  | nil =>
    obtain rfl : here = p := by simpa [walkWith] using h
    exact .done
  | cons n rest ih =>
    unfold walkWith at h
    unfold trailWith
    by_cases hdot : n = "."
    · subst hdot
      rw [if_pos rfl] at h ⊢
      exact .stay (ih h)
    rw [if_neg hdot] at h ⊢
    by_cases hup : n = ".."
    · subst hup
      rw [if_pos rfl] at h ⊢
      exact .up (ih h)
    rw [if_neg hup] at h ⊢
    by_cases hsize : maxNameSize < n.utf8ByteSize
    · rw [if_pos hsize] at h
      cases h
    rw [if_neg hsize] at h
    have hn : IsEntryName n := ⟨hdot, hup, hsize⟩
    rcases hg : t.get? (n :: here) with - | (content | - | target)
    · rw [hg] at h
      cases rest with
      | nil =>
        obtain rfl : n :: here = p := by simpa using h
        exact .last hn (by simp [hg, EndsAt])
      | cons => cases h
    · rw [hg] at h
      cases rest with
      | nil =>
        obtain rfl : n :: here = p := by simpa using h
        exact .last hn (by simp [hg, EndsAt])
      | cons => cases h
    · rw [hg] at h
      exact .enter hn hg (ih h)
    · rw [hg] at h
      simp only at h ⊢
      by_cases hlast : (rest.isEmpty && !followLast) = true
      · rw [if_pos hlast] at h ⊢
        obtain ⟨hrest, hfl⟩ : rest = [] ∧ followLast = false := by simpa using hlast
        obtain rfl : n :: here = p := by simpa using h
        subst hrest
        exact .last hn (by simp [hg, EndsAt, hfl])
      · rw [if_neg hlast] at h ⊢
        refine hf hn hg ?_ rfl h
        rintro rfl
        simpa using hlast

theorem Walk.of_walk (h : t.walk followLast links here path = .ok p) :
    Walk t followLast links here path (t.trail followLast links here path) p := by
  -- outer induction on the links that are left, inner one in `of_walkWith`
  induction links generalizing here path p with
  | zero => exact Walk.of_walkWith (fun _ _ _ _ h => by cases h) h
  | succ left ih =>
    refine Walk.of_walkWith (fun hn hg hl hp h => ?_) h
    subst hp
    exact .follow hn hg hl (ih h)

theorem walk_stay :
    t.walk followLast links here ("." :: rest) = t.walk followLast links here rest := by
  cases links <;> simp [walk, walkWith]

theorem walk_up :
    t.walk followLast links here (".." :: rest) = t.walk followLast links here.tail rest := by
  cases links <;> simp [walk, walkWith]

theorem walk_last (hn : IsEntryName n) (he : EndsAt followLast (t.get? (n :: here))) :
    t.walk followLast links here [n] = .ok (n :: here) := by
  obtain ⟨hdot, hup, hsize⟩ := hn
  rcases hg : t.get? (n :: here) with - | (content | - | target) <;> rw [hg] at he <;>
    cases links <;> simp_all [walk, walkWith, EndsAt]

theorem walk_enter (hn : IsEntryName n) (hg : t.get? (n :: here) = some .dir) :
    t.walk followLast links here (n :: rest) = t.walk followLast links (n :: here) rest := by
  obtain ⟨hdot, hup, hsize⟩ := hn
  cases links <;> simp [walk, walkWith, hdot, hup, hsize, hg]

theorem walk_follow {target : String} (hn : IsEntryName n)
    (hg : t.get? (n :: here) = some (.link target)) (hl : rest = [] → followLast = true) :
    t.walk followLast (links + 1) here (n :: rest) =
      t.walk followLast links (startOf here target) (steps target ++ rest) := by
  obtain ⟨hdot, hup, hsize⟩ := hn
  have hgo : ¬ (rest.isEmpty && !followLast) = true := by
    cases rest <;> simp_all
  rw [walk, walkWith, if_neg hdot, if_neg hup, if_neg hsize, hg]
  simp only [if_neg hgo]

/-- A file in the way of a walk that goes on stops it. -/
theorem walk_notDirectory {content : ByteArray} (hn : IsEntryName n)
    (hg : t.get? (n :: here) = some (.file content)) (hr : rest ≠ []) :
    t.walk followLast links here (n :: rest) = .error .notDirectory := by
  obtain ⟨hdot, hup, hsize⟩ := hn
  cases links <;> simp [walk, walkWith, hdot, hup, hsize, hg, hr]

theorem Walk.walk_eq (hw : Walk t followLast links here path seen p) :
    t.walk followLast links here path = .ok p := by
  induction hw with
  | @done links here => cases links <;> rfl
  | stay _ ih => rw [walk_stay, ih]
  | up _ ih => rw [walk_up, ih]
  | last hn he => exact walk_last hn he
  | enter hn hg _ ih => rw [walk_enter hn hg, ih]
  | follow hn hg hl _ ih => rw [walk_follow hn hg hl, ih]

/-- `trail` gives the trail of a walk. -/
theorem Walk.trail_eq (hw : Walk t followLast links here path seen p) :
    t.trail followLast links here path = seen := by
  induction hw with
  | @done links here => cases links <;> rfl
  | @stay links here rest seen p _ ih => cases links <;> simpa [trail, trailWith] using ih
  | @up links here rest seen p _ ih => cases links <;> simpa [trail, trailWith] using ih
  | @last links here n hn he =>
    obtain ⟨hdot, hup, hsize⟩ := hn
    rcases hg : t.get? (n :: here) with - | (content | - | target) <;> rw [hg] at he <;>
      cases links <;> simp_all [trail, trailWith, EndsAt]
  | @enter links here n rest seen p hn hg _ ih =>
    obtain ⟨hdot, hup, hsize⟩ := hn
    cases links <;> simp only [trail, trailWith, if_neg hdot, if_neg hup, hg] at ih ⊢ <;> rw [ih]
  | @follow links here n rest target seen p hn hg hl _ ih =>
    obtain ⟨hdot, hup, hsize⟩ := hn
    have hgo : ¬ (rest.isEmpty && !followLast) = true := by
      cases rest <;> simp_all
    rw [trail, trailWith, if_neg hdot, if_neg hup, hg]
    simp only [if_neg hgo, ih]

/-! ### Changes off the trail -/

/-- Nothing but the nodes on its trail decides a walk. -/
theorem Walk.congr (hw : Walk t followLast links here path seen p)
    (h : ∀ q ∈ seen, t'.get? q = t.get? q) : Walk t' followLast links here path seen p := by
  induction hw with
  | done => exact .done
  | stay _ ih => exact .stay (ih h)
  | up _ ih => exact .up (ih h)
  | last hn he => exact .last hn (by rwa [h _ (List.mem_singleton_self _)])
  | enter hn hg _ ih =>
    have hg' := (h _ List.mem_cons_self).trans hg
    exact .enter hn hg' (ih fun q hq => h q (List.mem_cons_of_mem _ hq))
  | follow hn hg hl _ ih =>
    have hg' := (h _ List.mem_cons_self).trans hg
    exact .follow hn hg' hl (ih fun q hq => h q (List.mem_cons_of_mem _ hq))

/-- Before its end a trail holds directories and links only. -/
theorem Walk.mem_trail (hw : Walk t followLast links here path seen p) (hq : q ∈ seen) :
    t.get? q = some .dir ∨ (∃ target, t.get? q = some (.link target)) ∨ q = p := by
  induction hw with
  | done => cases hq
  | stay _ ih => exact ih hq
  | up _ ih => exact ih hq
  | last hn he => exact .inr (.inr (List.mem_singleton.1 hq))
  | enter hn hg _ ih =>
    rcases List.mem_cons.1 hq with rfl | hq
    · exact .inl hg
    · exact ih hq
  | follow hn hg hl _ ih =>
    rcases List.mem_cons.1 hq with rfl | hq
    · exact .inr (.inl ⟨_, hg⟩)
    · exact ih hq

/-- The tree `t'` has all directories and all links of `t`, and no links of
its own. -/
structure KeepsWays (t t' : FileTree) : Prop where
  dir : ∀ {q}, t.get? q = some .dir → t'.get? q = some .dir
  link : ∀ {q target}, t'.get? q = some (.link target) ↔ t.get? q = some (.link target)

theorem KeepsWays.refl (t : FileTree) : KeepsWays t t := ⟨id, Iff.rfl⟩

theorem KeepsWays.trans {t₁ t₂ t₃ : FileTree} (h : KeepsWays t₁ t₂) (h' : KeepsWays t₂ t₃) :
    KeepsWays t₁ t₃ :=
  ⟨fun hq => h'.dir (h.dir hq), h'.link.trans h.link⟩

/-- A tree that differs at one place keeps all ways if there was no directory
and no link there, and is no link now. -/
theorem KeepsWays.of_change_at {c : Place} (h : ∀ q, q ≠ c → t'.get? q = t.get? q)
    (hc : t.get? c ≠ some .dir) (hl : ∀ target, t.get? c ≠ some (.link target))
    (hl' : ∀ target, t'.get? c ≠ some (.link target)) : KeepsWays t t' := by
  refine ⟨fun {q} hq => ?_, fun {q target} => ?_⟩
  · rw [h q (by rintro rfl; exact hc hq), hq]
  · by_cases hqc : q = c
    · subst hqc
      exact ⟨fun hq => absurd hq (hl' target), fun hq => absurd hq (hl target)⟩
    · rw [h q hqc]

/-- A walk is left as it is by every change that keeps all ways. -/
theorem Walk.mono (h : KeepsWays t t') (hw : Walk t followLast links here path seen p) :
    Walk t' followLast links here path seen p := by
  induction hw with
  | done => exact .done
  | stay _ ih => exact .stay ih
  | up _ ih => exact .up ih
  | @last links here n hn he =>
    -- where nothing was there may now be a directory: then the walk enters it
    rcases hg : t'.get? (n :: here) with - | (content | - | target)
    · exact .last hn (by simp [hg, EndsAt])
    · exact .last hn (by simp [hg, EndsAt])
    · exact .enter hn hg .done
    · rw [h.link.1 hg] at he
      exact .last hn (by rw [hg]; exact he)
  | enter hn hg _ ih => exact .enter hn (h.dir hg) ih
  | follow hn hg hl _ ih => exact .follow hn (h.link.2 hg) hl ih

/-! ### Files in the way -/

/-- **A file in the way** of a walk is where the walk ends, or what stops it. -/
theorem Walk.blocked {c : Place} {content : ByteArray}
    (hw : Walk t followLast links here path seen p) (hc : c ∈ seen) (hdir : t.get? c ≠ some .dir)
    (h : ∀ q, q ≠ c → t'.get? q = t.get? q) (hfile : t'.get? c = some (.file content)) :
    t'.walk true links here path = .ok c ∨
      t'.walk true links here path = .error .notDirectory := by
  induction hw with
  | done => cases hc
  | stay _ ih => rw [walk_stay]; exact ih hc
  | up _ ih => rw [walk_up]; exact ih hc
  | last hn he =>
    obtain rfl := List.mem_singleton.1 hc
    exact .inl (walk_last hn (by simp [hfile, EndsAt]))
  | @enter links here n rest seen p hn hg _ ih =>
    have hq : n :: here ≠ c := by rintro rfl; exact hdir hg
    rw [walk_enter hn ((h _ hq).trans hg)]
    exact ih ((List.mem_cons.1 hc).resolve_left hq.symm)
  | @follow links here n rest target seen p hn hg _ _ ih =>
    by_cases hq : n :: here = c
    · -- the file has taken the place of the link
      subst hq
      cases rest with
      | nil => exact .inl (walk_last hn (by simp [hfile, EndsAt]))
      | cons m rest => exact .inr (walk_notDirectory hn hfile (by simp))
    · rw [walk_follow hn ((h _ hq).trans hg) fun _ => rfl]
      rcases List.mem_cons.1 hc with rfl | hc
      · exact absurd rfl hq
      · exact ih hc

end ReleaseGate.FileTree
