/-
ReleaseGate/Proofs/Files/Edits.lean

What each change of a tree does to the view of it.

`t.Edit p node? t'` says that `t'` is `t` with another node, or none, at the
place `p`.  Writing, adding, removing and moving are edits at the places
their paths lead to; making directories is a chain of them.  Which of them
keep all ways (`KeepsWays`) is said along with it, since such a change moves
no other path.

Directories are only ever made where nothing is (`addsDirs_makeDirs`).  In a
`Grounded` tree everything is in a directory, and the changes keep it so.

Main results: `add_eq_ok`, `write_eq_ok`, `move_eq_ok`, `addsDirs_makeDirs`,
`Grounded.edit`.
-/
import Mathlib.Tactic.ByContra
import ReleaseGate.Files.Change
import ReleaseGate.Proofs.Files.Trail
import ReleaseGate.Proofs.Path

namespace ReleaseGate.FileTree

variable {t t' t'' : FileTree} {dir p q : Place} {path : String} {node : Node} {fl : Bool}

/-! ### Where a path leads -/

/-- A text that the system takes for a path. -/
structure IsPathText (path : String) : Prop where
  noNull : path.toList.contains '\x00' = false
  notEmpty : path.isEmpty = false
  size : ¬ maxPathSize < path.utf8ByteSize

theorem locate_eq_ok_iff :
    t.locate dir path fl = .ok p ↔
      IsPathText path ∧ t.walk fl maxLinks (startOf dir path) (steps path) = .ok p := by
  unfold locate
  by_cases hnull : path.toList.contains '\x00' = true
  · rw [if_pos hnull]
    exact ⟨nofun, fun ⟨h, _⟩ => by rw [h.noNull] at hnull; cases hnull⟩
  rw [if_neg hnull]
  by_cases hempty : path.isEmpty = true
  · rw [if_pos hempty]
    exact ⟨nofun, fun ⟨h, _⟩ => by rw [h.notEmpty] at hempty; cases hempty⟩
  rw [if_neg hempty]
  by_cases hsize : maxPathSize < path.utf8ByteSize
  · rw [if_pos hsize]
    exact ⟨nofun, fun ⟨h, _⟩ => absurd hsize h.size⟩
  rw [if_neg hsize]
  exact ⟨fun h => ⟨⟨by simpa using hnull, by simpa using hempty, hsize⟩, h⟩, And.right⟩

/-- The places that are looked at on the way along a path. -/
def trailOf (t : FileTree) (dir : Place) (path : String) (followLast : Bool) : List Place :=
  t.trail followLast maxLinks (startOf dir path) (steps path)

theorem walk_of_locate (h : t.locate dir path fl = .ok p) :
    Walk t fl maxLinks (startOf dir path) (steps path) (t.trailOf dir path fl) p :=
  .of_walk (locate_eq_ok_iff.1 h).2

theorem locate_of_walk {seen : List Place} (h : t.locate dir path fl = .ok p)
    (hw : Walk t' fl maxLinks (startOf dir path) (steps path) seen q) :
    t'.locate dir path fl = .ok q :=
  locate_eq_ok_iff.2 ⟨(locate_eq_ok_iff.1 h).1, hw.walk_eq⟩

theorem locate_mono (h : KeepsWays t t') (hp : t.locate dir path fl = .ok p) :
    t'.locate dir path fl = .ok p :=
  locate_of_walk hp ((walk_of_locate hp).mono h)

theorem locate_congr (hp : t.locate dir path fl = .ok p)
    (h : ∀ q ∈ t.trailOf dir path fl, t'.get? q = t.get? q) : t'.locate dir path fl = .ok p :=
  locate_of_walk hp ((walk_of_locate hp).congr h)

theorem trailOf_congr (hp : t.locate dir path fl = .ok p)
    (h : ∀ q ∈ t.trailOf dir path fl, t'.get? q = t.get? q) :
    t'.trailOf dir path fl = t.trailOf dir path fl :=
  ((walk_of_locate hp).congr h).trail_eq

/-- Where there is no link at its end a path leads to the same place with
and without following. -/
theorem Walk.follow_of_not_link {links : Nat} {here : Place} {steps : List String}
    {seen : List Place} (hw : Walk t false links here steps seen p)
    (hp : ∀ target, t.get? p ≠ some (.link target)) : Walk t true links here steps seen p := by
  induction hw with
  | done => exact .done
  | stay _ ih => exact .stay (ih hp)
  | up _ ih => exact .up (ih hp)
  | @last links here n hn he =>
    refine .last hn ?_
    rcases hg : t.get? (n :: here) with - | (content | - | target) <;> rw [hg] at he
    · exact he
    · exact he
    · exact he
    · exact absurd hg (hp target)
  | enter hn hg _ ih => exact .enter hn hg (ih hp)
  | follow hn hg _ _ ih => exact .follow hn hg (fun _ => rfl) (ih hp)

theorem locate_follow (h : t.locate dir path false = .ok p)
    (hp : ∀ target, t.get? p ≠ some (.link target)) : t.locate dir path true = .ok p :=
  locate_eq_ok_iff.2
    ⟨(locate_eq_ok_iff.1 h).1, ((walk_of_locate h).follow_of_not_link hp).walk_eq⟩

theorem blame_eq_ok {α : Type} {r : Except FileFault α} {x : α} :
    blame path r = .ok x ↔ r = .ok x := by
  cases r <;> simp [blame, Except.mapError]

theorem lookup_eq_ok :
    t.lookup dir path = .ok node ↔ ∃ p, t.locate dir path true = .ok p ∧ t.get? p = some node := by
  unfold lookup
  rcases t.locate dir path true with e | p
  · exact ⟨nofun, nofun⟩
  · simp only [bind, Except.bind]
    rcases hg : t.get? p with - | found
    · refine ⟨nofun, ?_⟩
      rintro ⟨_, ⟨⟩, h⟩
      rw [hg] at h
      cases h
    · refine ⟨?_, ?_⟩
      · rintro ⟨⟩
        exact ⟨p, rfl, hg⟩
      · rintro ⟨_, ⟨⟩, h⟩
        rw [hg] at h
        cases h
        rfl

theorem lookup_of_none (hl : t.locate dir path true = .ok p) (hnone : t.get? p = none) :
    t.lookup dir path = .error .missing := by
  unfold lookup
  simp only [hl, bind, Except.bind, hnone]
  rfl

theorem read_eq_ok {content : ByteArray} :
    t.read dir path = .ok content ↔
      ∃ p, t.locate dir path true = .ok p ∧ t.get? p = some (.file content) := by
  rw [read, blame_eq_ok, ← lookup_eq_ok]
  rcases t.lookup dir path with e | (found | - | target)
  · exact ⟨nofun, nofun⟩
  · exact ⟨fun h => by cases h; rfl, fun h => by cases h; rfl⟩
  · exact ⟨nofun, nofun⟩
  · exact ⟨nofun, nofun⟩

/-- A path leads to a regular file if there is a content to read. -/
theorem isFile_eq_true :
    t.isFile dir path = .ok true ↔ ∃ content, t.read dir path = .ok content := by
  simp only [read_eq_ok, ← lookup_eq_ok, isFile, ask]
  rcases t.lookup dir path with e | (found | - | target)
  · cases e <;> exact ⟨nofun, nofun⟩
  · exact ⟨fun _ => ⟨found, rfl⟩, fun _ => rfl⟩
  · exact ⟨nofun, nofun⟩
  · exact ⟨nofun, nofun⟩

/-! ### One place at a time -/

/-- The tree `t'` is `t` with another node, or none, at one place. -/
structure Edit (t : FileTree) (p : Place) (node? : Option Node) (t' : FileTree) : Prop where
  new : t'.get? p = node?
  off : ∀ q, q ≠ p → t'.get? q = t.get? q

theorem edit_put (hp : p ≠ []) : t.Edit p (some node) (t.put p node) :=
  ⟨by rw [get?_put _ _ _ _ hp, if_pos rfl], fun q hq => by rw [get?_put _ _ _ _ hp, if_neg hq]⟩

theorem edit_erase (hp : p ≠ []) : t.Edit p none (t.erase p) := by
  refine ⟨by rw [get?_erase _ _ _ hp, if_pos rfl], fun q hq => ?_⟩
  obtain - | ⟨n, q⟩ := q
  · rfl
  · rw [get?_erase _ _ _ (by simp), if_neg hq]

/-- The last of two changes at one place counts. -/
theorem Edit.trans {first last : Option Node} (h : t.Edit p first t') (h' : t'.Edit p last t'') :
    t.Edit p last t'' :=
  ⟨h'.new, fun q hq => (h'.off q hq).trans (h.off q hq)⟩

/-- A change that puts back what was there changes nothing. -/
theorem Edit.get?_eq {node? : Option Node} (h : t.Edit p node? t') (hp : t.get? p = node?)
    (q : Place) : t'.get? q = t.get? q := by
  by_cases hq : q = p
  · rw [hq, h.new, hp]
  · exact h.off q hq

theorem ne_root_of_not_dir (h : t.get? p ≠ some .dir) : p ≠ [] := by
  rintro rfl
  exact h rfl

/-- A new node that is no link leaves all ways as they are. -/
theorem Edit.keepsWays (h : t.Edit p (some node) t') (hp : t.get? p = none)
    (hn : ∀ target, node ≠ .link target) : KeepsWays t t' := by
  refine .of_change_at h.off (by simp [hp]) (by simp [hp]) fun target => ?_
  rw [h.new]
  exact fun hl => hn target (Option.some.inj hl)

/-- So does a file in place of a file, or none in its place. -/
theorem Edit.keepsWays_of_file {node? : Option Node} {content : ByteArray}
    (h : t.Edit p node? t') (hp : t.get? p = some (.file content))
    (hn : ∀ target, node? ≠ some (.link target)) : KeepsWays t t' :=
  .of_change_at h.off (by simp [hp]) (by simp [hp]) fun target => by rw [h.new]; exact hn target

/-- A new file ends walks only where nothing ended them before. -/
theorem Edit.walk_of_new {content : ByteArray} {links : Nat} {here q : Place}
    {steps : List String} {seen : List Place} (h : t.Edit p (some (.file content)) t')
    (hn : t.get? p = none) (hw : Walk t' fl links here steps seen q) :
    Walk t fl links here steps seen q := by
  induction hw with
  | done => exact .done
  | stay _ ih => exact .stay ih
  | up _ ih => exact .up ih
  | @last links here n hname he =>
    refine .last hname ?_
    by_cases hp : n :: here = p
    · rw [hp, hn]
      trivial
    · rwa [h.off _ hp] at he
  | @enter links here n rest seen q hname hg _ ih =>
    have hp : n :: here ≠ p := by
      rintro rfl
      rw [h.new] at hg
      cases hg
    exact .enter hname ((h.off _ hp).symm.trans hg) ih
  | @follow links here n rest target seen q hname hg hl _ ih =>
    have hp : n :: here ≠ p := by
      rintro rfl
      rw [h.new] at hg
      cases hg
    exact .follow hname ((h.off _ hp).symm.trans hg) hl ih

/-- A new file is where its path leads, with and without following. -/
theorem Edit.locate_new {content : ByteArray} (h : t.Edit p (some (.file content)) t')
    (hp : t.locate dir path false = .ok p) (hn : t.get? p = none) (fl : Bool) :
    t'.locate dir path fl = .ok p := by
  have hnew := locate_mono (h.keepsWays hn (by simp)) hp
  cases fl with
  | false => exact hnew
  | true => exact locate_follow hnew (by simp [h.new])

/-! ### The single changes -/

theorem add_eq_ok (h : t.add dir path node = .ok t') :
    ∃ p, t.locate dir path false = .ok p ∧ t.get? p = none ∧ t.Edit p (some node) t' := by
  rw [add, blame_eq_ok] at h
  rcases hp : t.locate dir path false with e | p
  · rw [hp] at h
    cases h
  · rw [hp] at h
    simp only [bind, Except.bind] at h
    rcases hg : t.get? p with - | found
    · rw [hg] at h
      obtain rfl := Except.ok.inj h
      have hd : t.get? p ≠ some .dir := by simp [hg]
      exact ⟨p, rfl, hg, edit_put (ne_root_of_not_dir hd)⟩
    · rw [hg] at h
      cases h

theorem write_eq_ok {content : ByteArray} (h : t.write dir path content = .ok t') :
    ∃ p, t.locate dir path true = .ok p ∧ t.get? p ≠ some .dir ∧
      t.Edit p (some (.file content)) t' := by
  rw [write, blame_eq_ok] at h
  rcases hp : t.locate dir path true with e | p
  · rw [hp] at h
    cases h
  · rw [hp] at h
    simp only [bind, Except.bind] at h
    by_cases hg : t.get? p = some .dir
    · rw [hg] at h
      cases h
    · split at h
      · cases h
      · obtain rfl := Except.ok.inj h
        exact ⟨p, rfl, hg, edit_put (ne_root_of_not_dir hg)⟩

theorem write_of_locate (content : ByteArray) (hp : t.locate dir path true = .ok p)
    (hg : t.get? p ≠ some .dir) : t.write dir path content = .ok (t.put p (.file content)) := by
  rw [write, blame_eq_ok, hp]
  simp only [bind, Except.bind]
  rcases h : t.get? p with - | (found | - | target)
  · rfl
  · rfl
  · exact absurd h hg
  · rfl

theorem remove_of_locate (hp : t.locate dir path false = .ok p) (hg : t.get? p = some node)
    (hd : node ≠ .dir) : t.remove dir path = .ok (t.erase p) := by
  rw [remove, blame_eq_ok, hp]
  simp only [bind, Except.bind]
  rw [hg]
  cases node with
  | dir => exact absurd rfl hd
  | file | link => rfl

theorem removeAll_of_locate (hp : t.locate dir path false = .ok p) :
    t.removeAll dir path = .ok (t.eraseAll p) := by
  rw [removeAll, blame_eq_ok, hp]
  rfl

theorem move_eq_ok {source target : String} (h : t.move dir source target = .ok t') :
    ∃ p q node, t.locate dir source false = .ok p ∧ t.locate dir target false = .ok q ∧
      t.get? p = some node ∧ t.get? q ≠ some .dir ∧ t' = (t.erase p).put q node := by
  unfold move at h
  rcases hp : t.locate dir source false with e | p
  · rw [hp] at h
    cases h
  rcases hq : t.locate dir target false with e | q
  · rw [hp, hq] at h
    cases h
  rw [hp, hq] at h
  simp only [bind, Except.bind] at h
  rcases hg : t.get? p with - | node
  · rw [hg] at h
    cases h
  · by_cases hd : t.get? q = some .dir
    · rw [hg, hd] at h
      cases h
    · obtain rfl : (t.erase p).put q node = t' := by
        rw [hg] at h
        rcases hn : t.get? q with - | (content | - | link) <;> rw [hn] at h <;>
          simp_all [Except.mapError, pure, Except.pure]
      exact ⟨p, q, node, rfl, rfl, hg, hd, rfl⟩

/-- Nothing is left below a place that was taken away. -/
theorem get?_eraseAll (t : FileTree) (p q : Place) (hq : q ≠ []) :
    (t.eraseAll p).get? q = if p <:+ q then none else t.get? q := by
  obtain - | ⟨n, q⟩ := q
  · exact absurd rfl hq
  · rw [get?_cons, get?_cons, eraseAll, List.find?_filter]
    split
    · next hs =>
      rw [List.find?_eq_none.2]
      · rfl
      · rintro ⟨r, node⟩ -
        by_cases hr : r = n :: q <;> simp [hr, hs]
    · next hs =>
      congr 2
      funext ⟨r, node⟩
      by_cases hr : r = n :: q
      · have hf : p.isSuffixOf (n :: q) = false := by
          rw [Bool.eq_false_iff, Ne, List.isSuffixOf_iff_suffix]
          exact hs
        simp [hr, hf]
      · simp [hr]

/-! ### Trees in which everything is in a directory -/

/-- Everything in the tree is in a directory. -/
def Grounded (t : FileTree) : Prop := ∀ n p, t.get? (n :: p) ≠ none → t.get? p = some .dir

/-- It is enough to look at the nodes. -/
theorem grounded_of_nodes (h : ∀ e ∈ t.nodes, t.get? e.1.tail = some .dir) : Grounded t := by
  intro n p hp
  rw [get?_cons] at hp
  rcases hfind : t.nodes.find? (·.1 == n :: p) with - | e
  · rw [hfind] at hp
    exact absurd rfl hp
  · have hplace : e.1 = n :: p := by simpa using List.find?_some hfind
    have hdir := h e (List.mem_of_find?_eq_some hfind)
    rwa [hplace] at hdir

/-- What is above a directory is one too. -/
theorem Grounded.dir_tail (ht : Grounded t) (hp : t.get? p = some .dir) :
    t.get? p.tail = some .dir := by
  cases p with
  | nil => rfl
  | cons n p => exact ht n p (by simp [hp])

/-- Nothing is below a place that is no directory. -/
theorem Grounded.eq_none_of_suffix (ht : Grounded t) (hp : t.get? p ≠ some .dir) (h : p <:+ q)
    (hq : q ≠ p) : t.get? q = none := by
  -- up from `p`: if anything were at `q`, a directory would be above it
  induction q with
  | nil => exact absurd (List.suffix_nil.1 h).symm hq
  | cons n q ih =>
    have hs : p <:+ q := (List.suffix_cons_iff.1 h).resolve_left hq.symm
    by_contra hsome
    have hdir := ht n q hsome
    by_cases hqp : q = p
    · rw [hqp] at hdir
      exact hp hdir
    · rw [ih hs hqp] at hdir
      cases hdir

theorem get?_startOf (hd : t.get? dir = some .dir) : t.get? (startOf dir path) = some .dir := by
  unfold startOf
  split
  · rfl
  · exact hd

/-- A walk from a directory comes to a directory, or to a name in one. -/
theorem Walk.arrives {links : Nat} {here : Place} {steps : List String} {seen : List Place}
    (ht : Grounded t) (hw : Walk t fl links here steps seen p) (hd : t.get? here = some .dir) :
    t.get? p = some .dir ∨ ∃ n d, p = n :: d ∧ t.get? d = some .dir := by
  induction hw with
  | done => exact .inl hd
  | stay _ ih => exact ih hd
  | up _ ih => exact ih (ht.dir_tail hd)
  | last => exact .inr ⟨_, _, rfl, hd⟩
  | enter _ hg _ ih => exact ih hg
  | follow _ _ _ _ ih => exact ih (get?_startOf hd)

theorem locate_arrives (ht : Grounded t) (hd : t.get? dir = some .dir)
    (h : t.locate dir path fl = .ok p) (hp : t.get? p ≠ some .dir) :
    ∃ n d, p = n :: d ∧ t.get? d = some .dir :=
  ((walk_of_locate h).arrives ht (get?_startOf hd)).resolve_left hp

/-- A change at a place in a directory that is no directory itself. -/
theorem Grounded.edit {n : String} {d : Place} {node? : Option Node} (ht : Grounded t)
    (h : t.Edit (n :: d) node? t') (hp : t.get? (n :: d) ≠ some .dir) (hd : t.get? d = some .dir) :
    Grounded t' := by
  intro m q hm
  have hold : ∀ {r}, r ≠ n :: d → t.get? r = some .dir → t'.get? r = some .dir := fun hr hg =>
    (h.off _ hr).trans hg
  by_cases hmq : m :: q = n :: d
  · obtain ⟨rfl, rfl⟩ := List.cons.inj hmq
    exact hold (by simp) hd
  · rw [h.off _ hmq] at hm
    have hq := ht m q hm
    exact hold (by rintro rfl; exact hp hq) hq

theorem Grounded.edit_of_locate {node? : Option Node} (ht : Grounded t)
    (hd : t.get? dir = some .dir) (hp : t.locate dir path fl = .ok p) (hn : t.get? p ≠ some .dir)
    (h : t.Edit p node? t') : Grounded t' := by
  obtain ⟨n, d, rfl, hdir⟩ := locate_arrives ht hd hp hn
  exact ht.edit h hn hdir

/-- A walk from a directory looks at its end, unless that is a directory. -/
theorem Walk.end_mem {links : Nat} {here : Place} {steps : List String} {seen : List Place}
    (ht : Grounded t) (hw : Walk t fl links here steps seen p) (hd : t.get? here = some .dir)
    (hp : t.get? p ≠ some .dir) : p ∈ seen := by
  induction hw with
  | done => exact absurd hd hp
  | stay _ ih => exact ih hd hp
  | up _ ih => exact ih (ht.dir_tail hd) hp
  | last => exact List.mem_singleton_self _
  | enter _ hg _ ih => exact List.mem_cons_of_mem _ (ih hg hp)
  | follow _ _ _ _ ih => exact List.mem_cons_of_mem _ (ih (get?_startOf hd) hp)

/-- A walk from a directory that follows all links does not end at one. -/
theorem Walk.end_not_link {links : Nat} {here : Place} {steps : List String} {seen : List Place}
    (ht : Grounded t) (hw : Walk t true links here steps seen p) (hd : t.get? here = some .dir)
    (target : String) : t.get? p ≠ some (.link target) := by
  induction hw with
  | done => simp [hd]
  | stay _ ih => exact ih hd
  | up _ ih => exact ih (ht.dir_tail hd)
  | last _ he =>
    intro hg
    rw [hg] at he
    cases he
  | enter _ hg _ ih => exact ih hg
  | follow _ _ _ _ ih => exact ih (get?_startOf hd)

/-- Trees with the same view are grounded alike. -/
theorem Grounded.congr (ht : Grounded t) (h : ∀ q, t'.get? q = t.get? q) : Grounded t' := by
  intro n p hp
  rw [h] at hp ⊢
  exact ht n p hp

/-! ### Reading after a file was put -/

/-- A file off the way to another one does not change what is read. -/
theorem Edit.read_of_off {node? : Option Node} {content : ByteArray} (h : t.Edit p node? t')
    (ht : Grounded t) (hd : t.get? dir = some .dir) (hr : t.read dir path = .ok content)
    (hp : p ∉ t.trailOf dir path true) : t'.read dir path = .ok content := by
  obtain ⟨q, hq, hg⟩ := read_eq_ok.1 hr
  have hoff : ∀ x ∈ t.trailOf dir path true, t'.get? x = t.get? x := fun x hx =>
    h.off x (by rintro rfl; exact hp hx)
  have hend : q ∈ t.trailOf dir path true :=
    (walk_of_locate hq).end_mem ht (get?_startOf hd) (by simp [hg])
  exact read_eq_ok.2 ⟨q, locate_congr hq hoff, (hoff q hend).trans hg⟩

/-- A file on the way to another one is what is read, if anything is. -/
theorem Edit.read_of_on {content found : ByteArray} (h : t.Edit p (some (.file content)) t')
    (hn : t.get? p ≠ some .dir) (hl : t.locate dir path true = .ok q)
    (hp : p ∈ t.trailOf dir path true) (hr : t'.read dir path = .ok found) : found = content := by
  obtain ⟨x, hx, hg⟩ := read_eq_ok.1 hr
  have hwalk := (locate_eq_ok_iff.1 hx).2
  rcases (walk_of_locate hl).blocked hp hn h.off h.new with hb | hb
  · obtain rfl : p = x := Except.ok.inj (hb.symm.trans hwalk)
    exact Node.file.inj (Option.some.inj (hg.symm.trans h.new))
  · rw [hb] at hwalk
    cases hwalk

/-- What is read after a file was put is the file, or was there before. -/
theorem Edit.read_inv {content found : ByteArray} (h : t.Edit p (some (.file content)) t')
    (hr : t'.read dir path = .ok found) : found = content ∨ t.read dir path = .ok found := by
  obtain ⟨x, hx, hg⟩ := read_eq_ok.1 hr
  by_cases hxp : x = p
  · subst hxp
    exact .inl (Node.file.inj (Option.some.inj (hg.symm.trans h.new)))
  · -- before its end a trail holds no files, so it does not come by `p`
    right
    have hoff : ∀ y ∈ t'.trailOf dir path true, t.get? y = t'.get? y := by
      intro y hy
      refine (h.off y ?_).symm
      rintro rfl
      rcases (walk_of_locate hx).mem_trail hy with hn | ⟨target, hn⟩ | rfl
      · rw [h.new] at hn
        cases hn
      · rw [h.new] at hn
        cases hn
      · exact hxp rfl
    exact read_eq_ok.2 ⟨x, locate_congr hx hoff, (h.off x hxp).symm.trans hg⟩

/-! ### Making directories -/

theorem makeDir_eq_ok (h : t.makeDir dir path = .ok t') :
    t' = t ∨ ∃ p, t.locate dir path false = .ok p ∧ t.get? p = none ∧ t.Edit p (some .dir) t' := by
  unfold makeDir at h
  split at h
  · next hadd =>
    obtain rfl := Except.ok.inj h
    exact .inr (add_eq_ok hadd)
  · next e _ =>
    split at h
    · cases h
    · left
      unfold orExisting at h
      rcases hd : t.isDir dir path with fault | (- | -) <;> rw [hd] at h
      · cases h
      · cases h
      · exact (Except.ok.inj h).symm

/-- At `q` is a new directory, to which the start of a path leads. -/
def NewDir (t t' : FileTree) (dir : Place) (path : Path) (q : Place) : Prop :=
  t.get? q = none ∧ t'.get? q = some .dir ∧
    ∃ a, Path.Starts a path ∧ t'.locate dir a.text false = .ok q

/-- Later changes that keep all ways do not touch it. -/
theorem NewDir.later {way : Path} (h : NewDir t t' dir way q) (hk : KeepsWays t' t'') :
    NewDir t t'' dir way q := by
  obtain ⟨hnone, hdir, a, ha, hp⟩ := h
  exact ⟨hnone, hk.dir hdir, a, ha, locate_mono hk hp⟩

/-- The tree `t'` is `t` with new directories on the way along a path. -/
structure AddsDirs (t t' : FileTree) (dir : Place) (path : Path) : Prop where
  keeps : KeepsWays t t'
  new : ∀ q, t'.get? q ≠ t.get? q → NewDir t t' dir path q
  grounded : Grounded t → t.get? dir = some .dir → Grounded t'

theorem AddsDirs.refl (t : FileTree) (dir : Place) (path : Path) : AddsDirs t t dir path :=
  ⟨.refl t, fun _ hq => absurd rfl hq, fun ht _ => ht⟩

theorem AddsDirs.trans {way : Path} (h : AddsDirs t t' dir way) (h' : AddsDirs t' t'' dir way) :
    AddsDirs t t'' dir way := by
  refine ⟨h.keeps.trans h'.keeps, fun q hq => ?_,
    fun ht hd => h'.grounded (h.grounded ht hd) (h.keeps.dir hd)⟩
  -- a directory is made by the last step that changes its place
  by_cases h2 : t''.get? q = t'.get? q
  · rw [h2] at hq
    exact (h.new q hq).later h'.keeps
  · obtain ⟨hnone, hdir, ha⟩ := h'.new q h2
    by_cases h1 : t'.get? q = t.get? q
    · exact ⟨h1 ▸ hnone, hdir, ha⟩
    · rw [(h.new q h1).2.1] at hnone
      cases hnone

theorem AddsDirs.longer {short long : Path} (h : AddsDirs t t' dir short) (hl : short.Starts long) :
    AddsDirs t t' dir long := by
  refine ⟨h.keeps, fun q hq => ?_, h.grounded⟩
  obtain ⟨hnone, hdir, a, ha, hp⟩ := h.new q hq
  exact ⟨hnone, hdir, a, ⟨ha.1.trans hl.1, ha.2.trans hl.2⟩, hp⟩

theorem addsDirs_makeDir {way : Path} (h : t.makeDir dir way.text = .ok t') :
    AddsDirs t t' dir way := by
  rcases makeDir_eq_ok h with rfl | ⟨p, hp, hnone, hedit⟩
  · exact .refl _ dir way
  · have hkeeps := hedit.keepsWays hnone (by simp)
    refine ⟨hkeeps, fun q hq => ?_, fun ht hd => ?_⟩
    · obtain rfl : q = p := by
        by_contra hqp
        exact hq (hedit.off q hqp)
      exact ⟨hnone, hedit.new, way, ⟨rfl, List.prefix_refl _⟩, locate_mono hkeeps hp⟩
    · exact ht.edit_of_locate hd hp (by simp [hnone]) hedit

/-- **Making directories** adds what is missing on the way along the path,
also where it fails in the end. -/
theorem addsDirs_makeDirs (t : FileTree) (dir : Place) (way : Path) :
    AddsDirs t (t.makeDirs dir way).1 dir way := by
  -- made at once, or after the directories above it, or not at all
  fun_induction makeDirs t dir way with
  | case1 way t' h => exact addsDirs_makeDir h
  | case2 way e h hn t' e' hp ih =>
    rw [hp] at ih
    exact ih.longer ⟨rfl, List.dropLast_prefix _⟩
  | case3 way e h hn t' hp t'' h' ih =>
    rw [hp] at ih
    have hbefore : AddsDirs t t' dir way := ih.longer ⟨rfl, List.dropLast_prefix _⟩
    exact hbefore.trans (addsDirs_makeDir h')
  | case4 way e h hn t' hp e' h' ih =>
    rw [hp] at ih
    exact ih.longer ⟨rfl, List.dropLast_prefix _⟩
  | case5 way e h hn => exact .refl t dir way

end ReleaseGate.FileTree
