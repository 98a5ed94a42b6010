/-
ReleaseGate/Proofs/Files/FoldedWay.lean

Where a path leads whose `..` were folded away.

`Path.collapsed` takes each `..` together with the name before it, without a
look at any file.  A walk goes up from wherever that name has led, so the two
part ways behind a link, and only there: a folded path leads where the path
itself leads if no name that is folded away is that of a link
(`Denotes.collapsed`).

Design.  The names that are left so far are kept as a stack, and they lead
where the names read so far lead.  That is the invariant of the induction: a
name is put on both, and a `..` takes the last name off the stack and goes
one place up, which comes to the same for a name that is no link.

Main result: `Denotes.collapsed`.
-/
import ReleaseGate.Proofs.Files.NullCharacter
import ReleaseGate.Proofs.Files.Passage
import ReleaseGate.Proofs.Files.RealPlace

namespace ReleaseGate

/-- The names of a path are such as are read: each one leads somewhere, and
none holds a slash. -/
def Path.IsProper (p : Path) : Prop := ∀ n ∈ p.names, isName n ∧ IsFileName n

theorem Path.isProper_ofString (s : String) : (ofString s).IsProper := names_ofChars s.toList

namespace FileTree

open ReleaseGate.Path

variable {t : FileTree} {k l : Nat} {here d q : Place} {p : Path} {n : List Char}
variable {done names : List (List Char)} {path rest : List String}

/-! ### Names from the root on -/

/-- From the root the names lead to a place. -/
def NamesLead (t : FileTree) (names : List (List Char)) (d : Place) : Prop :=
  ∃ k, Leads t k [] (names.map String.ofList) d

/-- A path that starts at the root leads to a place. -/
def Denotes (t : FileTree) (p : Path) (d : Place) : Prop := t.NamesLead p.names d

theorem Denotes.unique {d' : Place} (h : Denotes t p d) (h' : Denotes t p d') : d = d' := by
  obtain ⟨k, h⟩ := h
  obtain ⟨l, h'⟩ := h'
  exact (h.unique h').2

theorem denotes_of_locate (habs : p.isAbsolute) (hp : p.IsProper)
    (h : t.locate here p.text true = .ok d) : Denotes t p d := by
  obtain ⟨k, hk⟩ := (walk_of_locate h).leads
  rw [startOf, if_pos (head?_text habs), ← leads_filter, text, filter_steps,
    filter_split_chars hp] at hk
  exact ⟨k, hk⟩

theorem Leads.append (h : Leads t k here path q) (h' : Leads t l q rest d) :
    ∃ j, Leads t j here (path ++ rest) d := by
  induction h with
  | done => exact ⟨l, h'⟩
  | stay _ ih =>
    obtain ⟨j, hj⟩ := ih h'
    exact ⟨j, .stay hj⟩
  | up _ ih =>
    obtain ⟨j, hj⟩ := ih h'
    exact ⟨j, .up hj⟩
  | pass hdot hup hg _ ih =>
    obtain ⟨j, hj⟩ := ih h'
    exact ⟨j, .pass hdot hup hg hj⟩
  | link hdot hup hg h₁ _ _ ih =>
    obtain ⟨j, hj⟩ := ih h'
    exact ⟨_, .link hdot hup hg h₁ hj⟩

/-- A name that leads somewhere, and not up. -/
def IsEntry (n : List Char) : Prop := n ≠ ['.'] ∧ n ≠ ['.', '.']

theorem IsEntry.ne (hn : IsEntry n) : String.ofList n ≠ "." ∧ String.ofList n ≠ ".." :=
  ⟨fun h => hn.1 (String.ofList_inj.1 h), fun h => hn.2 (String.ofList_inj.1 h)⟩

/-- A name that is not that of a link leads to its place. -/
theorem Leads.eq_of_entry (hn : IsEntry n) (h : Leads t k here [String.ofList n] d)
    (hg : ∀ target, t.get? (String.ofList n :: here) ≠ some (.link target)) :
    d = String.ofList n :: here := by
  generalize hpath : [String.ofList n] = path at h
  cases h with
  | done => cases hpath
  | stay => exact absurd (List.cons.inj hpath).1 hn.ne.1
  | up => exact absurd (List.cons.inj hpath).1 hn.ne.2
  | pass _ _ _ h =>
    obtain ⟨rfl, rfl⟩ := List.cons.inj hpath
    cases h
    rfl
  | link _ _ hlink =>
    obtain ⟨rfl, rfl⟩ := List.cons.inj hpath
    exact absurd hlink (hg _)

theorem NamesLead.concat (h : t.NamesLead names here) (hn : Leads t k here [String.ofList n] d) :
    t.NamesLead (names ++ [n]) d := by
  obtain ⟨l, h⟩ := h
  obtain ⟨j, hj⟩ := h.append hn
  exact ⟨j, by rwa [List.map_append]⟩

/-! ### Folding -/

theorem foldUps_pop {e : List Char} (he : e ≠ ['.', '.']) (names others : List (List Char)) :
    foldUps true (['.', '.'] :: names) (e :: others) = foldUps true names others := by
  simp [foldUps, he]

theorem foldUps_push (hn : n ≠ ['.', '.']) (names done : List (List Char)) :
    foldUps true (n :: names) done = foldUps true names (n :: done) := by
  simp [foldUps, hn]

/-- With the names `done` on the stack, last one first, no name that a `..` is
folded with is the name of a link. -/
def FoldsNoLinkFrom (t : FileTree) (done names : List (List Char)) : Prop :=
  ∀ before after front n d target, names = before ++ ['.', '.'] :: after →
    foldUps true before done = front ++ [n] → t.NamesLead front d →
    t.get? (String.ofList n :: d) ≠ some (.link target)

/-- No `..` of the path is folded with the name of a link. -/
def FoldsNoLink (t : FileTree) (p : Path) : Prop := t.FoldsNoLinkFrom [] p.names

/-- Without `..` there is nothing to fold. -/
theorem foldsNoLink_of_notMem (t : FileTree) (h : ['.', '.'] ∉ p.names) : FoldsNoLink t p := by
  intro before after front n d target hnames
  rw [hnames] at h
  exact absurd (List.mem_append_right before List.mem_cons_self) h

theorem FoldsNoLinkFrom.step {done' : List (List Char)} (h : t.FoldsNoLinkFrom done (n :: names))
    (hstep : ∀ before, foldUps true (n :: before) done = foldUps true before done') :
    t.FoldsNoLinkFrom done' names := by
  intro before after front m d target hnames hfront
  refine h (n :: before) after front m d target (congrArg (n :: ·) hnames) ?_
  rw [hstep, hfront]

/-- Names that are folded lead where the names themselves lead from where the
stack leads. -/
theorem namesLead_foldUps (hentry : ∀ n ∈ done, IsEntry n) (hnames : ∀ n ∈ names, n ≠ ['.'])
    (hfold : t.FoldsNoLinkFrom done names) (hdone : t.NamesLead done.reverse here)
    (h : Leads t k here (names.map String.ofList) d) : t.NamesLead (foldUps true names done) d := by
  induction names generalizing done here k with
  | nil =>
    cases h
    exact hdone
  | cons m names ih =>
    obtain ⟨hm, hlater⟩ := List.forall_mem_cons.1 hnames
    by_cases hup : m = ['.', '.']
    · subst hup
      have h : Leads t k here.tail (names.map String.ofList) d := h.up_inv
      cases done with
      | nil =>
        -- the root is its own parent
        obtain ⟨a, ha⟩ := hdone
        cases ha
        exact ih nofun hlater (hfold.step fun _ => rfl) ⟨0, .done⟩ h
      | cons e others =>
        obtain ⟨he, hothers⟩ := List.forall_mem_cons.1 hentry
        obtain ⟨a, hdone⟩ := hdone
        rw [List.reverse_cons, List.map_append] at hdone
        obtain ⟨b, c, q, hq, hlast⟩ := hdone.split
        -- `e` is no link, so going up from its place leads back to `q`
        have hfirst : foldUps true [] (e :: others) = others.reverse ++ [e] := List.reverse_cons
        have hlink := fun target => hfold [] names _ e q target rfl hfirst ⟨b, hq⟩
        obtain rfl := Leads.eq_of_entry he hlast hlink
        rw [foldUps_pop he.2]
        exact ih hothers hlater (hfold.step fun _ => foldUps_pop he.2 _ _) ⟨b, hq⟩ h
    · have h : Leads t k here ([String.ofList m] ++ names.map String.ofList) d := h
      obtain ⟨a, b, q, hq, h⟩ := h.split
      have hdone : t.NamesLead (m :: done).reverse q := by
        rw [List.reverse_cons]
        exact hdone.concat hq
      rw [foldUps_push hup]
      exact ih (List.forall_mem_cons.2 ⟨⟨hm, hup⟩, hentry⟩) hlater
        (hfold.step fun _ => foldUps_push hup _ _) hdone h

/-- **A folded path** leads where the path leads, unless a `..` is folded
with the name of a link. -/
theorem Denotes.collapsed (h : Denotes t p d) (habs : p.isAbsolute) (hp : p.IsProper)
    (hfold : FoldsNoLink t p) : Denotes t p.collapsed d := by
  have hnames : ∀ n ∈ p.names, n ≠ ['.'] := by
    rintro n hn rfl
    exact absurd (hp _ hn).1 (by decide)
  obtain ⟨k, h⟩ := h
  show t.NamesLead (foldUps p.isAbsolute p.names []) d
  rw [habs]
  exact namesLead_foldUps nofun hnames hfold ⟨0, .done⟩ h

/-! ### Names in a directory -/

/-- A name in a directory, where no link at the end is followed, leads to its
place in what the directory denotes. -/
theorem exists_denotes_of_locate (habs : p.isAbsolute) (hp : ∀ m ∈ p.names, IsFileName m)
    (hname : IsFileName n) (hn : IsEntry n) (h : t.locate here (p.child n).text false = .ok q) :
    ∃ d, q = String.ofList n :: d ∧ Denotes t p d := by
  have hwalk := walk_of_locate h
  rw [steps_child p hname, leadSteps_eq hp] at hwalk
  obtain ⟨before, after, left, d, hpassage, hlast, -⟩ := hwalk.split (by simp)
  obtain ⟨-, -, hplace⟩ := hlast.step_inv hn.ne.1 hn.ne.2
  rw [startOf, if_pos (head?_text (p := p.child n) habs)] at hpassage
  exact ⟨d, (hplace rfl).2, hpassage.toWalk.leads⟩

end FileTree

end ReleaseGate
