/-
ReleaseGate/Files/Tree.lean

A tree of files, directories and links, as a value.

A place is the list of names that lead to it, innermost first, so that the
directory of a place is its tail.  The root is the empty place and always a
directory.  The tree keeps the nodes at all other places; `get?` is its
view, and each operation comes with what it does to that view.

Names are texts, and a file is at one place only: a second place for it can
be had by a link that holds a path, but not by a second name of the file
itself.  Owners, permissions and times are left out, so nothing is refused
on their account.
-/

namespace ReleaseGate

/-- Where something is: the names from the root to it, innermost first. -/
abbrev Place := List String

/-- What is at a place. -/
inductive Node where
  | file (content : ByteArray)
  | dir
  /-- A link with the path that it holds. -/
  | link (target : String)

instance : DecidableEq Node
  | .file a, .file b => decidable_of_iff (a.data = b.data) (by cases a; cases b; simp)
  | .dir, .dir => .isTrue rfl
  | .link a, .link b => decidable_of_iff (a = b) (by simp)
  | .file _, .dir | .file _, .link _ | .dir, .file _ | .dir, .link _ | .link _, .file _
  | .link _, .dir => .isFalse nofun

/-- The nodes at all places but the root. -/
structure FileTree where
  nodes : List (Place × Node) := []

namespace FileTree

/-- The node at a place. -/
def get? (t : FileTree) : Place → Option Node
  | [] => some .dir
  | p => (t.nodes.find? (·.1 == p)).map (·.2)

/-- Takes the node at a place away, but nothing below it. -/
def erase (t : FileTree) (p : Place) : FileTree := ⟨t.nodes.filter fun e => e.1 != p⟩

/-- Puts a node at a place instead of what is there. -/
def put (t : FileTree) (p : Place) (n : Node) : FileTree := ⟨(p, n) :: (t.erase p).nodes⟩

/-- Takes away a directory with everything below it. -/
def eraseAll (t : FileTree) (p : Place) : FileTree :=
  ⟨t.nodes.filter fun e => !(p.isSuffixOf e.1)⟩

@[simp] theorem get?_root (t : FileTree) : t.get? [] = some .dir := rfl

theorem get?_cons (t : FileTree) (n : String) (p : Place) :
    t.get? (n :: p) = (t.nodes.find? (·.1 == n :: p)).map (·.2) := rfl

theorem find?_erase_nodes (t : FileTree) (p q : Place) :
    (t.erase p).nodes.find? (·.1 == q) =
      if q = p then none else t.nodes.find? (·.1 == q) := by
  rw [erase, List.find?_filter]
  split
  · next h =>
    subst h
    rw [List.find?_eq_none]
    intro e _
    by_cases he : e.1 = q <;> simp [he]
  · next h =>
    congr 1
    funext e
    by_cases he : e.1 = q
    · simp [he, h]
    · simp [he]

/-- Only the erased place changes. -/
theorem get?_erase (t : FileTree) (p q : Place) (hq : q ≠ []) :
    (t.erase p).get? q = if q = p then none else t.get? q := by
  cases q with
  | nil => exact absurd rfl hq
  | cons n q =>
    rw [get?_cons, get?_cons, find?_erase_nodes]
    split <;> rfl

/-- Only the place that was put changes. -/
theorem get?_put (t : FileTree) (p q : Place) (n : Node) (hp : p ≠ []) :
    (t.put p n).get? q = if q = p then some n else t.get? q := by
  cases q with
  | nil => simp [Ne.symm hp]
  | cons m q =>
    by_cases h : p = m :: q
    · simp [get?_cons, put, h]
    · have h' : ¬ m :: q = p := fun e => h e.symm
      simp [get?_cons, put, h, h', find?_erase_nodes]

end FileTree

end ReleaseGate
