/-
ReleaseGate/Report/Text.lean

The plain text report of a comparison: a head with both artifacts, then one
block of lines for each changed class, then the version change that follows.
Each line ends in a line feed.

A line about a class or member starts with a marker for its status, which
carries an exclamation mark if the change breaks old callers.
-/
import ReleaseGate.Comparison
import ReleaseGate.Text.Case

namespace ReleaseGate

/-- The sign of a status in a text report. -/
def ChangeStatus.sign : ChangeStatus → String
  | new => "+++"
  | removed => "---"
  | modified => "***"
  | unchanged => "==="

namespace TextReport

/-- The sign of a status, with an exclamation mark on an incompatible change. -/
def marker (status : ChangeStatus) (compatible : Bool) : String :=
  status.sign ++ if compatible then "" else "!"

/-- The line of a member. -/
def memberLine (m : MemberChange) : String :=
  let kind := String.ofList (Text.upper m.kind.toList)
  s!"\t{marker m.status m.compatible} {m.status.name} {kind}: {m.name}"

/-- The lines of a class: itself, the rules it breaks, its members. -/
def classLines (c : ClassChange) : List String :=
  s!"{marker c.status c.compatible} {c.status.name} CLASS: {c.name} ({c.severity.name})" ::
    (c.codes.map ("\t(!) " ++ ·) ++ c.members.map memberLine)

/-- The lines about the two artifacts. -/
def head (c : Comparison) : List String :=
  ["Old jar:     " ++ c.old.file, "Old version: " ++ c.old.version,
    "New jar:     " ++ c.new.file, "New version: " ++ c.new.version, ""]

/-- The lines about what was found. -/
def body (c : Comparison) : List String :=
  match c.skipped with
  | some reason => [reason.note]
  | none =>
    s!"Comparing source compatibility of {c.new.file} against {c.old.file}" ::
      ((if c.exclusions.isEmpty then [] else ["Excluded: " ++ ", ".intercalate c.exclusions]) ++
        (if c.model.isEmpty then ["No changes."] else []) ++ c.model.changes.flatMap classLines)

/-- The lines about the version change that follows. -/
def foot (c : Comparison) : List String :=
  ["", "Required version change: " ++ c.model.requiredBump.name,
    "Suggested semantic version increment: " ++ c.model.suggestedVersion.text]

/-- The lines of a report. -/
def lines (c : Comparison) : List String := head c ++ body c ++ foot c

/-- The report. -/
def render (c : Comparison) : String := String.join ((lines c).map (· ++ "\n"))

end TextReport

end ReleaseGate
