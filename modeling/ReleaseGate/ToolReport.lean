/-
ReleaseGate/ToolReport.lean

The XML report of the difference tool, read into a change model.

The report has a `class` element for each class, and inside it elements for
its methods, constructors, fields, interfaces and superclass at any depth.
Attributes carry the change status and two compatibility flags, and
`compatibilityChange` elements name broken rules, some with a version level.

A class is a major change if it, or anything inside it, breaks old callers;
otherwise a minor change if it or one of its members changed; and at least
what the levels inside it say.
-/
import ReleaseGate.ChangeModel
import ReleaseGate.Text.Case
import ReleaseGate.Xml.Document

namespace ReleaseGate.ToolReport

open Xml (Element)

/-- A compatibility flag.  Only the word `false` denies it. -/
def flag (e : Element) (name : String) : Bool :=
  match e.attribute? name with
  | none => true
  | some v => Text.lower (Text.strip v.toList) != "false".toList

/-- Old callers still link. -/
def binaryCompatible (e : Element) : Bool := flag e "binaryCompatible"

/-- Old callers still compile. -/
def sourceCompatible (e : Element) : Bool := flag e "sourceCompatible"

/-- Old callers both link and compile. -/
def compatible (e : Element) : Bool := binaryCompatible e && sourceCompatible e

/-- A word as it counts in a report: without blanks around it, in capitals. -/
def keyword (s : String) : String := String.ofList (Text.upper (Text.strip s.toList))

/-- How the class or member of an element changed.  A missing or unknown
status counts as modified. -/
def status (e : Element) : ChangeStatus :=
  match e.attribute? "changeStatus" with
  | none => .modified
  | some v => (ChangeStatus.ofName? (keyword v)).getD .modified

/-- The kinds of members, which are also their tags, in the order in which
they are listed. -/
def memberKinds : List String := ["method", "constructor", "field", "interface", "superclass"]

/-- The attributes that may name a member, the preferred ones first. -/
def nameAttributes : List String := ["name", "fullyQualifiedName", "superclassNew", "superclassOld"]

/-- A name that says something. -/
def isGiven (v : String) : Bool := v != "" && v != "n.a."

/-- The name of a member; its tag when it has none. -/
def memberName (e : Element) : String :=
  ((nameAttributes.filterMap e.attribute?).find? isGiven).getD e.tag

/-- A member that is worth a record. -/
def isChanged (e : Element) : Bool := !(status e == .unchanged && compatible e)

/-- The record of a member. -/
def member (kind : String) (e : Element) : MemberChange where
  kind := kind
  name := memberName e
  status := status e
  binaryCompatible := binaryCompatible e
  sourceCompatible := sourceCompatible e

/-- The records of the members of a class, grouped by kind. -/
def members (e : Element) : List MemberChange :=
  memberKinds.flatMap fun kind => ((e.withTag kind).filter isChanged).map (member kind)

/-- The code of a broken rule: its type, or else its text. -/
def code (e : Element) : String :=
  match e.attribute? "type" with
  | some v => if v != "" then v else Text.stripped e.text
  | none => Text.stripped e.text

/-- The codes of the rules that the class itself breaks. -/
def codes (e : Element) : List String :=
  let rules := (e.childrenWithTag "compatibilityChanges").flatMap
    (·.childrenWithTag "compatibilityChange")
  (rules.map code).filter (· != "")

/-- The version levels given anywhere inside an element. -/
def levels (e : Element) : List Bump :=
  (e.withTag "compatibilityChange").filterMap fun rule =>
    (rule.attribute? "semanticVersionLevel").bind fun v => Bump.ofName? (keyword v)

/-- How severe a class change is by its flags and statuses alone. -/
def ownSeverity (e : Element) : Bump :=
  if e.nodes.any fun n => !compatible n then .major
  else if status e != .unchanged || !(members e).isEmpty then .minor
  else .patch

/-- The record of a class. -/
def classChange (e : Element) : ClassChange where
  name := (e.attribute? "fullyQualifiedName").getD ""
  status := status e
  binaryCompatible := binaryCompatible e
  sourceCompatible := sourceCompatible e
  severity := Bump.worst (ownSeverity e :: levels e)
  codes := codes e
  members := members e

/-- The class elements of a report. -/
def classes (root : Element) : List Element :=
  (root.childrenWithTag "classes").flatMap (·.childrenWithTag "class")

/-- The change model of a report: the classes sorted by name, equal names in
the order of the report. -/
def changeModel (root : Element) : ChangeModel :=
  ⟨((classes root).map classChange).mergeSort fun a b => a.name ≤ b.name⟩

/-- Reads a report. -/
def parse (text : List Char) : Except Xml.Error ChangeModel :=
  (Xml.parse text).map changeModel

end ReleaseGate.ToolReport
