/-
ReleaseGate/Schema/Records.lean

The records that can arrive as loose data, and the checks of their fields.
Fields that a record does not know are left out of account.
-/
import ReleaseGate.Comparison
import ReleaseGate.ExclusionList
import ReleaseGate.Gate.Candidate
import ReleaseGate.Schema.Check

namespace ReleaseGate.Schema

/-- A bump by its name. -/
def bump : Check Bump := choice (Bump.all.map Bump.name) Bump.ofName?

/-- A change status by its name. -/
def status : Check ChangeStatus := literal (ChangeStatus.all.map ChangeStatus.name) ChangeStatus.ofName?

/-- The components of a version. -/
def version (fields : Fields) : Checked Version :=
  Version.mk <$> required fields "major" nat <*> required fields "minor" nat
    <*> required fields "patch" nat <*> optional fields "qualifier" (nullable text) none

/-- The record of a member. -/
def member (fields : Fields) : Checked MemberChange :=
  MemberChange.mk <$> required fields "kind" text <*> required fields "name" text
    <*> required fields "change_status" status
    <*> optional fields "binary_compatible" bool true
    <*> optional fields "source_compatible" bool true

/-- The record of a class. -/
def classChange (fields : Fields) : Checked ClassChange :=
  ClassChange.mk <$> required fields "name" text <*> required fields "change_status" status
    <*> optional fields "binary_compatible" bool true
    <*> optional fields "source_compatible" bool true
    <*> optional fields "severity" bump .patch
    <*> optional fields "compatibility_changes" (list text) []
    <*> optional fields "members" (list (record "MemberChange" member)) []

/-- A change model. -/
def changeModel (fields : Fields) : Checked ChangeModel :=
  ChangeModel.mk <$> optional fields "changes" (list (record "ClassChange" classChange)) []

/-- A list of exclusions, taken as it is. -/
def exclusionList (fields : Fields) : Checked ExclusionList :=
  ExclusionList.mk <$> optional fields "patterns" (tuple text) []

/-- A verdict. -/
def verdict (fields : Fields) : Checked Verdict :=
  Verdict.mk <$> required fields "status" (choice (Status.all.map Status.name) Status.ofName?)
    <*> required fields "reason" (choice (Reason.all.map Reason.name) Reason.ofName?)
    <*> optional fields "declared" (nullable bump) none
    <*> optional fields "required" (nullable bump) none
    <*> optional fields "message" (nullable text) none

/-- An artifact. -/
def artifact (fields : Fields) : Checked Artifact :=
  Artifact.mk <$> required fields "location" text <*> required fields "version" text
    <*> optional fields "path" (nullable path) none
    <*> optional fields "fetched" bool false

/-- A comparison. -/
def comparison (fields : Fields) : Checked Comparison :=
  Comparison.mk <$> required fields "old_artifact" (record "Artifact" artifact)
    <*> required fields "new_artifact" (record "Artifact" artifact)
    <*> optional fields "change_model" (record "ChangeModel" changeModel) {}
    <*> optional fields "exclusions" (list text) []
    <*> optional fields "skipped_reason"
      (nullable (choice (SkipReason.all.map SkipReason.name) SkipReason.ofName?)) none

/-- A release that asks to go out. -/
def candidate (fields : Fields) : Checked Candidate :=
  Candidate.mk <$> required fields "old_location" text <*> required fields "old_version" text
    <*> required fields "new_jar" path <*> required fields "new_version" text
    <*> required fields "text_report" path <*> required fields "html_report" path
    <*> optional fields "exclude_list" (nullable path) none
    <*> optional fields "ignore_missing_old" bool false

end ReleaseGate.Schema

namespace ReleaseGate

/-- Reads a change model from loose data. -/
def ChangeModel.ofData (fields : Schema.Fields) : Except Schema.Rejection ChangeModel :=
  (Schema.changeModel fields).toExcept "ChangeModel"

/-- Reads a comparison from loose data. -/
def Comparison.ofData (fields : Schema.Fields) : Except Schema.Rejection Comparison :=
  (Schema.comparison fields).toExcept "Comparison"

/-- Reads a candidate from loose data. -/
def Candidate.ofData (fields : Schema.Fields) : Except Schema.Rejection Candidate :=
  (Schema.candidate fields).toExcept "CheckRequest"

/-! ### Patterns -/

/-- Why loose patterns make no exclusion list. -/
inductive PatternError where
  /-- A list or a record cannot be told apart from others. -/
  | composite (kind : String)
  | rejected (r : Schema.Rejection)

/-- Two single values count as the same.  Numbers are compared by value, yes
and no are the numbers one and zero, and what is not a number is one value. -/
def Data.same (a b : Data) : Bool :=
  match a, b with
  | .null, .null => true
  | .text s, .text t => s == t
  | a, b =>
    match wholeNumber? a, wholeNumber? b with
    | some m, some n => m == n
    | _, _ =>
      match a, b with
      | .float x, .float y => x == y || (x.isNaN && y.isNaN)
      | _, _ => false
where
  /-- The whole number that a value is. -/
  wholeNumber? : Data → Option Int
    | .bool b => some (if b then 1 else 0)
    | .int n => some n
    | .float x => Schema.intOfFloat? x
    | _ => none

/-- The value is a list or a record. -/
def Data.isComposite : Data → Bool
  | .list _ | .record _ => true
  | _ => false

/-- The first of each kind of equal values. -/
def Data.distinct (items : List Data) : List Data :=
  items.foldl (fun kept d => if kept.any d.same then kept else kept ++ [d]) []

/-- The exclusion list of some patterns in loose data: of equal ones the
first stays. -/
def ExclusionList.ofData (patterns : List Data) : Except PatternError ExclusionList :=
  match patterns.find? Data.isComposite with
  | some d => .error (.composite (Schema.kindName d))
  | none =>
    ((Schema.exclusionList [("patterns", .list (Data.distinct patterns))]).toExcept
      "ExclusionSet").mapError .rejected

end ReleaseGate
