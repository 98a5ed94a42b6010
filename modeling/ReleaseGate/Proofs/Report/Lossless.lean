/-
ReleaseGate/Proofs/Report/Lossless.lean

The plain text report can be read back.

A reader takes a report apart at its line ends (`TextReport.read?`).  The
first lines show the artifacts, and there may be a line with the exclusions.
What a line says of a class is seen from that line alone (`Line.read?`): a
class, a broken rule or a member, with any name at all.  A rule or member
belongs to the last class before it (`gather`).

So nothing is lost in a report but what it does not show: where an artifact
was found, which of the two kinds of compatibility a change breaks, and where
an exclusion ends and the next one starts.

Design.  Lines start with labels, none of which is the start of another one,
so a label is recognised whatever stands behind it (`Text.labelled?_append`).
The severity of a class stands at the end of its line, and is a label of the
line read backwards.

Main result: `render_lossless`.
-/
import ReleaseGate.Proofs.Report.Printed
import ReleaseGate.ToolReport

namespace ReleaseGate

/-! ### Labels -/

namespace Text

variable {α : Type} {labels : List (α × List Char)} {label s r : List Char} {x : α}

theorem behind?_eq_some_iff : behind? label s = some r ↔ s = label ++ r := by
  constructor
  · intro h
    unfold behind? at h
    split at h
    · next hstarts =>
      obtain ⟨r', rfl⟩ := List.isPrefixOf_iff_prefix.1 hstarts
      rw [List.drop_left] at h
      rw [Option.some.inj h]
    · cases h
  · rintro rfl
    exact behind?_append label r

/-- The label that a text starts with, by what it stands for, and what stands
behind it. -/
def labelled? (labels : List (α × List Char)) (s : List Char) : Option (α × List Char) :=
  labels.findSome? fun l => (behind? l.2 s).map (l.1, ·)

/-- **A label is recognised** whatever stands behind it, if none of the labels
starts with another one. -/
theorem labelled?_append (hapart : ∀ l ∈ labels, ∀ l' ∈ labels, l.2 <+: l'.2 → l = l')
    (hx : (x, label) ∈ labels) (s : List Char) : labelled? labels (label ++ s) = some (x, s) := by
  rcases hfound : labelled? labels (label ++ s) with - | ⟨y, r⟩
  · have hnone := List.findSome?_eq_none_iff.1 hfound _ hx
    rw [behind?_append] at hnone
    cases hnone
  · obtain ⟨l, hl, hbehind⟩ := List.exists_of_findSome?_eq_some hfound
    obtain ⟨r', hr, hpair⟩ := Option.map_eq_some_iff.1 hbehind
    have hsplit := behind?_eq_some_iff.1 hr
    -- of two starts of one text one is the start of the other
    have hsame : l = (x, label) := by
      rcases List.prefix_or_prefix_of_prefix (List.prefix_append label s)
        (hsplit ▸ List.prefix_append l.2 r') with h | h
      · exact (hapart _ hx _ hl h).symm
      · exact hapart _ hl _ hx h
    rw [hsame] at hsplit hpair
    rw [List.append_cancel_left hsplit, ← hpair]

/-- Lines are found again by their ends. -/
theorem split_lines {lines : List (List Char)} (h : ∀ line ∈ lines, '\n' ∉ line) :
    split '\n' (lines.flatMap (· ++ ['\n'])) = lines ++ [[]] := by
  induction lines with
  | nil => rfl
  | cons line lines ih =>
    obtain ⟨hline, hlines⟩ := List.forall_mem_cons.1 h
    rw [List.flatMap_cons, List.append_assoc, List.singleton_append, split_append,
      split_of_notMem hline, ih hlines]
    rfl

end Text

open Text

namespace TextReport

/-! ### The lines about classes -/

/-- A line about a class, a rule that it breaks, or a member. -/
inductive Line where
  | change (status : ChangeStatus) (compatible : Bool) (name : String) (severity : Bump)
  | code (code : String)
  | member (status : ChangeStatus) (compatible : Bool) (kind name : String)
  deriving DecidableEq

/-- How a line starts that says what became of something. -/
def changeLabel (status : ChangeStatus) (compatible : Bool) : List Char :=
  (marker status compatible ++ " " ++ status.name ++ " ").toList

/-- How the line of a member goes on. -/
def kindLabel (kind : String) : List Char := upper kind.toList ++ ": ".toList

/-- How the line of a class ends. -/
def severityEnd (severity : Bump) : List Char := (" (" ++ severity.name ++ ")").toList

def changeLabels : List ((ChangeStatus × Bool) × List Char) :=
  ChangeStatus.all.flatMap fun status =>
    [((status, true), changeLabel status true), ((status, false), changeLabel status false)]

def kindLabels : List (String × List Char) :=
  ToolReport.memberKinds.map fun kind => (kind, kindLabel kind)

def severityLabels : List (Bump × List Char) :=
  Bump.all.map fun severity => (severity, (severityEnd severity).reverse)

namespace Line

/-- A line as it is written. -/
def chars : Line → List Char
  | change status compatible name severity =>
    changeLabel status compatible ++ ("CLASS: ".toList ++ (name.toList ++ severityEnd severity))
  | code s => '\t' :: ("(!) ".toList ++ s.toList)
  | member status compatible kind name =>
    '\t' :: (changeLabel status compatible ++ (kindLabel kind ++ name.toList))

/-- Reads the line of a class. -/
def readChange? (s : List Char) : Option Line := do
  let ((status, compatible), s) ← labelled? changeLabels s
  let s ← behind? "CLASS: ".toList s
  let (severity, name) ← labelled? severityLabels s.reverse
  return change status compatible (String.ofList name.reverse) severity

/-- Reads the line of a member, without the tabulator. -/
def readMember? (s : List Char) : Option Line := do
  let ((status, compatible), s) ← labelled? changeLabels s
  let (kind, name) ← labelled? kindLabels s
  return member status compatible kind (String.ofList name)

/-- Reads a line. -/
def read? : List Char → Option Line
  | '\t' :: s =>
    match behind? "(!) ".toList s with
    | some s => some (code (String.ofList s))
    | none => readMember? s
  | s => readChange? s

/-- The kind of a member is one of those that the difference tool knows. -/
def Known : Line → Prop
  | member _ _ kind _ => kind ∈ ToolReport.memberKinds
  | _ => True

theorem labelled?_changeLabels (status : ChangeStatus) (compatible : Bool) (s : List Char) :
    labelled? changeLabels (changeLabel status compatible ++ s) = some ((status, compatible), s) := by
  refine labelled?_append (by decide) ?_ s
  cases status <;> cases compatible <;> decide

theorem labelled?_kindLabels {kind : String} (h : kind ∈ ToolReport.memberKinds) (s : List Char) :
    labelled? kindLabels (kindLabel kind ++ s) = some (kind, s) := by
  refine labelled?_append (by decide) ?_ s
  exact List.mem_map_of_mem h

theorem labelled?_severityLabels (severity : Bump) (s : List Char) :
    labelled? severityLabels ((severityEnd severity).reverse ++ s) = some (severity, s) := by
  refine labelled?_append (by decide) ?_ s
  cases severity <;> decide

/-- **A line is recognised** by itself, whatever the names in it. -/
theorem read?_chars {l : Line} (h : l.Known) : read? l.chars = some l := by
  cases l with
  | change status compatible name severity =>
    have hread : ∀ s, read? (changeLabel status compatible ++ s) =
        readChange? (changeLabel status compatible ++ s) := by
      -- no label starts with the tabulator
      intro s
      cases status <;> cases compatible <;> rfl
    rw [chars, hread, readChange?, labelled?_changeLabels]
    simp only [Option.bind_eq_bind, Option.bind_some, behind?_append, List.reverse_append,
      labelled?_severityLabels, List.reverse_reverse, String.ofList_toList]
    rfl
  | code s =>
    rw [chars, read?, behind?_append]
    show some (code (String.ofList s.toList)) = _
    rw [String.ofList_toList]
  | member status compatible kind name =>
    have hmember : ∀ s, behind? "(!) ".toList (changeLabel status compatible ++ s) = none := by
      intro s
      cases status <;> cases compatible <;> rfl
    rw [chars, read?, hmember, readMember?, labelled?_changeLabels]
    simp only [Option.bind_eq_bind, Option.bind_some, labelled?_kindLabels h,
      String.ofList_toList]
    rfl

/-- A line that starts with none of the signs and no tabulator is no line about
a class. -/
theorem read?_eq_none {c : Char} (hc : c ∉ ['\t', '+', '-', '*', '=']) (s : List Char) :
    read? (c :: s) = none := by
  rw [List.mem_cons, not_or] at hc
  obtain ⟨htab, hsign⟩ := hc
  have hlabel : ∀ l ∈ changeLabels, ∃ status compatible, l.2 = changeLabel status compatible := by
    intro l hl
    obtain ⟨status, -, hl⟩ := List.mem_flatMap.1 hl
    simp only [List.mem_cons, List.not_mem_nil, or_false] at hl
    rcases hl with rfl | rfl
    · exact ⟨status, true, rfl⟩
    · exact ⟨status, false, rfl⟩
  have hsigns : ∀ status compatible, ∃ c' s', changeLabel status compatible = c' :: s' ∧
      c' ∈ ['+', '-', '*', '='] := by
    intro status compatible
    cases status <;> cases compatible <;> exact ⟨_, _, rfl, by decide⟩
  have hnone : labelled? changeLabels (c :: s) = none := by
    refine List.findSome?_eq_none_iff.2 fun l hl => Option.map_eq_none_iff.2 ?_
    obtain ⟨status, compatible, hl'⟩ := hlabel l hl
    obtain ⟨c', s', hstart, hc'⟩ := hsigns status compatible
    refine if_neg fun hstarts => ?_
    rw [hl', hstart, List.isPrefixOf_iff_prefix, List.cons_prefix_cons] at hstarts
    exact hsign (hstarts.1 ▸ hc')
  rw [read?, readChange?, hnone]
  · rfl
  · intro rest hrest
    exact htab (List.cons.inj hrest).1

end Line

/-! ### What a report shows -/

/-- What a report shows of a member. -/
structure MemberEntry where
  kind : String
  name : String
  status : ChangeStatus
  compatible : Bool
  deriving DecidableEq

/-- What a report shows of a class. -/
structure ClassEntry where
  name : String
  status : ChangeStatus
  compatible : Bool
  severity : Bump
  codes : List String
  members : List MemberEntry
  deriving DecidableEq

/-- What a report shows of a comparison. -/
structure Contents where
  oldFile : String
  oldVersion : String
  newFile : String
  newVersion : String
  /-- The exclusions, with commas between them. -/
  exclusions : String
  classes : List ClassEntry
  deriving DecidableEq

def MemberEntry.of (m : MemberChange) : MemberEntry := ⟨m.kind, m.name, m.status, m.compatible⟩

def ClassEntry.of (k : ClassChange) : ClassEntry :=
  ⟨k.name, k.status, k.compatible, k.severity, k.codes, k.members.map .of⟩

def Contents.of (c : Comparison) : Contents where
  oldFile := c.old.file
  oldVersion := c.old.version
  newFile := c.new.file
  newVersion := c.new.version
  exclusions := ", ".intercalate c.exclusions
  classes := c.model.changes.map .of

/-- The lines about a class. -/
def linesOf (k : ClassChange) : List Line :=
  .change k.status k.compatible k.name k.severity ::
    (k.codes.map .code ++ k.members.map fun m => .member m.status m.compatible m.kind m.name)

/-! ### From lines to classes -/

/-- What was gathered from the end of a report: classes, and the rules and
members that stand before them. -/
structure Gathered where
  codes : List String := []
  members : List MemberEntry := []
  classes : List ClassEntry := []

/-- Takes the line before. -/
def Line.gather (l : Line) (g : Gathered) : Gathered :=
  match l with
  | .change status compatible name severity =>
    { classes := ⟨name, status, compatible, severity, g.codes, g.members⟩ :: g.classes }
  | .code s => { g with codes := s :: g.codes }
  | .member status compatible kind name =>
    { g with members := ⟨kind, name, status, compatible⟩ :: g.members }

/-- The classes that lines are about. -/
def gather (ls : List Line) : List ClassEntry := (ls.foldr Line.gather {}).classes

/-- The lines about a class give that class. -/
theorem foldr_linesOf (k : ClassChange) (classes : List ClassEntry) :
    (linesOf k).foldr Line.gather { classes } = { classes := .of k :: classes } := by
  have hmembers : ∀ ms : List MemberChange,
      (ms.map fun m => Line.member m.status m.compatible m.kind m.name).foldr Line.gather
        { classes } = { members := ms.map .of, classes } := by
    intro ms
    induction ms with
    | nil => rfl
    | cons m ms ih =>
      rw [List.map_cons, List.foldr_cons, ih]
      rfl
  have hcodes : ∀ (cs : List String) (members : List MemberEntry),
      (cs.map Line.code).foldr Line.gather { members, classes } =
        { codes := cs, members, classes } := by
    intro cs members
    induction cs with
    | nil => rfl
    | cons s cs ih =>
      rw [List.map_cons, List.foldr_cons, ih]
      rfl
  -- the line of the class stands before them all, and is taken last
  rw [linesOf, List.foldr_cons, List.foldr_append, hmembers, hcodes]
  rfl

/-- **Every line belongs to its class**, however many there are. -/
theorem gather_linesOf (ks : List ClassChange) : gather (ks.flatMap linesOf) = ks.map .of := by
  have hfold : (ks.flatMap linesOf).foldr Line.gather {} = { classes := ks.map .of } := by
    induction ks with
    | nil => rfl
    | cons k ks ih => rw [List.flatMap_cons, List.foldr_append, ih, foldr_linesOf, List.map_cons]
  rw [gather, hfold]

/-- The lines about a class, as they are written. -/
theorem classLines_chars (k : ClassChange) :
    (classLines k).map String.toList = (linesOf k).map Line.chars := by
  have htoString : ∀ s : String, toString s = s := fun _ => rfl
  have hcode : ∀ s : String, ("\t(!) " ++ s).toList = (Line.code s).chars := by
    intro s
    rw [String.toList_append]
    rfl
  have hmember : ∀ m : MemberChange, (memberLine m).toList =
      (Line.member m.status m.compatible m.kind m.name).chars := by
    intro m
    simp [memberLine, Line.chars, changeLabel, kindLabel, htoString]
  rw [classLines, linesOf, List.map_cons, List.map_cons, List.map_append, List.map_append,
    List.map_map, List.map_map, List.map_map, List.map_map]
  congr 1
  · simp [Line.chars, changeLabel, severityEnd, htoString]
  · congr 1
    · exact List.map_congr_left fun s _ => hcode s
    · exact List.map_congr_left fun m _ => hmember m

/-! ### The whole report -/

/-- The texts that a report shows. -/
def texts (c : Comparison) : List String :=
  [c.old.file, c.old.version, c.new.file, c.new.version] ++ c.exclusions ++
    c.model.changes.flatMap fun k => k.name :: (k.codes ++ k.members.map (·.name))

/-- Something was compared, the texts have no line ends, and the members are
of the kinds that the difference tool knows. -/
structure Plain (c : Comparison) : Prop where
  compared : c.skipped = none
  unbroken : ∀ s ∈ texts c, '\n' ∉ s.toList
  known : ∀ k ∈ c.model.changes, ∀ m ∈ k.members, m.kind ∈ ToolReport.memberKinds

/-- Reads a report on something that was compared. -/
def read? (report : String) : Option Contents :=
  match split '\n' report.toList with
  | oldFile :: oldVersion :: newFile :: newVersion :: rest => do
    return {
      oldFile := String.ofList (← behind? "Old jar:     ".toList oldFile)
      oldVersion := String.ofList (← behind? "Old version: ".toList oldVersion)
      newFile := String.ofList (← behind? "New jar:     ".toList newFile)
      newVersion := String.ofList (← behind? "New version: ".toList newVersion)
      exclusions := String.ofList ((lastBehind? "Excluded: ".toList rest).getD [])
      classes := gather (rest.filterMap Line.read?) }
  | _ => none

variable {c : Comparison}

/-- The line about what is compared. -/
def comparingLine (c : Comparison) : List Char :=
  (s!"Comparing source compatibility of {c.new.file} against {c.old.file}").toList

/-- The lines of the exclusions. -/
def excludedLines (c : Comparison) : List (List Char) :=
  if c.exclusions.isEmpty then [] else [("Excluded: " ++ ", ".intercalate c.exclusions).toList]

/-- The lines behind the exclusions. -/
def laterLines (c : Comparison) : List (List Char) :=
  (if c.model.isEmpty then ["No changes.".toList] else []) ++
    ((c.model.changes.flatMap linesOf).map Line.chars ++ (foot c).map String.toList)

/-- The lines of a report, as they are written. -/
theorem lines_chars (h : c.skipped = none) : (lines c).map String.toList =
    (head c).map String.toList ++ (comparingLine c :: (excludedLines c ++ laterLines c)) := by
  have hclasses : (c.model.changes.flatMap classLines).map String.toList =
      (c.model.changes.flatMap linesOf).map Line.chars := by
    simp only [List.map_flatMap, classLines_chars]
  have hexcluded : (if c.exclusions.isEmpty then []
      else ["Excluded: " ++ ", ".intercalate c.exclusions]).map String.toList = excludedLines c := by
    rw [excludedLines]
    split <;> rfl
  have hnothing : (if c.model.isEmpty then ["No changes."] else []).map String.toList =
      if c.model.isEmpty then ["No changes.".toList] else [] := by
    split <;> rfl
  rw [lines, body, h, laterLines]
  simp only [List.map_append, List.map_cons, hclasses, hexcluded, hnothing, List.append_assoc,
    List.cons_append]
  rfl

/-! ### Where the lines end -/

/-- The text in a line. -/
def Line.name : Line → String
  | change _ _ name _ => name
  | code s => s
  | member _ _ _ name => name

/-- The lines about classes end where their texts do. -/
theorem Line.notMem_chars {l : Line} (hknown : l.Known) (hname : '\n' ∉ l.name.toList) :
    '\n' ∉ l.chars := by
  have hlabel : ∀ status compatible, '\n' ∉ changeLabel status compatible := by
    intro status compatible
    cases status <;> cases compatible <;> decide
  cases l with
  | change status compatible name severity =>
    have hend : '\n' ∉ severityEnd severity := by cases severity <;> decide
    rw [chars, List.mem_append, List.mem_append, List.mem_append, not_or, not_or, not_or]
    exact ⟨hlabel _ _, by decide, hname, hend⟩
  | code s =>
    rw [chars, List.mem_cons, List.mem_append, not_or, not_or]
    exact ⟨by decide, by decide, hname⟩
  | member status compatible kind name =>
    have hkind : ∀ kind ∈ ToolReport.memberKinds, '\n' ∉ kindLabel kind := by decide
    rw [chars, List.mem_cons, List.mem_append, List.mem_append, not_or, not_or, not_or]
    exact ⟨by decide, hlabel _ _, hkind _ hknown, hname⟩

/-- The lines about the classes of a plain comparison. -/
theorem Plain.line (h : Plain c) {l : Line} (hl : l ∈ c.model.changes.flatMap linesOf) :
    l.Known ∧ '\n' ∉ l.name.toList := by
  obtain ⟨k, hk, hl⟩ := List.mem_flatMap.1 hl
  have htexts : ∀ s ∈ k.name :: (k.codes ++ k.members.map (·.name)), '\n' ∉ s.toList :=
    fun s hs => h.unbroken s (List.mem_append_right _ (List.mem_flatMap.2 ⟨k, hk, hs⟩))
  rcases List.mem_cons.1 hl with rfl | hl
  · exact ⟨trivial, htexts _ List.mem_cons_self⟩
  · rcases List.mem_append.1 hl with hcode | hmember
    · obtain ⟨s, hs, rfl⟩ := List.mem_map.1 hcode
      exact ⟨trivial, htexts _ (List.mem_cons_of_mem _ (List.mem_append_left _ hs))⟩
    · obtain ⟨m, hm, rfl⟩ := List.mem_map.1 hmember
      exact ⟨h.known k hk m hm, htexts _ (List.mem_cons_of_mem _
        (List.mem_append_right _ (List.mem_map_of_mem hm)))⟩

theorem notMem_intercalate {sep : List Char} {x : Char} {pieces : List (List Char)}
    (hsep : x ∉ sep) (h : ∀ s ∈ pieces, x ∉ s) : x ∉ sep.intercalate pieces := by
  induction pieces with
  | nil => exact List.not_mem_nil
  | cons s pieces ih =>
    obtain ⟨hs, hpieces⟩ := List.forall_mem_cons.1 h
    cases pieces with
    | nil => simpa using hs
    | cons r pieces =>
      rw [List.intercalate_cons_cons, List.mem_append, List.mem_append, not_or, not_or]
      exact ⟨⟨hs, hsep⟩, ih hpieces⟩

/-- The lines of a report on a plain comparison end where they should. -/
theorem Plain.notMem_lines (h : Plain c) : ∀ line ∈ (lines c).map String.toList, '\n' ∉ line := by
  have hfiles : ∀ s ∈ [c.old.file, c.old.version, c.new.file, c.new.version], '\n' ∉ s.toList :=
    fun s hs => h.unbroken s (List.mem_append_left _ (List.mem_append_left _ hs))
  simp only [List.forall_mem_cons, List.not_mem_nil, false_implies, implies_true, and_true] at hfiles
  obtain ⟨holdFile, holdVersion, hnewFile, hnewVersion⟩ := hfiles
  have hexclusions : '\n' ∉ (", ".intercalate c.exclusions).toList := by
    rw [String.toList_intercalate]
    refine notMem_intercalate (by decide) fun s hs => ?_
    obtain ⟨p, hp, rfl⟩ := List.mem_map.1 hs
    exact h.unbroken p (List.mem_append_left _ (List.mem_append_right _ hp))
  have hlines : ∀ line ∈ (c.model.changes.flatMap linesOf).map Line.chars, '\n' ∉ line := by
    intro line hline
    obtain ⟨l, hl, rfl⟩ := List.mem_map.1 hline
    obtain ⟨hknown, hname⟩ := h.line hl
    exact l.notMem_chars hknown hname
  have hfoot : ∀ line ∈ (foot c).map String.toList, '\n' ∉ line := by
    rw [foot, ChangeModel.suggestedVersion]
    cases c.model.requiredBump <;> decide
  rw [lines_chars h.compared]
  refine List.forall_mem_append.2 ⟨?_, List.forall_mem_cons.2 ⟨?_, List.forall_mem_append.2
    ⟨?_, List.forall_mem_append.2 ⟨?_, List.forall_mem_append.2 ⟨hlines, hfoot⟩⟩⟩⟩⟩
  · -- the artifacts, and the empty line behind them
    simp only [head, List.map_cons, List.map_nil, List.forall_mem_cons, String.toList_append,
      List.mem_append, not_or]
    exact ⟨⟨by decide, holdFile⟩, ⟨by decide, holdVersion⟩, ⟨by decide, hnewFile⟩,
      ⟨by decide, hnewVersion⟩, List.not_mem_nil, fun _ hn => absurd hn List.not_mem_nil⟩
  · -- what is compared
    have htoString : ∀ s : String, toString s = s := fun _ => rfl
    simp only [comparingLine, htoString, String.toList_append, List.mem_append, not_or]
    exact ⟨⟨⟨by decide, hnewFile⟩, by decide⟩, holdFile⟩
  · -- the exclusions
    unfold excludedLines
    split
    · exact fun _ hn => absurd hn List.not_mem_nil
    · rw [List.forall_mem_singleton, String.toList_append, List.mem_append, not_or]
      exact ⟨by decide, hexclusions⟩
  · -- no changes
    split
    · decide
    · exact fun _ hn => absurd hn List.not_mem_nil

/-! ### Reading a report -/

/-- Lines about classes do not look like the line of the exclusions. -/
theorem Line.behind?_chars (l : Line) : behind? "Excluded: ".toList l.chars = none := by
  cases l with
  | change status compatible name severity => cases status <;> cases compatible <;> rfl
  | code s => rfl
  | member status compatible kind name => rfl

/-- No line behind that of the exclusions looks like it. -/
theorem behind?_laterLines (c : Comparison) :
    ∀ line ∈ laterLines c ++ [[]], behind? "Excluded: ".toList line = none := by
  unfold laterLines
  refine List.forall_mem_append.2 ⟨List.forall_mem_append.2 ⟨?_, List.forall_mem_append.2
    ⟨?_, ?_⟩⟩, ?_⟩
  · split
    · exact List.forall_mem_singleton.2 rfl
    · exact fun _ hn => absurd hn List.not_mem_nil
  · intro line hline
    obtain ⟨l, -, rfl⟩ := List.mem_map.1 hline
    exact l.behind?_chars
  · simp only [foot, List.map_cons, List.map_nil, List.forall_mem_cons, String.toList_append]
    exact ⟨rfl, rfl, rfl, fun _ hn => absurd hn List.not_mem_nil⟩
  · exact List.forall_mem_singleton.2 rfl

/-- The classes are what the lines about them say. -/
theorem filterMap_read?_chars {ls : List Line} (h : ∀ l ∈ ls, l.Known) :
    (ls.map Line.chars).filterMap Line.read? = ls := by
  induction ls with
  | nil => rfl
  | cons l ls ih =>
    obtain ⟨hl, hls⟩ := List.forall_mem_cons.1 h
    rw [List.map_cons, List.filterMap_cons_some (Line.read?_chars hl), ih hls]

/-- The lines of a report behind those of the artifacts. -/
def rest (c : Comparison) : List (List Char) :=
  [] :: comparingLine c :: (excludedLines c ++ (laterLines c ++ [[]]))

/-- The exclusions are on the last line that looks like theirs. -/
theorem lastBehind?_rest (c : Comparison) :
    String.ofList ((lastBehind? "Excluded: ".toList (rest c)).getD []) =
      ", ".intercalate c.exclusions := by
  have hcomparing : behind? "Excluded: ".toList (comparingLine c) = none := by
    simp only [comparingLine, String.toList_append]
    rfl
  unfold rest excludedLines
  split
  · next hempty =>
    -- without exclusions no line looks like theirs
    have hnone : lastBehind? "Excluded: ".toList
        ([] :: comparingLine c :: ([] ++ (laterLines c ++ [[]]))) = none := by
      refine List.findSome?_eq_none_iff.2 fun line hline => ?_
      rcases List.mem_cons.1 (List.mem_reverse.1 hline) with rfl | hline
      · rfl
      · rcases List.mem_cons.1 hline with rfl | hline
        · exact hcomparing
        · exact behind?_laterLines c line hline
    rw [hnone, List.isEmpty_iff.1 hempty]
    rfl
  · have hfound := lastBehind?_eq [[], comparingLine c] (", ".intercalate c.exclusions).toList
      (behind?_laterLines c)
    rw [String.toList_append, List.singleton_append]
    exact (congrArg (fun s => String.ofList (s.getD [])) hfound).trans String.ofList_toList

/-- The other lines say nothing of a class. -/
theorem filterMap_read?_rest (h : Plain c) :
    (rest c).filterMap Line.read? = c.model.changes.flatMap linesOf := by
  have hcomparing : Line.read? (comparingLine c) = none := by
    simp only [comparingLine, String.toList_append]
    exact Line.read?_eq_none (by decide) _
  have hexcluded : (excludedLines c).filterMap Line.read? = [] := by
    unfold excludedLines
    split
    · rfl
    · rw [String.toList_append]
      exact List.filterMap_cons_none (Line.read?_eq_none (by decide) _)
  have hnothing : (if c.model.isEmpty then ["No changes.".toList] else []).filterMap Line.read? =
      [] := by
    split
    · exact List.filterMap_cons_none (Line.read?_eq_none (by decide) _)
    · rfl
  have hfoot : ((foot c).map String.toList).filterMap Line.read? = [] := by
    simp only [foot, List.map_cons, List.map_nil, String.toList_append]
    rfl
  have hclasses := filterMap_read?_chars fun l hl => (h.line hl).1
  rw [rest, List.filterMap_cons_none rfl, List.filterMap_cons_none hcomparing, laterLines]
  simp only [List.filterMap_append, hexcluded, hnothing, hfoot, hclasses, List.nil_append,
    List.append_nil]
  exact List.append_nil _

/-- **The reader** finds all that a report shows. -/
theorem read?_render (h : Plain c) : read? (render c) = some (.of c) := by
  have hchars : (render c).toList = ((lines c).map String.toList).flatMap (· ++ ['\n']) := by
    simp [render, String.toList_join, List.flatMap_map]
  have hsplit : split '\n' (render c).toList =
      ("Old jar:     ".toList ++ c.old.file.toList) ::
        ("Old version: ".toList ++ c.old.version.toList) ::
        ("New jar:     ".toList ++ c.new.file.toList) ::
        ("New version: ".toList ++ c.new.version.toList) :: rest c := by
    rw [hchars, split_lines h.notMem_lines, lines_chars h.compared, head]
    simp only [List.map_cons, List.map_nil, String.toList_append, List.cons_append,
      List.nil_append, List.append_assoc]
    rfl
  rw [read?, hsplit]
  simp only [behind?_append, Option.bind_eq_bind, Option.bind_some, String.ofList_toList,
    lastBehind?_rest, filterMap_read?_rest h, gather_linesOf]
  rfl

/-- **Nothing that a report shows is lost**: it can be read back, so reports
that are the same are on comparisons that show the same.  The lines about a
class are those of the class, its rules and its members, and no such line
looks like another one, whatever the names in them are. -/
theorem render_lossless :
    (∀ c, Plain c → read? (render c) = some (.of c)) ∧
    (∀ c d, Plain c → Plain d → render c = render d → Contents.of c = .of d) ∧
    (∀ k, (classLines k).map String.toList = (linesOf k).map Line.chars) ∧
    ∀ l l' : Line, l.Known → l'.Known → l.chars = l'.chars → l = l' := by
  refine ⟨fun c h => read?_render h, fun c d hc hd hsame => ?_, classLines_chars,
    fun l l' h h' hsame => ?_⟩
  · have hread := read?_render hc
    rw [hsame, read?_render hd] at hread
    exact (Option.some.inj hread).symm
  · have hread := Line.read?_chars h
    rw [hsame, Line.read?_chars h'] at hread
    exact (Option.some.inj hread).symm

/-- A comparison with names that look like the ends and the starts of lines. -/
def tricky (exclusions : List String) : Comparison where
  old := ⟨"old.jar", "1.0.0", none, false⟩
  new := ⟨"new.jar", "2.0.0", none, false⟩
  model := ⟨[{ name := "A (MINOR)", status := .removed, binaryCompatible := false,
               severity := .major, codes := ["--- REMOVED METHOD: f"],
               members := [⟨"method", "--- REMOVED CLASS: B (PATCH)", .removed, true, true⟩] }]⟩
  exclusions

/-- Such names are told from lines, and only the commas between exclusions are
not told from those within them. -/
theorem render_lossless_tricky :
    read? (render (tricky ["a", "b"])) = some (.of (tricky ["a", "b"])) ∧
      Contents.of (tricky ["a", "b"]) = .of (tricky ["a, b"]) ∧
      (Line.code "--- REMOVED METHOD: f").chars ≠ (Line.member .removed true "method" "f").chars := by
  obtain ⟨hread, hsame, -, hlines⟩ := render_lossless
  have hplain : Plain (tricky ["a", "b"]) := ⟨rfl, by decide, by decide⟩
  have hplain' : Plain (tricky ["a, b"]) := ⟨rfl, by decide, by decide⟩
  refine ⟨hread _ hplain, hsame _ _ hplain hplain' (by decide +kernel), fun hchars => ?_⟩
  have hline := hlines (.code "--- REMOVED METHOD: f") (.member .removed true "method" "f") trivial
    (by decide : "method" ∈ ToolReport.memberKinds) hchars
  cases hline

end TextReport

end ReleaseGate
