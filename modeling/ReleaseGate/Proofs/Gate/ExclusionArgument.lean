/-
ReleaseGate/Proofs/Gate/ExclusionArgument.lean

What the difference tool is told to leave out.

The patterns of an exclusion file go to the tool in one argument, with
semicolons between them, and the tool cuts that argument at its semicolons
(`received`).  Cutting undoes joining up to one thing: a pattern is joined
as it is, so it is cut where it has a semicolon of its own
(`received_command`).  The patterns therefore arrive as they are in the file
if and only if none of them has a semicolon.

Design.  The arguments are read as the tool reads them, an option together
with its value (`argument?`), so a file or a pattern called like an option
is not taken for one.  What the file says is followed from its bytes to the
call of the engine (`Reaches.exists_exclusionText`), and from there to the
command on record.

Main results: `received_command_eq_iff`, `toldExclusions_of_run`.
-/
import ReleaseGate.Proofs.Digest
import ReleaseGate.Proofs.ExclusionList
import ReleaseGate.Proofs.Gate.Footprint
import ReleaseGate.Proofs.Gate.ToolAnswer

namespace ReleaseGate

open ReleaseGate.Action

/-! ### The argument of the tool -/

namespace DiffTool

variable {tool : DiffTool} {old new report : Path} {exclusions : ExclusionList}

/-- The options of the tool that come with a value. -/
def valued : List String := ["--old", "--new", "--xml-file", "--exclude"]

/-- The value of an option, as the tool finds it in its arguments. -/
def argument? (option : String) : List String → Option String
  | a :: value :: rest =>
    if a ∈ valued then
      if a = option then some value else argument? option rest
    else argument? option (value :: rest)
  | _ => none

/-- The pieces of a value. -/
def pieces (value : String) : List String := (Text.split ';' value.toList).map String.ofList

/-- The patterns that reach the tool with a command.  The first three words
start the tool, the others are its arguments. -/
def received (command : List String) : List String :=
  ((argument? "--exclude" (command.drop 3)).map pieces).getD []

theorem argument?_command :
    argument? "--exclude" ((tool.command old new exclusions report).drop 3) =
      if exclusions.isEmpty then none else some (";".intercalate exclusions.patterns) := by
  by_cases hempty : exclusions.isEmpty
  · simp [command, exclusionArguments, hempty, argument?, valued]
  · simp [command, exclusionArguments, hempty, argument?, valued]

/-- The path of a report is no option. -/
theorem text_reportIn_ne (temp : Path) : (reportIn temp).text ≠ "--exclude" := by
  intro h
  have hlist := Path.toList_text_child temp "japicmp.xml".toList
  rw [← reportIn, h] at hlist
  have hlength := congrArg List.length hlist
  rw [List.length_append] at hlength
  have hshort : "--exclude".toList.length < "japicmp.xml".toList.length := by decide
  omega

/-- The name of the option stands in a command if there are patterns, or if
the program or a file has that name. -/
theorem mem_command_iff {temp : Path} :
    "--exclude" ∈ tool.command old new exclusions (reportIn temp) ↔
      exclusions.isEmpty = false ∨
        "--exclude" ∈ [tool.java, tool.jar.text, old.text, new.text] := by
  have hreport := (text_reportIn_ne temp).symm
  by_cases hempty : exclusions.isEmpty
  · simp [command, exclusionArguments, hempty, hreport]
  · simp [command, exclusionArguments, hempty]

theorem flatMap_pieces (l : List String) :
    l.flatMap pieces = ((l.map String.toList).flatMap (Text.split ';')).map String.ofList := by
  rw [List.flatMap_map, List.map_flatMap]
  rfl

theorem pieces_intercalate {l : List String} (hne : l ≠ []) :
    pieces (";".intercalate l) = l.flatMap pieces := by
  have hsep : ";".toList = [';'] := by decide
  rw [pieces, String.toList_intercalate, hsep, ← Text.join_eq_intercalate,
    Text.split_join_eq_flatMap (by simpa using hne), flatMap_pieces]

/-- What reaches the tool are the pieces of the patterns. -/
theorem received_command (tool : DiffTool) (old new report : Path) (exclusions : ExclusionList) :
    received (tool.command old new exclusions report) = exclusions.patterns.flatMap pieces := by
  rw [received, argument?_command]
  by_cases hempty : exclusions.isEmpty
  · have hnil : exclusions.patterns = [] := by simpa [ExclusionList.isEmpty] using hempty
    rw [if_pos hempty, hnil]
    rfl
  · have hne : exclusions.patterns ≠ [] := by simpa [ExclusionList.isEmpty] using hempty
    rw [if_neg hempty]
    exact pieces_intercalate hne

/-- The patterns **arrive as they are** unless one has a semicolon. -/
theorem received_command_eq_iff :
    received (tool.command old new exclusions report) = exclusions.patterns ↔
      ∀ p ∈ exclusions.patterns, ';' ∉ p.toList := by
  have hinverse : ∀ l : List String, (l.map String.toList).map String.ofList = l := by
    simp [Function.comp_def]
  have hinjective : Function.Injective (List.map String.ofList) :=
    List.map_injective_iff.2 fun _ _ => String.ofList_injective
  rw [received_command, flatMap_pieces]
  nth_rewrite 2 [← hinverse exclusions.patterns]
  rw [hinjective.eq_iff, Text.flatMap_split_eq_self_iff, List.forall_mem_map]

end DiffTool

/-! ### From the file to the tool -/

namespace Gate

open FileTree (Grounded)

variable {host : Host} {setup : Setup} {candidate : Candidate} {tool : DiffTool}
variable {oldFile newFile : Path} {call : Call} {m m' m₁ m₂ : Machine} {text : List Char}
variable {listed? : Option (List String)}

/-- The text with the exclusions; it is empty without a file. -/
inductive ExclusionText (host : Host) (t : FileTree) : Option Path → List Char → Prop
  | none : ExclusionText host t none []
  | file {path content text} : t.read host.here path.text = .ok content →
      Text.Utf8.decode content.toList = .ok text → ExclusionText host t (some path) text

/-- Exclusions are loaded if and only if their file is a text. -/
theorem loadExclusions_eq_ok_iff {file? : Option Path} {exclusions : ExclusionList} :
    (loadExclusions host file?).on m = (.ok exclusions, m') ↔
      (∃ text, ExclusionText host m.files file? text ∧
        exclusions = .of (ExclusionList.lines text)) ∧ m' = m := by
  constructor
  · intro h
    obtain rfl := (readOnly_loadExclusions host file?).eq h
    refine ⟨?_, rfl⟩
    cases file? with
    | none =>
      obtain ⟨⟨⟩, -⟩ := h
      exact ⟨[], .none, rfl⟩
    | some path =>
      obtain ⟨unified, m₁, htext, hpure⟩ := on_bind_eq_ok.1 h
      obtain ⟨content, m₂, hload, hrest⟩ := on_bind_eq_ok.1 htext
      obtain ⟨hread, rfl⟩ := load_eq_ok.1 hload
      obtain ⟨text, m₃, hdecode, hunify⟩ := on_bind_eq_ok.1 hrest
      obtain ⟨hok, rfl⟩ := orFail_eq_ok.1 hdecode
      obtain ⟨⟨⟩, ⟨⟩⟩ := hunify
      obtain ⟨⟨⟩, ⟨⟩⟩ := hpure
      exact ⟨text, .file hread hok, ExclusionList.parse_unifyLineEnds text⟩
  · rintro ⟨⟨text, - | ⟨hread, hdecode⟩, rfl⟩, rfl⟩
    · rfl
    · rw [loadExclusions, loadText, bind_assoc, on_bind_of_ok (load_eq_ok.2 ⟨hread, rfl⟩),
        bind_assoc, on_bind_of_ok (orFail_eq_ok.2 ⟨hdecode, rfl⟩)]
      rw [← ExclusionList.parse_unifyLineEnds]
      rfl

/-- The whole path of the file with the exclusions. -/
def exclusionPath? (host : Host) (candidate : Candidate) : Option Path :=
  candidate.exclusionFile.map fun p => p.seenFrom host.workingDir

/-- The engine is called with what the file says by then. -/
theorem Reaches.exists_exclusionText
    (h : Reaches host setup candidate m oldFile newFile m₁ call m₂) :
    ∃ text, ExclusionText host m₂.files (exclusionPath? host candidate) text ∧
      call.exclusions = .of (ExclusionList.lines text) := by
  have hready := h.ready
  rcases on_prepare host candidate oldFile newFile m₁ with ⟨v, hv⟩ | ⟨-, hgather⟩
  · rw [hv] at hready
    cases hready
  rw [hgather, gather] at hready
  obtain ⟨oldArchive, mo, -, h₁⟩ := on_bind_eq_ok.1 hready
  obtain ⟨newArchive, mn, -, h₂⟩ := on_bind_eq_ok.1 h₁
  obtain ⟨exclusions, me, hload, hpure⟩ := on_bind_eq_ok.1 h₂
  obtain ⟨htext, rfl⟩ := loadExclusions_eq_ok_iff.1 hload
  obtain ⟨⟨⟩, ⟨⟩⟩ := hpure
  exact htext

/-- What a run reaches is settled by where it starts. -/
theorem Reaches.unique {oldFile' newFile' : Path} {m₁' m₂' : Machine} {call' : Call}
    (h : Reaches host setup candidate m oldFile newFile m₁ call m₂)
    (h' : Reaches host setup candidate m oldFile' newFile' m₁' call' m₂') :
    call' = call ∧ m₂' = m₂ := by
  obtain ⟨⟨⟩, ⟨⟩⟩ := Prod.mk.inj (h.find.symm.trans h'.find)
  obtain ⟨⟨⟩, ⟨⟩⟩ := Prod.mk.inj (h.ready.symm.trans h'.ready)
  exact ⟨rfl, rfl⟩

/-! ### What a run tells the tool -/

/-- A command tells the tool what a text says: once each pattern, in the
order in which they come for the first time. -/
structure TellsExclusions (tool : DiffTool) (call : Call) (text : List Char)
    (command : List String) : Prop where
  listed : call.exclusions.patterns = (ExclusionList.lines text).eraseDups
  lines : call.exclusions.patterns = ExclusionList.lines text ↔ (ExclusionList.lines text).Nodup
  /-- A pattern has no blanks around it that a tool could cut. -/
  bare : ∀ p ∈ call.exclusions.patterns, p ≠ "" ∧ Text.strip p.toList = p.toList
  given : (DiffTool.argument? "--exclude" (command.drop 3)).isSome ↔
    ExclusionList.lines text ≠ []
  occurs : "--exclude" ∈ command ↔ ExclusionList.lines text ≠ [] ∨
    "--exclude" ∈ [tool.java, tool.jar.text, call.oldArchive.text, call.newArchive.text]
  pieces : DiffTool.received command = call.exclusions.patterns.flatMap DiffTool.pieces
  /-- The patterns arrive if and only if no line of the text is cut. -/
  arrives : DiffTool.received command = call.exclusions.patterns ↔
    ∀ line ∈ ExclusionList.lines text, ';' ∉ line.toList

theorem tells_command (tool : DiffTool) (temp : Path)
    (h : call.exclusions = .of (ExclusionList.lines text)) :
    TellsExclusions tool call text
      (tool.command call.oldArchive call.newArchive call.exclusions (DiffTool.reportIn temp)) := by
  have hempty : call.exclusions.isEmpty = false ↔ ExclusionList.lines text ≠ [] := by
    rw [h, ExclusionList.isEmpty_of]
    simp
  have hmem : ∀ p, p ∈ call.exclusions.patterns ↔ p ∈ ExclusionList.lines text := by
    intro p
    rw [h, ExclusionList.mem_patterns_of]
  have hlisted : call.exclusions.patterns = (ExclusionList.lines text).eraseDups := by
    rw [h]
    rfl
  refine ⟨hlisted, ?_, fun p hp => ?_, ?_, ?_, DiffTool.received_command tool _ _ _ _, ?_⟩
  · rw [hlisted]
    exact ExclusionList.eraseDups_eq_self_iff
  · exact ExclusionList.bare_of_mem_lines ((hmem p).1 hp)
  · rw [DiffTool.argument?_command, ← hempty]
    cases call.exclusions.isEmpty <;> simp
  · rw [DiffTool.mem_command_iff, hempty]
  · rw [DiffTool.received_command_eq_iff]
    simp only [hmem]

/-- What the tool was told when a comparison or a run is over, which lists
some exclusions if it ends well: nothing, or what the exclusion file says, in
the one command that was given to a process. -/
inductive ToldExclusions (host : Host) (setup : Setup) (candidate : Candidate) (tool : DiffTool)
    (m : Machine) (listed? : Option (List String)) (m' : Machine) : Prop
  | nothing : m'.calls = m.calls → (∀ l, listed? = some l → l = []) →
      ToldExclusions host setup candidate tool m listed? m'
  | command {oldFile newFile : Path} {m₁ m₂ : Machine} {call : Call} {text : List Char}
      {command : List String} :
      Reaches host setup candidate m oldFile newFile m₁ call m₂ →
      ExclusionText host m₂.files (exclusionPath? host candidate) text →
      TellsExclusions tool call text command →
      m'.calls = m.calls ++ DiffTool.recorded command (host.process command) →
      (∀ l, listed? = some l → l = call.exclusions.patterns) →
      ToldExclusions host setup candidate tool m listed? m'

/-- Without a call and a result there is nothing to tell. -/
theorem ToldExclusions.of_calls (h : m'.calls = m.calls) :
    ToldExclusions host setup candidate tool m none m' := .nothing h (by simp)

/-- What follows without a call tells nothing more. -/
theorem ToldExclusions.congr {listed' : Option (List String)}
    (h : ToldExclusions host setup candidate tool m listed? m₁)
    (hcalls : m₂.calls = m₁.calls) (hlisted : ∀ l, listed' = some l → listed? = some l) :
    ToldExclusions host setup candidate tool m listed' m₂ := by
  cases h with
  | nothing hsame hnone => exact .nothing (hcalls.trans hsame) fun l hl => hnone l (hlisted l hl)
  | command hreaches htext htells hnew hsome =>
    exact .command hreaches htext htells (hcalls.trans hnew) fun l hl => hsome l (hlisted l hl)

/-- Where the engine is reached, the tool is told what the file says. -/
theorem told_of_reaches (htool : setup.engine = .ok (.tool tool)) (hground : Grounded m₂.files)
    (hcalls : m₂.calls = m.calls) {r : Except Failure ChangeModel}
    (hreaches : Reaches host setup candidate m oldFile newFile m₁ call m₂)
    (h : (callEngine host setup call).on m₂ = (r, m')) :
    ToldExclusions host setup candidate tool m (r.toOption.map fun _ => call.exclusions.patterns)
      m' := by
  rw [callEngine, on_bind_of_ok (orFail_eq_ok.2 ⟨htool, rfl⟩)] at h
  rcases toolRun_compare hground h with ⟨e, hnew, rfl⟩ | ⟨temp, f, n₁, n₂, hrun⟩
  · obtain ⟨-, -, htrace⟩ := createFresh_eq_error hnew
    exact .of_calls (htrace.calls.trans hcalls)
  obtain ⟨text, htext, hlist⟩ := hreaches.exists_exclusionText
  refine .command hreaches htext (tells_command tool temp hlist) (hcalls ▸ hrun.calls)
    fun l hl => ?_
  obtain ⟨-, -, rfl⟩ := Option.map_eq_some_iff.1 hl
  rfl

/-- What the tool was told in a comparison, whatever becomes of it. -/
theorem told_compare (hsound : host.Sound) (hground : Grounded m.files)
    (hhere : m.files.get? host.here = some .dir) (htool : setup.engine = .ok (.tool tool))
    {r : Except Failure Comparison} (h : (compare host setup candidate).on m = (r, m')) :
    ToldExclusions host setup candidate tool m (r.toOption.map (·.exclusions)) m' := by
  have hcalls : ∀ {found m₁}, (findFiles host setup candidate).on m = (found, m₁) →
      m₁.calls = m.calls := fun hfind => (findRun_findFiles hsound hfind).calls
  cases ends_compare h with
  | lost hfind => exact .of_calls (hcalls hfind)
  | missing hfind =>
    refine .nothing (hcalls hfind) ?_
    rintro l ⟨⟩
    rfl
  | undecided hfind => exact .of_calls (hcalls hfind)
  | identical hfind =>
    refine .nothing (hcalls hfind) ?_
    rintro l ⟨⟩
    rfl
  | unready hfind hready =>
    obtain ⟨htrace, -⟩ := inner_of_found hsound hground hhere hfind hready
    exact .of_calls (htrace.calls.trans (hcalls hfind))
  | @reached _ _ _ _ _ call model? hreaches hcall =>
    obtain ⟨hground₂, -, hcalls₂⟩ := hreaches.in_order hsound hground hhere
    refine (told_of_reaches htool hground₂ hcalls₂ hreaches hcall).congr rfl fun l hl => ?_
    cases model? with
    | error e => cases hl
    | ok model => exact hl

/-- **What a run tells the tool** is what the exclusion file says.  The tool
takes it as it is meant if and only if no pattern has a semicolon. -/
theorem toldExclusions_of_run (hsound : host.Sound) (hground : Grounded m.files)
    (hhere : m.files.get? host.here = some .dir) (htool : setup.engine = .ok (.tool tool))
    {r : Except Failure Outcome} (h : (run host setup candidate).on m = (r, m')) :
    ToldExclusions host setup candidate tool m (r.toOption.map (·.comparison.exclusions)) m' := by
  rcases ends_run h with - | ⟨-, hcompare⟩ | ⟨-, hcompare, -, hwrite, -⟩
  · exact .of_calls rfl
  · exact told_compare hsound hground hhere htool hcompare
  · have hcalls := (traceless_writeReports host _ _ _).sameTrace hwrite
    refine (told_compare hsound hground hhere htool hcompare).congr hcalls.calls fun l hl => ?_
    -- a run that ends well has kept the comparison
    obtain ⟨o, ho, rfl⟩ := Option.map_eq_some_iff.1 hl
    obtain rfl := eq_ok_of_toOption ho
    obtain ⟨-, -, m₃, -, -, hcompares, -⟩ := run_eq_ok_iff.1 h
    have hsame := hcompare.symm.trans (compare_eq_ok_iff.2 hcompares)
    obtain ⟨⟨⟩, -⟩ := Prod.mk.inj hsame
    rfl

/-! ### A build beside an exclusion file -/

/-- A build that follows another one, with an exclusion file. -/
def buildExcept : Candidate :=
  { buildAfter "old.jar" with exclusionFile := some (.ofString "skip.txt") }

/-- The bytes of a text of ASCII. -/
def asciiBytes (s : String) : ByteArray :=
  ⟨(s.toList.map fun c => UInt8.ofNat c.toNat).toArray⟩

/-- Both builds, beside an exclusion file of ASCII. -/
def besideList (s : String) : Machine where
  files := ⟨[(["old.jar"], .file ⟨#[1]⟩), (["lib.jar"], .file ⟨#[0]⟩),
    (["skip.txt"], .file (asciiBytes s)), (["tmp"], .dir)]⟩

theorem grounded_besideList (s : String) : Grounded (besideList s).files :=
  FileTree.grounded_of_nodes (by simp [besideList])

/-- The tool of the build, which always complains. -/
def complaining : Host := DiffTool.ending (.exited 1 "" none)

theorem sound_complaining : complaining.Sound := ⟨by decide, by decide⟩

/-- A tool that has a name only. -/
def namedTool : DiffTool := ⟨.ofString "t.jar", "java"⟩

/-- The setup with that tool. -/
def withNamedTool : Setup where
  settings := { toolJar := some namedTool.jar }

theorem engine_withNamedTool : withNamedTool.engine = .ok (.tool namedTool) := rfl

/-- What the engine is called with beside an exclusion file. -/
def callBeside (s : String) : Call :=
  ⟨.ofString "/old.jar", .ofString "/lib.jar", .of (ExclusionList.lines s.toList)⟩

theorem parse_buildExcept :
    Version.parse buildExcept.oldVersion = .ok ⟨1, 0, 0, none⟩ ∧
      Version.parse buildExcept.newVersion = .ok ⟨1, 0, 1, none⟩ :=
  ⟨eq_ok_of_toOption (by decide +kernel), eq_ok_of_toOption (by decide +kernel)⟩

theorem reaches_besideList {s : String}
    (hdecode : Text.Utf8.decode (asciiBytes s).toList = .ok s.toList) :
    Reaches complaining withNamedTool buildExcept (besideList s) (.ofString "/old.jar")
      (.ofString "/lib.jar") (besideList s) (callBeside s) (besideList s) := by
  have hold : (realPlace complaining "/old.jar").on (besideList s) =
      (.ok ["old.jar"], besideList s) := on_realPlace_of_lookup (by decide) rfl rfl
  have hnew : (realPlace complaining "/lib.jar").on (besideList s) =
      (.ok ["lib.jar"], besideList s) := on_realPlace_of_lookup (by decide) rfl rfl
  refine ⟨rfl, ?_, ?_⟩
  · have h := sameFiles_of_ne complaining hold hnew (by decide) rfl rfl
    rwa [beq_eq_false_iff_ne.2 Digest.ofPieces_one_ne_zero] at h
  · have htext : ExclusionText complaining (besideList s).files
        (exclusionPath? complaining buildExcept) s.toList := .file rfl hdecode
    have hload := loadExclusions_eq_ok_iff.2 ⟨⟨_, htext, rfl⟩, rfl⟩
    have hbump : (⟨1, 0, 0, none⟩ : Version).bumpTo ⟨1, 0, 1, none⟩ = .ok .patch := rfl
    obtain ⟨hparse, hparse'⟩ := parse_buildExcept
    rw [prepare, readVersion, on_bind_of_ok (orFail_eq_ok.2 ⟨hparse, rfl⟩), readVersion,
      on_bind_of_ok (orFail_eq_ok.2 ⟨hparse', rfl⟩), on_bind_of_ok (orFail_eq_ok.2 ⟨hbump, rfl⟩)]
    exact on_bind_of_ok hload

/-- The tool is run once beside an exclusion file. -/
theorem run_besideList {s : String}
    (hdecode : Text.Utf8.decode (asciiBytes s).toList = .ok s.toList)
    (hdir : ((newTempDir complaining DiffTool.dirStart).on (besideList s)).1.toOption =
      some DiffTool.firstDir) :
    ∃ e m', (run complaining withNamedTool buildExcept).on (besideList s) = (.error e, m') ∧
      m'.calls = [namedTool.command (callBeside s).oldArchive (callBeside s).newArchive
        (callBeside s).exclusions (DiffTool.reportIn DiffTool.firstDir)] := by
  have hreaches := reaches_besideList hdecode
  rcases htool : (namedTool.compare complaining (callBeside s).oldArchive
    (callBeside s).newArchive (callBeside s).exclusions).on (besideList s) with ⟨r, m'⟩
  obtain ⟨hanswer, hcalls, -⟩ := DiffTool.compare_eq_answer (grounded_besideList s)
    (on_of_toOption hdir) (by decide) htool
  let e : Failure := .engine (.exited 1 (DiffTool.errorTail ""))
  have hfail : r = .error e := hanswer
  have hcompare : (compare complaining withNamedTool buildExcept).on (besideList s) =
      (.error e, m') := by
    rw [hreaches.on_compare, callEngine,
      on_bind_of_ok (orFail_eq_ok.2 ⟨engine_withNamedTool, rfl⟩), Engine.compare, htool, hfail]
    rfl
  obtain ⟨hold, hnew⟩ := parse_buildExcept
  exact ⟨e, m', on_run_of_compare_error hold hnew hcompare, hcalls⟩

/-- Two patterns, one of them on two lines, with a note and a mixture of line
ends. -/
def twoPatterns : String := "a.B\n # note\nc.D\r\na.B"

/-- Both patterns arrive, in their order. -/
theorem toldExclusions_of_run_twoPatterns :
    ∃ e m' command, (run complaining withNamedTool buildExcept).on (besideList twoPatterns) =
        (.error e, m') ∧
      m'.calls = [command] ∧ DiffTool.received command = ["a.B", "c.D"] := by
  have hdecode : Text.Utf8.decode (asciiBytes twoPatterns).toList = .ok twoPatterns.toList := by
    rw [toList_eq_data]
    rfl
  obtain ⟨e, m', hrun, hcalls⟩ := run_besideList hdecode (by decide +kernel)
  refine ⟨e, m', _, hrun, hcalls, ?_⟩
  have htold := toldExclusions_of_run sound_complaining (grounded_besideList _) rfl
    engine_withNamedTool hrun
  cases htold with
  | nothing hnone =>
    rw [hcalls] at hnone
    cases hnone
  | command hreaches _ htells hnew _ =>
    obtain ⟨rfl, -⟩ := (reaches_besideList hdecode).unique hreaches
    rw [hcalls] at hnew
    obtain ⟨rfl, -⟩ := List.cons.inj hnew
    rw [htells.pieces]
    decide

/-- A pattern with a semicolon arrives as two. -/
theorem run_cuts_pattern :
    ∃ e m' command, (run complaining withNamedTool buildExcept).on (besideList "a.B;c.D") =
        (.error e, m') ∧
      m'.calls = [command] ∧ ExclusionList.lines "a.B;c.D".toList = ["a.B;c.D"] ∧
      DiffTool.received command = ["a.B", "c.D"] := by
  have hdecode : Text.Utf8.decode (asciiBytes "a.B;c.D").toList = .ok "a.B;c.D".toList := by
    rw [toList_eq_data]
    rfl
  obtain ⟨e, m', hrun, hcalls⟩ := run_besideList hdecode (by decide +kernel)
  refine ⟨e, m', _, hrun, hcalls, by decide, ?_⟩
  rw [DiffTool.received_command]
  decide

end Gate

end ReleaseGate
