/-
ReleaseGate/Proofs/Gate/Engine.lean

What an engine leaves behind.

The difference tool gets a directory of its own, into which its report is
written.  While it runs, everything new is in that directory
(`HasTempDir`), so taking the directory away brings the tree back, and this
is done whatever becomes of the run (`toolRun_compare`).  A call that gives a
change model is on record, once.

Main result: `engineRun_compare`: for either kind of engine, a call changes
no file that stays, sends nothing, and is recorded once if it succeeds.
-/
import ReleaseGate.Gate.Run
import ReleaseGate.Proofs.Files.Passage
import ReleaseGate.Proofs.Runs

namespace ReleaseGate

open FileTree ReleaseGate.Action

variable {host : Host} {temp : Path} {f q : Place} {t t' t'' : FileTree} {m m' : Machine}
variable {n k : List Char} {e : Failure} {model : ChangeModel}

/-! ### Paths into a directory -/

/-- A name of a directory that has nothing of that name leads to the place
for it. -/
theorem FileTree.Walk.eq_of_none {links : Nat} {s : String} {seen : List Place} {fl : Bool}
    (hw : Walk t fl links f [s] seen q) (hdot : s ≠ ".") (hup : s ≠ "..")
    (hnone : t.get? (s :: f) = none) : q = s :: f := by
  cases hw with
  | stay => exact absurd rfl hdot
  | up => exact absurd rfl hup
  | last => rfl
  | enter _ hg =>
    rw [hnone] at hg
    cases hg
  | follow _ hg =>
    rw [hnone] at hg
    cases hg

/-- So does its path, where it leads anywhere. -/
theorem locate_child_of_none {d : Path} (hn : Path.IsFileName n) (hk : Path.IsFileName k)
    (hdot : String.ofList k ≠ ".") (hup : String.ofList k ≠ "..")
    (hd : t.locate host.here (d.child n).text true = .ok f)
    (hnone : t.get? (String.ofList k :: f) = none)
    (hl : t.locate host.here ((d.child n).child k).text true = .ok q) :
    q = String.ofList k :: f := by
  have hw := walk_of_locate hl
  rw [Path.steps_child _ hk, Path.startOf_child _ _ hk, Path.startOf_lead_child _ _ hn,
    Path.leadSteps_child _ hn, ← Path.steps_child _ hn] at hw
  obtain ⟨before, after, left, d', hp, hlast, -⟩ := hw.split (by simp)
  have hend : d' = f := Except.ok.inj (hp.toWalk.walk_eq.symm.trans (locate_eq_ok_iff.1 hd).2)
  rw [hend] at hlast
  exact hlast.eq_of_none hdot hup hnone

/-! ### The directory of the tool -/

/-- The tree `t'` is `t` with a new directory at `f`, in which everything
else that is new is. -/
structure HasTempDir (host : Host) (temp : Path) (t : FileTree) (f : Place) (t' : FileTree) :
    Prop where
  free : t.get? f = none
  locate : t.locate host.here temp.text false = .ok f
  dir : t'.get? f = some .dir
  off : ∀ q, ¬ f <:+ q → t'.get? q = t.get? q
  keeps : KeepsWays t t'

theorem HasTempDir.locate_now (h : HasTempDir host temp t f t') (fl : Bool) :
    t'.locate host.here temp.text fl = .ok f := by
  have hnow := locate_mono h.keeps h.locate
  cases fl with
  | false => exact hnow
  | true => exact locate_follow hnow (by simp [h.dir])

theorem hasTempDir_add (h : t.add host.here temp.text .dir = .ok t') :
    ∃ f, HasTempDir host temp t f t' ∧ t.Edit f (some .dir) t' := by
  obtain ⟨f, hl, hfree, hedit⟩ := add_eq_ok h
  refine ⟨f, ⟨hfree, hl, hedit.new, fun q hq => ?_, hedit.keepsWays hfree (by simp)⟩, hedit⟩
  refine hedit.off q ?_
  rintro rfl
  exact hq (List.suffix_refl q)

/-- Taking the directory away brings the tree back. -/
theorem HasTempDir.clear (h : HasTempDir host temp t f m.files) (ht : Grounded t) :
    ∃ m', (clear host temp.text).on m = (.ok (), m') ∧ SameTrace m m' ∧
      ∀ q, m'.files.get? q = t.get? q := by
  have hnow := removeAll_of_locate (h.locate_now false)
  refine ⟨_, changeFiles_eq_ok.2 ⟨_, hnow, rfl⟩, ⟨rfl, rfl⟩, fun q => ?_⟩
  show (m.files.eraseAll f).get? q = t.get? q
  by_cases hroot : q = []
  · rw [hroot]
    rfl
  rw [get?_eraseAll _ _ _ hroot]
  by_cases hq : f <:+ q
  · -- nothing was below the place of the directory before it was made
    rw [if_pos hq]
    by_cases hqf : q = f
    · rw [hqf, h.free]
    · exact (ht.eq_none_of_suffix (by simp [h.free]) hq hqf).symm
  · rw [if_neg hq]
    exact h.off q hq

/-! ### One run of the tool -/

namespace DiffTool

/-- The path of a report in the directory of the tool. -/
def reportIn (temp : Path) : Path := temp.child "japicmp.xml".toList

/-- The report is written into the directory, if it is written at all. -/
theorem hasTempDir_keepReport {d : Path} {content? : Option ByteArray} {r : Except Failure Unit}
    (h : (keepReport host (reportIn (d.child n)) content?).on m = (r, m'))
    (hn : Path.IsFileName n) (htemp : HasTempDir host (d.child n) t f m.files)
    (hnone : m.files.get? ("japicmp.xml" :: f) = none) :
    HasTempDir host (d.child n) t f m'.files ∧ SameTrace m m' := by
  cases content? with
  | none =>
    obtain ⟨rfl, rfl⟩ := Prod.mk.inj h
    exact ⟨htemp, .refl _⟩
  | some content =>
    change (store host (reportIn (d.child n)).text content).on m = _ at h
    rw [store, on_changeFiles] at h
    rcases hwrite : m.files.write host.here (reportIn (d.child n)).text content with e | t'
    · rw [hwrite] at h
      obtain ⟨rfl, rfl⟩ := Prod.mk.inj h
      exact ⟨htemp, .refl _⟩
    · rw [hwrite] at h
      obtain ⟨rfl, rfl⟩ := Prod.mk.inj h
      obtain ⟨q, hq, -, hedit⟩ := write_eq_ok hwrite
      -- the directory is empty, so the name of the report is no link elsewhere
      have hname : Path.IsFileName "japicmp.xml".toList := ⟨by decide, by decide⟩
      obtain rfl := locate_child_of_none hn hname (by decide) (by decide) (htemp.locate_now true)
        hnone hq
      have hbelow : f <:+ "japicmp.xml" :: f := List.suffix_cons _ f
      refine ⟨⟨htemp.free, htemp.locate, ?_, fun x hx => ?_, ?_⟩, rfl, rfl⟩
      · exact (hedit.off f (by simp)).trans htemp.dir
      · refine (hedit.off x ?_).trans (htemp.off x hx)
        rintro rfl
        exact hx hbelow
      · exact htemp.keeps.trans (hedit.keepsWays hnone (by simp))

theorem readOnly_readReport (host : Host) (report : Path) : ReadOnly (readReport host report) := by
  refine (readOnly_isFile host _).bind fun found => ?_
  cases found with
  | false => exact readOnly_throw _
  | true => exact (readOnly_loadText host _).bind fun _ => readOnly_orFail _ _

/-- What a run puts on record. -/
def recorded (command : List String) : ProcessOutcome → List (List String)
  | .absent | .nullCharacter => []
  | .refused .. | .exited .. => [command]

/-- A run writes its report only, and its command is on record, above all
where it succeeds. -/
theorem hasTempDir_run {d : Path} {tool : DiffTool} {command : List String}
    {r : Except Failure ChangeModel} (hn : Path.IsFileName n)
    (htemp : HasTempDir host (d.child n) t f m.files)
    (hnone : m.files.get? ("japicmp.xml" :: f) = none)
    (h : (run host tool command (reportIn (d.child n))).on m = (r, m')) :
    HasTempDir host (d.child n) t f m'.files ∧ m'.requests = m.requests ∧
      m'.calls = m.calls ++ recorded command (host.process command) ∧
      ∀ model, r = .ok model → recorded command (host.process command) = [command] := by
  unfold run at h
  rcases hp : host.process command with - | ⟨number, text⟩ | - | ⟨status, errors, content?, output⟩
    <;> rw [hp] at h <;> simp only at h
  · obtain ⟨rfl, rfl⟩ := Prod.mk.inj h
    exact ⟨htemp, rfl, (List.append_nil _).symm, nofun⟩
  · rw [on_bind_of_ok (on_recordCall command m), on_throw] at h
    obtain ⟨rfl, rfl⟩ := Prod.mk.inj h
    exact ⟨htemp, rfl, rfl, nofun⟩
  · obtain ⟨rfl, rfl⟩ := Prod.mk.inj h
    exact ⟨htemp, rfl, (List.append_nil _).symm, nofun⟩
  · rw [on_bind_of_ok (on_recordCall command m)] at h
    rcases on_bind_cases h with ⟨e, hkeep, rfl⟩ | ⟨u, m₁, hkeep, h⟩
    · obtain ⟨htemp₁, htrace⟩ := hasTempDir_keepReport hkeep hn htemp hnone
      exact ⟨htemp₁, htrace.requests, htrace.calls, nofun⟩
    obtain ⟨htemp₁, htrace⟩ := hasTempDir_keepReport hkeep hn htemp hnone
    -- what the program has written is read, and changes nothing
    rcases orFail_bind_cases h with ⟨fault, -, rfl, rfl⟩ | ⟨shown, -, h⟩
    · exact ⟨htemp₁, htrace.requests, htrace.calls, nofun⟩
    by_cases hs : status = 0
    · rw [if_pos hs] at h
      obtain rfl := (readOnly_readReport host _).eq h
      exact ⟨htemp₁, htrace.requests, htrace.calls, fun _ _ => rfl⟩
    · rw [if_neg hs] at h
      obtain ⟨rfl, rfl⟩ := Prod.mk.inj h
      exact ⟨htemp₁, htrace.requests, htrace.calls, nofun⟩

/-- What the name of the directory of the tool starts with. -/
def dirStart : List Char := "bumpgate-japicmp-".toList

/-- The steps of a comparison: the directory `temp` is made at `f`, the tool
is run in it, and it is taken away. -/
structure ToolRun (host : Host) (tool : DiffTool) (command : Path → List String) (m : Machine)
    (r : Except Failure ChangeModel) (m' : Machine) (temp : Path) (f : Place) (m₁ m₂ : Machine) :
    Prop where
  made : (newTempDir host dirStart).on m = (.ok temp, m₁)
  name : ∃ n, temp = host.tempDir.child n ∧ Path.IsFileName n
  tempDir : HasTempDir host temp m.files f m₁.files
  free : m₁.files.get? ("japicmp.xml" :: f) = none
  run : (run host tool (command (reportIn temp)) (reportIn temp)).on m₁ = (r, m₂)
  files : ∀ q, m'.files.get? q = m.files.get? q
  requests : m'.requests = m.requests
  calls : m'.calls = m.calls ++ recorded (command (reportIn temp))
    (host.process (command (reportIn temp)))
  succeeds : ∀ model, r = .ok model →
    recorded (command (reportIn temp)) (host.process (command (reportIn temp))) =
      [command (reportIn temp)]

end DiffTool

/-! ### Calls of an engine -/

/-- What is on record of a call of an engine. -/
def Engine.Records (engine : Engine) (old new : Path) (exclusions : ExclusionList)
    (line : List String) : Prop :=
  match engine with
  | .tool t => ∃ report, line = t.command old new exclusions report
  | .given _ => line = ["compare", old.text, new.text] ++ exclusions.patterns

/-- What comes of a call: no file changes, no request is sent, and there is
one call on record if there is a change model. -/
structure EngineRun (engine : Engine) (old new : Path) (exclusions : ExclusionList)
    (m : Machine) (r : Except Failure ChangeModel) (m' : Machine) : Prop where
  files : ∀ q, m'.files.get? q = m.files.get? q
  requests : m'.requests = m.requests
  calls : ∀ model, r = .ok model →
    ∃ line, engine.Records old new exclusions line ∧ m'.calls = m.calls ++ [line]

/-- A comparison ends at once, or it goes the steps of `ToolRun`. -/
theorem toolRun_compare {tool : DiffTool} {old new : Path} {exclusions : ExclusionList}
    {r : Except Failure ChangeModel} (hground : Grounded m.files)
    (h : (tool.compare host old new exclusions).on m = (r, m')) :
    (∃ e, (newTempDir host DiffTool.dirStart).on m = (.error e, m') ∧ r = .error e) ∨
      ∃ temp f m₁ m₂, DiffTool.ToolRun host tool (tool.command old new exclusions)
        m r m' temp f m₁ m₂ := by
  rw [DiffTool.compare] at h
  rcases on_bind_cases h with ⟨e, hnew, rfl⟩ | ⟨temp, m₁, hnew, h⟩
  · exact .inl ⟨e, hnew, rfl⟩
  right
  obtain ⟨⟨number, hnumber⟩, hadd, htrace⟩ := createFresh_eq_ok hnew
  obtain ⟨n, rfl, hname⟩ : ∃ n, temp = host.tempDir.child n ∧ Path.IsFileName n :=
    ⟨_, hnumber, isFileName_freshName (by decide) (by decide) number⟩
  obtain ⟨f, htemp, hedit⟩ := hasTempDir_add hadd
  have hnone : m₁.files.get? ("japicmp.xml" :: f) = none := by
    rw [hedit.off _ (by simp)]
    exact hground.eq_none_of_suffix (by simp [htemp.free]) (List.suffix_cons _ f) (by simp)
  -- whatever becomes of the run, the directory is there to be taken away
  let temp := host.tempDir.child n
  let command := tool.command old new exclusions (DiffTool.reportIn temp)
  rcases hrun : (tool.run host command (DiffTool.reportIn temp)).on m₁ with ⟨r', m₂⟩
  obtain ⟨htemp₂, hrequests, hcalls, hrecorded⟩ := DiffTool.hasTempDir_run hname htemp hnone hrun
  obtain ⟨m₃, hclear, htrace₃, hback⟩ := htemp₂.clear hground
  obtain ⟨rfl, rfl⟩ := Prod.mk.inj ((on_orElseDo_bind hrun hclear).symm.trans h)
  refine ⟨temp, f, m₁, m₂, hnew, ⟨n, rfl, hname⟩, htemp, hnone, hrun, hback, ?_, ?_, hrecorded⟩
  · exact htrace₃.requests.trans (hrequests.trans htrace.requests)
  · rw [htrace₃.calls, hcalls, htrace.calls]

theorem engineRun_tool {tool : DiffTool} {old new : Path} {exclusions : ExclusionList}
    {r : Except Failure ChangeModel} (hground : Grounded m.files)
    (h : (tool.compare host old new exclusions).on m = (r, m')) :
    EngineRun (.tool tool) old new exclusions m r m' := by
  rcases toolRun_compare hground h with ⟨e, hnew, rfl⟩ | ⟨temp, f, m₁, m₂, hrun⟩
  · obtain ⟨-, hfiles, htrace⟩ := createFresh_eq_error hnew
    exact ⟨fun q => by rw [hfiles], htrace.requests, nofun⟩
  refine ⟨hrun.files, hrun.requests, fun model hr => ?_⟩
  refine ⟨_, ⟨DiffTool.reportIn temp, rfl⟩, ?_⟩
  rw [hrun.calls, hrun.succeeds model hr]

/-- An engine of the caller is called with the files as they are. -/
theorem on_compare_given
    (f : FileTree → Path → Path → ExclusionList → Except Failure ChangeModel)
    (host : Host) (old new : Path) (exclusions : ExclusionList) (m : Machine) :
    ((Engine.given f).compare host old new exclusions).on m = (f m.files old new exclusions,
      { m with calls := m.calls ++ [["compare", old.text, new.text] ++ exclusions.patterns] }) := by
  show Action.on (_ >>= _) m = _
  rw [on_bind_of_ok (on_recordCall _ m), on_bind_of_ok (on_files _), on_orFail]
  cases f m.files old new exclusions <;> rfl

/-- **A call** of an engine leaves its trace on record, and nothing else. -/
theorem engineRun_compare {engine : Engine} {old new : Path} {exclusions : ExclusionList}
    {r : Except Failure ChangeModel} (hground : Grounded m.files)
    (h : (engine.compare host old new exclusions).on m = (r, m')) :
    EngineRun engine old new exclusions m r m' := by
  cases engine with
  | tool t => exact engineRun_tool hground h
  | given f =>
    rw [on_compare_given] at h
    obtain ⟨rfl, rfl⟩ := Prod.mk.inj h
    exact ⟨fun _ => rfl, rfl, fun _ _ => ⟨_, rfl, rfl⟩⟩

end ReleaseGate
