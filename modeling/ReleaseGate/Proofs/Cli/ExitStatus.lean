/-
ReleaseGate/Proofs/Cli/ExitStatus.lean

What the status of a command line says.

A command line ends in one of four ways (`Ends`): reading it stops, what it
asks for is refused, the gate fails, or the gate comes to a verdict.  The
status is 0 if the user has only asked something or the verdict lets the
release go out, and 1 in any other case.  Then there is a line that says
what is wrong.

Design.  What a command line asks the gate for is worked out without a look
at the machine (`request`), so up to the gate nothing is changed and nothing
is sent.

Main result: `exit_status`.
-/
import ReleaseGate.Cli.Run
import ReleaseGate.Proofs.Gate.Outcome

namespace ReleaseGate.Cli

open ReleaseGate.Action

variable {host : Host} {engine? : Option Engine} {m m' : Machine}

/-! ### Asking for help, or for the version -/

/-- The flag that stops the reading without an error. -/
def Stop.flag? : Stop → Option Flag
  | .help => some .help
  | .version => some .version
  | .wrong _ => none

theorem mem_names_of_flagNamed {s : List Char} {f : Flag} (h : flagNamed? s = some f) :
    String.ofList s ∈ f.names := by
  have hfound := List.find?_some (p := fun g : Flag => g.names.contains (String.ofList s)) h
  simpa using hfound

/-- One of the words starts with a name of the flag. -/
def Asks (words : List (List Char)) (f : Flag) : Prop :=
  ∃ word ∈ words, ∃ name ∈ f.names, name.toList <+: word

theorem Asks.cons {words : List (List Char)} {f : Flag} (h : Asks words f) (word : List Char) :
    Asks (word :: words) f := by
  obtain ⟨asking, hmem, hname⟩ := h
  exact ⟨asking, List.mem_cons_of_mem _ hmem, hname⟩

/-- A word that is taken for a flag starts with a name of it. -/
theorem asks_of_wordOf {word : List Char} {f : Flag} {isShort : Bool}
    {attached : Option (List Char)} (h : wordOf word = .flag f isShort attached)
    (rest : List (List Char)) : Asks (word :: rest) f := by
  have hstarts (name : String) (hmem : name ∈ f.names) (hname : name.toList <+: word) :
      Asks (word :: rest) f :=
    ⟨word, List.mem_cons_self, name, hmem, hname⟩
  have hnamed : ∀ {s}, flagNamed? s = some f → s <+: word → Asks (word :: rest) f := by
    intro s hs hword
    exact hstarts _ (mem_names_of_flagNamed hs) (by rwa [String.toList_ofList])
  have hother : wordOther word = .flag f isShort attached → Asks (word :: rest) f := by
    unfold wordOther
    split
    · rintro ⟨⟩
      exact hstarts "-h" (by decide) (List.prefix_append ['-', 'h'] _)
    · split <;> nofun
  -- a flag is named by the whole word, by what it has before `=`, or by `-h` with more behind
  unfold wordOf at h
  split at h
  · cases h
  split at h
  · next g hg =>
    obtain ⟨⟩ := h
    exact hnamed hg (List.prefix_refl _)
  split at h
  · cases h
  split at h
  · next name value hsplit =>
    split at h
    · next g hg =>
      obtain ⟨⟩ := h
      refine hnamed hg ?_
      unfold attachment? at hsplit
      split at hsplit
      · obtain ⟨⟩ := hsplit
        exact List.takeWhile_prefix _
      · cases hsplit
    · exact hother h
  · exact hother h

/-- A switch stops the reading only if it is the flag that was asked for. -/
theorem readSwitch_stop {f g : Flag} {isShort : Bool} {attached : Option (List Char)}
    {a : Arguments} {stop : Stop} (h : readSwitch f isShort attached a = .error stop)
    (hg : stop.flag? = some g) : f = g := by
  unfold readSwitch at h
  simp only at h
  split at h
  · obtain ⟨⟩ := h
    cases hg
  · obtain ⟨⟩ := h
    exact Option.some.inj hg
  · obtain ⟨⟩ := h
    exact Option.some.inj hg
  · cases h

/-- Reading words stops without an error only at one that asks for it. -/
theorem readWords_stop {words : List (List Char)} {a : Arguments} {stop : Stop} {g : Flag}
    (h : readWords words a = .error stop) (hg : stop.flag? = some g) : Asks words g := by
  -- by the words as they are read: a flag may take the word behind it along
  fun_induction readWords words a with
  | case1 => cases h
  | case2 => cases h
  | case3 word _ _ _ _ ih | case4 word _ _ _ _ ih => exact (ih h).cons word
  | case5 word _ _ _ _ _ _ _ _ ih => exact (ih h).cons word
  | case6 word _ _ _ _ _ value _ _ _ ih => exact ((ih h).cons value).cons word
  | case7 | case8 =>
    obtain ⟨⟩ := h
    cases hg
  | case9 word rest a _ f isShort attached hword _ ih =>
    rcases hread : readSwitch f isShort attached a with e | next <;> rw [hread] at h
    · obtain rfl := Except.error.inj h
      obtain rfl := readSwitch_stop hread hg
      exact asks_of_wordOf hword rest
    · exact (ih next h).cons word

theorem parse_stop {words : List (List Char)} {stop : Stop} {g : Flag}
    (h : Arguments.parse words = .error stop) (hg : stop.flag? = some g) : Asks words g := by
  unfold Arguments.parse at h
  rcases hread : readWords words {} with e | a <;> rw [hread] at h
  · obtain rfl := Except.error.inj h
    exact readWords_stop hread hg
  · -- what is found at the end is always an error
    simp only [bind, Except.bind] at h
    split at h
    · split at h
      · cases h
      · obtain ⟨⟩ := h
        cases hg
    · obtain ⟨⟩ := h
      cases hg

/-! ### What the gate is asked for -/

/-- What the arguments ask the gate for, or why that is refused. -/
def request (host : Host) (engine? : Option Engine) (a : Arguments) :
    Except Failure (Gate.Setup × Candidate) := do
  let settings ← (Settings.ofSources [] host.environment).mapError .rejected
  let settings ← a.override host settings
  let candidate ← (Candidate.ofData a.candidateFields).mapError .rejected
  return ({ settings, engine? }, candidate)

/-- The gate is asked when the request is complete. -/
theorem on_check (host : Host) (engine? : Option Engine) (a : Arguments) (m : Machine) :
    (check host engine? a).on m = match request host engine? a with
      | .error e => (.error e, m)
      | .ok (setup, candidate) => (Gate.run host setup candidate).on m := by
  -- settings of the host, then those of the arguments, then the candidate: each may be refused
  unfold check request
  rw [on_orFail_bind]
  rcases Settings.ofSources [] host.environment with e | settings
  · rfl
  show (_ : Except Failure Gate.Outcome × Machine) = match (do
    let settings ← a.override host settings
    let candidate ← (Candidate.ofData a.candidateFields).mapError .rejected
    return ({ settings, engine? }, candidate) : Except Failure (Gate.Setup × Candidate)) with
      | .error e => (.error e, m)
      | .ok (setup, candidate) => (Gate.run host setup candidate).on m
  simp only
  rw [on_orFail_bind]
  rcases a.override host settings with e | settings
  · rfl
  simp only
  rw [on_orFail_bind]
  rcases Candidate.ofData a.candidateFields with e | candidate <;> rfl

/-- A command line asks the gate for a candidate. -/
def Requests (host : Host) (engine? : Option Engine) (words : List String) (setup : Gate.Setup)
    (candidate : Candidate) : Prop :=
  ∃ a, Arguments.parse (words.map String.toList) = .ok a ∧
    request host engine? a = .ok (setup, candidate)

variable {words : List String} {setup setup' : Gate.Setup} {candidate candidate' : Candidate}

/-- A command line asks for one thing at most. -/
theorem Requests.unique (h : Requests host engine? words setup candidate)
    (h' : Requests host engine? words setup' candidate') :
    setup = setup' ∧ candidate = candidate' := by
  obtain ⟨a, hparse, hrequest⟩ := h
  obtain ⟨a', hparse', hrequest'⟩ := h'
  obtain rfl := Except.ok.inj (hparse.symm.trans hparse')
  exact Prod.mk.inj (Except.ok.inj (hrequest.symm.trans hrequest'))

theorem Requests.not_stopped (h : Requests host engine? words setup candidate) (stop : Stop) :
    Arguments.parse (words.map String.toList) ≠ .error stop := by
  obtain ⟨a, hparse, -⟩ := h
  rw [hparse]
  nofun

theorem Requests.not_refused (h : Requests host engine? words setup candidate) {a : Arguments}
    (hparse : Arguments.parse (words.map String.toList) = .ok a) (e : Failure) :
    request host engine? a ≠ .error e := by
  obtain ⟨a', hparse', hrequest⟩ := h
  obtain rfl := Except.ok.inj (hparse.symm.trans hparse')
  rw [hrequest]
  nofun

/-- How a command line ends. -/
inductive Ends (host : Host) (engine? : Option Engine) (words : List String) (m : Machine) :
    Output → Machine → Prop
  | stopped {stop : Stop} : Arguments.parse (words.map String.toList) = .error stop →
      Ends host engine? words m stop.output m
  | refused {a : Arguments} {e : Failure} :
      Arguments.parse (words.map String.toList) = .ok a → request host engine? a = .error e →
      Ends host engine? words m { status := 1, err := failureText e } m
  | failed {setup : Gate.Setup} {candidate : Candidate} {e : Failure} {m' : Machine} :
      Requests host engine? words setup candidate →
      (Gate.run host setup candidate).on m = (.error e, m') →
      Ends host engine? words m { status := 1, err := failureText e } m'
  | judged {setup : Gate.Setup} {candidate : Candidate} {o : Gate.Outcome} {m' : Machine}
      (quiet : Bool) : Requests host engine? words setup candidate →
      (Gate.run host setup candidate).on m = (.ok o, m') →
      Ends host engine? words m { status := o.exitCode, err := outcomeText quiet o } m'

/-- Once the words are read, what is printed follows from the check. -/
theorem run_of_parse (host : Host) (engine? : Option Engine) {words : List String}
    {a : Arguments} (h : Arguments.parse (words.map String.toList) = .ok a) (m : Machine) :
    (run host engine? words).run m = match (check host engine? a).on m with
      | (.error e, m') => ({ status := 1, err := failureText e }, m')
      | (.ok o, m') => ({ status := o.exitCode, err := outcomeText (a.has .quiet) o }, m') := by
  unfold run
  rw [h]
  rcases hcheck : (check host engine? a).on m with ⟨e | o, m'⟩ <;>
    change ((check host engine? a).run.run m : Id _) = _ at hcheck
  · simp only [StateT.run_bind, hcheck]
    rfl
  · simp only [StateT.run_bind, hcheck]
    rfl

theorem ends_run (host : Host) (engine? : Option Engine) (words : List String) (m : Machine) :
    ∃ out m', (run host engine? words).run m = (out, m') ∧ Ends host engine? words m out m' := by
  rcases hparse : Arguments.parse (words.map String.toList) with stop | a
  · refine ⟨_, m, ?_, .stopped hparse⟩
    unfold run
    rw [hparse]
    rfl
  have hrun := run_of_parse host engine? hparse m
  rw [on_check] at hrun
  rcases hrequest : request host engine? a with e | ⟨setup, candidate⟩ <;> rw [hrequest] at hrun
  · exact ⟨_, m, hrun, .refused hparse hrequest⟩
  · simp only at hrun
    rcases hgate : (Gate.run host setup candidate).on m with ⟨e | o, m'⟩ <;> rw [hgate] at hrun
    · exact ⟨_, m', hrun, .failed ⟨a, hparse, hrequest⟩ hgate⟩
    · exact ⟨_, m', hrun, .judged (a.has .quiet) ⟨a, hparse, hrequest⟩ hgate⟩

/-! ### Lines about errors -/

/-- A line about an error is printed, at the start or after a line end. -/
def PrintsError (err message : String) : Prop :=
  ∃ before after, err = before ++ error message ++ after ∧
    (before = "" ∨ ∃ lines, before = lines ++ "\n")

theorem printsError_error (message after : String) : PrintsError (error message ++ after) message :=
  ⟨"", after, by rw [String.empty_append], .inl rfl⟩

/-- A failure is named in a line about an error. -/
theorem printsError_failureText (e : Failure) :
    PrintsError (failureText e) e.message ∨
      PrintsError (failureText e) ("Unexpected error: " ++ e.message) := by
  unfold failureText
  split
  · left
    simpa using printsError_error e.message ""
  · exact .inr (printsError_error _ _)

/-- Lines of information end with a line end, if there are any. -/
theorem join_info (notes : List String) :
    String.join (notes.map info) = "" ∨ ∃ lines, String.join (notes.map info) = lines ++ "\n" := by
  rcases List.eq_nil_or_concat notes with rfl | ⟨first, last, rfl⟩
  · exact .inl rfl
  · refine .inr ⟨String.join (first.map info) ++ ("INFO: " ++ last), ?_⟩
    simp [String.join, info, String.append_assoc]

/-- A verdict that stops a release is told in a line about an error, after
the notes. -/
theorem printsError_outcomeText {o : Gate.Outcome} {message : String} (quiet : Bool)
    (hfail : ¬ o.passed) (hmessage : o.verdict.message = some message) :
    PrintsError (outcomeText quiet o) message := by
  refine ⟨if quiet then "" else String.join (o.notes.map info), "", ?_, ?_⟩
  · rw [outcomeText, if_neg hfail, hmessage, String.append_empty]
    rfl
  · cases quiet with
    | true => exact .inl rfl
    | false => exact join_info o.notes

/-! ### The status -/

/-- A release that may not go out ends with 1, any other one with 0. -/
theorem exitCode_cases (o : Gate.Outcome) :
    o.exitCode = 0 ∧ o.passed ∧ o.verdict.status = .pass ∨
      o.exitCode = 1 ∧ ¬ o.passed ∧ o.verdict.status = .fail := by
  unfold Gate.Outcome.exitCode Gate.Outcome.passed Verdict.passed
  cases o.verdict.status
  · exact .inl ⟨rfl, rfl, rfl⟩
  · exact .inr ⟨rfl, Bool.false_ne_true, rfl⟩

/-- What is said of a release that is stopped, is the mismatch between its
versions and its changes. -/
theorem message_of_not_passed {setup : Gate.Setup} {candidate : Candidate} {o : Gate.Outcome}
    (h : (Gate.run host setup candidate).on m = (.ok o, m')) (hfail : ¬ o.passed) :
    ∃ old new declared, Version.parse o.comparison.old.version = .ok old ∧
      Version.parse o.comparison.new.version = .ok new ∧ old.Grows new declared ∧
      o.verdict.message = some (Verdict.mismatchMessage old new declared
        o.comparison.model.requiredBump) := by
  obtain ⟨-, -, -, -, -, -, -, hverdict, -⟩ := Gate.run_eq_ok_iff.1 h
  rcases Comparison.verdict_eq_ok hverdict with
    ⟨-, hidentical⟩ | ⟨-, old, new, declared, hold, hnew, hdecides⟩
  · rw [Gate.Outcome.passed, hidentical] at hfail
    exact absurd rfl hfail
  · exact ⟨old, new, declared, hold, hnew, hdecides.grows, hdecides.message.trans (if_neg hfail)⟩

variable {out : Output}

/-- The user has asked for help or for the version, or the release may go
out. -/
def Succeeds (host : Host) (engine? : Option Engine) (words : List String) (m m' : Machine) :
    Prop :=
  (∃ stop f, Arguments.parse (words.map String.toList) = .error stop ∧ stop.flag? = some f) ∨
    ∃ setup candidate o, Requests host engine? words setup candidate ∧
      (Gate.run host setup candidate).on m = (.ok o, m') ∧ o.verdict.status = .pass

theorem succeeds_iff_of_stopped {stop : Stop}
    (hparse : Arguments.parse (words.map String.toList) = .error stop) :
    Succeeds host engine? words m m' ↔ ∃ f, stop.flag? = some f := by
  refine ⟨?_, fun ⟨f, hf⟩ => .inl ⟨stop, f, hparse, hf⟩⟩
  rintro (⟨stop', f, hparse', hf⟩ | ⟨_, _, _, hasks, -⟩)
  · obtain rfl := Except.error.inj (hparse.symm.trans hparse')
    exact ⟨f, hf⟩
  · exact absurd hparse (hasks.not_stopped stop)

theorem not_succeeds_of_refused {a : Arguments} {e : Failure}
    (hparse : Arguments.parse (words.map String.toList) = .ok a)
    (hrequest : request host engine? a = .error e) : ¬ Succeeds host engine? words m m' := by
  rintro (⟨_, _, hparse', -⟩ | ⟨_, _, _, hasks, -⟩)
  · cases hparse.symm.trans hparse'
  · exact hasks.not_refused hparse e hrequest

theorem succeeds_iff_of_requests (hasks : Requests host engine? words setup candidate) :
    Succeeds host engine? words m m' ↔
      ∃ o, (Gate.run host setup candidate).on m = (.ok o, m') ∧ o.verdict.status = .pass := by
  refine ⟨?_, fun ⟨o, hrun, hpass⟩ => .inr ⟨setup, candidate, o, hasks, hrun, hpass⟩⟩
  rintro (⟨stop, _, hparse, -⟩ | ⟨_, _, o, hasks', hrun, hpass⟩)
  · exact absurd hparse (hasks.not_stopped stop)
  · obtain ⟨rfl, rfl⟩ := hasks.unique hasks'
    exact ⟨o, hrun, hpass⟩

theorem Ends.status (h : Ends host engine? words m out m') :
    out.status = 0 ∧ Succeeds host engine? words m m' ∨
      out.status = 1 ∧ ¬ Succeeds host engine? words m m' ∧
        ∃ message, PrintsError out.err message := by
  have hfailure : ∀ e, ∃ message, PrintsError (failureText e) message := fun e =>
    (printsError_failureText e).elim (fun h => ⟨_, h⟩) fun h => ⟨_, h⟩
  cases h with
  | @stopped stop hparse =>
    rw [succeeds_iff_of_stopped hparse]
    cases stop with
    | help => exact .inl ⟨rfl, _, rfl⟩
    | version => exact .inl ⟨rfl, _, rfl⟩
    | wrong e => exact .inr ⟨rfl, nofun, _, printsError_error _ _⟩
  | @refused a e hparse hrequest =>
    exact .inr ⟨rfl, not_succeeds_of_refused hparse hrequest, hfailure e⟩
  | @failed setup candidate e _ hasks hrun =>
    refine .inr ⟨rfl, ?_, hfailure e⟩
    rw [succeeds_iff_of_requests hasks, hrun]
    rintro ⟨_, ⟨⟩, -⟩
  | @judged setup candidate o _ quiet hasks hrun =>
    rw [succeeds_iff_of_requests hasks, hrun]
    rcases exitCode_cases o with ⟨hzero, -, hpass⟩ | ⟨hone, hfail, hstatus⟩
    · exact .inl ⟨hzero, o, rfl, hpass⟩
    · -- a verdict against a release always has a message to print
      obtain ⟨old, new, declared, -, -, -, hmessage⟩ := message_of_not_passed hrun hfail
      refine .inr ⟨hone, ?_, _, printsError_outcomeText quiet hfail hmessage⟩
      rintro ⟨_, ⟨⟩, hpass⟩
      cases hstatus.symm.trans hpass

/-- The text of a verdict is what is printed. -/
theorem Ends.err_of_judged (h : Ends host engine? words m out m') {o : Gate.Outcome}
    {m₁ : Machine} (hasks : Requests host engine? words setup candidate)
    (hrun : (Gate.run host setup candidate).on m = (.ok o, m₁)) :
    ∃ quiet, out.err = outcomeText quiet o := by
  cases h with
  | @stopped stop hparse => exact absurd hparse (hasks.not_stopped stop)
  | @refused a e hparse hrequest => exact absurd hrequest (hasks.not_refused hparse e)
  | failed hasks' hrun' =>
    obtain ⟨rfl, rfl⟩ := hasks.unique hasks'
    cases hrun.symm.trans hrun'
  | judged quiet hasks' hrun' =>
    obtain ⟨rfl, rfl⟩ := hasks.unique hasks'
    obtain ⟨⟨⟩, -⟩ := Prod.mk.inj (hrun.symm.trans hrun')
    exact ⟨quiet, rfl⟩

/-- Where the gate is not asked for anything, the machine is left as it is. -/
theorem Ends.eq_of_not_requests (h : Ends host engine? words m out m')
    (hnone : ∀ setup candidate, ¬ Requests host engine? words setup candidate) : m' = m := by
  cases h with
  | stopped | refused => rfl
  | failed hasks | judged _ hasks => exact absurd hasks (hnone _ _)

/-- **The status** of a command line is 0 if it was only asked for help or for
the version, or if the gate lets the release go out, and 1 otherwise.  With 1
a line says what is wrong, and what stops a release is said to be the
mismatch.  Where the reading of the words stops, or what they ask for is
refused, nothing is changed and nothing is sent. -/
theorem exit_status (host : Host) (engine? : Option Engine) (words : List String) (m : Machine) :
    ∃ out m', (run host engine? words).run m = (out, m') ∧
      (out.status = 0 ∨ out.status = 1) ∧
      (out.status = 0 ↔ Succeeds host engine? words m m') ∧
      (∀ stop f, Arguments.parse (words.map String.toList) = .error stop → stop.flag? = some f →
        Asks (words.map String.toList) f) ∧
      (out.status = 1 → ∃ message, PrintsError out.err message) ∧
      (∀ setup candidate o m₁, Requests host engine? words setup candidate →
        (Gate.run host setup candidate).on m = (.ok o, m₁) → o.verdict.status = .fail →
        ∃ old new declared, Version.parse o.comparison.old.version = .ok old ∧
          Version.parse o.comparison.new.version = .ok new ∧ old.Grows new declared ∧
          o.verdict.message = some (Verdict.mismatchMessage old new declared
            o.comparison.model.requiredBump) ∧
          PrintsError out.err (Verdict.mismatchMessage old new declared
            o.comparison.model.requiredBump)) ∧
      (∀ stop, Arguments.parse (words.map String.toList) = .error stop → m' = m) ∧
      ∀ a e, Arguments.parse (words.map String.toList) = .ok a →
        request host engine? a = .error e → m' = m := by
  obtain ⟨out, m', hrun, hends⟩ := ends_run host engine? words m
  refine ⟨out, m', hrun, ?_, ?_, fun stop f => parse_stop, ?_, ?_, fun stop hparse =>
    hends.eq_of_not_requests fun _ _ hasks => hasks.not_stopped stop hparse,
    fun a e hparse hrefused =>
      hends.eq_of_not_requests fun _ _ hasks => hasks.not_refused hparse e hrefused⟩
  · exact hends.status.imp And.left And.left
  · rcases hends.status with ⟨hzero, hsucceeds⟩ | ⟨hone, hfails, -⟩
    · exact iff_of_true hzero hsucceeds
    · exact iff_of_false (by simp [hone]) hfails
  · intro hone
    rcases hends.status with ⟨hzero, -⟩ | ⟨-, -, hprints⟩
    · cases hzero.symm.trans hone
    · exact hprints
  · intro setup candidate o m₁ hasks hgate hstatus
    have hfail : ¬ o.passed := by
      simp [Gate.Outcome.passed, Verdict.passed, hstatus]
    obtain ⟨old, new, declared, hold, hnew, hgrows, hmessage⟩ := message_of_not_passed hgate hfail
    obtain ⟨quiet, herr⟩ := hends.err_of_judged hasks hgate
    refine ⟨old, new, declared, hold, hnew, hgrows, hmessage, ?_⟩
    rw [herr]
    exact printsError_outcomeText quiet hfail hmessage

end ReleaseGate.Cli
