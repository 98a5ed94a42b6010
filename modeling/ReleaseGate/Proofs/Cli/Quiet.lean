/-
ReleaseGate/Proofs/Cli/Quiet.lean

The flag `--quiet` takes away the notes and nothing else.

Design.  Two runs are compared, one with a word more at the end.  Reading is
from left to right, so what was read stays read (`readWords_append`), and the
arguments of the two runs are alike in all flags but one (`Alike`).  What the
gate is asked for never looks at that flag (`Alike.request_eq`), hence there
is one run of the gate behind both, and they may differ only in what they
print of it.  To say what that is, the printed text is taken apart into
messages (`printed`).

Nothing is said about the word `--`: behind it all words are left over, so no
command line that can be read has it.

Main result: `quiet_only_silences`.
-/
import ReleaseGate.Proofs.Cli.ExitStatus

namespace ReleaseGate.Cli

open ReleaseGate.Action

variable {a a' b : Arguments} {f g : Flag} {v : Value} {words rest : List (List Char)}

/-- The word that asks for silence. -/
def quietWord : String := "--quiet"

/-! ### Arguments -/

namespace Arguments

theorem value?_add (a : Arguments) (f g : Flag) (v : Value) :
    (a.add f v).value? g = if g = f then some v else a.value? g := by
  rw [value?, add, List.lookup_cons]
  by_cases h : g = f
  · rw [if_pos h, beq_iff_eq.2 h]
  · rw [if_neg h, beq_false_of_ne h, value?]

theorem has_eq (a : Arguments) (f : Flag) : a.has f = (a.value? f).isSome := by
  obtain ⟨values, extra⟩ := a
  rw [has, value?]
  induction values with
  | nil => rfl
  | cons entry rest ih =>
    rw [List.any_cons, List.lookup_cons, ih]
    by_cases h : f = entry.1
    · rw [beq_iff_eq.2 h, beq_iff_eq.2 h.symm]
      rfl
    · rw [beq_false_of_ne h, beq_false_of_ne (Ne.symm h), Bool.false_or]

end Arguments

/-- The same values for all flags but one. -/
def Alike (f : Flag) (a a' : Arguments) : Prop := ∀ g, g ≠ f → a.value? g = a'.value? g

theorem alike_add (a : Arguments) (f : Flag) (v : Value) : Alike f a (a.add f v) := by
  intro g hg
  rw [Arguments.value?_add, if_neg hg]

theorem Alike.has_eq (h : Alike f a a') (hg : g ≠ f) : a.has g = a'.has g := by
  rw [Arguments.has_eq, Arguments.has_eq, h g hg]

/-- What the gate is asked for does not depend on silence. -/
theorem Alike.request_eq (h : Alike .quiet a a') (host : Host) (engine? : Option Engine) :
    request host engine? a = request host engine? a' := by
  have hfields : a.candidateFields = a'.candidateFields := by
    simp only [Arguments.candidateFields, Arguments.field?, h.has_eq (g := .mayBeFirst) (by decide)]
    rw [h .oldLocation nofun, h .oldVersion nofun, h .newFile nofun, h .newVersion nofun,
      h .textReport nofun, h .htmlReport nofun, h .exclusionFile nofun]
  have hsettings : a.override host = a'.override host := by
    funext settings
    rw [Arguments.override, Arguments.override, h .toolJar nofun]
  rw [request, request, hfields, hsettings]

/-! ### Reading on -/

/-- What was read with nothing left over stays read. -/
theorem readWords_append (h : readWords words a = .ok b) (hextra : b.extra = [])
    (rest : List (List Char)) : readWords (words ++ rest) a = readWords rest b := by
  -- by what the next word is; what is left over would show in `b`
  fun_induction readWords words a with
  | case1 a =>
    obtain rfl := Except.ok.inj h
    rfl
  | case2 a tail =>
    obtain rfl := Except.ok.inj h
    simp at hextra
  | case3 word tail a hmark hword ih | case4 word tail a hmark hword ih =>
    rw [List.cons_append, readWords, if_neg hmark, hword]
    exact ih h
  | case5 word tail a hmark f isShort htakes value hword ih =>
    rw [List.cons_append, readWords, if_neg hmark, hword]
    simp only [if_pos htakes]
    exact ih h
  | case6 word a hmark f isShort htakes value tail hplain hword ih =>
    rw [List.cons_append, List.cons_append, readWords, if_neg hmark, hword]
    simp only [if_pos htakes, if_pos hplain]
    exact ih h
  | case7 | case8 => cases h
  | case9 word tail a hmark f isShort attached hword htakes ih =>
    rw [List.cons_append, readWords, if_neg hmark, hword]
    simp only [if_neg htakes]
    rcases hread : readSwitch f isShort attached a with stop | next
    · rw [hread] at h
      cases h
    · rw [hread] at h
      exact ih next h

/-! ### The word for silence -/

theorem eq_quietWord_of_flagNamed {s : List Char} (h : flagNamed? s = some .quiet) :
    s = quietWord.toList := by
  have hname := List.mem_singleton.1 (mem_names_of_flagNamed h)
  rw [← String.toList_ofList (l := s), hname]
  rfl

/-- A word that is taken for the flag is its name, or has a value attached. -/
theorem wordOf_quiet {word : List Char} {isShort : Bool} {attached : Option (List Char)}
    (h : wordOf word = .flag .quiet isShort attached) :
    isShort = false ∧ (attached = none → word = quietWord.toList) := by
  have hother : wordOther word ≠ .flag .quiet isShort attached := by
    unfold wordOther
    split
    · nofun
    · split <;> nofun
  -- the word is the name alone, or the name with a value attached
  unfold wordOf at h
  split at h
  · cases h
  split at h
  · next hnamed =>
    obtain ⟨⟩ := h
    obtain rfl := eq_quietWord_of_flagNamed hnamed
    exact ⟨by decide, fun _ => rfl⟩
  split at h
  · cases h
  split at h
  · split at h
    · next hnamed =>
      obtain ⟨⟩ := h
      obtain rfl := eq_quietWord_of_flagNamed hnamed
      exact ⟨by decide, nofun⟩
    · exact absurd h hother
  · exact absurd h hother

/-- A switch that is read is added, and a long name of it stands alone. -/
theorem readSwitch_eq_ok {isShort : Bool} {attached : Option (List Char)}
    (h : readSwitch f isShort attached a = .ok b) :
    b = a.add f none ∧ (isShort = false → attached = none) := by
  unfold readSwitch at h
  simp only at h
  split at h
  · cases h
  · cases h
  · cases h
  · rename_i herror
    refine ⟨(Except.ok.inj h).symm, ?_⟩
    rintro rfl
    cases attached with
    | none => rfl
    | some value => cases herror

/-- Only its word gives the flag. -/
theorem mem_of_has_quiet (h : readWords words a = .ok b) (ha : a.has .quiet = false)
    (hb : b.has .quiet = true) : quietWord.toList ∈ words := by
  have hkeep : ∀ {a : Arguments} {f v}, f ≠ .quiet → a.has .quiet = false →
      (a.add f v).has .quiet = false :=
    fun hf ha => ((alike_add _ _ _).has_eq hf.symm).symm.trans ha
  fun_induction readWords words a with
  | case1 | case2 =>
    obtain rfl := Except.ok.inj h
    exact absurd (ha.symm.trans hb) Bool.false_ne_true
  | case3 word tail a hmark hword ih | case4 word tail a hmark hword ih =>
    exact List.mem_cons_of_mem _ (ih h ha)
  -- a flag that takes a value is another one
  | case5 word tail a hmark f isShort htakes value hword ih =>
    refine List.mem_cons_of_mem _ (ih h (hkeep ?_ ha))
    rintro rfl
    cases htakes
  | case6 word a hmark f isShort htakes value tail hplain hword ih =>
    refine List.mem_cons_of_mem _ (List.mem_cons_of_mem _ (ih h (hkeep ?_ ha)))
    rintro rfl
    cases htakes
  | case7 | case8 => cases h
  | case9 word tail a hmark f isShort attached hword htakes ih =>
    rcases hread : readSwitch f isShort attached a with stop | next
    · rw [hread] at h
      cases h
    · rw [hread] at h
      obtain ⟨rfl, hnone⟩ := readSwitch_eq_ok hread
      by_cases hf : f = .quiet
      · subst hf
        obtain ⟨hshort, hname⟩ := wordOf_quiet hword
        rw [hname (hnone hshort)]
        exact List.mem_cons_self
      · exact List.mem_cons_of_mem _ (ih _ h (hkeep hf ha))

/-- A command line is complete if nothing is left over and no flag is missing. -/
theorem parse_eq_ok_iff : Arguments.parse words = .ok a ↔
    readWords words {} = .ok a ∧ (∀ f, f.isRequired = true → a.has f = true) ∧ a.extra = [] := by
  have hmissing (a : Arguments) : (Flag.all.filter fun f => f.isRequired && !a.has f) = [] ↔
      ∀ f, f.isRequired = true → a.has f = true := by
    have hall : ∀ f : Flag, f ∈ Flag.all := by rintro (_ | _) <;> decide
    simp [List.filter_eq_nil_iff, hall]
  unfold Arguments.parse
  rcases hread : readWords words {} with stop | b
  · exact ⟨nofun, fun h => nomatch h.1⟩
  simp only [bind, Except.bind, Except.ok.injEq]
  rcases hfilter : (Flag.all.filter fun f => f.isRequired && !b.has f) with - | ⟨f, missing⟩ <;>
    rw [hfilter]
  · by_cases hextra : b.extra = []
    · rw [if_pos (List.isEmpty_iff.2 hextra)]
      refine ⟨fun h => ?_, fun h => congrArg _ h.1⟩
      obtain rfl := Except.ok.inj h
      exact ⟨rfl, (hmissing b).1 hfilter, hextra⟩
    · rw [if_neg (mt List.isEmpty_iff.1 hextra)]
      refine ⟨nofun, ?_⟩
      rintro ⟨rfl, -, h⟩
      exact absurd h hextra
  · refine ⟨nofun, ?_⟩
    rintro ⟨rfl, hall, -⟩
    rw [(hmissing b).2 hall] at hfilter
    cases hfilter

/-- With the word at its end, a command line says the same but for silence. -/
theorem parse_append_quietWord (h : Arguments.parse words = .ok a) :
    Arguments.parse (words ++ [quietWord.toList]) = .ok (a.add .quiet none) := by
  obtain ⟨hread, hall, hextra⟩ := parse_eq_ok_iff.1 h
  refine parse_eq_ok_iff.2 ⟨?_, fun f hf => ?_, hextra⟩
  · rw [readWords_append hread hextra]
    rfl
  · rw [← (alike_add a .quiet none).has_eq (by rintro rfl; cases hf)]
    exact hall f hf

theorem has_quiet_of_parse (h : Arguments.parse words = .ok a) (hloud : quietWord.toList ∉ words) :
    a.has .quiet = false := by
  by_contra hquiet
  exact hloud (mem_of_has_quiet (parse_eq_ok_iff.1 h).1 rfl (by simpa using hquiet))

/-! ### What is printed -/

/-- A message to the user. -/
inductive Message where
  | info (text : String)
  | error (text : String)
  /-- The trace of a failure that was not expected. -/
  | trace
  deriving DecidableEq

/-- The text of some messages, one after the other. -/
def printed (messages : List Message) : String :=
  String.join (messages.map fun
    | .info text => info text
    | .error text => error text
    | .trace => "Traceback (most recent call last):\n")

/-- What there is to tell about a check that went well. -/
def notesOf : Except Failure Gate.Outcome → List String
  | .error _ => []
  | .ok o => o.notes

/-- What is wrong with a check, or with the release. -/
def complaints : Except Failure Gate.Outcome → List Message
  | .error e =>
    if e.isExpected then [.error e.message]
    else [.error ("Unexpected error: " ++ e.message), .trace]
  | .ok o => if o.passed then [] else [.error (o.verdict.message.getD "None")]

theorem not_info_of_mem_complaints {result : Except Failure Gate.Outcome} {text : String} :
    .info text ∉ complaints result := by
  unfold complaints
  split <;> split <;> simp

theorem printed_append (xs ys : List Message) : printed (xs ++ ys) = printed xs ++ printed ys := by
  rw [printed, printed, printed, List.map_append, String.join_append]

theorem failureText_eq (e : Failure) : failureText e = printed (complaints (.error e)) := by
  rw [failureText, complaints]
  split <;> simp [printed, String.join]

theorem outcomeText_eq (quiet : Bool) (o : Gate.Outcome) :
    outcomeText quiet o =
      printed ((if quiet then [] else o.notes.map .info) ++ complaints (.ok o)) := by
  have hnotes : printed (o.notes.map .info) = String.join (o.notes.map info) := by
    rw [printed, List.map_map]
    rfl
  rw [printed_append, outcomeText, complaints]
  congr 1
  · cases quiet with
    | true => rfl
    | false => exact hnotes.symm
  · split <;> simp [printed, String.join]

/-! ### Two runs -/

/-- The status that a check ends with. -/
def statusOf : Except Failure Gate.Outcome → Nat
  | .error _ => 1
  | .ok o => o.exitCode

variable {words : List String} {m m' : Machine} {result : Except Failure Gate.Outcome}

theorem run_eq_printed (host : Host) (engine? : Option Engine)
    (h : Arguments.parse (words.map String.toList) = .ok a)
    (hcheck : (check host engine? a).on m = (result, m')) :
    (run host engine? words).run m = ({
      status := statusOf result
      err := printed ((if a.has .quiet then [] else (notesOf result).map .info) ++
        complaints result) }, m') := by
  rw [run_of_parse host engine? h, hcheck]
  cases result with
  | error e => simp [failureText_eq, statusOf, notesOf]
  | ok o => simp only [outcomeText_eq, statusOf, notesOf]

theorem Alike.on_check_eq (h : Alike .quiet a a') (host : Host) (engine? : Option Engine)
    (m : Machine) : (check host engine? a).on m = (check host engine? a').on m := by
  rw [on_check, on_check, h.request_eq]

/-- **Silence** takes nothing away but the notes.  A command line that can be
read can be read with `--quiet` at its end, and says the same in all other
flags.  The two runs have one and the same check behind them and leave the
same machine, with its files, its requests and its calls.  They end with one
status and have the same to complain of; only the run without the flag prints
notes, which are all those of the check, and none if it has failed. -/
theorem quiet_only_silences (h : Arguments.parse (words.map String.toList) = .ok a)
    (hloud : quietWord ∉ words) (host : Host) (engine? : Option Engine) (m : Machine) :
    ∃ result m', (check host engine? a).on m = (result, m') ∧
      (run host engine? words).run m = ({
        status := statusOf result
        err := printed ((notesOf result).map .info ++ complaints result) }, m') ∧
      (run host engine? (words ++ [quietWord])).run m = ({
        status := statusOf result
        err := printed (complaints result) }, m') ∧
      (∀ text, .info text ∉ complaints result) ∧
      ∃ b, Arguments.parse ((words ++ [quietWord]).map String.toList) = .ok b ∧
        Alike .quiet a b := by
  have hloud' : quietWord.toList ∉ words.map String.toList := by
    simpa [String.toList_inj] using hloud
  have hparse : Arguments.parse ((words ++ [quietWord]).map String.toList) =
      .ok (a.add .quiet none) := by
    rw [List.map_append]
    exact parse_append_quietWord h
  have halike := alike_add a .quiet none
  rcases hcheck : (check host engine? a).on m with ⟨result, m'⟩
  refine ⟨result, m', rfl, ?_, ?_, fun text => not_info_of_mem_complaints, _, hparse, halike⟩
  · have hrun := run_eq_printed host engine? h hcheck
    rwa [has_quiet_of_parse h hloud', if_neg Bool.false_ne_true] at hrun
  · exact run_eq_printed host engine? hparse ((halike.on_check_eq host engine? m).symm.trans hcheck)

/-! ### A first release -/

/-- A release without one before it. -/
def firstReleaseWords : List String :=
  ["--oldJar", "/old.jar", "--oldJarVersion", "1.0.0", "--newJar", "/lib.jar", "--newJarVersion",
    "1.0.1", "--textReport", "/r.txt", "--htmlReport", "/r.html", "--ignoreMissingOld"]

def firstReleaseArguments : Arguments where
  values := [(.mayBeFirst, none), (.htmlReport, some "/r.html".toList),
    (.textReport, some "/r.txt".toList), (.newVersion, some "1.0.1".toList),
    (.newFile, some "/lib.jar".toList), (.oldVersion, some "1.0.0".toList),
    (.oldLocation, some "/old.jar".toList)]

/-- A machine with the new archive only. -/
def besideFirstRelease : Machine where
  files := ⟨[(["lib.jar"], .file .empty)]⟩

/-- Three notes are printed for it, and with the flag nothing at all. -/
theorem silent_firstRelease :
    ∃ m', (run .bare none firstReleaseWords).run besideFirstRelease = ({
        status := 0
        err := printed [.info (SkipReason.note .missingOld),
          .info "Text report written to /r.txt", .info "HTML report written to /r.html"] }, m') ∧
      (run .bare none (firstReleaseWords ++ [quietWord])).run besideFirstRelease =
        ({ status := 0 }, m') := by
  have hparse : Arguments.parse (firstReleaseWords.map String.toList) =
      .ok firstReleaseArguments := eq_ok_of_toOption (by decide +kernel)
  obtain ⟨result, m', hcheck, hloud, hsilent, -⟩ :=
    quiet_only_silences hparse (by decide +kernel) .bare none besideFirstRelease
  have hgood : ((check .bare none firstReleaseArguments).on besideFirstRelease).1.toOption.map
      (fun o => (o.notes, o.passed, o.exitCode)) = some ([SkipReason.note .missingOld,
        "Text report written to /r.txt", "HTML report written to /r.html"], true, 0) := by
    decide +kernel
  rw [hcheck] at hgood
  obtain ⟨o, ho, hvalues⟩ := Option.map_eq_some_iff.1 hgood
  obtain rfl : result = .ok o := eq_ok_of_toOption ho
  obtain ⟨hnotes, hpassed, hcode⟩ : o.notes = _ ∧ o.passed = true ∧ o.exitCode = 0 := by
    simpa only [Prod.mk.injEq] using hvalues
  have hnone : complaints (.ok o) = [] := if_pos hpassed
  rw [hnone, statusOf, hcode] at hloud hsilent
  rw [notesOf, hnotes] at hloud
  exact ⟨m', hloud, hsilent⟩

end ReleaseGate.Cli
