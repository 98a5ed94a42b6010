/-
ReleaseGate/Proofs/Version.lean

What texts are versions, and how versions are written.

`Spells s p` is the grammar: `s` is three runs of decimal digits with points
between them, and an end.  Its parts are settled by the text, since no point
and no start of a qualifier is a digit, so reading finds them if there are
any (`read?_eq_some_iff`).  A version as it is written spells itself, with
digits that have its components as values; so reading undoes writing, and
the written form of what was read is a normal form.

Main results: `read?_eq_some_iff`, `parse_text`, `parse_by_grammar`.
-/
import Mathlib.Data.List.TakeWhile
import Mathlib.Data.Nat.Digits.Defs
import ReleaseGate.Proofs.Text.Lines
import ReleaseGate.Proofs.Text.Stretches
import ReleaseGate.Version

namespace ReleaseGate

/-! ### Digits -/

namespace Text

variable {c : Char} {s : List Char}

theorem digitValue?_lt {d : Nat} (h : digitValue? c = some d) : d < 10 := by
  obtain ⟨z, hz, rfl⟩ := Option.map_eq_some_iff.1 h
  have hrow := List.find?_some hz
  simp only [Bool.and_eq_true, decide_eq_true_eq] at hrow
  omega

/-- The digits of ASCII have the values that they had there. -/
theorem digitValue?_of_isDigit (h : c.isDigit = true) : digitValue? c = some (c.toNat - 48) := by
  have hrow : 48 ≤ c.toNat ∧ c.toNat < 58 := by
    simp only [Char.isDigit, Bool.and_eq_true, decide_eq_true_eq] at h
    exact ⟨h.1, Nat.lt_succ_of_le h.2⟩
  rw [digitValue?, digitZeros, List.find?_cons_of_pos]
  · rfl
  · simpa using hrow

/-- The number that decimal digits denote, the most significant one first. -/
def denoted (s : List Char) : Nat :=
  Nat.ofDigits 10 (s.reverse.map fun c => (digitValue? c).getD 0)

theorem digitsValue_eq_denoted (s : List Char) : digitsValue s = denoted s := by
  rw [denoted, Nat.ofDigits_eq_foldr, List.foldr_map, List.foldr_reverse, digitsValue]
  simp only [Nat.cast_id, Nat.add_comm]

theorem denoted_lt (s : List Char) : denoted s < 10 ^ s.length := by
  have hdigits : ∀ d ∈ s.reverse.map fun c => (digitValue? c).getD 0, d < 10 := by
    intro d hd
    obtain ⟨c, -, rfl⟩ := List.mem_map.1 hd
    rcases hc : digitValue? c with - | d
    · decide
    · exact digitValue?_lt hc
  have hlt := Nat.ofDigits_lt_base_pow_length (by decide) hdigits
  rwa [List.length_map, List.length_reverse] at hlt

theorem isDigit_of_mem_decimal {n : Nat} (h : c ∈ decimal n) : c.isDigit = true :=
  Nat.isDigit_of_mem_toDigits (by decide) (by decide) h

/-- A number is what its digits denote. -/
theorem denoted_decimal (n : Nat) : denoted (decimal n) = n := by
  calc denoted (decimal n) = digitsValue (decimal n) := (digitsValue_eq_denoted _).symm
    _ = Nat.ofDigitChars 10 (decimal n) 0 := by
        refine List.foldl_ext _ _ _ fun k c hc => ?_
        rw [digitValue?_of_isDigit (isDigit_of_mem_decimal hc)]
        rfl
    _ = n := Nat.ofDigitChars_ten_toDigits

theorem isBlank_of_isAlphanum (h : c.isAlphanum = true) : isBlank c = false := by
  have hrange : ((65 ≤ c.toNat ∧ c.toNat ≤ 90) ∨ (97 ≤ c.toNat ∧ c.toNat ≤ 122)) ∨
      (48 ≤ c.toNat ∧ c.toNat ≤ 57) := by
    delta Char.isAlphanum Char.isAlpha Char.isUpper Char.isLower Char.isDigit at h
    simp only [Bool.or_eq_true, Bool.and_eq_true, decide_eq_true_eq] at h
    exact h
  simp only [isBlank, Bool.or_eq_false_iff, Bool.and_eq_false_iff, decide_eq_false_iff_not,
    beq_eq_false_iff_ne]
  omega

end Text

namespace Version

open Text (isDigit digitsValue strip)

variable {s d rest : List Char} {p q : Parts} {t : String} {v : Version}

/-! ### The grammar -/

/-- A run of decimal digits that is not empty. -/
def IsRun (digits : List Char) : Prop := digits ≠ [] ∧ ∀ c ∈ digits, isDigit c = true

/-- What may stand behind the three numbers: nothing, or a minus or plus and
any ASCII letters, digits, points, pluses and minuses. -/
inductive IsEnd : List Char → Prop
  | nothing : IsEnd []
  | qualifier {c : Char} {rest : List Char} : c = '-' ∨ c = '+' →
      (∀ x ∈ rest, x.isAlphanum = true ∨ x = '.' ∨ x = '+' ∨ x = '-') → IsEnd (c :: rest)

/-- A text is three runs of digits with points between them, and an end. -/
structure Spells (s : List Char) (p : Parts) : Prop where
  text : s = p.major ++ '.' :: (p.minor ++ '.' :: (p.patch ++ p.tail))
  major : IsRun p.major
  minor : IsRun p.minor
  patch : IsRun p.patch
  tail : IsEnd p.tail

theorem isTail_iff : isTail s = true ↔ IsEnd s := by
  cases s with
  | nil => exact ⟨fun _ => .nothing, fun _ => rfl⟩
  | cons c rest =>
    have hrest : (rest.all isQualifierChar = true) ↔
        ∀ x ∈ rest, x.isAlphanum = true ∨ x = '.' ∨ x = '+' ∨ x = '-' := by
      simp [List.all_eq_true, isQualifierChar, or_assoc]
    rw [isTail, Bool.and_eq_true, hrest, Bool.or_eq_true, beq_iff_eq, beq_iff_eq]
    exact ⟨fun h => .qualifier h.1 h.2, fun | .qualifier hc hx => ⟨hc, hx⟩⟩

/-- A run of digits ends where the digits end. -/
theorem run?_eq_some_iff :
    run? s = some (d, rest) ↔ s = d ++ rest ∧ IsRun d ∧ ∀ c ∈ rest.head?, isDigit c = false := by
  constructor
  · intro h
    obtain ⟨hne, hrun⟩ := Option.ite_none_left_eq_some.1 h
    obtain ⟨rfl, rfl⟩ := Prod.mk.inj (Option.some.inj hrun)
    refine ⟨List.takeWhile_append_dropWhile.symm, ⟨?_, fun c => List.mem_takeWhile_imp⟩, ?_⟩
    · simpa using hne
    · exact Text.head?_dropWhile isDigit s
  · rintro ⟨rfl, ⟨hne, hd⟩, hrest⟩
    obtain ⟨hrun, hstop⟩ := Text.span_append hd hrest
    rw [run?, hrun, hstop, if_neg (by simpa using hne)]

theorem afterPoint?_eq_some_iff : afterPoint? s = some rest ↔ s = '.' :: rest := by
  unfold afterPoint?
  split
  · simp
  · next h => exact ⟨nofun, fun hs => absurd hs (h rest)⟩

/-- No end of a version text goes on with a digit. -/
theorem IsEnd.not_isDigit (h : IsEnd s) : ∀ c ∈ s.head?, isDigit c = false := by
  cases h with
  | nothing => nofun
  | qualifier hc =>
    rintro _ ⟨⟩
    rcases hc with rfl | rfl <;> decide

/-- **Reading** finds the parts of a text if and only if they are its parts
by the grammar. -/
theorem read?_eq_some_iff : read? s = some p ↔ Spells s p := by
  have hpoint : ∀ rest : List Char, ∀ c ∈ ('.' :: rest).head?, isDigit c = false := by
    rintro rest _ ⟨⟩
    decide
  constructor
  · intro h
    obtain ⟨⟨major, s₁⟩, hrun₁, h⟩ := Option.bind_eq_some_iff.1 h
    obtain ⟨s₂, hpoint₁, h⟩ := Option.bind_eq_some_iff.1 h
    obtain ⟨⟨minor, s₃⟩, hrun₂, h⟩ := Option.bind_eq_some_iff.1 h
    obtain ⟨s₄, hpoint₂, h⟩ := Option.bind_eq_some_iff.1 h
    obtain ⟨⟨patch, tail⟩, hrun₃, h⟩ := Option.bind_eq_some_iff.1 h
    obtain ⟨htail, h⟩ := Option.ite_none_right_eq_some.1 h
    obtain rfl := Option.some.inj h
    obtain ⟨rfl, hmajor, -⟩ := run?_eq_some_iff.1 hrun₁
    obtain rfl := afterPoint?_eq_some_iff.1 hpoint₁
    obtain ⟨rfl, hminor, -⟩ := run?_eq_some_iff.1 hrun₂
    obtain rfl := afterPoint?_eq_some_iff.1 hpoint₂
    obtain ⟨rfl, hpatch, -⟩ := run?_eq_some_iff.1 hrun₃
    exact ⟨rfl, hmajor, hminor, hpatch, isTail_iff.1 htail⟩
  · -- no run can go on, since what follows each one is not a digit
    rintro ⟨rfl, hmajor, hminor, hpatch, htail⟩
    refine Option.bind_eq_some_iff.2 ⟨_, run?_eq_some_iff.2 ⟨rfl, hmajor, hpoint _⟩, ?_⟩
    refine Option.bind_eq_some_iff.2 ⟨_, afterPoint?_eq_some_iff.2 rfl, ?_⟩
    refine Option.bind_eq_some_iff.2 ⟨_, run?_eq_some_iff.2 ⟨rfl, hminor, hpoint _⟩, ?_⟩
    refine Option.bind_eq_some_iff.2 ⟨_, afterPoint?_eq_some_iff.2 rfl, ?_⟩
    refine Option.bind_eq_some_iff.2 ⟨_, run?_eq_some_iff.2 ⟨rfl, hpatch, htail.not_isDigit⟩, ?_⟩
    exact if_pos (isTail_iff.2 htail)

/-- A text has its parts in one way only. -/
theorem Spells.unique (h : Spells s p) (h' : Spells s q) : p = q :=
  Option.some.inj ((read?_eq_some_iff.2 h).symm.trans (read?_eq_some_iff.2 h'))

/-! ### The version of a text -/

/-- The version has the values of the digits as components, and the end as
qualifier, unless there is none. -/
structure Denotes (p : Parts) (v : Version) : Prop where
  major : v.major = Text.denoted p.major
  minor : v.minor = Text.denoted p.minor
  patch : v.patch = Text.denoted p.patch
  qualifier : v.qualifier = if p.tail = [] then none else some (String.ofList p.tail)

/-- No component has more digits than are read. -/
structure Parts.Short (p : Parts) : Prop where
  major : p.major.length ≤ digitLimit
  minor : p.minor.length ≤ digitLimit
  patch : p.patch.length ≤ digitLimit

theorem component_eq_ok_iff {n : Nat} :
    component d = .ok n ↔ d.length ≤ digitLimit ∧ n = digitsValue d := by
  unfold component
  split
  · next h => simp [h, eq_comm]
  · next h => simp [h]

theorem bind_eq_ok {ε α β : Type} {x : Except ε α} {f : α → Except ε β} {b : β} :
    (x >>= f) = .ok b ↔ ∃ a, x = .ok a ∧ f a = .ok b := by
  cases x with
  | error e => exact ⟨nofun, nofun⟩
  | ok a => exact ⟨fun h => ⟨a, rfl, h⟩, fun ⟨_, rfl, h⟩ => h⟩

theorem ofParts_eq_ok_iff : ofParts p = .ok v ↔ p.Short ∧ Denotes p v := by
  have hlast : ∀ a b c : Nat, (⟨a, b, c,
      if p.tail.isEmpty then none else some (String.ofList p.tail)⟩ : Version) = v ↔
      v.major = a ∧ v.minor = b ∧ v.patch = c ∧
        v.qualifier = if p.tail = [] then none else some (String.ofList p.tail) := by
    intro a b c
    simp only [List.isEmpty_iff]
    constructor
    · rintro rfl
      exact ⟨rfl, rfl, rfl, rfl⟩
    · obtain ⟨major, minor, patch, qualifier⟩ := v
      rintro ⟨rfl, rfl, rfl, rfl⟩
      rfl
  constructor
  · intro h
    obtain ⟨a, ha, h⟩ := bind_eq_ok.1 h
    obtain ⟨b, hb, h⟩ := bind_eq_ok.1 h
    obtain ⟨c, hc, h⟩ := bind_eq_ok.1 h
    obtain ⟨hmajor, rfl⟩ := component_eq_ok_iff.1 ha
    obtain ⟨hminor, rfl⟩ := component_eq_ok_iff.1 hb
    obtain ⟨hpatch, rfl⟩ := component_eq_ok_iff.1 hc
    simp only [Text.digitsValue_eq_denoted] at h
    obtain ⟨ha, hb, hc, hq⟩ := (hlast _ _ _).1 (Except.ok.inj h)
    exact ⟨⟨hmajor, hminor, hpatch⟩, ha, hb, hc, hq⟩
  · rintro ⟨⟨hmajor, hminor, hpatch⟩, ha, hb, hc, hq⟩
    rw [← Text.digitsValue_eq_denoted] at ha hb hc
    refine bind_eq_ok.2 ⟨_, component_eq_ok_iff.2 ⟨hmajor, ha⟩, ?_⟩
    refine bind_eq_ok.2 ⟨_, component_eq_ok_iff.2 ⟨hminor, hb⟩, ?_⟩
    refine bind_eq_ok.2 ⟨_, component_eq_ok_iff.2 ⟨hpatch, hc⟩, ?_⟩
    exact congrArg Except.ok ((hlast _ _ _).2 ⟨rfl, rfl, rfl, hq⟩)

/-- A text is a version if it has the parts of one, and they are short enough
to be read. -/
theorem parse_eq_ok_iff :
    parse t = .ok v ↔ ∃ p, Spells (strip t.toList) p ∧ p.Short ∧ Denotes p v := by
  unfold parse
  rcases hread : read? (strip t.toList) with - | p
  · refine ⟨nofun, ?_⟩
    rintro ⟨p, hp, -⟩
    rw [read?_eq_some_iff.2 hp] at hread
    cases hread
  · have hp := read?_eq_some_iff.1 hread
    constructor
    · intro h
      exact ⟨p, hp, ofParts_eq_ok_iff.1 h⟩
    · rintro ⟨p', hp', h⟩
      obtain rfl := hp.unique hp'
      exact ofParts_eq_ok_iff.2 h

/-- What does not have the parts of a version is refused as it is. -/
theorem parse_eq_unreadable (h : ¬ ∃ p, Spells (strip t.toList) p) :
    parse t = .error (.unreadable t) := by
  unfold parse
  rcases hread : read? (strip t.toList) with - | p
  · rfl
  · exact absurd ⟨p, read?_eq_some_iff.1 hread⟩ h

/-! ### Writing -/

/-- A version that can be written: its components have no more digits than
are read, and its qualifier is a whole one. -/
structure Regular (v : Version) : Prop where
  major : v.major < 10 ^ digitLimit
  minor : v.minor < 10 ^ digitLimit
  patch : v.patch < 10 ^ digitLimit
  qualifier : ∀ q ∈ v.qualifier, q ≠ "" ∧ IsEnd q.toList

/-- The parts of a version as it is written. -/
def parts (v : Version) : Parts :=
  ⟨Text.decimal v.major, Text.decimal v.minor, Text.decimal v.patch, (v.qualifier.getD "").toList⟩

theorem isRun_decimal (n : Nat) : IsRun (Text.decimal n) := by
  refine ⟨Nat.toDigits_ne_nil, fun c hc => ?_⟩
  rw [isDigit, Text.digitValue?_of_isDigit (Text.isDigit_of_mem_decimal hc)]
  rfl

theorem length_decimal_le_iff {n : Nat} :
    (Text.decimal n).length ≤ digitLimit ↔ n < 10 ^ digitLimit :=
  Nat.length_toDigits_le_iff (by decide) (by decide)

theorem Regular.isEnd_tail (h : Regular v) : IsEnd v.parts.tail := by
  rcases hq : v.qualifier with - | q
  · rw [parts, hq]
    exact .nothing
  · rw [parts, hq]
    exact (h.qualifier q hq).2

theorem Regular.spells (h : Regular v) : Spells v.chars v.parts :=
  ⟨rfl, isRun_decimal _, isRun_decimal _, isRun_decimal _, h.isEnd_tail⟩

theorem Regular.short (h : Regular v) : v.parts.Short :=
  ⟨length_decimal_le_iff.2 h.major, length_decimal_le_iff.2 h.minor,
    length_decimal_le_iff.2 h.patch⟩

theorem Regular.denotes (h : Regular v) : Denotes v.parts v := by
  have hvalue : ∀ n, n = Text.denoted (Text.decimal n) := fun n => (Text.denoted_decimal n).symm
  refine ⟨hvalue _, hvalue _, hvalue _, ?_⟩
  rcases hq : v.qualifier with - | q
  · rw [parts, hq]
    rfl
  · -- only an empty qualifier would be lost
    have hne : q.toList ≠ [] := fun hnil => (h.qualifier q hq).1 (String.toList_eq_nil_iff.1 hnil)
    rw [parts, hq]
    simp [hne]

/-- Nothing in a written version is blank. -/
theorem Regular.strip_chars (h : Regular v) : strip v.chars = v.chars := by
  have hdecimal : ∀ n, ∀ c ∈ Text.decimal n, Text.isBlank c = false := fun n c hc =>
    Text.isBlank_of_isAlphanum (by simp [Char.isAlphanum, Text.isDigit_of_mem_decimal hc])
  have htail : ∀ c ∈ v.parts.tail, Text.isBlank c = false := by
    have hend := h.isEnd_tail
    generalize v.parts.tail = tail at hend
    cases hend with
    | nothing => nofun
    | qualifier hc hrest =>
      rw [List.forall_mem_cons]
      constructor
      · rcases hc with rfl | rfl <;> decide
      · intro x hx
        rcases hrest x hx with hx | rfl | rfl | rfl
        · exact Text.isBlank_of_isAlphanum hx
        all_goals decide
  refine Text.strip_eq_self ?_
  have hpoint : Text.isBlank '.' = false := by decide
  simp only [chars, List.forall_mem_append, List.forall_mem_cons]
  exact ⟨hdecimal _, hpoint, hdecimal _, hpoint, hdecimal _, htail⟩

/-- **Reading undoes writing.** -/
theorem parse_text (h : Regular v) : parse v.text = .ok v := by
  refine parse_eq_ok_iff.2 ⟨v.parts, ?_, h.short, h.denotes⟩
  rw [text, String.toList_ofList, h.strip_chars]
  exact h.spells

/-- What was read can be written. -/
theorem regular_of_parse (h : parse t = .ok v) : Regular v := by
  obtain ⟨p, hspells, hshort, hdenotes⟩ := parse_eq_ok_iff.1 h
  -- leading zeros count as digits, but written numbers have none
  have hlt : ∀ {digits : List Char}, digits.length ≤ digitLimit →
      Text.denoted digits < 10 ^ digitLimit := fun {digits} hdigits =>
    Nat.lt_of_lt_of_le (Text.denoted_lt digits) (Nat.pow_le_pow_right (by decide) hdigits)
  refine ⟨?_, ?_, ?_, fun q hq => ?_⟩
  · rw [hdenotes.major]
    exact hlt hshort.major
  · rw [hdenotes.minor]
    exact hlt hshort.minor
  · rw [hdenotes.patch]
    exact hlt hshort.patch
  · have hqualifier := hdenotes.qualifier
    rw [Option.mem_def.1 hq] at hqualifier
    obtain ⟨hne, hq⟩ := Option.ite_none_left_eq_some.1 hqualifier.symm
    obtain rfl := Option.some.inj hq
    rw [String.toList_ofList]
    exact ⟨fun hnil => hne (String.ofList_eq_empty_iff.1 hnil), hspells.tail⟩

/-! ### Reading and writing -/

/-- Every run of digits in the text is short enough to be read. -/
def ShortRuns (s : List Char) : Prop :=
  ∀ run, run <:+: s → (∀ c ∈ run, isDigit c = true) → run.length ≤ digitLimit

theorem Spells.short (h : Spells (strip s) p) (hs : ShortRuns s) : p.Short := by
  have hlimit : ∀ run, run <:+: strip s → IsRun run → run.length ≤ digitLimit :=
    fun run hrun hdigits => hs run (hrun.trans (Text.strip_infix s)) hdigits.2
  rw [h.text] at hlimit
  refine ⟨hlimit _ (List.prefix_append _ _).isInfix h.major, hlimit _ ?_ h.minor,
    hlimit _ ?_ h.patch⟩
  · exact ⟨p.major ++ ['.'], '.' :: (p.patch ++ p.tail), by simp⟩
  · exact ⟨p.major ++ '.' :: (p.minor ++ ['.']), p.tail, by simp⟩

/-- **Versions are read by their grammar.**  As long as runs of digits are
not too long, a text is read if and only if it spells a version, blanks at
its ends aside, and then as what its parts denote; anything else is refused.
Reading undoes writing, so the written form of what was read is a normal
form: two texts share it if and only if they are read as one version. -/
theorem parse_by_grammar :
    (∀ t : String, ShortRuns t.toList →
      ((∃ v, parse t = .ok v) ↔ ∃ p, Spells (strip t.toList) p) ∧
      (∀ p v, Spells (strip t.toList) p → parse t = .ok v → Denotes p v) ∧
      ((¬ ∃ p, Spells (strip t.toList) p) → parse t = .error (.unreadable t))) ∧
    (∀ v, Regular v → parse v.text = .ok v) ∧
    (∀ t v, parse t = .ok v → parse v.text = .ok v) ∧
    ∀ t t' v v', parse t = .ok v → parse t' = .ok v' → (v.text = v'.text ↔ v = v') := by
  have hnormal : ∀ t v, parse t = .ok v → parse v.text = .ok v := fun t v h =>
    parse_text (regular_of_parse h)
  refine ⟨fun t ht => ⟨⟨?_, ?_⟩, ?_, parse_eq_unreadable⟩, fun v => parse_text, hnormal, ?_⟩
  · rintro ⟨v, hv⟩
    obtain ⟨p, hspells, -, -⟩ := parse_eq_ok_iff.1 hv
    exact ⟨p, hspells⟩
  · rintro ⟨p, hspells⟩
    exact ⟨⟨_, _, _, _⟩, parse_eq_ok_iff.2 ⟨p, hspells, hspells.short ht, rfl, rfl, rfl, rfl⟩⟩
  · intro p v hspells hv
    obtain ⟨p', hspells', -, hdenotes⟩ := parse_eq_ok_iff.1 hv
    rwa [hspells.unique hspells']
  · intro t t' v v' hv hv'
    constructor
    · intro htext
      have hback := hnormal t v hv
      rw [htext, hnormal t' v' hv'] at hback
      exact (Except.ok.inj hback).symm
    · rintro rfl
      rfl

/-- A version whose components have one digit each. -/
def releaseCandidate : Version := ⟨1, 2, 3, some "-rc.1"⟩

theorem regular_releaseCandidate : Regular releaseCandidate := by
  refine ⟨length_decimal_le_iff.1 (by decide), length_decimal_le_iff.1 (by decide),
    length_decimal_le_iff.1 (by decide), ?_⟩
  rintro _ ⟨⟩
  exact ⟨by decide, isTail_iff.1 (by decide)⟩

/-- Leading zeros, digits of another script and blanks leave no trace in the
normal form. -/
theorem parse_by_grammar_scripts :
    ∃ v w, parse " 01.2.٣-rc.1\n" = .ok v ∧ parse "1.02.3-rc.1" = .ok w ∧
      v.text = "1.2.3-rc.1" ∧ parse v.text = .ok v ∧ v = w ∧
      parse releaseCandidate.text = .ok releaseCandidate ∧
      parse "1.2-rc.1" = .error (.unreadable "1.2-rc.1") := by
  obtain ⟨hread, hwrite, hnormal, hsame⟩ := parse_by_grammar
  have hshort : ∀ t : String, t.toList.length ≤ digitLimit → ShortRuns t.toList :=
    fun t ht run hrun _ => hrun.length_le.trans ht
  have hfirst : Spells (strip " 01.2.٣-rc.1\n".toList)
      ⟨['0', '1'], ['2'], ['٣'], "-rc.1".toList⟩ := read?_eq_some_iff.1 (by decide)
  have hsecond : Spells (strip "1.02.3-rc.1".toList)
      ⟨['1'], ['0', '2'], ['3'], "-rc.1".toList⟩ := read?_eq_some_iff.1 (by decide)
  obtain ⟨hiff, hdenotes, -⟩ := hread " 01.2.٣-rc.1\n" (hshort _ (by decide))
  obtain ⟨hiff', hdenotes', -⟩ := hread "1.02.3-rc.1" (hshort _ (by decide))
  obtain ⟨-, -, hrefused⟩ := hread "1.2-rc.1" (hshort _ (by decide))
  obtain ⟨v, hv⟩ := hiff.2 ⟨_, hfirst⟩
  obtain ⟨w, hw⟩ := hiff'.2 ⟨_, hsecond⟩
  have htext : ∀ {p : Parts} {x : Version}, Denotes p x → Denotes p releaseCandidate →
      x.text = "1.2.3-rc.1" := by
    rintro p ⟨a, b, c, q⟩ hx hr
    obtain rfl : a = 1 := hx.major.trans hr.major.symm
    obtain rfl : b = 2 := hx.minor.trans hr.minor.symm
    obtain rfl : c = 3 := hx.patch.trans hr.patch.symm
    obtain rfl : q = some "-rc.1" := hx.qualifier.trans hr.qualifier.symm
    decide
  have hvtext := htext (hdenotes _ _ hfirst hv) ⟨by decide, by decide, by decide, by decide⟩
  have hwtext := htext (hdenotes' _ _ hsecond hw) ⟨by decide, by decide, by decide, by decide⟩
  refine ⟨v, w, hv, hw, hvtext, hnormal _ _ hv, (hsame _ _ _ _ hv hw).1 (hvtext.trans hwtext.symm),
    hwrite _ regular_releaseCandidate, hrefused ?_⟩
  rintro ⟨p, hp⟩
  have hnone : read? (strip "1.2-rc.1".toList) = none := by decide
  rw [read?_eq_some_iff.2 hp] at hnone
  cases hnone

end Version

end ReleaseGate
