/-
ReleaseGate/Proofs/Location/Escapes.lean

Percent escapes: what resolving them undoes, and what it changes.

`escaped` writes a text in the characters that a URI has, with an escape for
each byte of the others.  Resolving the escapes gives the text again, so it
is right to resolve them once (`percentDecode_escaped`).  A text that was not
escaped is kept if no escape is in it; with one it gets shorter
(`percentDecode_eq_self_iff`).

Design.  Resolving works on the ASCII stretches of a text, one after the
other.  An escape is ASCII, so it lies in one of them (`HasEscape.of_wide`),
and each stretch is treated as the whole text is.

Main results: `percentDecode_escaped`, `percentDecode_eq_self_iff`.
-/
import Mathlib.Tactic.ByContra
import ReleaseGate.Net.Url
import ReleaseGate.Proofs.Text.Utf8

namespace ReleaseGate.Location

open Net.Url (escapeByte isUnreserved)
open Text.Utf8 (decodeLossy)

variable {s r : List Char} {a b c : Char}

/-! ### One byte -/

theorem hexValue?_digitChar {n : Nat} (h : n < 16) :
    Text.hexValue? (Nat.digitChar n).toUpper = some n := by
  have hall : ∀ n < 16, Text.hexValue? (Nat.digitChar n).toUpper = some n := by decide
  exact hall n h

/-- The escape of a byte is a percent sign and its two digits. -/
theorem escapeByte_eq (b : UInt8) :
    escapeByte b = ['%', (Nat.digitChar (b.toNat / 16)).toUpper,
      (Nat.digitChar (b.toNat % 16)).toUpper] := by
  have hb := b.toNat_lt
  rw [escapeByte, Text.hex]
  by_cases h : b.toNat < 16
  · rw [Nat.toDigits_of_lt_base h, Nat.div_eq_of_lt h, Nat.mod_eq_of_lt h]
    rfl
  · rw [Nat.toDigits_of_base_le (by decide) (by omega), Nat.toDigits_of_lt_base (by omega)]
    rfl

theorem unescape_escapeByte (b : UInt8) (s : List Char) :
    unescape (escapeByte b ++ s) = b :: unescape s := by
  have hb := b.toNat_lt
  rw [escapeByte_eq]
  show unescape ('%' :: _ :: _ :: s) = _
  rw [unescape, hexValue?_digitChar (by omega), hexValue?_digitChar (by omega)]
  simp only
  rw [Nat.div_add_mod, UInt8.ofNat_toNat]

/-- A character that starts no escape stands for itself. -/
theorem unescape_cons (h : ∀ a b rest, c = '%' → s = a :: b :: rest → False) :
    unescape (c :: s) = UInt8.ofNat c.toNat :: unescape s := by
  rw [unescape]
  exact h

/-- A wide character comes after all of ASCII. -/
theorem not_le_of_wide (hc : ¬ c.toNat < 128) (d : Char) (hd : d.toNat < 128) : ¬ c ≤ d :=
  fun hcd => hc (Nat.lt_of_le_of_lt (UInt32.le_iff_toNat_le.1 hcd) hd)

theorem isAscii_of_isHexDigit (h : Text.isHexDigit c) : c.toNat < 128 := by
  by_contra hc
  have hover := not_le_of_wide hc
  have hdigit : c.isDigit = false := by
    rw [← Bool.not_eq_true, Char.isDigit, Bool.and_eq_true, decide_eq_true_eq, decide_eq_true_eq]
    exact fun hd => hover '9' (by decide) hd.2
  unfold Text.isHexDigit Text.hexValue? at h
  simp [hdigit, hover 'F' (by decide), hover 'f' (by decide)] at h

/-! ### Texts with escapes in them -/

/-- Somewhere in the text a percent sign stands before two hexadecimal
digits. -/
def HasEscape (s : List Char) : Prop :=
  ∃ before a b after, s = before ++ '%' :: a :: b :: after ∧ Text.isHexDigit a ∧ Text.isHexDigit b

/-- An escape is at the start of the text. -/
def StartsEscape (s : List Char) : Prop :=
  ∃ a b after, s = '%' :: a :: b :: after ∧ Text.isHexDigit a ∧ Text.isHexDigit b

theorem hasEscape_cons : HasEscape (c :: s) ↔ StartsEscape (c :: s) ∨ HasEscape s := by
  constructor
  · rintro ⟨before, a, b, after, h, ha, hb⟩
    cases before with
    | nil => exact .inl ⟨a, b, after, h, ha, hb⟩
    | cons d before => exact .inr ⟨before, a, b, after, (List.cons.inj h).2, ha, hb⟩
  · rintro (⟨a, b, after, h, ha, hb⟩ | ⟨before, a, b, after, rfl, ha, hb⟩)
    · exact ⟨[], a, b, after, h, ha, hb⟩
    · exact ⟨c :: before, a, b, after, rfl, ha, hb⟩

theorem not_hasEscape_nil : ¬ HasEscape [] := by
  rintro ⟨before, a, b, after, h, -⟩
  simp at h

theorem HasEscape.append (h : HasEscape s) : HasEscape (r ++ s) := by
  obtain ⟨before, a, b, after, rfl, ha, hb⟩ := h
  exact ⟨r ++ before, a, b, after, by simp, ha, hb⟩

theorem HasEscape.append_right (h : HasEscape r) : HasEscape (r ++ s) := by
  obtain ⟨before, a, b, after, rfl, ha, hb⟩ := h
  exact ⟨before, a, b, after ++ s, by simp, ha, hb⟩

/-- A wide character is no part of an escape. -/
theorem HasEscape.of_wide (hc : 128 ≤ c.toNat) (h : HasEscape (r ++ c :: s)) :
    HasEscape r ∨ HasEscape s := by
  have hhex : ¬ Text.isHexDigit c := fun hc' => absurd (isAscii_of_isHexDigit hc') (by omega)
  induction r with
  | nil =>
    rcases hasEscape_cons.1 h with ⟨a, b, after, h, -⟩ | h
    · obtain ⟨rfl, -⟩ := List.cons.inj h
      exact absurd hc (by decide)
    · exact .inr h
  | cons d r ih =>
    rcases hasEscape_cons.1 h with ⟨a, b, after, h, ha, hb⟩ | h
    · -- the escape ends before the wide character
      obtain ⟨hd, h⟩ := List.cons.inj h
      match r with
      | [] =>
        obtain ⟨rfl, -⟩ := List.cons.inj h
        exact absurd ha hhex
      | [x] =>
        obtain ⟨-, h'⟩ := List.cons.inj h
        obtain ⟨rfl, -⟩ := List.cons.inj h'
        exact absurd hb hhex
      | x :: y :: r =>
        obtain ⟨rfl, h'⟩ := List.cons.inj h
        obtain ⟨rfl, -⟩ := List.cons.inj h'
        exact .inl ⟨[], x, y, r, by rw [hd]; rfl, ha, hb⟩
    · exact (ih h).imp_left fun h => hasEscape_cons.2 (.inr h)

/-! ### Bytes -/

/-- Without an escape each character stands for itself. -/
theorem unescape_of_not_hasEscape (h : ¬ HasEscape s) :
    unescape s = s.map fun c => UInt8.ofNat c.toNat := by
  fun_induction unescape s with
  | case1 a b rest x y hx hy =>
    refine absurd ⟨[], a, b, rest, rfl, ?_, ?_⟩ h <;> simp [Text.isHexDigit, *]
  | case2 a b rest _ ih =>
    rw [ih fun hr => h (hasEscape_cons.2 (.inr hr))]
    rfl
  | case3 c rest _ ih =>
    rw [ih fun hr => h (hasEscape_cons.2 (.inr hr))]
    rfl
  | case4 => rfl

theorem length_unescape_le (s : List Char) : (unescape s).length ≤ s.length := by
  fun_induction unescape s <;> simp only [List.length_cons, List.length_nil] at * <;> omega

/-- An escape is three characters and gives one byte. -/
theorem length_unescape_lt (h : HasEscape s) : (unescape s).length < s.length := by
  fun_induction unescape s with
  | case1 a b rest x y hx hy ih =>
    have := length_unescape_le rest
    simp only [List.length_cons]
    omega
  | case2 a b rest hno ih =>
    rcases hasEscape_cons.1 h with ⟨a', b', after, heq, ha, hb⟩ | h
    · obtain ⟨rfl, rfl, rfl⟩ : a = a' ∧ b = b' ∧ rest = after := by simpa using heq
      obtain ⟨x, hx⟩ := Option.isSome_iff_exists.1 ha
      obtain ⟨y, hy⟩ := Option.isSome_iff_exists.1 hb
      exact (hno x y hx hy).elim
    · exact Nat.succ_lt_succ (ih h)
  | case3 c rest hno ih =>
    rcases hasEscape_cons.1 h with ⟨a, b, after, heq, -⟩ | h
    · obtain ⟨rfl, rfl⟩ := List.cons.inj heq
      exact (hno a b after rfl rfl).elim
    · exact Nat.succ_lt_succ (ih h)
  | case4 => exact absurd h not_hasEscape_nil

/-! ### Whole texts -/

/-- An ASCII text without escapes is kept. -/
theorem decodeLossy_unescape (hs : ∀ c ∈ s, c.toNat < 128) (h : ¬ HasEscape s) :
    decodeLossy (unescape s) = s := by
  rw [unescape_of_not_hasEscape h, ← Text.Utf8.encode_of_ascii hs, Text.Utf8.decodeLossy_encode]

theorem length_decodeLossy_unescape_le (s : List Char) :
    (decodeLossy (unescape s)).length ≤ s.length :=
  Nat.le_trans (Text.Utf8.length_decodeLossy_le _) (length_unescape_le s)

variable {run : List Char}

theorem go_of_ascii (hs : ∀ c ∈ s, c.toNat < 128) :
    percentDecode.go s run = decodeLossy (unescape (run.reverse ++ s)) := by
  induction s generalizing run with
  | nil => rw [percentDecode.go, List.append_nil]
  | cons c s ih =>
    rw [percentDecode.go, if_pos (hs c List.mem_cons_self),
      ih fun d hd => hs d (List.mem_cons_of_mem _ hd), List.reverse_cons, List.append_assoc]
    rfl

/-- A text without escapes is kept; `run` is the ASCII stretch before it. -/
theorem go_of_not_hasEscape (s run : List Char) (hrun : ∀ c ∈ run, c.toNat < 128)
    (h : ¬ HasEscape (run.reverse ++ s)) : percentDecode.go s run = run.reverse ++ s := by
  have hreverse : ∀ c ∈ run.reverse, c.toNat < 128 := fun c hc => hrun c (List.mem_reverse.1 hc)
  induction s generalizing run with
  | nil =>
    rw [List.append_nil] at h ⊢
    exact decodeLossy_unescape hreverse h
  | cons c s ih =>
    rw [percentDecode.go]
    split
    · next hc =>
      have hstep : run.reverse ++ c :: s = (c :: run).reverse ++ s := by simp
      have hall : ∀ d ∈ c :: run, d.toNat < 128 := by simpa [hc] using hrun
      rw [hstep] at h ⊢
      exact ih (c :: run) hall h fun d hd => hall d (List.mem_reverse.1 hd)
    · have hbefore : ¬ HasEscape run.reverse := fun hr => h hr.append_right
      have hafter : ¬ HasEscape s := fun hs => h (hasEscape_cons.2 (.inr hs)).append
      rw [decodeLossy_unescape hreverse hbefore, ih [] (by simp) hafter (by simp)]
      rfl

theorem length_go_le (s run : List Char) :
    (percentDecode.go s run).length ≤ run.length + s.length := by
  induction s generalizing run with
  | nil =>
    rw [percentDecode.go]
    simpa using length_decodeLossy_unescape_le run.reverse
  | cons c s ih =>
    rw [percentDecode.go]
    split
    · have := ih (c :: run)
      simp only [List.length_cons] at *
      omega
    · have := ih []
      have := length_decodeLossy_unescape_le run.reverse
      simp only [List.length_append, List.length_cons, List.length_reverse, List.length_nil] at *
      omega

theorem length_go_lt (s run : List Char) (h : HasEscape (run.reverse ++ s)) :
    (percentDecode.go s run).length < run.length + s.length := by
  induction s generalizing run with
  | nil =>
    rw [percentDecode.go]
    rw [List.append_nil] at h
    have := Text.Utf8.length_decodeLossy_le (unescape run.reverse)
    have := length_unescape_lt h
    simp only [List.length_reverse, List.length_nil] at *
    omega
  | cons c s ih =>
    rw [percentDecode.go]
    split
    · have hstep : run.reverse ++ c :: s = (c :: run).reverse ++ s := by simp
      have := ih (c :: run) (hstep ▸ h)
      simp only [List.length_cons] at *
      omega
    · next hc =>
      simp only [List.length_append, List.length_cons]
      rcases h.of_wide (Nat.not_lt.1 hc) with h | h
      · have := Text.Utf8.length_decodeLossy_le (unescape run.reverse)
        have := length_unescape_lt h
        have := length_go_le s []
        simp only [List.length_reverse, List.length_nil] at *
        omega
      · have := length_decodeLossy_unescape_le run.reverse
        have := ih [] h
        simp only [List.length_reverse, List.length_nil] at *
        omega

/-- A text with an escape gets shorter. -/
theorem length_percentDecode_lt (h : HasEscape s) : (percentDecode s).length < s.length := by
  have hlt := length_go_lt s [] h
  rwa [List.length_nil, Nat.zero_add] at hlt

/-- **A text is kept** if and only if no escape is in it. -/
theorem percentDecode_eq_self_iff : percentDecode s = s ↔ ¬ HasEscape s := by
  constructor
  · intro h hs
    have hlt := length_percentDecode_lt hs
    rw [h] at hlt
    exact Nat.lt_irrefl _ hlt
  · exact go_of_not_hasEscape s [] (by simp)

theorem go_snoc (hc : c.toNat < 128) (hpercent : c ≠ '%') (s run : List Char) :
    percentDecode.go s (run ++ [c]) = c :: percentDecode.go s run := by
  have hstart : ∀ r, decodeLossy (unescape (c :: r)) = c :: decodeLossy (unescape r) := by
    intro r
    have hchar := Text.Utf8.decodeLossyFrom_char c (unescape r)
    rw [Text.Utf8.encodeChar_of_ascii hc] at hchar
    rw [unescape_cons fun _ _ _ h _ => hpercent h]
    exact hchar
  induction s generalizing run with
  | nil =>
    rw [percentDecode.go, percentDecode.go, List.reverse_append, List.reverse_singleton,
      List.singleton_append, hstart]
  | cons d s ih =>
    rw [percentDecode.go, percentDecode.go]
    split
    · exact ih (d :: run)
    · rw [List.reverse_append, List.reverse_singleton, List.singleton_append, hstart]
      rfl

/-- An ASCII character that is no percent sign stands for itself. -/
theorem percentDecode_cons (hc : c.toNat < 128) (hpercent : c ≠ '%') (s : List Char) :
    percentDecode (c :: s) = c :: percentDecode s := by
  rw [percentDecode, percentDecode.go, if_pos hc]
  exact go_snoc hc hpercent s []

/-! ### Texts that were escaped -/

/-- A character of a path that a URI has as it is. -/
def staysInUri (c : Char) : Bool := isUnreserved c || c = '/'

/-- The path of a URI: a text with each byte of the other characters
escaped. -/
def escaped (s : List Char) : List Char :=
  s.flatMap fun c => if staysInUri c then [c] else (Text.Utf8.encode [c]).flatMap escapeByte

theorem isAscii_of_staysInUri (h : staysInUri c) : c.toNat < 128 := by
  by_contra hc
  have hover := not_le_of_wide hc
  have hne : ∀ d : Char, d.toNat < 128 → c ≠ d := fun d hd hcd => hc (hcd ▸ hd)
  have hupper : ¬ c.val ≤ 90 := hover 'Z' (by decide)
  have hlower : ¬ c.val ≤ 122 := hover 'z' (by decide)
  have hdigit : ¬ c.val ≤ 57 := hover '9' (by decide)
  simp only [staysInUri, isUnreserved, Char.isAlphanum] at h
  delta Char.isAlpha Char.isUpper Char.isLower at h
  simp [Char.isDigit, hupper, hlower, hdigit, hne] at h

/-- What is in the path of a URI: characters that stay, and escapes. -/
theorem mem_escaped (h : c ∈ escaped s) : c = '%' ∨ staysInUri c := by
  have hdigit : ∀ n < 16, staysInUri (Nat.digitChar n).toUpper := by decide
  obtain ⟨d, -, h⟩ := List.mem_flatMap.1 h
  split at h
  · next hd =>
    obtain rfl := List.mem_singleton.1 h
    exact .inr hd
  · obtain ⟨b, -, h⟩ := List.mem_flatMap.1 h
    have hb := b.toNat_lt
    rw [escapeByte_eq] at h
    simp only [List.mem_cons, List.not_mem_nil, or_false] at h
    rcases h with rfl | rfl | rfl
    · exact .inl rfl
    · exact .inr (hdigit _ (by omega))
    · exact .inr (hdigit _ (by omega))

theorem isAscii_escaped : ∀ c ∈ escaped s, c.toNat < 128 := by
  intro c hc
  rcases mem_escaped hc with rfl | hc
  · decide
  · exact isAscii_of_staysInUri hc

theorem unescape_flatMap_escapeByte (bytes : List UInt8) (s : List Char) :
    unescape (bytes.flatMap escapeByte ++ s) = bytes ++ unescape s := by
  induction bytes with
  | nil => rfl
  | cons b bytes ih =>
    rw [List.flatMap_cons, List.append_assoc, unescape_escapeByte, ih]
    rfl

theorem unescape_escaped (s : List Char) : unescape (escaped s) = Text.Utf8.encode s := by
  induction s with
  | nil => rfl
  | cons c s ih =>
    show unescape ((if staysInUri c then [c] else _) ++ escaped s) =
      String.utf8EncodeChar c ++ Text.Utf8.encode s
    split
    · next hc =>
      have hpercent : c ≠ '%' := by
        rintro rfl
        exact absurd hc (by decide)
      rw [List.singleton_append, unescape_cons fun _ _ _ h _ => hpercent h, ih,
        Text.Utf8.encodeChar_of_ascii (isAscii_of_staysInUri hc)]
      rfl
    · rw [unescape_flatMap_escapeByte, ih, Text.Utf8.encode, List.flatMap_singleton]

/-- **Resolving the escapes** of a text that was escaped gives the text. -/
theorem percentDecode_escaped (s : List Char) : percentDecode (escaped s) = s := by
  rw [percentDecode, go_of_ascii isAscii_escaped, List.reverse_nil, List.nil_append,
    unescape_escaped, Text.Utf8.decodeLossy_encode]

end ReleaseGate.Location
