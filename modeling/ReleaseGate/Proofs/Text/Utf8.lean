/-
ReleaseGate/Proofs/Text/Utf8.lean

Reading the bytes that a text was written in.

The bytes of a character take the reader from between two characters back to
there, and give that character; so reading what was written gives the text
again.  A text that is read from bytes has no more characters than there are
bytes, whatever the bytes are.

Main results: `decodeLossy_encode`, `length_decodeLossy_le`.
-/
import ReleaseGate.Text.Utf8

namespace ReleaseGate.Text.Utf8

variable {bytes rest : List UInt8} {p : Pending} {n k : Nat}

theorem toNat_ofNat (h : n < 256) : (UInt8.ofNat n).toNat = n := by simp [Nat.mod_eq_of_lt h]

/-- A character of ASCII is one byte. -/
theorem encodeChar_of_ascii {c : Char} (h : c.toNat < 128) :
    String.utf8EncodeChar c = [UInt8.ofNat c.toNat] := by
  have hval : c.val.toNat ≤ 0x7F := Nat.le_of_lt_succ h
  rw [String.utf8EncodeChar]
  simp only [if_pos hval]
  rfl

theorem encode_of_ascii {s : List Char} (h : ∀ c ∈ s, c.toNat < 128) :
    encode s = s.map fun c => UInt8.ofNat c.toNat := by
  induction s with
  | nil => rfl
  | cons c s ih =>
    rw [encode, List.flatMap_cons, encodeChar_of_ascii (h c List.mem_cons_self)]
    exact congrArg (_ :: ·) (ih fun d hd => h d (List.mem_cons_of_mem _ hd))

/-! ### First bytes -/

theorem opening_one (h : n < 0x80) : opening (UInt8.ofNat n) = .whole (Char.ofNat n) := by
  have hb := toNat_ofNat (show n < 256 by omega)
  rw [opening, if_pos (by simp [UInt8.lt_iff_toNat_lt]; omega), hb]

theorem opening_two (h : 2 ≤ n) (h' : n < 32) :
    opening (UInt8.ofNat (n + 0xC0)) = .part ⟨UInt8.ofNat (n + 0xC0), 1, 0, 0x80, 0xBF, n⟩ := by
  have hb := toNat_ofNat (show n + 0xC0 < 256 by omega)
  rw [opening, if_neg (by simp [UInt8.lt_iff_toNat_lt]; omega),
    if_neg (by simp [UInt8.lt_iff_toNat_lt]; omega),
    if_pos (by simp [UInt8.lt_iff_toNat_lt]; omega), hb, Nat.add_sub_cancel]

theorem opening_three (h : n < 16) :
    opening (UInt8.ofNat (n + 0xE0)) = .part ⟨UInt8.ofNat (n + 0xE0), 1, 1,
      if n = 0 then 0xA0 else 0x80, if n = 13 then 0x9F else 0xBF, n⟩ := by
  have hb := toNat_ofNat (show n + 0xE0 < 256 by omega)
  have hlow : UInt8.ofNat (n + 0xE0) = 0xE0 ↔ n = 0 := by
    rw [← UInt8.toNat_inj, hb]
    simp
  have hhigh : UInt8.ofNat (n + 0xE0) = 0xED ↔ n = 13 := by
    rw [← UInt8.toNat_inj, hb]
    simp
  rw [opening, if_neg (by simp [UInt8.lt_iff_toNat_lt]; omega),
    if_neg (by simp [UInt8.lt_iff_toNat_lt]; omega),
    if_neg (by simp [UInt8.lt_iff_toNat_lt]; omega),
    if_pos (by simp [UInt8.lt_iff_toNat_lt]; omega), hb, Nat.add_sub_cancel]
  simp only [hlow, hhigh]

theorem opening_four (h : n < 5) :
    opening (UInt8.ofNat (n + 0xF0)) = .part ⟨UInt8.ofNat (n + 0xF0), 1, 2,
      if n = 0 then 0x90 else 0x80, if n = 4 then 0x8F else 0xBF, n⟩ := by
  have hb := toNat_ofNat (show n + 0xF0 < 256 by omega)
  have hlow : UInt8.ofNat (n + 0xF0) = 0xF0 ↔ n = 0 := by
    rw [← UInt8.toNat_inj, hb]
    simp
  have hhigh : UInt8.ofNat (n + 0xF0) = 0xF4 ↔ n = 4 := by
    rw [← UInt8.toNat_inj, hb]
    simp
  rw [opening, if_neg (by simp [UInt8.lt_iff_toNat_lt]; omega),
    if_neg (by simp [UInt8.lt_iff_toNat_lt]; omega),
    if_neg (by simp [UInt8.lt_iff_toNat_lt]; omega),
    if_neg (by simp [UInt8.lt_iff_toNat_lt]; omega),
    if_pos (by simp [UInt8.lt_iff_toNat_lt]; omega), hb, Nat.add_sub_cancel]
  simp only [hlow, hhigh]

/-! ### Further bytes -/

/-- The next byte of a character carries six bits. -/
theorem decodeLossyFrom_push (hn : n < 64) (hlow : p.low.toNat ≤ n + 0x80)
    (hhigh : n + 0x80 ≤ p.high.toNat) :
    decodeLossyFrom (some p) (UInt8.ofNat (n + 0x80) :: rest) =
      match p.more with
      | 0 => Char.ofNat (64 * p.value + n) :: decodeLossyFrom none rest
      | k + 1 => decodeLossyFrom
          (some ⟨p.byte, p.seen + 1, k, 0x80, 0xBF, 64 * p.value + n⟩) rest := by
  have hb := toNat_ofNat (show n + 0x80 < 256 by omega)
  have hrange : (p.low ≤ UInt8.ofNat (n + 0x80) && UInt8.ofNat (n + 0x80) ≤ p.high) = true := by
    simp only [UInt8.le_iff_toNat_le, hb, hlow, hhigh, decide_true, Bool.and_self]
  rw [decodeLossyFrom, if_pos hrange, Pending.push, hb, Nat.add_sub_cancel]
  cases p.more <;> rfl

/-! ### Whole characters -/

/-- The bytes of a character give the character. -/
theorem decodeLossyFrom_char (c : Char) (rest : List UInt8) :
    decodeLossyFrom none (String.utf8EncodeChar c ++ rest) = c :: decodeLossyFrom none rest := by
  have hvalid : c.toNat < 0xD800 ∨ 0xDFFF < c.toNat ∧ c.toNat < 0x110000 := c.valid
  have hchar : ∀ {n}, n = c.toNat → Char.ofNat n = c := by
    rintro _ rfl
    exact Char.ofNat_toNat c
  rw [String.utf8EncodeChar]
  simp only [show c.val.toNat = c.toNat from rfl]
  -- by how many bytes the character takes
  by_cases h1 : c.toNat ≤ 0x7F
  · rw [if_pos h1, List.singleton_append, decodeLossyFrom, opening_one (by omega), hchar rfl]
  rw [if_neg h1]
  by_cases h2 : c.toNat ≤ 0x7FF
  · rw [if_pos h2, List.cons_append, decodeLossyFrom, opening_two (by omega) (by omega)]
    simp only
    rw [List.singleton_append, decodeLossyFrom_push (by omega) (by simp) (by simp; omega)]
    simp only
    rw [hchar (by omega)]
  rw [if_neg h2]
  by_cases h3 : c.toNat ≤ 0xFFFF
  · rw [if_pos h3, List.cons_append, decodeLossyFrom, opening_three (by omega)]
    simp only
    rw [List.cons_append, decodeLossyFrom_push (by omega) (by dsimp only; split <;> simp; omega)
      (by dsimp only; split <;> simp <;> omega)]
    simp only
    rw [List.singleton_append, decodeLossyFrom_push (by omega) (by simp) (by simp; omega)]
    simp only
    rw [hchar (by omega)]
  · rw [if_neg h3, List.cons_append, decodeLossyFrom, opening_four (by omega)]
    simp only
    rw [List.cons_append, decodeLossyFrom_push (by omega) (by dsimp only; split <;> simp; omega)
      (by dsimp only; split <;> simp <;> omega)]
    simp only
    rw [List.cons_append, decodeLossyFrom_push (by omega) (by simp) (by simp; omega)]
    simp only
    rw [List.singleton_append, decodeLossyFrom_push (by omega) (by simp) (by simp; omega)]
    simp only
    rw [hchar (by omega)]

/-- **Reading** what was written gives the text again. -/
theorem decodeLossy_encode (s : List Char) : decodeLossy (encode s) = s := by
  induction s with
  | nil => rfl
  | cons c s ih =>
    rw [decodeLossy, encode, List.flatMap_cons, decodeLossyFrom_char]
    exact congrArg (c :: ·) ih

/-! ### Lengths -/

/-- Each byte ends one faulty stretch or one character at most. -/
theorem length_decodeLossyFrom_le (state : Option Pending) (bytes : List UInt8) :
    (decodeLossyFrom state bytes).length ≤ bytes.length + if state.isSome then 1 else 0 := by
  fun_induction decodeLossyFrom state bytes with
  | case8 p b rest hrange hnone hsome =>
    -- the byte ends a faulty stretch, and may begin something of its own
    simp only [Option.isSome_none, Option.isSome_some, Bool.false_eq_true, if_false, if_true,
      List.length_cons, Nat.add_le_add_iff_right] at hnone hsome ⊢
    rcases opening b with c | q | -
    · simp only [List.length_cons]
      omega
    · exact hsome q
    · simp only [List.length_cons]
      omega
  | _ => simp_all <;> omega

theorem length_decodeLossy_le (bytes : List UInt8) :
    (decodeLossy bytes).length ≤ bytes.length := length_decodeLossyFrom_le none bytes

end ReleaseGate.Text.Utf8
