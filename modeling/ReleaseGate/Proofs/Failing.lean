/-
ReleaseGate/Proofs/Failing.lean

What an action can fail with.

`FailsIn P a m` says that the failure of the action `a` on the machine `m`,
if it fails, is one of `P`.  It goes along with the way an action is built:
a sequence fails in `P` if its first part does, and its second part on every
machine that the first one can leave (`FailsIn.bind`).

Design.  The machine stands in the statement, so that a cause can be told by
what is on it, such as the bytes of a file that cannot be read as text.  The
part of `P` that comes from files is the same everywhere: `OnFiles c` are
the errors that the system counts, and one with a null character in a path
only if `c` says that there is one.
-/
import ReleaseGate.Proofs.Files.NullCharacter
import ReleaseGate.Proofs.Runs

namespace ReleaseGate

/-- A failure of files; one about a null character only under a condition. -/
def Failure.OnFiles (hasNull : Prop) : Failure → Prop
  | .file e => e.fault = .nullCharacter → hasNull
  | _ => False

theorem Failure.OnFiles.mono {c d : Prop} {e : Failure} (h : e.OnFiles c) (hcd : c → d) :
    e.OnFiles d := by
  cases e with
  | file fault => exact fun he => hcd (h he)
  | _ => exact h

namespace Action

open Failure (OnFiles)

/-- If the action fails on the machine, its failure is one of `P`. -/
def FailsIn (P : Failure → Prop) (a : Action α) (m : Machine) : Prop :=
  ∀ e m', on a m = (.error e, m') → P e

variable {α β : Type} {P Q : Failure → Prop} {a : Action α} {f : α → Action β} {m : Machine}
variable {host : Host} {path : String} {e : Failure}

/-- An action that never fails and changes nothing gives a value. -/
theorem FailsIn.exists_ok (h : FailsIn (fun _ => False) a m) (hread : ReadOnly a) :
    ∃ v, on a m = (.ok v, m) := by
  rcases ha : on a m with ⟨e | v, m'⟩
  · exact (h e m' ha).elim
  · obtain rfl := hread.eq ha
    exact ⟨v, rfl⟩

/-! ### Ways to build an action -/

theorem failsIn_pure (x : α) : FailsIn P (pure x : Action α) m := by
  intro e m' h
  cases h

theorem failsIn_throw (he : P e) : FailsIn P (throw e : Action α) m := by
  intro e' m' h
  obtain ⟨⟨⟩, -⟩ := h
  exact he

theorem FailsIn.mono (ha : FailsIn P a m) (h : ∀ e, P e → Q e) : FailsIn Q a m :=
  fun e m' he => h e (ha e m' he)

theorem FailsIn.bind (ha : FailsIn P a m)
    (hf : ∀ x m', on a m = (.ok x, m') → FailsIn P (f x) m') : FailsIn P (a >>= f) m := by
  intro e m' h
  rcases on_bind_eq_error.1 h with h | ⟨x, m₁, hx, h⟩
  · exact ha e m' h
  · exact hf x m₁ hx e m' h

theorem FailsIn.map (ha : FailsIn P a m) (g : α → β) : FailsIn P (g <$> a) m :=
  ha.bind fun _ _ _ => failsIn_pure _

theorem failsIn_orFail {ε : Type} {cause : ε → Failure} {r : Except ε α}
    (h : ∀ x, r = .error x → P (cause x)) : FailsIn P (orFail cause r) m := by
  cases r with
  | error x => exact failsIn_throw (h x rfl)
  | ok x => exact failsIn_pure x

/-- Cleaning up after a failure may fail in its own way. -/
theorem FailsIn.orElseDo {cleanUp : Action Unit} (ha : FailsIn P a m)
    (hc : ∀ m', FailsIn P cleanUp m') : FailsIn P (orElseDo a cleanUp) m := by
  intro e m' h
  rw [Action.orElseDo, on_tryCatch] at h
  rcases hr : on a m with ⟨e₁ | x, m₁⟩
  · rw [hr] at h
    refine ((hc m₁).bind fun _ _ _ => failsIn_throw ?_) e m' h
    exact ha e₁ m₁ hr
  · rw [hr] at h
    cases h

/-! ### What is done with files -/

theorem failsIn_files : FailsIn P files m := by
  intro e m' h
  cases h

theorem failsIn_changeFiles {change : FileTree → Except FileError FileTree}
    (h : ∀ fault, change m.files = .error fault → P (.file fault)) :
    FailsIn P (changeFiles change) m := by
  intro e m' he
  obtain ⟨fault, hfault, rfl, -⟩ := changeFiles_eq_error.1 he
  exact h fault hfault

theorem failsIn_load : FailsIn (OnFiles ('\x00' ∈ path.toList)) (load host path) m := by
  refine failsIn_files.bind fun t m' _ => failsIn_orFail fun fault h => ?_
  exact FileTree.mem_of_read h

theorem failsIn_store {content : ByteArray} :
    FailsIn (OnFiles ('\x00' ∈ path.toList)) (store host path content) m :=
  failsIn_changeFiles fun _ h => FileTree.mem_of_write h

theorem failsIn_unlink : FailsIn (OnFiles ('\x00' ∈ path.toList)) (unlink host path) m :=
  failsIn_changeFiles fun _ h => FileTree.mem_of_remove h

theorem failsIn_clear : FailsIn (OnFiles ('\x00' ∈ path.toList)) (clear host path) m :=
  failsIn_changeFiles fun _ h => FileTree.mem_of_removeAll h

/-- A null character is no reason to fail here: there is no such file. -/
theorem failsIn_isFile : FailsIn (OnFiles False) (isFile host path) m := by
  refine failsIn_files.bind fun t m' _ => failsIn_orFail fun fault h => ?_
  exact fun he => FileTree.isFile_fault_ne h he

theorem failsIn_makeDirs {dir : Path} : FailsIn (OnFiles dir.HasNull) (makeDirs host dir) m := by
  intro e m' h
  rw [on_makeDirs] at h
  rcases hmade : (m.files.makeDirs host.here dir).2 with - | fault
  · rw [hmade] at h
    cases h
  · rw [hmade] at h
    obtain ⟨⟨⟩, -⟩ := h
    exact FileTree.hasNull_of_makeDirs hmade

/-- A text file cannot be read, or its bytes are no text. -/
theorem failsIn_loadText : FailsIn (fun e => e.OnFiles ('\x00' ∈ path.toList) ∨
    ∃ content fault, m.files.read host.here path = .ok content ∧
      Text.Utf8.decode content.toList = .error fault ∧ e = .utf8 fault) (loadText host path) m := by
  refine (failsIn_load.mono fun e h => .inl h).bind fun content m' hload => ?_
  obtain ⟨hread, rfl⟩ := load_eq_ok.1 hload
  refine FailsIn.bind (failsIn_orFail fun fault hfault => ?_) fun _ _ _ => failsIn_pure _
  exact .inr ⟨content, fault, hread, hfault, rfl⟩

/-! ### Sameness -/

/-- The real place of a file can be told. -/
theorem failsIn_realPlace {content : ByteArray} (hground : FileTree.Grounded m.files)
    (hhere : m.files.get? host.here = some .dir) (hplain : FileTree.IsPlain host.here)
    (hread : m.files.read host.here path = .ok content) :
    FailsIn P (realPlace host path) m := by
  refine failsIn_files.bind fun t m' ht => ?_
  obtain ⟨hfiles, rfl⟩ := Prod.mk.inj ((on_files m).symm.trans ht)
  obtain rfl := Except.ok.inj hfiles
  rcases hreal : m.files.realPlace? host.here (Path.ofString path).text with cause | place
  · exfalso
    cases cause with
    | loop place => exact FileTree.realPlace?_ne_loop hground hhere hplain hread place hreal
    | nullCharacter =>
      have hnull : '\x00' ∈ (Path.ofString path).text.toList := by
        by_contra hnull
        unfold FileTree.realPlace? at hreal
        rw [if_neg (by simpa using hnull)] at hreal
        simp only at hreal
        split at hreal <;> cases hreal
      obtain ⟨p, hp, -⟩ := FileTree.read_eq_ok.1 hread
      exact FileTree.notMem_of_locate hp (Path.mem_text.1 hnull).of_ofString
  · exact failsIn_pure place

theorem failsIn_fingerprint {content : ByteArray}
    (hread : m.files.read host.here path = .ok content) :
    FailsIn P (fingerprint host path) m := by
  refine FailsIn.bind ?_ fun _ _ _ => failsIn_pure _
  intro e m' h
  rw [load_eq_ok.2 ⟨hread, rfl⟩] at h
  cases h

/-- Two files that can be read are compared without a failure. -/
theorem failsIn_sameFiles {a b : String} {x y : ByteArray} (hground : FileTree.Grounded m.files)
    (hhere : m.files.get? host.here = some .dir) (hplain : FileTree.IsPlain host.here)
    (ha : m.files.read host.here a = .ok x) (hb : m.files.read host.here b = .ok y) :
    FailsIn P (sameFiles host a b) m := by
  refine (failsIn_realPlace hground hhere hplain ha).bind fun first m₁ h₁ => ?_
  obtain rfl := (readOnly_realPlace host a).eq h₁
  refine (failsIn_realPlace hground hhere hplain hb).bind fun second m₂ h₂ => ?_
  obtain rfl := (readOnly_realPlace host b).eq h₂
  split
  · exact failsIn_pure _
  · refine (failsIn_fingerprint ha).bind fun _ m₃ h₃ => ?_
    obtain rfl := (readOnly_fingerprint host a).eq h₃
    exact (failsIn_fingerprint hb).bind fun _ _ _ => failsIn_pure _

/-! ### Temporary names -/

theorem null_of_freshName {before after : List Char} {number : Nat}
    (h : '\x00' ∈ freshName before after number) : '\x00' ∈ before ∨ '\x00' ∈ after := by
  rcases List.mem_append.1 h with h | h
  · rcases List.mem_append.1 h with h | h
    · exact .inl h
    · -- a number is written in digits
      rcases List.mem_append.1 h with h | h
      · exact absurd (List.eq_of_mem_replicate h) (by decide)
      · exact absurd (Nat.isDigit_of_mem_toDigits (by decide) (by decide) h) (by decide)
  · exact .inr h

theorem failsIn_createFresh {dir : Path} {before after : List Char} {node : Node} {tries : Nat} :
    FailsIn (OnFiles (dir.HasNull ∨ '\x00' ∈ before ∨ '\x00' ∈ after))
      (createFresh host dir before after node tries) m := by
  induction tries generalizing m with
  | zero => exact failsIn_throw fun he => by cases he
  | succ tries ih =>
    intro e m' h
    rw [createFresh, on_bind_of_ok (on_takeNumber m), on_bind_of_ok (on_files _)] at h
    simp only at h
    rcases hadd : m.files.add host.here
        (dir.child (freshName before after m.nextName)).text node with fault | t
    · rw [freshName] at hadd
      rw [hadd] at h
      simp only at h
      split at h
      · exact ih e m' h
      · obtain ⟨⟨⟩, -⟩ := h
        intro he
        have hnull := Path.mem_text.1 (FileTree.mem_of_add hadd he)
        rcases Path.hasNull_child.1 hnull with hdir | hname
        · exact .inl hdir
        · exact .inr (null_of_freshName hname)
    · rw [freshName] at hadd
      rw [hadd] at h
      cases h

/-- The path of a new file holds no null character. -/
theorem not_hasNull_of_createFresh {dir p : Path} {before after : List Char} {node : Node}
    {tries : Nat} {m' : Machine}
    (h : on (createFresh host dir before after node tries) m = (.ok p, m')) : ¬ p.HasNull := by
  obtain ⟨-, hadd, -⟩ := createFresh_eq_ok h
  obtain ⟨q, hq, -⟩ := FileTree.add_eq_ok hadd
  exact fun hnull => FileTree.notMem_of_locate hq (Path.mem_text.2 hnull)

end Action

end ReleaseGate
