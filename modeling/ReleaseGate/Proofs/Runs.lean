/-
ReleaseGate/Proofs/Runs.lean

Runs of actions.

`a.on m` is what the action `a` gives on the machine `m`, together with the
machine that it leaves.  Each way to build an action has an equation for it,
and a sequence of two actions is taken apart by `on_bind_eq_ok` and
`on_bind_eq_error`: a sequence succeeds if both parts do, and fails where
the first of them fails.

Actions that only look are `ReadOnly`.  For an action that writes, the
equation says what it writes and that it leaves no other trace.
-/
import ReleaseGate.Machine
import ReleaseGate.Proofs.Files.RealPlace

namespace ReleaseGate

/-- The current directory of a host is a whole path with names that files can
have. -/
structure Host.Sound (host : Host) : Prop where
  absolute : host.workingDir.isAbsolute
  names : ∀ n ∈ host.workingDir.names, '/' ∉ n

/-- A host at the root, where no server and no program answers. -/
def Host.bare : Host where
  workingDir := .ofString "/"
  tempDir := .ofString "/tmp"
  server := fun _ _ => .failure "no route"
  process := fun _ => .absent
  now := ""

theorem Host.sound_bare : Host.bare.Sound := ⟨by decide, by decide⟩

namespace Action

/-- What an action gives on a machine, and the machine that it leaves. -/
def on (a : Action α) (m : Machine) : Except Failure α × Machine := Id.run (a.run.run m)

variable {α β : Type} {a : Action α} {f : α → Action β} {m m' m'' : Machine}
variable {x : α} {y : β} {e : Failure}

theorem eq_ok_of_toOption {ε : Type} {r : Except ε α} (h : r.toOption = some x) : r = .ok x := by
  cases r with
  | error e => cases h
  | ok y => rw [Option.some.inj h]

/-- Values can be compared where failures cannot. -/
theorem on_of_toOption (h : (a.on m).1.toOption = some x) : a.on m = (.ok x, (a.on m).2) := by
  rw [← eq_ok_of_toOption h]

/-! ### Sequences -/

theorem on_pure (x : α) (m : Machine) : on (pure x) m = (.ok x, m) := rfl

theorem on_throw (e : Failure) (m : Machine) : on (throw e : Action α) m = (.error e, m) := rfl

theorem on_bind (a : Action α) (f : α → Action β) (m : Machine) :
    on (a >>= f) m = match on a m with
      | (.ok x, m') => on (f x) m'
      | (.error e, m') => (.error e, m') := by
  unfold on ExceptT.run StateT.run Id.run
  simp only [bind, ExceptT.bind, ExceptT.mk, StateT.bind, ExceptT.bindCont]
  rcases a m with ⟨e | x, m'⟩ <;> rfl

theorem on_bind_of_ok (h : on a m = (.ok x, m')) : on (a >>= f) m = on (f x) m' := by
  rw [on_bind, h]

theorem on_bind_of_error (h : on a m = (.error e, m')) : on (a >>= f) m = (.error e, m') := by
  rw [on_bind, h]

theorem on_bind_eq_ok :
    on (a >>= f) m = (.ok y, m'') ↔ ∃ x m', on a m = (.ok x, m') ∧ on (f x) m' = (.ok y, m'') := by
  rw [on_bind]
  rcases on a m with ⟨e | x, m'⟩
  · simp
  · refine ⟨fun h => ⟨x, m', rfl, h⟩, ?_⟩
    rintro ⟨_, _, ⟨⟩, h⟩
    exact h

theorem on_bind_eq_error :
    on (a >>= f) m = (.error e, m'') ↔
      on a m = (.error e, m'') ∨ ∃ x m', on a m = (.ok x, m') ∧ on (f x) m' = (.error e, m'') := by
  rw [on_bind]
  rcases on a m with ⟨e' | x, m'⟩
  · simp
  · refine ⟨fun h => .inr ⟨x, m', rfl, h⟩, ?_⟩
    rintro (⟨⟨⟩⟩ | ⟨_, _, ⟨⟩, h⟩)
    exact h

/-- A sequence stops in its first part, or goes on from where that left. -/
theorem on_bind_cases {r : Except Failure β} (h : on (a >>= f) m = (r, m'')) :
    (∃ e, on a m = (.error e, m'') ∧ r = .error e) ∨
      ∃ x m', on a m = (.ok x, m') ∧ on (f x) m' = (r, m'') := by
  rw [on_bind] at h
  rcases ha : on a m with ⟨e | x, m'⟩ <;> rw [ha] at h
  · obtain ⟨rfl, rfl⟩ := Prod.mk.inj h
    exact .inl ⟨e, rfl, rfl⟩
  · exact .inr ⟨x, m', rfl, h⟩

theorem on_map (g : α → β) (a : Action α) (m : Machine) :
    on (g <$> a) m = ((on a m).1.map g, (on a m).2) := by
  show on (a >>= pure ∘ g) m = _
  rw [on_bind]
  rcases on a m with ⟨e | x, m'⟩ <;> rfl

/-! ### Failures that are caught -/

theorem on_tryCatch (a : Action α) (handle : Failure → Action α) (m : Machine) :
    on (tryCatch a handle) m = match on a m with
      | (.ok x, m') => (.ok x, m')
      | (.error e, m') => on (handle e) m' := by
  unfold on ExceptT.run StateT.run Id.run
  simp only [tryCatch, tryCatchThe, MonadExceptOf.tryCatch, ExceptT.tryCatch, ExceptT.mk, bind,
    StateT.bind]
  rcases a m with ⟨e | x, m'⟩ <;> rfl

theorem on_orElseDo_of_ok {cleanUp : Action Unit} (h : on a m = (.ok x, m')) :
    on (orElseDo a cleanUp) m = (.ok x, m') := by
  rw [orElseDo, on_tryCatch, h]

theorem on_orElseDo_of_error {cleanUp : Action Unit} (h : on a m = (.error e, m'))
    (hc : on cleanUp m' = (.ok (), m'')) : on (orElseDo a cleanUp) m = (.error e, m'') := by
  rw [orElseDo, on_tryCatch, h]
  exact (on_bind_of_ok hc).trans (on_throw e m'')

theorem orElseDo_eq_ok {cleanUp : Action Unit} :
    on (orElseDo a cleanUp) m = (.ok x, m') ↔ on a m = (.ok x, m') := by
  refine ⟨fun h => ?_, on_orElseDo_of_ok⟩
  rw [orElseDo, on_tryCatch] at h
  rcases ha : on a m with ⟨e | y, m₁⟩ <;> rw [ha] at h
  · -- what is done before a failure goes on ends in the failure
    obtain ⟨u, m₂, -, hthrow⟩ := on_bind_eq_ok.1 h
    cases hthrow
  · exact h

/-- What is done after an action, whatever comes of it. -/
theorem on_orElseDo_bind {cleanUp : Action Unit} {r : Except Failure α} (h : on a m = (r, m'))
    (hc : on cleanUp m' = (.ok (), m'')) :
    on (do
      let x ← orElseDo a cleanUp
      cleanUp
      return x) m = (r, m'') := by
  cases r with
  | error e => exact on_bind_of_error (on_orElseDo_of_error h hc)
  | ok x => rw [on_bind_of_ok (on_orElseDo_of_ok h), on_bind_of_ok hc, on_pure]

/-! ### Actions that only look -/

/-- The action leaves every machine as it is. -/
def ReadOnly (a : Action α) : Prop := ∀ m, (on a m).2 = m

theorem ReadOnly.eq (ha : ReadOnly a) {r : Except Failure α} (h : on a m = (r, m')) : m' = m := by
  rw [← ha m, h]

theorem readOnly_pure (x : α) : ReadOnly (pure x : Action α) := fun _ => rfl

theorem readOnly_throw (e : Failure) : ReadOnly (throw e : Action α) := fun _ => rfl

theorem ReadOnly.bind (ha : ReadOnly a) (hf : ∀ x, ReadOnly (f x)) : ReadOnly (a >>= f) := by
  intro m
  rw [on_bind]
  rcases h : on a m with ⟨e | x, m'⟩
  · exact ha.eq h
  · obtain rfl := ha.eq h
    exact hf x _

theorem on_orFail {ε : Type} (cause : ε → Failure) (r : Except ε α) (m : Machine) :
    on (orFail cause r) m = (r.mapError cause, m) := by
  cases r <;> rfl

theorem on_orFail_bind {ε : Type} (cause : ε → Failure) (r : Except ε α) (f : α → Action β)
    (m : Machine) :
    on (orFail cause r >>= f) m = match r with
      | .ok x => on (f x) m
      | .error e => (.error (cause e), m) := by
  cases r with
  | ok x => exact on_bind_of_ok rfl
  | error e => exact on_bind_of_error rfl

theorem orFail_eq_ok {ε : Type} {cause : ε → Failure} {r : Except ε α} :
    on (orFail cause r) m = (.ok x, m') ↔ r = .ok x ∧ m' = m := by
  rw [on_orFail]
  cases r <;> simp [Except.mapError, eq_comm]

theorem orFail_bind_cases {ε : Type} {cause : ε → Failure} {result : Except ε α}
    {r : Except Failure β} (h : on (orFail cause result >>= f) m = (r, m'')) :
    (∃ e, result = .error e ∧ r = .error (cause e) ∧ m'' = m) ∨
      ∃ x, result = .ok x ∧ on (f x) m = (r, m'') := by
  rw [on_orFail_bind] at h
  rcases result with e | x
  · obtain ⟨rfl, rfl⟩ := Prod.mk.inj h
    exact .inl ⟨e, rfl, rfl, rfl⟩
  · exact .inr ⟨x, rfl, h⟩

theorem readOnly_orFail {ε : Type} (cause : ε → Failure) (r : Except ε α) :
    ReadOnly (orFail cause r) := fun m => by rw [on_orFail]

theorem on_files (m : Machine) : on files m = (.ok m.files, m) := rfl

theorem readOnly_files : ReadOnly files := fun _ => rfl

theorem on_load (host : Host) (path : String) (m : Machine) :
    on (load host path) m = ((m.files.read host.here path).mapError .file, m) := by
  rw [load, on_bind_of_ok (on_files m), on_orFail]

theorem load_eq_ok {host : Host} {path : String} {content : ByteArray} :
    on (load host path) m = (.ok content, m') ↔
      m.files.read host.here path = .ok content ∧ m' = m := by
  rw [load, on_bind_of_ok (on_files m), orFail_eq_ok]

theorem readOnly_load (host : Host) (path : String) : ReadOnly (load host path) :=
  fun m => by rw [on_load]

theorem isFile_eq_ok {host : Host} {path : String} {b : Bool} :
    on (isFile host path) m = (.ok b, m') ↔
      m.files.isFile host.here path = .ok b ∧ m' = m := by
  rw [isFile, on_bind_of_ok (on_files m), orFail_eq_ok, FileTree.blame]
  cases m.files.isFile host.here path <;> simp [Except.mapError]

theorem readOnly_isFile (host : Host) (path : String) : ReadOnly (isFile host path) :=
  readOnly_files.bind fun _ => readOnly_orFail _ _

theorem readOnly_loadText (host : Host) (path : String) : ReadOnly (loadText host path) :=
  (readOnly_load host path).bind fun _ => (readOnly_orFail _ _).bind fun _ => readOnly_pure _

theorem readOnly_realPlace (host : Host) (path : String) : ReadOnly (realPlace host path) := by
  refine readOnly_files.bind fun t => ?_
  split
  · exact readOnly_pure _
  · exact readOnly_throw _
  · exact readOnly_throw _

theorem readOnly_fingerprint (host : Host) (path : String) : ReadOnly (fingerprint host path) :=
  (readOnly_load host path).bind fun _ => readOnly_pure _

theorem readOnly_sameFiles (host : Host) (a b : String) : ReadOnly (sameFiles host a b) := by
  refine (readOnly_realPlace host a).bind fun first => ?_
  refine (readOnly_realPlace host b).bind fun second => ?_
  split
  · exact readOnly_pure _
  · exact (readOnly_fingerprint host a).bind fun _ =>
      (readOnly_fingerprint host b).bind fun _ => readOnly_pure _

/-! ### Actions that change the files -/

theorem on_setFiles (t : FileTree) (m : Machine) :
    on (setFiles t) m = (.ok (), { m with files := t }) := rfl

theorem on_changeFiles (change : FileTree → Except FileError FileTree) (m : Machine) :
    on (changeFiles change) m = match change m.files with
      | .ok t => (.ok (), { m with files := t })
      | .error e => (.error (.file e), m) := by
  rw [changeFiles, on_bind_of_ok (on_files m), on_bind, on_orFail]
  cases change m.files <;> rfl

theorem changeFiles_eq_ok {change : FileTree → Except FileError FileTree} {u : Unit} :
    on (changeFiles change) m = (.ok u, m') ↔
      ∃ t, change m.files = .ok t ∧ m' = { m with files := t } := by
  rw [on_changeFiles]
  cases change m.files <;> simp [eq_comm]

theorem changeFiles_eq_error {change : FileTree → Except FileError FileTree} :
    on (changeFiles change) m = (.error e, m') ↔
      ∃ fault, change m.files = .error fault ∧ e = .file fault ∧ m' = m := by
  rw [on_changeFiles]
  cases change m.files <;> simp [eq_comm]

theorem unlink_of_locate {host : Host} {path : String} {p : Place} {content : ByteArray}
    (hp : m.files.locate host.here path false = .ok p)
    (hg : m.files.get? p = some (.file content)) :
    on (unlink host path) m = (.ok (), { m with files := m.files.erase p }) := by
  rw [unlink, on_changeFiles, FileTree.remove_of_locate hp hg (by simp)]

theorem on_makeDirs (host : Host) (path : Path) (m : Machine) :
    on (makeDirs host path) m =
      ((match (m.files.makeDirs host.here path).2 with
        | none => .ok ()
        | some e => .error (.file e)),
        { m with files := (m.files.makeDirs host.here path).1 }) := by
  rw [makeDirs, on_bind_of_ok (on_files m)]
  rcases m.files.makeDirs host.here path with ⟨t, - | e⟩ <;> rfl

/-! ### Traces -/

/-- A machine that differs from `m` in its files and its next name at most. -/
structure SameTrace (m m' : Machine) : Prop where
  requests : m'.requests = m.requests
  calls : m'.calls = m.calls

theorem SameTrace.refl (m : Machine) : SameTrace m m := ⟨rfl, rfl⟩

theorem SameTrace.trans (h : SameTrace m m') (h' : SameTrace m' m'') : SameTrace m m'' :=
  ⟨h'.requests.trans h.requests, h'.calls.trans h.calls⟩

/-- Wherever the action stops, nothing was sent and nothing was called. -/
def Traceless (a : Action α) : Prop := ∀ m, SameTrace m (on a m).2

theorem Traceless.sameTrace {r : Except Failure α} (ha : Traceless a) (h : on a m = (r, m')) :
    SameTrace m m' := by
  have htrace := ha m
  rwa [h] at htrace

theorem Traceless.bind (ha : Traceless a) (hf : ∀ x, Traceless (f x)) : Traceless (a >>= f) := by
  intro m
  rw [on_bind]
  rcases hr : on a m with ⟨e | x, m₁⟩
  · exact ha.sameTrace hr
  · exact (ha.sameTrace hr).trans (hf x m₁)

theorem traceless_changeFiles (change : FileTree → Except FileError FileTree) :
    Traceless (changeFiles change) := by
  intro m
  rw [on_changeFiles]
  cases change m.files <;> exact ⟨rfl, rfl⟩

theorem traceless_makeDirs (host : Host) (path : Path) : Traceless (makeDirs host path) := by
  intro m
  rw [on_makeDirs]
  exact ⟨rfl, rfl⟩

/-! ### Temporary names -/

theorem on_takeNumber (m : Machine) :
    on takeNumber m = (.ok m.nextName, { m with nextName := m.nextName + 1 }) := rfl

/-- The last name of a fresh path. -/
def freshName (before after : List Char) (number : Nat) : List Char :=
  before ++ paddedNumber number ++ after

theorem isDigit_of_mem_paddedNumber {number : Nat} {c : Char} (hc : c ∈ paddedNumber number) :
    c.isDigit = true := by
  rcases List.mem_append.1 hc with hc | hc
  · obtain rfl := List.eq_of_mem_replicate hc
    decide
  · exact Nat.isDigit_of_mem_toDigits (by decide) (by decide) hc

theorem isFileName_freshName {before after : List Char} (hb : '/' ∉ before) (ha : '/' ∉ after)
    (number : Nat) : Path.IsFileName (freshName before after number) := by
  have hslash : '/' ∉ paddedNumber number := fun h =>
    absurd (isDigit_of_mem_paddedNumber h) (by decide)
  have hne : paddedNumber number ≠ [] := by simp [paddedNumber, Text.decimal, Nat.toDigits_ne_nil]
  exact ⟨by simp [freshName, hne], by simp [freshName, hb, ha, hslash]⟩

/-- A fresh path was free before, and its node is all that is new. -/
theorem createFresh_eq_ok {host : Host} {dir path : Path} {before after : List Char} {node : Node}
    {tries : Nat} (h : on (createFresh host dir before after node tries) m = (.ok path, m')) :
    (∃ number, path = dir.child (freshName before after number)) ∧
      m.files.add host.here path.text node = .ok m'.files ∧ SameTrace m m' := by
  -- a name that is taken leaves the files as they are, and another one is tried
  induction tries generalizing m with
  | zero => cases h
  | succ tries ih =>
    rw [createFresh, on_bind_of_ok (on_takeNumber m), on_bind_of_ok (on_files _)] at h
    simp only at h
    rcases hadd : m.files.add host.here
        (dir.child (before ++ paddedNumber m.nextName ++ after)).text node with e | t
    · rw [hadd] at h
      simp only at h
      split at h
      · obtain ⟨hp, ha, ht⟩ := ih h
        exact ⟨hp, ha, ht.requests, ht.calls⟩
      · cases h
    · rw [hadd] at h
      simp only [on_bind_of_ok (on_setFiles _ _), on_pure] at h
      obtain ⟨⟨⟩, ⟨⟩⟩ := h
      exact ⟨⟨m.nextName, rfl⟩, hadd, rfl, rfl⟩

theorem createFresh_eq_error {host : Host} {dir : Path} {before after : List Char} {node : Node}
    {tries : Nat} (h : on (createFresh host dir before after node tries) m = (.error e, m')) :
    (∃ fault, e = .file fault) ∧ m'.files = m.files ∧ SameTrace m m' := by
  induction tries generalizing m with
  | zero =>
    obtain ⟨⟨⟩, ⟨⟩⟩ := h
    exact ⟨⟨_, rfl⟩, rfl, .refl _⟩
  | succ tries ih =>
    rw [createFresh, on_bind_of_ok (on_takeNumber m), on_bind_of_ok (on_files _)] at h
    simp only at h
    rcases hadd : m.files.add host.here
        (dir.child (before ++ paddedNumber m.nextName ++ after)).text node with e' | t
    · rw [hadd] at h
      simp only at h
      split at h
      · obtain ⟨he, hf, ht⟩ := ih h
        exact ⟨he, hf, ht.requests, ht.calls⟩
      · obtain ⟨⟨⟩, ⟨⟩⟩ := h
        exact ⟨⟨_, rfl⟩, rfl, rfl, rfl⟩
    · rw [hadd] at h
      cases h

/-! ### Sameness -/

theorem fingerprint_eq_ok {host : Host} {path digest : String} :
    on (fingerprint host path) m = (.ok digest, m') ↔
      ∃ content, m.files.read host.here path = .ok content ∧ digest = Digest.ofPieces content ∧
        m' = m := by
  rw [fingerprint, on_bind_eq_ok]
  constructor
  · rintro ⟨content, m₁, hload, hpure⟩
    obtain ⟨hread, rfl⟩ := load_eq_ok.1 hload
    obtain ⟨⟨⟩, ⟨⟩⟩ := hpure
    exact ⟨content, hread, rfl, rfl⟩
  · rintro ⟨content, hread, rfl, rfl⟩
    exact ⟨content, _, load_eq_ok.2 ⟨hread, rfl⟩, rfl⟩

theorem realPlace_eq_ok {host : Host} {path : String} {place : Place}
    (h : on (realPlace host path) m = (.ok place, m')) :
    m.files.realPlace host.here (Path.ofString path).text = place ∧ m' = m := by
  rw [realPlace, on_bind_of_ok (on_files m)] at h
  rcases hr : m.files.realPlace? host.here (Path.ofString path).text with e | found
  · rw [hr] at h
    cases e <;> cases h
  · rw [hr] at h
    obtain ⟨⟨⟩, ⟨⟩⟩ := h
    exact ⟨FileTree.realPlace?_eq_ok hr, rfl⟩

/-- What is there has a real place. -/
theorem on_realPlace_of_lookup {host : Host} {path : String} {place : Place} {node : Node}
    (hnull : '\x00' ∉ (Path.ofString path).text.toList)
    (hplace : m.files.realPlace host.here (Path.ofString path).text = place)
    (hlookup : m.files.lookup [] (FileTree.placeText place) = .ok node) :
    on (realPlace host path) m = (.ok place, m) := by
  have hreal : m.files.realPlace? host.here (Path.ofString path).text = .ok place := by
    rw [FileTree.realPlace?, if_neg (by simpa using hnull), hplace]
    simp only [hlookup]
  rw [realPlace, on_bind_of_ok (on_files m), hreal]
  rfl

/-- Two different contents with one fingerprint. -/
def Collides (x y : ByteArray) : Prop := x ≠ y ∧ Digest.ofPieces x = Digest.ofPieces y

/-- Two files are said to be the same if their fingerprints are. -/
theorem sameFiles_eq_ok_iff {host : Host} {a b : String} {x y : ByteArray} {same : Bool}
    (hx : m.files.read host.here a = .ok x) (hy : m.files.read host.here b = .ok y)
    (h : on (sameFiles host a b) m = (.ok same, m')) :
    m' = m ∧ (same = true ↔ Digest.ofPieces x = Digest.ofPieces y) := by
  have hm := (readOnly_sameFiles host a b).eq h
  refine ⟨hm, ?_⟩
  rw [sameFiles] at h
  obtain ⟨first, m₁, h₁, hrest⟩ := on_bind_eq_ok.1 h
  obtain ⟨hfirst, rfl⟩ := realPlace_eq_ok h₁
  obtain ⟨second, m₂, h₂, hcompare⟩ := on_bind_eq_ok.1 hrest
  obtain ⟨hsecond, rfl⟩ := realPlace_eq_ok h₂
  by_cases hplace : first = second
  · -- one real place: it is the same file, and no fingerprint is taken
    rw [if_pos hplace] at hcompare
    obtain ⟨⟨⟩, -⟩ := hcompare
    obtain rfl : x = y := FileTree.read_eq_of_realPlace hx hy (by rw [hfirst, hsecond, hplace])
    simp
  · rw [if_neg hplace] at hcompare
    obtain ⟨d₁, m₃, h₃, hsnd⟩ := on_bind_eq_ok.1 hcompare
    obtain ⟨x', hx', rfl, rfl⟩ := fingerprint_eq_ok.1 h₃
    obtain ⟨d₂, m₄, h₄, hpure⟩ := on_bind_eq_ok.1 hsnd
    obtain ⟨y', hy', rfl, rfl⟩ := fingerprint_eq_ok.1 h₄
    obtain rfl := Except.ok.inj (hx.symm.trans hx')
    obtain rfl := Except.ok.inj (hy.symm.trans hy')
    obtain ⟨⟨⟩, -⟩ := hpure
    exact beq_iff_eq

/-- **Sameness** of two files is sameness of their contents, as long as
fingerprints do not collide. -/
theorem sameFiles_eq_ok {host : Host} {a b : String} {x y : ByteArray} {same : Bool}
    (hx : m.files.read host.here a = .ok x) (hy : m.files.read host.here b = .ok y)
    (h : on (sameFiles host a b) m = (.ok same, m')) :
    m' = m ∧ if same then x = y ∨ Collides x y else x ≠ y := by
  obtain ⟨hm, hsame⟩ := sameFiles_eq_ok_iff hx hy h
  refine ⟨hm, ?_⟩
  cases same with
  | true => exact or_iff_not_imp_left.2 fun hne => ⟨hne, hsame.1 rfl⟩
  | false =>
    rintro rfl
    exact absurd (hsame.2 rfl) Bool.false_ne_true

/-- Files at two places are compared by their fingerprints. -/
theorem sameFiles_of_ne (host : Host) {a b : String} {p q : Place} {x y : ByteArray}
    (hp : on (realPlace host a) m = (.ok p, m)) (hq : on (realPlace host b) m = (.ok q, m))
    (hne : p ≠ q) (hx : m.files.read host.here a = .ok x)
    (hy : m.files.read host.here b = .ok y) :
    on (sameFiles host a b) m = (.ok (Digest.ofPieces x == Digest.ofPieces y), m) := by
  rw [sameFiles, on_bind_of_ok hp, on_bind_of_ok hq, if_neg hne,
    on_bind_of_ok (fingerprint_eq_ok.2 ⟨x, hx, rfl, rfl⟩),
    on_bind_of_ok (fingerprint_eq_ok.2 ⟨y, hy, rfl, rfl⟩)]
  exact on_pure _ m

/-! ### Traces -/

theorem on_recordCall (call : List String) (m : Machine) :
    on (recordCall call) m = (.ok (), { m with calls := m.calls ++ [call] }) := rfl

theorem on_fetch (host : Host) (client : Net.Client) (address : String) (m : Machine) :
    on (fetch host client address) m =
      (.ok (Net.get host.library host.server client address m.requests).1,
        { m with requests := (Net.get host.library host.server client address m.requests).2 }) :=
  rfl

end Action

end ReleaseGate
