/-
ReleaseGate/Proofs/Gate/AndroidArchive.lean

Normalizing an archive changes one place at most.

The inner archive is written under a temporary name, and moved to its place
when it is complete.  Whatever happens, the temporary file is gone in the
end: a run that fails leaves the view of the tree as it was
(`normalize_eq_error`), and one that succeeds has written what the
archive held to the place of the inner archive (`normalize_eq_ok`).

Main results: `normalize_eq_ok`, `normalize_eq_error`.
-/
import ReleaseGate.Gate.AndroidArchive
import ReleaseGate.Proofs.Runs

namespace ReleaseGate.AndroidArchive

open ReleaseGate.Action
open FileTree hiding resolve

variable {host : Host} {path target archive : Path} {m m' : Machine} {e : Failure}
variable {reader : Archive.Reader} {data classes : ByteArray}

/-- What the inner archive of some bytes holds. -/
def classesIn? (reader : Archive.Reader) (data : ByteArray) : Option ByteArray :=
  match Archive.directory data with
  | .error _ => none
  | .ok members =>
    match Archive.member? members classEntry with
    | none => none
    | some m => (Archive.contents reader data m).toOption

theorem classesIn?_eq_some :
    classesIn? reader data = some classes ↔ ∃ members entry,
      Archive.directory data = .ok members ∧
      Archive.member? members classEntry = some entry ∧
      Archive.contents reader data entry = .ok classes := by
  unfold classesIn?
  rcases Archive.directory data with e | members
  · simp
  · rcases hm : Archive.member? members classEntry with - | entry
    · simp [hm]
    · rcases hc : Archive.contents reader data entry with e | found <;>
        simp [hm, hc, Except.toOption]

/-- An Android archive has a name to put another suffix on. -/
theorem exists_normalPath (h : isAndroid path = true) :
    ∃ target, normalPath? path = some target := by
  have hname : path.name ≠ [] := by
    intro hn
    have hs : path.suffix = [] := by
      rw [Path.suffix, hn]
      rfl
    rw [isAndroid, hs] at h
    exact absurd h (by decide)
  have hempty : path.name.isEmpty = false := by simpa using hname
  rw [normalPath?, Path.withSuffix?, hempty, if_neg Bool.false_ne_true]
  exact ⟨_, rfl⟩

/-! ### The temporary file -/

/-- The tree `t'` is `t` with a new temporary file at `f`. -/
structure HasTemp (host : Host) (temp : Path) (t : FileTree) (f : Place) (t' : FileTree) :
    Prop where
  free : t.get? f = none
  locate : t.locate host.here temp.text false = .ok f
  filled : ∃ content, t.Edit f (some (.file content)) t'

variable {temp : Path} {f : Place} {t t' t'' : FileTree}

theorem HasTemp.write {content : ByteArray} (h : HasTemp host temp t f t')
    (hw : t'.write host.here temp.text content = .ok t'') :
    t.Edit f (some (.file content)) t'' := by
  obtain ⟨old, hold⟩ := h.filled
  obtain ⟨q, hq, -, hedit⟩ := write_eq_ok hw
  obtain rfl : f = q := Except.ok.inj ((hold.locate_new h.locate h.free true).symm.trans hq)
  exact hold.trans hedit

/-- Taking the temporary file away brings the tree back. -/
theorem HasTemp.unlink (h : HasTemp host temp t f m.files) :
    ∃ m', (unlink host temp.text).on m = (.ok (), m') ∧ SameTrace m m' ∧
      ∀ q, m'.files.get? q = t.get? q := by
  obtain ⟨content, hedit⟩ := h.filled
  have hl := hedit.locate_new h.locate h.free false
  have hf : f ≠ [] := ne_root_of_not_dir (t := t) (by simp [h.free])
  refine ⟨_, unlink_of_locate hl hedit.new, ⟨rfl, rfl⟩, ?_⟩
  exact (hedit.trans (edit_erase hf)).get?_eq h.free

/-- Moving the temporary file leaves it at its new place only. -/
theorem move_temp {content : ByteArray} (hfree : t.get? f = none)
    (hl : t.locate host.here temp.text false = .ok f)
    (hedit : t.Edit f (some (.file content)) t')
    (hm : t'.move host.here temp.text target.text = .ok t'') :
    ∃ q, t.locate host.here target.text false = .ok q ∧ t.get? q ≠ some .dir ∧
      t.Edit q (some (.file content)) t'' := by
  obtain ⟨p, q, node, hp, hq, hnode, hdir, rfl⟩ := move_eq_ok hm
  obtain rfl : f = p := Except.ok.inj ((hedit.locate_new hl hfree false).symm.trans hp)
  obtain rfl : node = .file content := Option.some.inj (hnode.symm.trans hedit.new)
  -- the temporary file is on no way that was there before it
  have hlq : t.locate host.here target.text false = .ok q :=
    locate_of_walk hq (hedit.walk_of_new hfree (walk_of_locate hq))
  have hdirq : t.get? q ≠ some .dir := by
    by_cases hqf : q = f
    · simp [hqf, hfree]
    · rwa [hedit.off q hqf] at hdir
  refine ⟨q, hlq, hdirq, ?_⟩
  have hput : (t'.erase f).Edit q (some (.file content)) ((t'.erase f).put q (.file content)) :=
    edit_put (ne_root_of_not_dir hdirq)
  refine ⟨hput.new, fun x hx => (hput.off x hx).trans ?_⟩
  have hf : f ≠ [] := ne_root_of_not_dir (t := t) (by simp [hfree])
  exact (hedit.trans (edit_erase hf)).get?_eq hfree x

/-! ### Putting the inner archive in place -/

theorem place_eq_ok {content : Except Failure ByteArray} {u : Unit}
    (htemp : HasTemp host temp t f m.files)
    (h : (place host temp target content).on m = (.ok u, m')) :
    SameTrace m m' ∧ ∃ classes q, content = .ok classes ∧
      t.locate host.here target.text false = .ok q ∧ t.get? q ≠ some .dir ∧
      t.Edit q (some (.file classes)) m'.files := by
  rw [place, on_bind, on_orFail] at h
  rcases content with e | classes
  · cases h
  · obtain ⟨⟨⟩, m₁, hstore, hmove⟩ := on_bind_eq_ok.1 h
    obtain ⟨t₁, hwrite, rfl⟩ := changeFiles_eq_ok.1 hstore
    obtain ⟨t₂, hmoved, rfl⟩ := changeFiles_eq_ok.1 hmove
    obtain ⟨q, hq, hdir, hedit⟩ := move_temp htemp.free htemp.locate (htemp.write hwrite) hmoved
    exact ⟨⟨rfl, rfl⟩, classes, q, rfl, hq, hdir, hedit⟩

theorem place_eq_error {content : Except Failure ByteArray}
    (htemp : HasTemp host temp t f m.files)
    (h : (place host temp target content).on m = (.error e, m')) :
    SameTrace m m' ∧ HasTemp host temp t f m'.files := by
  rw [place, on_bind, on_orFail] at h
  rcases content with fault | classes
  · obtain ⟨⟨⟩, ⟨⟩⟩ := h
    exact ⟨.refl _, htemp⟩
  · rcases on_bind_eq_error.1 h with hstore | ⟨⟨⟩, m₁, hstore, hmove⟩
    · obtain ⟨fault, -, -, rfl⟩ := changeFiles_eq_error.1 hstore
      exact ⟨.refl _, htemp⟩
    · obtain ⟨t₁, hwrite, rfl⟩ := changeFiles_eq_ok.1 hstore
      obtain ⟨fault, -, -, rfl⟩ := changeFiles_eq_error.1 hmove
      exact ⟨⟨rfl, rfl⟩, htemp.free, htemp.locate, _, htemp.write hwrite⟩

/-! ### Normalizing -/

/-- The inner archive of the archive at `path` was put to the place of
`target`. -/
structure Extracts (host : Host) (path target : Path) (t : FileTree) (classes : ByteArray)
    (c : Place) (t' : FileTree) : Prop where
  read : ∃ data, t.read host.here path.text = .ok data ∧
    classesIn? host.archives data = some classes
  locate : t.locate host.here target.text false = .ok c
  notDir : t.get? c ≠ some .dir
  edit : t.Edit c (some (.file classes)) t'

/-- What extracting comes to: all of it, or nothing. -/
theorem extracts_extract {r : Except Failure Unit}
    (h : (extract host path target).on m = (r, m')) :
    SameTrace m m' ∧
      (r = .ok () → ∃ classes c, Extracts host path target m.files classes c m'.files) ∧
      ((∃ e, r = .error e) → ∀ q, m'.files.get? q = m.files.get? q) := by
  rw [extract] at h
  rcases on_bind_cases h with ⟨e, hload, rfl⟩ | ⟨data, m₁, hload, hrest⟩
  · obtain rfl := (readOnly_load host _).eq hload
    exact ⟨.refl _, nofun, fun _ _ => rfl⟩
  obtain ⟨hread, rfl⟩ := load_eq_ok.1 hload
  rcases orFail_bind_cases hrest with ⟨e, -, rfl, rfl⟩ | ⟨members, hdirectory, h⟩
  · exact ⟨.refl _, nofun, fun _ _ => rfl⟩
  rcases hmember : Archive.member? members classEntry with - | entry <;> rw [hmember] at h <;>
    simp only at h
  · obtain ⟨rfl, rfl⟩ := Prod.mk.inj h
    exact ⟨.refl _, nofun, fun _ _ => rfl⟩
  rcases on_bind_cases h with ⟨e, hnew, rfl⟩ | ⟨temp, m₂, hnew, h⟩
  · obtain ⟨-, hfiles, htrace⟩ := createFresh_eq_error hnew
    exact ⟨htrace, nofun, fun _ _ => by rw [hfiles]⟩
  obtain ⟨-, hadd, htrace⟩ := createFresh_eq_ok hnew
  obtain ⟨f, hl, hfree, hedit⟩ := add_eq_ok hadd
  have htemp : HasTemp host temp m₁.files f m₂.files := ⟨hfree, hl, _, hedit⟩
  rcases hplace : (place host temp target
    ((Archive.contents host.archives data entry).mapError (zipFailure path))).on m₂ with
    ⟨e | u, m₃⟩
  · -- the temporary file is taken away, and with it all that was new
    obtain ⟨htrace₃, htemp₃⟩ := place_eq_error htemp hplace
    obtain ⟨m₄, hunlink, htrace₄, hback⟩ := htemp₃.unlink
    rw [on_orElseDo_of_error hplace hunlink] at h
    obtain ⟨rfl, rfl⟩ := Prod.mk.inj h
    exact ⟨htrace.trans (htrace₃.trans htrace₄), nofun, fun _ => hback⟩
  · obtain ⟨htrace₃, classes, q, hcontents, hq, hdir, hput⟩ := place_eq_ok htemp hplace
    rw [on_orElseDo_of_ok hplace] at h
    obtain ⟨rfl, rfl⟩ := Prod.mk.inj h
    have hclasses : classesIn? host.archives data = some classes := by
      refine classesIn?_eq_some.2 ⟨members, entry, hdirectory, hmember, ?_⟩
      rcases hc : Archive.contents host.archives data entry with fault | found <;>
        rw [hc] at hcontents
      · cases hcontents
      · rw [Except.ok.inj hcontents]
    refine ⟨htrace.trans htrace₃, fun _ => ?_, ?_⟩
    · exact ⟨classes, q, ⟨data, hread, hclasses⟩, hq, hdir, hput⟩
    · rintro ⟨e, he⟩
      cases he

/-- **A normalized archive** is the archive itself, or was put beside it from
what the archive held. -/
theorem normalize_eq_ok (h : (normalize host path).on m = (.ok archive, m')) :
    SameTrace m m' ∧
      (isAndroid path = false ∧ archive = path ∧ m' = m ∨
        isAndroid path = true ∧ normalPath? path = some archive ∧
          ∃ classes c, Extracts host path archive m.files classes c m'.files) := by
  unfold normalize at h
  rcases ha : isAndroid path with - | -
  · rw [ha] at h
    obtain ⟨⟨⟩, ⟨⟩⟩ := h
    exact ⟨.refl _, .inl ⟨rfl, rfl, rfl⟩⟩
  · obtain ⟨target, ht⟩ := exists_normalPath ha
    rw [ha, ht] at h
    obtain ⟨u, m₁, hextract, hpure⟩ := on_bind_eq_ok.1 h
    obtain ⟨htrace, hok, -⟩ := extracts_extract hextract
    rw [on_pure] at hpure
    obtain ⟨hsome, rfl⟩ := Prod.mk.inj hpure
    obtain rfl := Except.ok.inj hsome
    exact ⟨htrace, .inr ⟨rfl, ht, hok rfl⟩⟩

/-- Only an Android archive cannot be normalized, and then everything is left
as it was. -/
theorem normalize_eq_error (h : (normalize host path).on m = (.error e, m')) :
    isAndroid path = true ∧ SameTrace m m' ∧ ∀ q, m'.files.get? q = m.files.get? q := by
  unfold normalize at h
  rcases ha : isAndroid path with - | -
  · rw [ha] at h
    cases h
  · obtain ⟨target, ht⟩ := exists_normalPath ha
    rw [ha, ht] at h
    rcases on_bind_eq_error.1 h with hextract | ⟨u, m₁, -, hpure⟩
    · obtain ⟨htrace, -, hsame⟩ := extracts_extract hextract
      exact ⟨rfl, htrace, hsame ⟨e, rfl⟩⟩
    · cases hpure

end ReleaseGate.AndroidArchive
