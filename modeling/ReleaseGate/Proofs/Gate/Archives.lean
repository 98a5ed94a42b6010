/-
ReleaseGate/Proofs/Gate/Archives.lean

What the engine is to read on both sides.

An Android archive is replaced by its inner archive, which is put beside it
and takes the place of what is there.  Both artifacts are treated in turn,
the old one first, so what is put for one side can be in the way of the
other side: the place may be that of the other artifact, or of its inner
archive, or of a link on the way to either.  `Apart` says that it is not.

Design.  One extraction is a change at one place, and the file beside which
it is put shares with it the passage to their directory (`Extracts.passage`).
So what becomes of the inner archive (`Extracts.read_target`) and of any
other file (`Edit.read_of_off`, `Edit.read_of_on`) depends on whether the
place is on the way.

Main result: `reaches_finds_classes`: the engine reads the right bytes on
both sides if the two are apart, and otherwise only if the bytes happen to
coincide.
-/
import ReleaseGate.Gate.Run
import ReleaseGate.Proofs.Files.Passage
import ReleaseGate.Proofs.Gate.AndroidArchive
import ReleaseGate.Proofs.Gate.FindFiles
import ReleaseGate.Proofs.Policy

namespace ReleaseGate.Gate

open ReleaseGate.Action AndroidArchive
open FileTree hiding resolve

variable {host : Host} {t t' t'' : FileTree} {path target : Path} {classes : ByteArray}
variable {c d : Place}

/-! ### An inner archive and its outer one -/

/-- The places on the way to a path, without its end. -/
def wayTo (host : Host) (t : FileTree) (path : Path) : List Place :=
  (t.trailOf host.here path.text false).dropLast

/-- The inner archive of the archive at `path` is put at `c`, as `target`. -/
def Puts (host : Host) (t : FileTree) (path target : Path) (c : Place) : Prop :=
  isAndroid path = true ∧ normalPath? path = some target ∧
    t.locate host.here target.text false = .ok c

theorem Puts.unique {target' : Path} {c' : Place} (h : Puts host t path target c)
    (h' : Puts host t path target' c') : target = target' ∧ c = c' := by
  obtain ⟨-, ht, hc⟩ := h
  obtain ⟨-, ht', hc'⟩ := h'
  obtain rfl := Option.some.inj (ht.symm.trans ht')
  exact ⟨rfl, Except.ok.inj (hc.symm.trans hc')⟩

/-- The last name of an inner archive. -/
theorem isFileName_target (hname : '/' ∉ path.name) (ht : normalPath? path = some target) :
    ∃ n, Path.IsFileName n ∧ String.ofList n ≠ "." ∧ String.ofList n ≠ ".." ∧
      target = path.parent.child n := by
  obtain ⟨-, rfl⟩ := Path.withSuffix?_eq_some ht
  have hend : ∀ s : List Char, path.stem ++ classSuffix ≠ s ++ ['.'] := by
    intro s h
    have hlast := congrArg List.getLast? h
    simp [classSuffix] at hlast
  refine ⟨path.stem ++ classSuffix, ⟨by simp [classSuffix], ?_⟩, ?_, ?_, rfl⟩
  · intro h
    rcases List.mem_append.1 h with h | h
    · exact hname (Path.mem_of_mem_stem h)
    · exact absurd h (by decide)
  · intro h
    have hdot : String.ofList (path.stem ++ classSuffix) = String.ofList ['.'] := h
    exact hend [] (String.ofList_inj.1 hdot)
  · intro h
    have hup : String.ofList (path.stem ++ classSuffix) = String.ofList ['.', '.'] := h
    exact hend ['.'] (String.ofList_inj.1 hup)

/-- A passage to the directory of an archive, and the name of its inner archive there. -/
structure Beside (host : Host) (t : FileTree) (path target : Path) (before : List Place)
    (c : Place) : Prop where
  passage : ∃ left d, Passage t maxLinks (startOf host.here (String.ofList path.parent.lead))
    path.parent.leadSteps before left d ∧ ∃ n, IsEntryName n ∧ c = n :: d ∧
      steps target.text = path.parent.leadSteps ++ [n]
  start : startOf host.here target.text = startOf host.here (String.ofList path.parent.lead)
  text : IsPathText target.text

theorem Beside.walk {before : List Place} (h : Beside host t path target before c) :
    Walk t false maxLinks (startOf host.here target.text) (steps target.text)
      (before ++ [c]) c := by
  obtain ⟨left, d, hp, n, hn, rfl, hsteps⟩ := h.passage
  rw [hsteps, h.start]
  exact hp.append (walk_name t left d hn) (by simp)

theorem Beside.locate {before : List Place} (h : Beside host t path target before c) :
    t.locate host.here target.text false = .ok c :=
  locate_eq_ok_iff.2 ⟨h.text, h.walk.walk_eq⟩

theorem Beside.trailOf {before : List Place} (h : Beside host t path target before c) :
    t.trailOf host.here target.text false = before ++ [c] := h.walk.trail_eq

theorem Beside.wayTo {before : List Place} (h : Beside host t path target before c) :
    wayTo host t target = before := by
  rw [Gate.wayTo, h.trailOf, List.dropLast_concat]

theorem Beside.congr {before : List Place} (h : Beside host t path target before c)
    (hq : ∀ q ∈ before, t'.get? q = t.get? q) : Beside host t' path target before c := by
  obtain ⟨left, d, hp, hname⟩ := h.passage
  exact ⟨⟨left, d, hp.congr hq, hname⟩, h.start, h.text⟩

/-- Where an inner archive is put. -/
theorem exists_beside (hname : '/' ∉ path.name) (ht : normalPath? path = some target)
    (hl : t.locate host.here target.text false = .ok c) :
    ∃ before, Beside host t path target before c := by
  obtain ⟨n, hn, hdot, hup, rfl⟩ := isFileName_target hname ht
  have hsteps := Path.steps_child path.parent hn
  have hstart := Path.startOf_child host.here path.parent hn
  have hw := walk_of_locate hl
  rw [hsteps, hstart] at hw
  -- the last step is to the name in the directory that the passage leads to
  obtain ⟨before, after, left, d, hp, hlast, -⟩ := hw.split (by simp)
  obtain ⟨hentry, -, hend⟩ := hlast.step_inv hdot hup
  obtain ⟨-, rfl⟩ := hend rfl
  exact ⟨before, ⟨left, d, hp, _, hentry, rfl, hsteps⟩, hstart, (locate_eq_ok_iff.1 hl).1⟩

/-- An archive that is there shares the passage with its inner archive. -/
theorem Beside.split_archive {before : List Place} {p : Place} {followLast : Bool}
    (h : Beside host t path target before c) (hname : '/' ∉ path.name) (hne : path.name ≠ [])
    (hl : t.locate host.here path.text followLast = .ok p) :
    ∃ n d left after, c = n :: d ∧ steps target.text = path.parent.leadSteps ++ [n] ∧
      Walk t followLast left d [String.ofList path.name] after p ∧
      t.trailOf host.here path.text followLast = before ++ after := by
  have hn : Path.IsFileName path.name := ⟨hne, hname⟩
  have hpath : path.parent.child path.name = path := Path.parent_child hne
  have hsteps := Path.steps_child path.parent hn
  have hstart := Path.startOf_child host.here path.parent hn
  rw [hpath] at hsteps hstart
  have hw := walk_of_locate hl
  rw [hsteps, hstart] at hw
  obtain ⟨before', after, left', d', hp', hlast, htrail⟩ := hw.split (by simp)
  obtain ⟨left, d, hp, n, -, rfl, hsteps'⟩ := h.passage
  -- both passages take the steps to the parent, so they look at the same places
  obtain rfl : before' = before := hp'.toWalk.trail_eq.symm.trans hp.toWalk.trail_eq
  obtain rfl : d' = d := Except.ok.inj (hp'.toWalk.walk_eq.symm.trans hp.toWalk.walk_eq)
  exact ⟨n, d', left', after, rfl, hsteps', hlast, htrail⟩

theorem Beside.mem_trailOf {before : List Place} {p q : Place}
    (h : Beside host t path target before c) (hname : '/' ∉ path.name) (hne : path.name ≠ [])
    (hl : t.locate host.here path.text true = .ok p) (hq : q ∈ before) :
    q ∈ t.trailOf host.here path.text true := by
  obtain ⟨-, -, -, after, -, -, -, htrail⟩ := h.split_archive hname hne hl
  rw [htrail]
  exact List.mem_append_left _ hq

/-- With a file at its end, nothing more is looked at when links are followed. -/
theorem Beside.trailOf_follow {before : List Place} {content : ByteArray}
    (h : Beside host t path target before c) (hc : t.get? c = some (.file content)) :
    t.trailOf host.here target.text true = before ++ [c] :=
  (h.walk.follow_of_not_link (by simp [hc])).trail_eq

/-! ### One extraction -/

/-- What is read of an inner archive that was put in its place: its bytes,
unless it stands in its own way. -/
theorem Beside.read {before : List Place} (h : Beside host t path target before c)
    (hdir : t.get? c ≠ some .dir) (hedit : t.Edit c (some (.file classes)) t') :
    (c ∉ before → Beside host t' path target before c ∧
      t'.read host.here target.text = .ok classes) ∧
    (c ∈ before → ∀ content, t'.read host.here target.text ≠ .ok content) := by
  constructor
  · intro hc
    have hkeep := h.congr fun q hq => hedit.off q (by rintro rfl; exact hc hq)
    have hfollow := locate_follow hkeep.locate (by simp [hedit.new])
    exact ⟨hkeep, read_eq_ok.2 ⟨c, hfollow, hedit.new⟩⟩
  · intro hc content hr
    obtain ⟨q, hq, -⟩ := read_eq_ok.1 hr
    obtain ⟨left, d, hp, n, hn, rfl, hsteps⟩ := h.passage
    have hwalk := (locate_eq_ok_iff.1 hq).2
    rw [hsteps, h.start, hp.blocked hc hdir hedit.off hedit.new (by simp)] at hwalk
    cases hwalk

/-! ### Both sides -/

/-- The classes of an artifact: what its inner archive holds, or its own
bytes. -/
def classesOf? (host : Host) (file : Path) (content : ByteArray) : Option ByteArray :=
  if isAndroid file then classesIn? host.archives content else some content

/-- The engine finds the classes of an artifact where it looks for them. -/
def FindsClasses (host : Host) (t : FileTree) (file archive : Path) (content : ByteArray) : Prop :=
  ∃ classes, classesOf? host file content = some classes ∧
    t.read host.here archive.text = .ok classes

/-- What is put for one artifact is not on the way to the other one, nor on
its own. -/
structure Apart (host : Host) (t : FileTree) (oldFile newFile : Path) : Prop where
  oldWay : ∀ target c, Puts host t oldFile target c → c ∉ wayTo host t target
  newWay : ∀ target c, Puts host t newFile target c → c ∉ wayTo host t target
  /-- The new artifact is left as it is. -/
  new : ∀ target c, Puts host t oldFile target c → c ∉ t.trailOf host.here newFile.text true
  /-- So is the old one, where it is compared itself. -/
  old : ∀ target c, Puts host t newFile target c → isAndroid oldFile = false →
    c ∉ t.trailOf host.here oldFile.text true
  /-- The inner archive of the old one stays in its place. -/
  oldInner : ∀ target c target' c', Puts host t newFile target c → Puts host t oldFile target' c' →
    c ∉ t.trailOf host.here target'.text false

/-- The bytes on both sides coincide: both artifacts have the same classes,
or the classes of the old one are an archive with those of the new one. -/
def Coincide (host : Host) (oldFile newFile : Path) (a b : ByteArray) : Prop :=
  ∃ x y, classesOf? host oldFile a = some x ∧ classesOf? host newFile b = some y ∧
    (x = y ∨ isAndroid newFile = true ∧ classesIn? host.archives x = some y)

/-- The archive for the file at `path`. -/
def Normalizes (host : Host) (path archive : Path) (t t' : FileTree) : Prop :=
  isAndroid path = false ∧ archive = path ∧ t' = t ∨
    isAndroid path = true ∧ normalPath? path = some archive ∧
      ∃ classes c, Extracts host path archive t classes c t'

variable {oldFile newFile oldArchive newArchive : Path} {a b : ByteArray}

theorem puts_of_extracts (h : Extracts host path target t classes c t')
    (ha : isAndroid path = true) (ht : normalPath? path = some target) :
    Puts host t path target c := ⟨ha, ht, h.locate⟩

theorem classesOf_of_extracts (h : Extracts host path target t classes c t')
    (ha : isAndroid path = true) (hr : t.read host.here path.text = .ok a) :
    classesOf? host path a = some classes := by
  obtain ⟨data, hdata, hclasses⟩ := h.read
  obtain rfl : a = data := Except.ok.inj (hr.symm.trans hdata)
  rw [classesOf?, if_pos ha, hclasses]

/-- Nothing is put for one artifact, so it is its own archive. -/
theorem Puts.absurd_of_not (h : isAndroid path = false) : ¬ Puts host t path target c :=
  fun hp => Bool.false_ne_true (h.symm.trans hp.1)

theorem findsClasses_of_not_android {content : ByteArray} (h : isAndroid path = false) :
    FindsClasses host t path path content ↔ t.read host.here path.text = .ok content := by
  simp [FindsClasses, classesOf?, h]

/-- An inner archive is found unless it was put in its own way. -/
theorem finds_iff_of_extracts (h : Extracts host path target t classes c t')
    (hname : '/' ∉ path.name) (ha : isAndroid path = true) (ht : normalPath? path = some target)
    (hr : t.read host.here path.text = .ok a) :
    FindsClasses host t' path target a ↔ c ∉ wayTo host t target := by
  obtain ⟨before, hbeside⟩ := exists_beside hname ht h.locate
  obtain ⟨⟨data, hdata, hclasses⟩, -, hdir, hedit⟩ := h
  obtain rfl : a = data := Except.ok.inj (hr.symm.trans hdata)
  obtain ⟨hoff, hon⟩ := hbeside.read hdir hedit
  rw [hbeside.wayTo]
  constructor
  · rintro ⟨found, -, hfound⟩ hc
    exact hon hc found hfound
  · intro hc
    refine ⟨classes, ?_, (hoff hc).2⟩
    rw [classesOf?, if_pos ha, hclasses]

/-- Another file is left as it is unless an inner archive was put on the way
to it; then it is found if the bytes are the same. -/
theorem reads_of_extracts {other : String} (h : Extracts host path target t classes c t')
    (ht : Grounded t) (hd : t.get? host.here = some .dir)
    (hr : t.read host.here other = .ok b) :
    (c ∉ t.trailOf host.here other true → t'.read host.here other = .ok b) ∧
      (t'.read host.here other = .ok b → c ∉ t.trailOf host.here other true ∨ b = classes) := by
  refine ⟨h.edit.read_of_off ht hd hr, fun hfound => ?_⟩
  by_cases hc : c ∈ t.trailOf host.here other true
  · obtain ⟨q, hq, -⟩ := read_eq_ok.1 hr
    exact .inr (h.edit.read_of_on h.notDir hq hc hfound)
  · exact .inl hc

/-! ### Apart, by which artifacts are Android archives -/

theorem apart_iff_of_old (hputs : Puts host t oldFile oldArchive c)
    (han : isAndroid newFile = false) :
    Apart host t oldFile newFile ↔
      c ∉ wayTo host t oldArchive ∧ c ∉ t.trailOf host.here newFile.text true := by
  refine ⟨fun h => ⟨h.oldWay _ _ hputs, h.new _ _ hputs⟩, ?_⟩
  rintro ⟨hway, hnew⟩
  refine ⟨fun target e h => ?_, fun _ _ h => absurd h (Puts.absurd_of_not han),
    fun target e h => ?_, fun _ _ h => absurd h (Puts.absurd_of_not han),
    fun _ _ _ _ h => absurd h (Puts.absurd_of_not han)⟩
  · obtain ⟨rfl, rfl⟩ := hputs.unique h
    exact hway
  · obtain ⟨rfl, rfl⟩ := hputs.unique h
    exact hnew

theorem apart_iff_of_new (hputs : Puts host t newFile newArchive c)
    (hao : isAndroid oldFile = false) :
    Apart host t oldFile newFile ↔
      c ∉ wayTo host t newArchive ∧ c ∉ t.trailOf host.here oldFile.text true := by
  refine ⟨fun h => ⟨h.newWay _ _ hputs, h.old _ _ hputs hao⟩, ?_⟩
  rintro ⟨hway, hold⟩
  refine ⟨fun _ _ h => absurd h (Puts.absurd_of_not hao), fun target e h => ?_,
    fun _ _ h => absurd h (Puts.absurd_of_not hao), fun target e h _ => ?_,
    fun _ _ _ _ _ h => absurd h (Puts.absurd_of_not hao)⟩
  · obtain ⟨rfl, rfl⟩ := hputs.unique h
    exact hway
  · obtain ⟨rfl, rfl⟩ := hputs.unique h
    exact hold

theorem apart_iff_of_both (hputs : Puts host t oldFile oldArchive c)
    (hputs' : Puts host t newFile newArchive d) :
    Apart host t oldFile newFile ↔
      c ∉ wayTo host t oldArchive ∧ d ∉ wayTo host t newArchive ∧
        c ∉ t.trailOf host.here newFile.text true ∧
        d ∉ t.trailOf host.here oldArchive.text false := by
  constructor
  · intro h
    exact ⟨h.oldWay _ _ hputs, h.newWay _ _ hputs', h.new _ _ hputs,
      h.oldInner _ _ _ _ hputs' hputs⟩
  · rintro ⟨hway, hway', hnew, hinner⟩
    refine ⟨fun target e h => ?_, fun target e h => ?_, fun target e h => ?_,
      fun _ _ _ h => absurd hputs.1 (h ▸ Bool.false_ne_true), fun target e target' e' h h' => ?_⟩
    · obtain ⟨rfl, rfl⟩ := hputs.unique h
      exact hway
    · obtain ⟨rfl, rfl⟩ := hputs'.unique h
      exact hway'
    · obtain ⟨rfl, rfl⟩ := hputs.unique h
      exact hnew
    · obtain ⟨rfl, rfl⟩ := hputs'.unique h
      obtain ⟨rfl, rfl⟩ := hputs.unique h'
      exact hinner

/-! ### What is found on both sides -/

/-- Only the old artifact is replaced. -/
theorem holds_iff_apart_of_old (ht : Grounded t) (hd : t.get? host.here = some .dir)
    (hold : '/' ∉ oldFile.name) (ha : t.read host.here oldFile.text = .ok a)
    (hb : t.read host.here newFile.text = .ok b)
    (hao : isAndroid oldFile = true) (han : isAndroid newFile = false)
    (hpath : normalPath? oldFile = some oldArchive)
    (hx : Extracts host oldFile oldArchive t classes c t') :
    (Apart host t oldFile newFile →
      FindsClasses host t' oldFile oldArchive a ∧ FindsClasses host t' newFile newFile b) ∧
    (FindsClasses host t' oldFile oldArchive a ∧ FindsClasses host t' newFile newFile b →
      Apart host t oldFile newFile ∨ Coincide host oldFile newFile a b) := by
  rw [apart_iff_of_old (puts_of_extracts hx hao hpath) han,
    finds_iff_of_extracts hx hold hao hpath ha, findsClasses_of_not_android han]
  obtain ⟨hoff, hon⟩ := reads_of_extracts hx ht hd hb
  constructor
  · rintro ⟨hway, hnew⟩
    exact ⟨hway, hoff hnew⟩
  · rintro ⟨hway, hfound⟩
    rcases hon hfound with hnew | rfl
    · exact .inl ⟨hway, hnew⟩
    · exact .inr ⟨b, b, classesOf_of_extracts hx hao ha, by simp [classesOf?, han], .inl rfl⟩

/-- Only the new artifact is replaced. -/
theorem holds_iff_apart_of_new (ht : Grounded t) (hd : t.get? host.here = some .dir)
    (hnew : '/' ∉ newFile.name) (ha : t.read host.here oldFile.text = .ok a)
    (hb : t.read host.here newFile.text = .ok b)
    (hao : isAndroid oldFile = false) (han : isAndroid newFile = true)
    (hpath : normalPath? newFile = some newArchive)
    (hy : Extracts host newFile newArchive t classes c t') :
    (Apart host t oldFile newFile →
      FindsClasses host t' oldFile oldFile a ∧ FindsClasses host t' newFile newArchive b) ∧
    (FindsClasses host t' oldFile oldFile a ∧ FindsClasses host t' newFile newArchive b →
      Apart host t oldFile newFile ∨ Coincide host oldFile newFile a b) := by
  rw [apart_iff_of_new (puts_of_extracts hy han hpath) hao,
    finds_iff_of_extracts hy hnew han hpath hb, findsClasses_of_not_android hao]
  obtain ⟨hoff, hon⟩ := reads_of_extracts hy ht hd ha
  constructor
  · rintro ⟨hway, hold⟩
    exact ⟨hoff hold, hway⟩
  · rintro ⟨hfound, hway⟩
    rcases hon hfound with hold | rfl
    · exact .inl ⟨hway, hold⟩
    · exact .inr ⟨a, a, by simp [classesOf?, hao], classesOf_of_extracts hy han hb, .inl rfl⟩

/-- Where the old inner archive is not on the way to the new artifact, the
new one has its inner archive put where it would have been put before. -/
theorem before_of_extracts {x y : ByteArray} (hx : Extracts host oldFile oldArchive t x c t')
    (hy : Extracts host newFile newArchive t' y d t'') (ht : Grounded t)
    (hd : t.get? host.here = some .dir) (hnew : '/' ∉ newFile.name)
    (hpn : normalPath? newFile = some newArchive) (hb : t.read host.here newFile.text = .ok b)
    (hc : c ∉ t.trailOf host.here newFile.text true) :
    t'.read host.here newFile.text = .ok b ∧
      t.locate host.here newArchive.text false = .ok d ∧
      wayTo host t newArchive = wayTo host t' newArchive := by
  obtain ⟨way, hway⟩ := exists_beside hnew hpn hy.locate
  have hne : newFile.name ≠ [] := (Path.withSuffix?_eq_some hpn).1
  obtain ⟨q, hq, -⟩ := read_eq_ok.1 hb
  -- the trail of the new artifact is the same, and holds the way to its parent
  have hsame : ∀ r ∈ t.trailOf host.here newFile.text true, t'.get? r = t.get? r := fun r hr =>
    hx.edit.off r (by rintro rfl; exact hc hr)
  have hthere : Beside host t newFile newArchive way d := by
    refine hway.congr fun r hr => (hsame r ?_).symm
    rw [← trailOf_congr hq hsame]
    exact hway.mem_trailOf hnew hne (locate_congr hq hsame) hr
  refine ⟨hx.edit.read_of_off ht hd hb hc, hthere.locate, ?_⟩
  rw [hthere.wayTo, hway.wayTo]

/-- The old inner archive is found when the new one was put, unless the one
or the other was put in its way. -/
theorem finds_old_of_both {x y : ByteArray} (hx : Extracts host oldFile oldArchive t x c t')
    (hy : Extracts host newFile newArchive t' y d t'') (ht : Grounded t)
    (hd : t.get? host.here = some .dir) (hold : '/' ∉ oldFile.name)
    (hao : isAndroid oldFile = true) (hpo : normalPath? oldFile = some oldArchive)
    (ha : t.read host.here oldFile.text = .ok a) :
    (c ∉ wayTo host t oldArchive ∧ d ∉ t.trailOf host.here oldArchive.text false →
      FindsClasses host t'' oldFile oldArchive a) ∧
    (FindsClasses host t'' oldFile oldArchive a →
      c ∉ wayTo host t oldArchive ∧ d ∉ t.trailOf host.here oldArchive.text false ∨ x = y) := by
  have hx' := classesOf_of_extracts hx hao ha
  have hground : Grounded t' := ht.edit_of_locate hd hx.locate hx.notDir hx.edit
  have hhere : t'.get? host.here = some .dir :=
    (hx.edit.off _ (by rintro h; exact hx.notDir (h ▸ hd))).trans hd
  obtain ⟨way, hway⟩ := exists_beside hold hpo hx.locate
  obtain ⟨hoff, hon⟩ := hway.read hx.notDir hx.edit
  rw [hway.wayTo]
  by_cases hc : c ∈ way
  · -- the old inner archive cannot be read at first, so what is found is the new one
    refine ⟨fun h => absurd hc h.1, ?_⟩
    rintro ⟨z, hz, hfound⟩
    obtain rfl := Option.some.inj (hx'.symm.trans hz)
    rcases hy.edit.read_inv hfound with h | h
    · exact .inr h
    · exact absurd h (hon hc x)
  · obtain ⟨hthere, hread⟩ := hoff hc
    obtain ⟨hstays, hlost⟩ := reads_of_extracts hy hground hhere hread
    have htrail : t'.trailOf host.here oldArchive.text true =
        t.trailOf host.here oldArchive.text false := by
      rw [hway.trailOf, hthere.trailOf_follow hx.edit.new]
    rw [htrail] at hstays hlost
    refine ⟨fun h => ⟨x, hx', hstays h.2⟩, ?_⟩
    rintro ⟨z, hz, hfound⟩
    obtain rfl := Option.some.inj (hx'.symm.trans hz)
    rcases hlost hfound with h | h
    · exact .inl ⟨hc, h⟩
    · exact .inr h

/-- Both artifacts are replaced, the old one first. -/
theorem holds_iff_apart_of_both {x y : ByteArray} (ht : Grounded t)
    (hd : t.get? host.here = some .dir) (hold : '/' ∉ oldFile.name) (hnew : '/' ∉ newFile.name)
    (ha : t.read host.here oldFile.text = .ok a) (hb : t.read host.here newFile.text = .ok b)
    (hao : isAndroid oldFile = true) (han : isAndroid newFile = true)
    (hpo : normalPath? oldFile = some oldArchive) (hpn : normalPath? newFile = some newArchive)
    (hx : Extracts host oldFile oldArchive t x c t')
    (hy : Extracts host newFile newArchive t' y d t'') :
    (Apart host t oldFile newFile →
      FindsClasses host t'' oldFile oldArchive a ∧ FindsClasses host t'' newFile newArchive b) ∧
    (FindsClasses host t'' oldFile oldArchive a ∧ FindsClasses host t'' newFile newArchive b →
      Apart host t oldFile newFile ∨ Coincide host oldFile newFile a b) := by
  have hputs := puts_of_extracts hx hao hpo
  have hx' := classesOf_of_extracts hx hao ha
  obtain ⟨hfinds, hlost⟩ := finds_old_of_both hx hy ht hd hold hao hpo ha
  by_cases hc : c ∈ t.trailOf host.here newFile.text true
  · -- the new artifact was read through the old inner archive
    refine ⟨fun h => absurd hc (h.new _ _ hputs), ?_⟩
    rintro ⟨-, w, hw, hfound⟩
    obtain ⟨data, hdata, hclasses⟩ := hy.read
    obtain ⟨q, hq, -⟩ := read_eq_ok.1 hb
    obtain rfl : data = x := hx.edit.read_of_on hx.notDir hq hc hdata
    obtain ⟨way, hway⟩ := exists_beside hnew hpn hy.locate
    obtain ⟨hoff, hon⟩ := hway.read hy.notDir hy.edit
    have hd' : d ∉ way := fun h => hon h w hfound
    obtain rfl : y = w := Except.ok.inj ((hoff hd').2.symm.trans hfound)
    exact .inr ⟨data, y, hx', hw, .inr ⟨han, hclasses⟩⟩
  · -- the new artifact is as it was, and so is the place for its inner archive
    obtain ⟨hread, hl, hsame⟩ := before_of_extracts hx hy ht hd hnew hpn hb hc
    have hputs' : Puts host t newFile newArchive d := ⟨han, hpn, hl⟩
    have hy' := classesOf_of_extracts hy han hread
    rw [apart_iff_of_both hputs hputs', finds_iff_of_extracts hy hnew han hpn hread, ← hsame]
    constructor
    · rintro ⟨hway, hway', -, hinner⟩
      exact ⟨hfinds ⟨hway, hinner⟩, hway'⟩
    · rintro ⟨hfound, hway'⟩
      rcases hlost hfound with ⟨hway, hinner⟩ | hxy
      · exact .inl ⟨hway, hway', hc, hinner⟩
      · exact .inr ⟨x, y, hx', hy', .inl hxy⟩

/-- What the engine finds on both sides, by what both archives were made of. -/
theorem holds_iff_apart (ht : Grounded t) (hd : t.get? host.here = some .dir)
    (hold : '/' ∉ oldFile.name) (hnew : '/' ∉ newFile.name)
    (ha : t.read host.here oldFile.text = .ok a) (hb : t.read host.here newFile.text = .ok b)
    (ho : Normalizes host oldFile oldArchive t t')
    (hn : Normalizes host newFile newArchive t' t'') :
    (Apart host t oldFile newFile →
      FindsClasses host t'' oldFile oldArchive a ∧ FindsClasses host t'' newFile newArchive b) ∧
    (FindsClasses host t'' oldFile oldArchive a ∧ FindsClasses host t'' newFile newArchive b →
      Apart host t oldFile newFile ∨ Coincide host oldFile newFile a b) := by
  rcases ho with ⟨hao, rfl, rfl⟩ | ⟨hao, hpo, x, c, hx⟩ <;>
    rcases hn with ⟨han, rfl, rfl⟩ | ⟨han, hpn, y, d, hy⟩
  · have ha' : classesOf? host oldArchive a = some a := by rw [classesOf?, hao]; rfl
    have hb' : classesOf? host newArchive b = some b := by rw [classesOf?, han]; rfl
    refine ⟨fun _ => ⟨⟨a, ha', ha⟩, b, hb', hb⟩, fun _ => .inl ?_⟩
    exact ⟨fun _ _ h => absurd h (Puts.absurd_of_not hao),
      fun _ _ h => absurd h (Puts.absurd_of_not han),
      fun _ _ h => absurd h (Puts.absurd_of_not hao),
      fun _ _ h => absurd h (Puts.absurd_of_not han),
      fun _ _ _ _ h => absurd h (Puts.absurd_of_not han)⟩
  · exact holds_iff_apart_of_new ht hd hnew ha hb hao han hpn hy
  · exact holds_iff_apart_of_old ht hd hold ha hb hao han hpo hx
  · exact holds_iff_apart_of_both ht hd hold hnew ha hb hao han hpo hpn hx hy

/-! ### Getting ready for the engine -/

variable {setup : Setup} {candidate : Candidate} {m m₁ m₂ : Machine} {call : Call}

theorem Normalizes.grounded {archive : Path} (h : Normalizes host path archive t t')
    (ht : Grounded t) (hd : t.get? host.here = some .dir) :
    Grounded t' ∧ t'.get? host.here = some .dir := by
  rcases h with ⟨-, -, rfl⟩ | ⟨-, -, classes, c, -, hl, hdir, hedit⟩
  · exact ⟨ht, hd⟩
  · refine ⟨ht.edit_of_locate hd hl hdir hedit, (hedit.off _ ?_).trans hd⟩
    rintro rfl
    exact hdir hd

theorem normalizes_of_ok (h : (normalize host path).on m = (.ok target, m₁)) :
    SameTrace m m₁ ∧ Normalizes host path target m.files m₁.files := by
  obtain ⟨htrace, ⟨ha, rfl, rfl⟩ | hx⟩ := normalize_eq_ok h
  · exact ⟨htrace, .inl ⟨ha, rfl, rfl⟩⟩
  · exact ⟨htrace, .inr hx⟩

theorem readOnly_loadExclusions (host : Host) (file : Option Path) :
    ReadOnly (loadExclusions host file) := by
  unfold loadExclusions
  split
  · exact readOnly_pure _
  · exact (readOnly_loadText host _).bind fun _ => readOnly_pure _

/-- What is left to do for the engine when the versions do not go down. -/
def gather (host : Host) (candidate : Candidate) (oldFile newFile : Path) : Action Call := do
  let oldArchive ← normalize host oldFile
  let newArchive ← normalize host newFile
  let exclusions ← loadExclusions host
    (candidate.exclusionFile.map fun p => p.seenFrom host.workingDir)
  return ⟨oldArchive, newArchive, exclusions⟩

/-- The versions of a candidate can be read and do not go down. -/
def VersionsGrow (candidate : Candidate) : Prop :=
  ∃ old new declared, Version.parse candidate.oldVersion = .ok old ∧
    Version.parse candidate.newVersion = .ok new ∧ old.Grows new declared

/-- The versions come first: nothing is done for the engine if they go down. -/
theorem on_prepare (host : Host) (candidate : Candidate) (oldFile newFile : Path) (m : Machine) :
    (∃ v, (prepare host candidate oldFile newFile).on m = (.error (.version v), m)) ∨
      VersionsGrow candidate ∧ (prepare host candidate oldFile newFile).on m =
        (gather host candidate oldFile newFile).on m := by
  rw [prepare, readVersion, on_orFail_bind]
  rcases hold : Version.parse candidate.oldVersion with v | old
  · exact .inl ⟨v, rfl⟩
  simp only [readVersion]
  rw [on_orFail_bind]
  rcases hnew : Version.parse candidate.newVersion with v | new
  · exact .inl ⟨v, rfl⟩
  simp only
  rw [on_orFail_bind]
  rcases hbump : old.bumpTo new with v | declared
  · exact .inl ⟨v, rfl⟩
  · exact .inr ⟨⟨old, new, declared, hold, hnew, Version.bumpTo_eq_ok_iff.1 hbump⟩, rfl⟩

/-- What was done when everything is ready for the engine. -/
structure Prepares (host : Host) (candidate : Candidate) (oldFile newFile : Path) (m : Machine)
    (call : Call) (m' : Machine) : Prop where
  versions : VersionsGrow candidate
  archives : ∃ t, Normalizes host oldFile call.oldArchive m.files t ∧
    Normalizes host newFile call.newArchive t m'.files
  trace : SameTrace m m'

theorem prepares_of_ok (h : (prepare host candidate oldFile newFile).on m = (.ok call, m₁)) :
    Prepares host candidate oldFile newFile m call m₁ := by
  rcases on_prepare host candidate oldFile newFile m with ⟨v, hv⟩ | ⟨hversions, hgather⟩
  · rw [hv] at h
    cases h
  rw [hgather, gather] at h
  obtain ⟨oldArchive, mo, ho, h₁⟩ := on_bind_eq_ok.1 h
  obtain ⟨newArchive, mn, hn, h₂⟩ := on_bind_eq_ok.1 h₁
  obtain ⟨exclusions, me, he, hpure⟩ := on_bind_eq_ok.1 h₂
  obtain rfl := (readOnly_loadExclusions host _).eq he
  obtain ⟨⟨⟩, ⟨⟩⟩ := hpure
  obtain ⟨htrace, hno⟩ := normalizes_of_ok ho
  obtain ⟨htrace', hnn⟩ := normalizes_of_ok hn
  exact ⟨hversions, ⟨_, hno, hnn⟩, htrace.trans htrace'⟩

/-- The engine is reached: both artifacts have a file, the two differ, and
everything is ready for a call. -/
structure Reaches (host : Host) (setup : Setup) (candidate : Candidate) (m : Machine)
    (oldFile newFile : Path) (m₁ : Machine) (call : Call) (m₂ : Machine) : Prop where
  find : (findFiles host setup candidate).on m = (.ok (newFile, some oldFile), m₁)
  differ : (sameFiles host oldFile.text newFile.text).on m₁ = (.ok false, m₁)
  ready : (prepare host candidate oldFile newFile).on m₁ = (.ok call, m₂)

/-- From there on, the comparison is the engine's. -/
theorem Reaches.on_compare (h : Reaches host setup candidate m oldFile newFile m₁ call m₂) :
    (compare host setup candidate).on m =
      (((callEngine host setup call).on m₂).1.map fun model =>
          { old := oldArtifact candidate oldFile, new := newArtifact candidate newFile, model,
            exclusions := call.exclusions.patterns },
        ((callEngine host setup call).on m₂).2) := by
  rw [compare, on_bind_of_ok h.find]
  show Action.on (_ >>= _) m₁ = _
  rw [on_bind_of_ok h.differ]
  show Action.on (_ >>= _) m₁ = _
  rw [on_bind_of_ok h.ready]
  exact on_map _ (callEngine host setup call) m₂

/-- **Both sides** are read as they should be if the artifacts are apart, and
otherwise only if the bytes on both sides coincide. -/
theorem reaches_finds_classes (hsound : host.Sound) (hground : Grounded m.files)
    (hhere : m.files.get? host.here = some .dir)
    (h : Reaches host setup candidate m oldFile newFile m₁ call m₂) :
    ∃ a b, m₁.files.read host.here oldFile.text = .ok a ∧
      m.files.read host.here newFile.text = .ok b ∧ a ≠ b ∧
      (Apart host m₁.files oldFile newFile →
        FindsClasses host m₂.files oldFile call.oldArchive a ∧
          FindsClasses host m₂.files newFile call.newArchive b) ∧
      (FindsClasses host m₂.files oldFile call.oldArchive a ∧
          FindsClasses host m₂.files newFile call.newArchive b →
        Apart host m₁.files oldFile newFile ∨ Coincide host oldFile newFile a b) := by
  have hrun := findRun_findFiles hsound h.find
  obtain ⟨staged, hstages⟩ := hrun.stages
  obtain ⟨hnew, b, hb, hb'⟩ := hrun.new _ _ rfl
  obtain ⟨hname, a, ha⟩ := hrun.found _ _ rfl
  obtain ⟨t, ho, hn⟩ := (prepares_of_ok h.ready).archives
  have hnamen : '/' ∉ newFile.name := hnew ▸ notMem_name_newPath host candidate
  have hne : a ≠ b := (sameFiles_eq_ok ha hb' h.differ).2
  obtain ⟨happart, hholds⟩ := holds_iff_apart (hstages.grounded hground hhere)
    (hstages.keeps.dir hhere) hname hnamen ha hb' ho hn
  exact ⟨a, b, ha, hb, hne, happart, hholds⟩

/-! ### A build beside an Android archive -/

/-- An Android archive with an empty inner archive. -/
def emptyAndroid : ByteArray :=
  let name := classEntry.map fun c => UInt8.ofNat c.toNat
  let zeros := fun n : Nat => List.replicate n (0 : UInt8)
  let entry := [0x50, 0x4b, 3, 4, 20] ++ zeros 21 ++ [11] ++ zeros 3 ++ name
  let listed := [0x50, 0x4b, 1, 2, 20, 0, 20] ++ zeros 21 ++ [11] ++ zeros 17 ++ name
  let last := [0x50, 0x4b, 5, 6] ++ zeros 4 ++ [1, 0, 1, 0, 57, 0, 0, 0, 41] ++ zeros 5
  ⟨(entry ++ listed ++ last).toArray⟩

/-- A build at `lib.jar` that follows what is at a location. -/
def buildAfter (old : String) : Candidate where
  oldLocation := old
  oldVersion := "1.0.0"
  newFile := .ofString "lib.jar"
  newVersion := "1.0.1"
  textReport := .ofString "r.txt"
  htmlReport := .ofString "r.html"

/-- An Android archive of a given name, and the build beside it. -/
def sideBySide (old : String) : Machine where
  files := ⟨[([old], .file emptyAndroid), (["lib.jar"], .file ⟨#[0]⟩)]⟩

theorem grounded_sideBySide (old : String) : Grounded (sideBySide old).files :=
  grounded_of_nodes (by simp [sideBySide])

theorem fingerprint_emptyAndroid_ne :
    Digest.ofPieces emptyAndroid ≠ Digest.ofPieces ⟨#[0]⟩ := by decide +kernel

/-- The machine when everything is ready for a comparison with the build. -/
def readyBeside (old : String) : Machine :=
  ((prepare .bare (buildAfter old) (.ofString ("/" ++ old)) (.ofString "/lib.jar")).on
    (sideBySide old)).2

theorem reaches_other_stem :
    Reaches .bare { settings := {} } (buildAfter "old.aar") (sideBySide "old.aar")
      (.ofString "/old.aar") (.ofString "/lib.jar") (sideBySide "old.aar")
      ⟨.ofString "/old.jar", .ofString "/lib.jar", {}⟩ (readyBeside "old.aar") := by
  refine ⟨rfl, ?_, on_of_toOption (by decide +kernel)⟩
  have h := sameFiles_of_ne .bare (m := sideBySide "old.aar") (a := "/old.aar") (b := "/lib.jar")
    (p := ["old.aar"]) (q := ["lib.jar"]) rfl rfl (by decide) rfl rfl
  rwa [beq_eq_false_iff_ne.2 fingerprint_emptyAndroid_ne] at h

theorem reaches_same_stem :
    Reaches .bare { settings := {} } (buildAfter "lib.aar") (sideBySide "lib.aar")
      (.ofString "/lib.aar") (.ofString "/lib.jar") (sideBySide "lib.aar")
      ⟨.ofString "/lib.jar", .ofString "/lib.jar", {}⟩ (readyBeside "lib.aar") := by
  refine ⟨rfl, ?_, on_of_toOption (by decide +kernel)⟩
  have h := sameFiles_of_ne .bare (m := sideBySide "lib.aar") (a := "/lib.aar") (b := "/lib.jar")
    (p := ["lib.aar"]) (q := ["lib.jar"]) rfl rfl (by decide) rfl rfl
  rwa [beq_eq_false_iff_ne.2 fingerprint_emptyAndroid_ne] at h

theorem apart_other_stem : Apart .bare (sideBySide "old.aar").files (.ofString "/old.aar")
    (.ofString "/lib.jar") := by
  have hputs : Puts .bare (sideBySide "old.aar").files (.ofString "/old.aar")
      (.ofString "/old.jar") ["old.jar"] := ⟨rfl, rfl, rfl⟩
  have hnew : ∀ target c,
      ¬ Puts .bare (sideBySide "old.aar").files (.ofString "/lib.jar") target c :=
    fun _ _ => Puts.absurd_of_not rfl
  refine ⟨?_, fun _ _ h => absurd h (hnew _ _), ?_, fun _ _ h => absurd h (hnew _ _),
    fun _ _ _ _ h => absurd h (hnew _ _)⟩
  · intro target c h
    obtain ⟨rfl, rfl⟩ := hputs.unique h
    decide
  · intro target c h
    obtain ⟨rfl, rfl⟩ := hputs.unique h
    decide

/-- With stems of their own, the archive and the build are found on both sides. -/
theorem finds_classes_other_stem :
    ∃ a b, (sideBySide "old.aar").files.read Host.bare.here "/old.aar" = .ok a ∧
      (sideBySide "old.aar").files.read Host.bare.here "/lib.jar" = .ok b ∧
      FindsClasses .bare (readyBeside "old.aar").files (.ofString "/old.aar")
        (.ofString "/old.jar") a ∧
      FindsClasses .bare (readyBeside "old.aar").files (.ofString "/lib.jar")
        (.ofString "/lib.jar") b := by
  obtain ⟨a, b, ha, hb, -, happart, -⟩ := reaches_finds_classes Host.sound_bare
    (grounded_sideBySide "old.aar") rfl reaches_other_stem
  exact ⟨a, b, ha, hb, happart apart_other_stem⟩

/-- With one stem, the build is lost before it is compared. -/
theorem not_finds_classes_same_stem :
    Reaches .bare { settings := {} } (buildAfter "lib.aar") (sideBySide "lib.aar")
      (.ofString "/lib.aar") (.ofString "/lib.jar") (sideBySide "lib.aar")
      ⟨.ofString "/lib.jar", .ofString "/lib.jar", {}⟩ (readyBeside "lib.aar") ∧
    (sideBySide "lib.aar").files.read Host.bare.here "/lib.jar" = .ok ⟨#[0]⟩ ∧
    (readyBeside "lib.aar").files.read Host.bare.here "/lib.jar" = .ok .empty ∧
    ¬ FindsClasses .bare (readyBeside "lib.aar").files (.ofString "/lib.jar")
      (.ofString "/lib.jar") ⟨#[0]⟩ := by
  have hread : (readyBeside "lib.aar").files.read Host.bare.here "/lib.jar" = .ok .empty :=
    eq_ok_of_toOption (by decide +kernel)
  refine ⟨reaches_same_stem, rfl, hread, ?_⟩
  rintro ⟨classes, hclasses, hfound⟩
  obtain rfl : ⟨#[0]⟩ = classes := Option.some.inj hclasses
  have hempty := Except.ok.inj (hread.symm.trans hfound)
  exact absurd hempty (by decide)

end ReleaseGate.Gate
