/-
ReleaseGate/Proofs/Files/NullCharacter.lean

Null characters in paths.

No operation on files takes a path with a null character, and this is the
one fault that the system does not count.  It is met before the first step
of a path is taken, so it says nothing about the files:
`locate_eq_nullCharacter` says that it is in the text, and each operation
hands it on with the text that it was given.

A path is put together from names.  `Path.HasNull p` says that one of them
holds a null character; the ways to make a path bring in no other
characters than those of their parts.
-/
import ReleaseGate.Files.Change
import ReleaseGate.Proofs.Path

namespace ReleaseGate

/-! ### Paths -/

namespace Path

variable {p d q : Path} {n : List Char}

/-- A name of the path holds a null character. -/
def HasNull (p : Path) : Prop := ∃ n ∈ p.names, '\x00' ∈ n

theorem mem_join {sep c : Char} {pieces : List (List Char)} (hc : c ≠ sep) :
    c ∈ Text.join sep pieces ↔ ∃ s ∈ pieces, c ∈ s := by
  induction pieces with
  | nil => simp [Text.join]
  | cons s pieces ih =>
    cases pieces with
    | nil => simp [Text.join]
    | cons r pieces =>
      show c ∈ s ++ sep :: Text.join sep (r :: pieces) ↔ _
      rw [List.mem_append, List.mem_cons, ih]
      simp [hc]

/-- A null character is written where a name holds one. -/
theorem mem_text : '\x00' ∈ p.text.toList ↔ p.HasNull := by
  have hroot : '\x00' ∉ p.root.chars := by
    cases p.root <;> decide
  rw [text, String.toList_ofList, chars]
  by_cases hempty : (p.root = .current && p.names.isEmpty) = true
  · have hnames : p.names = [] := List.isEmpty_iff.1 (Bool.and_eq_true_iff.1 hempty).2
    rw [if_pos hempty]
    simp [HasNull, hnames]
  · rw [if_neg hempty, List.mem_append, mem_join (by decide)]
    simp [HasNull, hroot]

/-- A path that is read holds no other characters than its text. -/
theorem HasNull.of_ofString {s : String} (h : (ofString s).HasNull) : '\x00' ∈ s.toList := by
  obtain ⟨n, hn, hnull⟩ := h
  rw [← Text.join_split '/' s.toList, mem_join (by decide)]
  exact ⟨n, (List.mem_filter.1 hn).1, hnull⟩

theorem hasNull_child : (d.child n).HasNull ↔ d.HasNull ∨ '\x00' ∈ n := by
  simp only [HasNull, child, List.mem_append, List.mem_singleton]
  constructor
  · rintro ⟨m, hm | rfl, hnull⟩
    · exact .inl ⟨m, hm, hnull⟩
    · exact .inr hnull
  · rintro (⟨m, hm, hnull⟩ | hnull)
    · exact ⟨m, .inl hm, hnull⟩
    · exact ⟨n, .inr rfl, hnull⟩

theorem HasNull.of_parent (h : p.parent.HasNull) : p.HasNull := by
  obtain ⟨n, hn, hnull⟩ := h
  exact ⟨n, List.dropLast_subset _ hn, hnull⟩

theorem HasNull.of_seenFrom (h : (p.seenFrom d).HasNull) : d.HasNull ∨ p.HasNull := by
  obtain ⟨n, hn, hnull⟩ := h
  exact (mem_names_seenFrom hn).imp (fun hn => ⟨n, hn, hnull⟩) fun hn => ⟨n, hn, hnull⟩

/-- Names are only left out when `..` is taken together with what stands
before it. -/
theorem mem_foldUps {isAbsolute : Bool} {names done : List (List Char)}
    (h : n ∈ foldUps isAbsolute names done) : n ∈ names ∨ n ∈ done := by
  induction names generalizing done with
  | nil => exact .inr (List.mem_reverse.1 h)
  | cons m names ih =>
    have hlater : ∀ {done'}, n ∈ foldUps isAbsolute names done' →
        (∀ k ∈ done', k = m ∨ k ∈ done) → n ∈ m :: names ∨ n ∈ done := by
      intro done' hn hdone
      rcases ih hn with hn | hn
      · exact .inl (List.mem_cons_of_mem m hn)
      · rcases hdone n hn with rfl | hn
        · exact .inl List.mem_cons_self
        · exact .inr hn
    unfold foldUps at h
    split at h
    · split at h
      · refine hlater h fun k hk => ?_
        split at hk
        · cases hk
        · exact .inl (List.mem_singleton.1 hk)
      · next e others =>
        split at h
        · exact hlater h fun k hk => List.mem_cons.1 hk
        · exact hlater h fun k hk => .inr (List.mem_cons_of_mem e hk)
    · exact hlater h fun k hk => List.mem_cons.1 hk

theorem HasNull.of_collapsed (h : p.collapsed.HasNull) : p.HasNull := by
  obtain ⟨n, hn, hnull⟩ := h
  rcases mem_foldUps hn with hn | hn
  · exact ⟨n, hn, hnull⟩
  · cases hn

/-- Another suffix without a null character brings none in. -/
theorem HasNull.of_withSuffix? {s : List Char} (h : q.HasNull) (hq : p.withSuffix? s = some q)
    (hs : '\x00' ∉ s) : p.HasNull := by
  obtain ⟨hname, rfl⟩ := withSuffix?_eq_some hq
  rw [← parent_child hname, hasNull_child]
  rcases hasNull_child.1 h with h | h
  · exact .inl h
  · exact .inr (mem_of_mem_stem ((List.mem_append.1 h).resolve_right hs))

end Path

/-! ### Operations on files -/

namespace FileTree

variable {t t' : FileTree} {dir : Place} {path : String} {e : FileError}

/-- Taking steps never meets a null character. -/
theorem walkWith_ne_nullCharacter {fl : Bool} {follow : Place → List String → Except FileFault Place}
    (hf : ∀ here steps, follow here steps ≠ .error .nullCharacter) (here : Place)
    (steps : List String) : t.walkWith fl follow here steps ≠ .error .nullCharacter := by
  induction steps generalizing here with
  | nil => nofun
  | cons n rest ih =>
    unfold walkWith
    split
    · exact ih here
    split
    · exact ih here.tail
    split
    · nofun
    split
    · split <;> nofun
    · split <;> nofun
    · exact ih (n :: here)
    · split
      · nofun
      · exact hf _ _

theorem walk_ne_nullCharacter (fl : Bool) (links : Nat) (here : Place) (steps : List String) :
    t.walk fl links here steps ≠ .error .nullCharacter := by
  induction links generalizing here steps with
  | zero =>
    refine walkWith_ne_nullCharacter (fun _ _ h => ?_) here steps
    cases h
  | succ left ih => exact walkWith_ne_nullCharacter ih here steps

theorem locate_eq_nullCharacter {fl : Bool} :
    t.locate dir path fl = .error .nullCharacter ↔ '\x00' ∈ path.toList := by
  unfold locate
  by_cases hnull : '\x00' ∈ path.toList
  · rw [if_pos (by simpa using hnull)]
    exact iff_of_true rfl hnull
  · rw [if_neg (by simpa using hnull)]
    refine iff_of_false ?_ hnull
    split
    · nofun
    split
    · nofun
    · exact walk_ne_nullCharacter fl maxLinks _ _

/-- A path that leads somewhere has no null character. -/
theorem notMem_of_locate {fl : Bool} {p : Place} (h : t.locate dir path fl = .ok p) :
    '\x00' ∉ path.toList := by
  intro hnull
  rw [locate_eq_nullCharacter.2 hnull] at h
  cases h

/-- What follows a look at a path fails for other reasons. -/
theorem mem_of_locate_bind {α : Type} {fl : Bool} {f : Place → Except FileFault α}
    (hf : ∀ p, f p ≠ .error .nullCharacter)
    (h : (t.locate dir path fl >>= f) = .error .nullCharacter) : '\x00' ∈ path.toList := by
  rcases hl : t.locate dir path fl with fault | p
  · rw [hl] at h
    obtain rfl := Except.error.inj h
    exact locate_eq_nullCharacter.1 hl
  · rw [hl] at h
    exact absurd h (hf p)

theorem blame_eq_nullCharacter {α : Type} {r : Except FileFault α}
    (h : blame path r = .error e) (he : e.fault = .nullCharacter) :
    r = .error .nullCharacter := by
  cases r with
  | error fault =>
    obtain rfl := Except.error.inj h
    exact congrArg Except.error he
  | ok x => cases h

theorem mem_of_lookup (h : t.lookup dir path = .error .nullCharacter) : '\x00' ∈ path.toList := by
  refine mem_of_locate_bind (fun p => ?_) h
  split <;> nofun

theorem mem_of_read (h : t.read dir path = .error e) (he : e.fault = .nullCharacter) :
    '\x00' ∈ path.toList := by
  have hread := blame_eq_nullCharacter h he
  rcases hl : t.lookup dir path with fault | node
  · rw [hl] at hread
    obtain rfl := Except.error.inj hread
    exact mem_of_lookup hl
  · rw [hl] at hread
    cases node <;> cases hread

theorem mem_of_write {content : ByteArray} (h : t.write dir path content = .error e)
    (he : e.fault = .nullCharacter) : '\x00' ∈ path.toList := by
  refine mem_of_locate_bind (fun p => ?_) (blame_eq_nullCharacter h he)
  split <;> nofun

theorem mem_of_add {node : Node} (h : t.add dir path node = .error e)
    (he : e.fault = .nullCharacter) : '\x00' ∈ path.toList := by
  refine mem_of_locate_bind (fun p => ?_) (blame_eq_nullCharacter h he)
  split <;> nofun

theorem mem_of_remove (h : t.remove dir path = .error e) (he : e.fault = .nullCharacter) :
    '\x00' ∈ path.toList := by
  refine mem_of_locate_bind (fun p => ?_) (blame_eq_nullCharacter h he)
  split <;> nofun

theorem mem_of_removeAll (h : t.removeAll dir path = .error e) (he : e.fault = .nullCharacter) :
    '\x00' ∈ path.toList := by
  refine mem_of_locate_bind (fun p hp => ?_) (blame_eq_nullCharacter h he)
  cases hp

theorem mem_of_move {source target : String} (h : t.move dir source target = .error e)
    (he : e.fault = .nullCharacter) : '\x00' ∈ source.toList ∨ '\x00' ∈ target.toList := by
  unfold move at h
  rcases hs : t.locate dir source false with fault | p
  · rw [hs] at h
    obtain rfl := Except.error.inj h
    exact .inl (locate_eq_nullCharacter.1 (hs.trans (congrArg Except.error he)))
  rcases ht : t.locate dir target false with fault | q
  · rw [hs, ht] at h
    obtain rfl := Except.error.inj h
    exact .inr (locate_eq_nullCharacter.1 (ht.trans (congrArg Except.error he)))
  · rw [hs, ht] at h
    simp only [bind, Except.bind] at h
    split at h
    · obtain rfl := Except.error.inj h
      cases he
    · obtain rfl := Except.error.inj h
      cases he
    · cases h

/-- Whether a path leads to a regular file is answered with no for it. -/
theorem isFile_fault_ne (h : blame path (t.isFile dir path) = .error e) :
    e.fault ≠ .nullCharacter := by
  intro he
  have hask := blame_eq_nullCharacter h he
  unfold isFile ask at hask
  split at hask <;> cases hask

theorem mem_of_makeDir (h : t.makeDir dir path = .error e) (he : e.fault = .nullCharacter) :
    '\x00' ∈ path.toList := by
  unfold makeDir at h
  split at h
  · cases h
  · next first hadd =>
    split at h
    · obtain rfl := Except.error.inj h
      exact mem_of_add hadd he
    · next hother =>
      -- the fault is that of the first try, or comes from asking for a directory
      unfold orExisting at h
      rcases hd : blame path (t.isDir dir path) with fault | found
      · rw [hd] at h
        obtain rfl := Except.error.inj h
        have hask := blame_eq_nullCharacter hd he
        unfold isDir ask at hask
        split at hask <;> cases hask
      · rw [hd] at h
        cases found with
        | true => cases h
        | false =>
          obtain rfl := Except.error.inj h
          simp [he] at hother

theorem hasNull_of_makeDirs {way : Path} (h : (t.makeDirs dir way).2 = some e)
    (he : e.fault = .nullCharacter) : way.HasNull := by
  fun_induction makeDirs t dir way with
  | case1 => cases h
  | case2 way first hfirst hn t' e' hparent ih =>
    rw [hparent] at ih
    exact (ih h).of_parent
  | case3 => cases h
  | case4 way first hfirst hn t' hparent e' hlast ih =>
    obtain rfl := Option.some.inj h
    exact Path.mem_text.1 (mem_of_makeDir hlast he)
  | case5 way first hfirst hn =>
    obtain rfl := Option.some.inj h
    exact Path.mem_text.1 (mem_of_makeDir hfirst he)

end FileTree

end ReleaseGate
