/-
ReleaseGate/Proofs/Path.lean

Paths, their texts, and the steps that a walk takes along them.

A walk sees the text of a path.  The text of a name in a directory is the
text `lead` of the directory with a slash, and then the name
(`chars_child`); so the steps along it are those to the directory and one
more (`steps_child`), and two names in one directory share all steps but the
last.

Main results: `steps_child`, `leadSteps_eq`, `startOf_child`.
-/
import Mathlib.Data.List.Induction
import ReleaseGate.Files.Walk
import ReleaseGate.Path
import ReleaseGate.Proofs.Text.Stretches

namespace ReleaseGate

/-! ### Pieces of a text -/

namespace Text

variable {sep : Char} {s r : List Char}

theorem split_of_notMem (h : sep ∉ s) : split sep s = [s] := by
  induction s with
  | nil => rfl
  | cons c s ih =>
    have hc : c ≠ sep := fun hc => h (hc ▸ List.mem_cons_self)
    rw [split, if_neg hc, ih fun hs => h (List.mem_cons_of_mem _ hs)]

/-- A separator separates: the pieces of both sides are the pieces of the
whole. -/
theorem split_append (s r : List Char) :
    split sep (s ++ sep :: r) = split sep s ++ split sep r := by
  induction s with
  | nil => simp [split]
  | cons c s ih =>
    by_cases hc : c = sep
    · rw [List.cons_append, split, if_pos hc, ih, split, if_pos hc]
      rfl
    · rw [List.cons_append, split, if_neg hc, ih, split, if_neg hc]
      obtain ⟨piece, pieces, h⟩ := List.exists_cons_of_ne_nil (split_ne_nil sep s)
      rw [h]
      rfl

/-- A joined text is split where it was joined, and where a piece would be
split. -/
theorem split_join_eq_flatMap {pieces : List (List Char)} (hne : pieces ≠ []) :
    split sep (join sep pieces) = pieces.flatMap (split sep) := by
  induction pieces with
  | nil => exact absurd rfl hne
  | cons s pieces ih =>
    cases pieces with
    | nil => simp [join]
    | cons r rest =>
      rw [join, split_append, ih (by simp), List.flatMap_cons]
      · rfl
      · simp

theorem flatMap_split_eq_self_iff {pieces : List (List Char)} :
    pieces.flatMap (split sep) = pieces ↔ ∀ s ∈ pieces, sep ∉ s := by
  constructor
  · intro h s hs
    rw [← h] at hs
    obtain ⟨r, -, hr⟩ := List.mem_flatMap.1 hs
    exact sep_notMem_of_mem_split hr
  · intro h
    induction pieces with
    | nil => rfl
    | cons s pieces ih =>
      obtain ⟨hs, hpieces⟩ := List.forall_mem_cons.1 h
      rw [List.flatMap_cons, split_of_notMem hs, ih hpieces]
      rfl

/-- Joined pieces are split again where they were joined. -/
theorem split_join {pieces : List (List Char)} (hne : pieces ≠ []) (h : ∀ s ∈ pieces, sep ∉ s) :
    split sep (join sep pieces) = pieces := by
  rw [split_join_eq_flatMap hne, flatMap_split_eq_self_iff.2 h]

/-- The joined text is that of the library. -/
theorem join_eq_intercalate (sep : Char) (pieces : List (List Char)) :
    join sep pieces = [sep].intercalate pieces := by
  induction pieces with
  | nil => rfl
  | cons s pieces ih =>
    cases pieces with
    | nil => simp [join, List.intercalate]
    | cons r pieces =>
      rw [List.intercalate_cons_cons, ← ih]
      simp [join]

/-- Leaving pieces out makes the text no longer. -/
theorem length_join_filter_le (sep : Char) (keep : List Char → Bool) (pieces : List (List Char)) :
    (join sep (pieces.filter keep)).length ≤ (join sep pieces).length := by
  induction pieces with
  | nil => exact Nat.le_refl _
  | cons s pieces ih =>
    have hcons : ∀ {l : List (List Char)}, s.length ≤ (join sep (s :: l)).length ∧
        (l ≠ [] → (join sep (s :: l)).length = s.length + 1 + (join sep l).length) ∧
        (join sep l).length ≤ (join sep (s :: l)).length := by
      intro l
      cases l with
      | nil => simp [join]
      | cons r l => simp [join]; omega
    rw [List.filter_cons]
    split
    · by_cases hnil : pieces.filter keep = []
      · rw [hnil]
        exact hcons.1
      · have hne : pieces ≠ [] := by
          rintro rfl
          exact hnil rfl
        rw [hcons.2.1 hnil, hcons.2.1 hne]
        omega
    · exact Nat.le_trans ih hcons.2.2

end Text

namespace Path

variable {p d : Path} {n m : List Char}

/-- The path `a` is where `p` starts. -/
def Starts (a p : Path) : Prop := a.root = p.root ∧ a.names <+: p.names

/-- A text that can be the name of a file. -/
def IsFileName (n : List Char) : Prop := n ≠ [] ∧ '/' ∉ n

/-! ### Texts -/

/-- What is written in front of a name in the directory `d`. -/
def lead (d : Path) : List Char := d.root.chars ++ d.names.flatMap (· ++ ['/'])

theorem join_snoc (names : List (List Char)) (n : List Char) :
    Text.join '/' (names ++ [n]) = names.flatMap (· ++ ['/']) ++ n := by
  induction names with
  | nil => rfl
  | cons m names ih =>
    rw [List.flatMap_cons, List.append_assoc, ← ih]
    cases names with
    | nil => simp [Text.join]
    | cons k names => simp [Text.join]

theorem chars_child (d : Path) (n : List Char) : (d.child n).chars = d.lead ++ n := by
  have hnames : (d.child n).names.isEmpty = false := by simp [child]
  rw [chars, hnames, Bool.and_false, if_neg Bool.false_ne_true]
  show d.root.chars ++ Text.join '/' (d.names ++ [n]) = _
  rw [join_snoc, lead, List.append_assoc]

theorem toList_text_child (d : Path) (n : List Char) : (d.child n).text.toList = d.lead ++ n := by
  rw [text, String.toList_ofList, chars_child]

theorem lead_child (d : Path) (n : List Char) : (d.child n).lead = d.lead ++ n ++ ['/'] := by
  simp [lead, child]

/-- The text in front of a name is empty or ends in a slash. -/
theorem lead_eq (d : Path) : d.lead = [] ∨ ∃ s, d.lead = s ++ ['/'] := by
  unfold lead
  rcases List.eq_nil_or_concat d.names with h | ⟨names, n, h⟩
  · rw [h]
    cases d.root with
    | current => exact .inl rfl
    | slash => exact .inr ⟨[], rfl⟩
    | doubleSlash => exact .inr ⟨['/'], rfl⟩
  · right
    refine ⟨d.root.chars ++ names.flatMap (· ++ ['/']) ++ n, ?_⟩
    rw [h]
    simp

/-! ### Steps -/

/-- The steps to the directory `d`. -/
def leadSteps (d : Path) : List String :=
  ((Text.split '/' d.lead).filter fun n => !n.isEmpty).map String.ofList

theorem split_lead_append (d : Path) (hn : IsFileName n) :
    (Text.split '/' (d.lead ++ n)).filter (fun n => !n.isEmpty) =
      (Text.split '/' d.lead).filter (fun n => !n.isEmpty) ++ [n] := by
  have hlast : [n].filter (fun n => !n.isEmpty) = [n] := by simp [hn.1]
  -- a slash in front of the name, or nothing at all
  rcases lead_eq d with h | ⟨s, h⟩
  · rw [h, List.nil_append, Text.split_of_notMem hn.2, hlast]
    rfl
  · rw [h, List.append_assoc]
    show (Text.split '/' (s ++ '/' :: n)).filter _ = (Text.split '/' (s ++ '/' :: [])).filter _ ++ _
    rw [Text.split_append, Text.split_append, Text.split_of_notMem hn.2, List.filter_append,
      List.filter_append, hlast]
    simp [Text.split]

/-- The steps to a name are those to its directory and one more. -/
theorem steps_child (d : Path) (hn : IsFileName n) :
    FileTree.steps (d.child n).text = d.leadSteps ++ [String.ofList n] := by
  have hend : (d.lead ++ n).getLast? ≠ some '/' := by
    rw [List.getLast?_append, Option.or_of_isSome (by simpa using hn.1)]
    exact fun h => hn.2 (List.mem_of_getLast? h)
  rw [FileTree.steps, toList_text_child]
  simp only [if_neg hend, split_lead_append d hn, List.map_append, leadSteps]
  rfl

theorem leadSteps_child (d : Path) (hn : IsFileName n) :
    (d.child n).leadSteps = d.leadSteps ++ [String.ofList n] := by
  rw [leadSteps, lead_child]
  show ((Text.split '/' (d.lead ++ n ++ '/' :: [])).filter _).map _ = _
  rw [Text.split_append, List.filter_append, split_lead_append d hn]
  simp [Text.split, leadSteps]

/-- The steps to a directory are its names. -/
theorem leadSteps_eq (h : ∀ n ∈ d.names, IsFileName n) :
    d.leadSteps = d.names.map String.ofList := by
  obtain ⟨root, names⟩ := d
  induction names using List.reverseRecOn with
  | nil => cases root <;> rfl
  | append_singleton names n ih =>
    obtain ⟨hnames, hn⟩ := List.forall_mem_append.1 h
    show ((⟨root, names⟩ : Path).child n).leadSteps = _
    rw [leadSteps_child _ (hn n (List.mem_singleton_self n)), ih hnames, List.map_append]
    rfl

/-- Where the steps to a name start does not depend on the name. -/
theorem startOf_child (here : Place) (d : Path) (hn : IsFileName n) :
    FileTree.startOf here (d.child n).text = FileTree.startOf here (String.ofList d.lead) := by
  have hhead : (d.lead ++ n).head? = some '/' ↔ d.lead.head? = some '/' := by
    cases hd : d.lead with
    | nil =>
      rw [List.nil_append]
      exact ⟨fun h => absurd (List.mem_of_head? h) hn.2, nofun⟩
    | cons c s => exact Iff.rfl
  rw [FileTree.startOf, FileTree.startOf, toList_text_child, String.toList_ofList]
  simp only [hhead]

/-- The slash behind a name does not change where the steps start. -/
theorem startOf_lead_child (here : Place) (d : Path) (hn : IsFileName n) :
    FileTree.startOf here (String.ofList (d.child n).lead) =
      FileTree.startOf here (d.child n).text := by
  have hne : d.lead ++ n ≠ [] := fun h => hn.1 (List.append_eq_nil_iff.1 h).2
  obtain ⟨c, s, hs⟩ := List.exists_cons_of_ne_nil hne
  rw [FileTree.startOf, FileTree.startOf, toList_text_child, String.toList_ofList, lead_child, hs]
  rfl

/-! ### Absolute paths -/

theorem isAbsolute_seenFrom (p : Path) (hd : d.isAbsolute) : (p.seenFrom d).isAbsolute := by
  show (if p.isAbsolute then p else _ : Path).isAbsolute = true
  split
  · assumption
  · exact hd

theorem seenFrom_of_isAbsolute (hp : p.isAbsolute) (d : Path) : p.seenFrom d = p := if_pos hp

theorem head?_text (hp : p.isAbsolute) : p.text.toList.head? = some '/' := by
  rw [text, String.toList_ofList, chars]
  cases hr : p.root <;> simp_all [isAbsolute, Root.chars]

/-- A path seen from a directory has the names of both, or its own only. -/
theorem mem_names_seenFrom (h : n ∈ (p.seenFrom d).names) : n ∈ d.names ∨ n ∈ p.names := by
  change n ∈ (if p.isAbsolute then p else { d with names := d.names ++ p.names } : Path).names at h
  split at h
  · exact .inr h
  · exact List.mem_append.1 h

/-! ### Names and suffixes -/

theorem notMem_name {c : Char} (h : ∀ n ∈ p.names, c ∉ n) : c ∉ p.name := by
  unfold name
  rcases hl : p.names.getLast? with - | n
  · exact List.not_mem_nil
  · exact h n (List.mem_of_getLast? hl)

@[simp] theorem name_child (d : Path) (n : List Char) : (d.child n).name = n := by
  simp [name, child]

/-- A path with a name is that name in a directory. -/
theorem parent_child (h : p.name ≠ []) : p.parent.child p.name = p := by
  have hlast : p.names.dropLast ++ [p.name] = p.names := by
    rcases List.eq_nil_or_concat p.names with hn | ⟨names, n, hn⟩
    · simp [name, hn] at h
    · simp [name, hn]
  show (⟨p.root, p.names.dropLast ++ [p.name]⟩ : Path) = p
  rw [hlast]

theorem withSuffix?_eq_some {s : List Char} {q : Path} (h : p.withSuffix? s = some q) :
    p.name ≠ [] ∧ q = p.parent.child (p.stem ++ s) := by
  unfold withSuffix? at h
  split at h
  · cases h
  · next hn =>
    refine ⟨by simpa using hn, ?_⟩
    exact (Option.some.inj h).symm

theorem splitSuffix_of_notMem (h : '.' ∉ n) : splitSuffix n = (n, []) := by
  rw [splitSuffix]
  simp only [Text.behind_last_of_notMem h, decide_true, Bool.or_true, if_true]

/-- A suffix starts at the last point, unless nothing stands on one of its
sides. -/
theorem splitSuffix_append {stem tail : List Char} (htail : '.' ∉ tail) :
    splitSuffix (stem ++ '.' :: tail) =
      if stem.isEmpty || tail.isEmpty then (stem ++ '.' :: tail, []) else (stem, '.' :: tail) := by
  have hstem : (stem ++ '.' :: tail).length - tail.length - 1 = stem.length := by
    rw [List.length_append, List.length_cons]
    omega
  have hne : tail.length ≠ (stem ++ '.' :: tail).length := by
    rw [List.length_append, List.length_cons]
    omega
  rw [splitSuffix]
  simp only [Text.behind_last_append htail, hstem, List.take_left, List.drop_left, hne,
    decide_false, Bool.or_false]

/-- A name is its stem and its suffix. -/
theorem stem_append_suffix (p : Path) : p.stem ++ p.suffix = p.name := by
  unfold stem suffix splitSuffix
  simp only
  split
  · exact List.append_nil _
  · exact List.prefix_iff_eq_append.1 (List.take_prefix _ _)

/-- The stem of a name is a part of it. -/
theorem mem_of_mem_stem {c : Char} (h : c ∈ p.stem) : c ∈ p.name := by
  rw [← stem_append_suffix]
  exact List.mem_append_left _ h

/-! ### A text read as a path -/

/-- The names in a text that lead somewhere. -/
theorem filter_steps (s : List Char) :
    (FileTree.steps (String.ofList s)).filter (· ≠ ".") =
      ((Text.split '/' s).filter isName).map String.ofList := by
  have hdot : ∀ n : List Char, decide (String.ofList n ≠ ".") = decide (n ≠ ['.']) := by
    intro n
    have hinj : String.ofList n = String.ofList ['.'] ↔ n = ['.'] := String.ofList_inj
    exact decide_eq_decide.2 (not_congr hinj)
  have hname : ∀ names : List (List Char),
      ((names.filter fun n => !n.isEmpty).map String.ofList).filter (· ≠ ".") =
        (names.filter isName).map String.ofList := by
    intro names
    rw [List.filter_map, List.filter_filter]
    congr 1
    refine List.filter_congr fun n _ => ?_
    show (decide (String.ofList n ≠ ".") && _) = _
    rw [hdot, Bool.and_comm, isName, bne, Bool.beq_eq_decide_eq, decide_not]
  rw [FileTree.steps, String.toList_ofList]
  split
  · rw [List.map_append, List.filter_append, hname]
    exact List.append_nil _
  · exact hname _

/-- The names of a path that was read. -/
theorem names_ofChars (s : List Char) : ∀ n ∈ (ofChars s).names, isName n ∧ IsFileName n := by
  intro n hn
  obtain ⟨hn, hname⟩ := List.mem_filter.1 hn
  refine ⟨hname, ?_, Text.sep_notMem_of_mem_split hn⟩
  rintro rfl
  cases hname

/-- Writing a path keeps its names. -/
theorem filter_split_chars {p : Path} (h : ∀ n ∈ p.names, isName n ∧ IsFileName n) :
    (Text.split '/' p.chars).filter isName = p.names := by
  obtain ⟨root, names⟩ := p
  by_cases hnil : names = []
  · subst hnil
    cases root <;> decide
  · have hempty : names.isEmpty = false := by simp [hnil]
    have hall : names.filter isName = names := List.filter_eq_self.2 fun n hn => (h n hn).1
    have hsplit := Text.split_join hnil fun n hn => (h n hn).2.2
    rw [chars, hempty, Bool.and_false, if_neg Bool.false_ne_true]
    -- the slashes of the root only add empty pieces
    cases root with
    | current => exact hsplit.symm ▸ hall
    | slash => exact (congrArg (List.filter isName) hsplit).trans hall
    | doubleSlash => exact (congrArg (List.filter isName) hsplit).trans hall

/-- Reading a text and writing it again keeps the steps that lead somewhere. -/
theorem filter_steps_ofString (s : String) :
    (FileTree.steps (ofString s).text).filter (· ≠ ".") =
      (FileTree.steps s).filter (· ≠ ".") := by
  have h := filter_steps s.toList
  rw [String.ofList_toList] at h
  rw [text, filter_steps, h, ofString, filter_split_chars (names_ofChars _)]
  rfl

theorem rootOf_eq_current {s : List Char} : rootOf s = .current ↔ s.head? ≠ some '/' := by
  unfold rootOf
  split
  · simp
  · simp
  · simp
  · next h =>
    refine iff_of_true rfl fun hs => ?_
    obtain ⟨rest, rfl⟩ := List.head?_eq_some_iff.1 hs
    exact h rest rfl

/-- The root of a text is read off its start. -/
theorem rootOf_append (root : Root) {s : List Char} (hs : s.head? ≠ some '/') :
    rootOf (root.chars ++ s) = root := by
  cases root with
  | current => exact rootOf_eq_current.2 hs
  | slash =>
    cases s with
    | nil => rfl
    | cons c s =>
      have hc : c ≠ '/' := fun hc => hs (congrArg some hc)
      simp [Root.chars, rootOf, hc]
  | doubleSlash =>
    cases s with
    | nil => rfl
    | cons c s =>
      have hc : c ≠ '/' := fun hc => hs (congrArg some hc)
      simp [Root.chars, rootOf, hc]

/-- Joined names do not start with a slash. -/
theorem head?_join_ne {names : List (List Char)} (h : ∀ n ∈ names, IsFileName n) :
    (Text.join '/' names).head? ≠ some '/' := by
  cases names with
  | nil => simp [Text.join]
  | cons n names =>
    obtain ⟨hne, hslash⟩ := h n List.mem_cons_self
    obtain ⟨c, n, rfl⟩ := List.exists_cons_of_ne_nil hne
    have hc : c ≠ '/' := fun hc => hslash (hc ▸ List.mem_cons_self)
    cases names <;> simpa [Text.join] using hc

theorem rootOf_chars {p : Path} (h : ∀ n ∈ p.names, IsFileName n) : rootOf p.chars = p.root := by
  rw [chars]
  split
  · next hempty =>
    obtain ⟨hroot, -⟩ := Bool.and_eq_true_iff.1 hempty
    rw [of_decide_eq_true hroot]
    rfl
  · exact rootOf_append p.root (head?_join_ne h)

/-- A path that was read is what its own text is read as. -/
theorem ofChars_chars (s : List Char) : ofChars (ofChars s).chars = ofChars s := by
  have hnames := names_ofChars s
  show (⟨rootOf _, (Text.split '/' _).filter isName⟩ : Path) = _
  rw [filter_split_chars hnames, rootOf_chars fun n hn => (hnames n hn).2]

/-- The slashes of the root only add empty pieces. -/
theorem exists_rest (s : List Char) : ∃ rest, s = (rootOf s).chars ++ rest ∧
    (ofChars s).names = (Text.split '/' rest).filter isName := by
  rw [ofChars]
  unfold rootOf
  split
  · next rest => exact ⟨'/' :: '/' :: rest, rfl, rfl⟩
  · next rest _ => exact ⟨rest, rfl, rfl⟩
  · next rest _ _ => exact ⟨rest, rfl, rfl⟩
  · exact ⟨s, rfl, rfl⟩

/-- A path has no longer text than what it was read from. -/
theorem length_chars_ofChars_le {s : List Char} (hs : s ≠ []) :
    (ofChars s).chars.length ≤ s.length := by
  rw [chars]
  split
  · exact List.length_pos_iff.2 hs
  · obtain ⟨rest, hrest, hnames⟩ := exists_rest s
    have hjoin := Text.length_join_filter_le '/' isName (Text.split '/' rest)
    rw [Text.join_split] at hjoin
    calc ((ofChars s).root.chars ++ Text.join '/' (ofChars s).names).length
      _ = (rootOf s).chars.length + (Text.join '/' ((Text.split '/' rest).filter isName)).length := by
          rw [List.length_append, hnames]
          rfl
      _ ≤ (rootOf s).chars.length + rest.length := Nat.add_le_add_left hjoin _
      _ = s.length := by rw [← List.length_append, ← hrest]

theorem startOf_ofString (here : Place) (s : String) :
    FileTree.startOf here (ofString s).text = FileTree.startOf here s := by
  have hhead : (ofString s).text.toList.head? = some '/' ↔ s.toList.head? = some '/' := by
    by_cases hs : s.toList.head? = some '/'
    · have habs : (ofString s).isAbsolute := by
        have hroot : rootOf s.toList ≠ .current := fun h => rootOf_eq_current.1 h hs
        simpa [isAbsolute, ofString, ofChars] using hroot
      exact iff_of_true (head?_text habs) hs
    · -- without a slash in front the text starts with a name
      have hroot : (ofString s).root = .current := rootOf_eq_current.2 hs
      refine iff_of_false ?_ hs
      rw [text, String.toList_ofList, chars, hroot]
      split
      · simp
      · exact head?_join_ne fun n hn => (names_ofChars s.toList n hn).2
  rw [FileTree.startOf, FileTree.startOf]
  simp only [hhead]

end Path

end ReleaseGate
