/-
ReleaseGate/Proofs/Location/Segment.lean

The last segment of the path of a URL, and its suffix.

Design.  A `Url` is a URL in its pieces.  `Url.chars` writes it down, and
`Url.WellFormed` says which characters a piece may hold; so what the last
segment of a text is can be read off the text, without a word on how it is
taken apart.  Every location that is fetched is written in one such way
(`exists_url`), and taking it apart gives the pieces back (`path_of_split`).

The suffix of a location is that of its last segment.  It starts at the last
point, unless only points stand before it (`suffix_eq_iff`).

Main results: `segment_eq`, `exists_url`, `suffix_eq_iff`.
-/
import ReleaseGate.Location
import ReleaseGate.Proofs.Text.Stretches

namespace ReleaseGate.Location

open Text

/-! ### Texts of URLs -/

/-- A URL in its pieces. -/
structure Url where
  scheme : List Char
  /-- What stands behind `//`, unless the path starts at once. -/
  authority : Option (List Char)
  /-- The path up to its last slash. -/
  before : List Char
  /-- The last segment of the path, without its parameters. -/
  segment : List Char
  /-- What stands behind a `;` in the last segment. -/
  parameters : Option (List Char)
  /-- Query and fragment. -/
  rest : List Char

namespace Url

/-- The last segment with its parameters. -/
def last (u : Url) : List Char := u.segment ++ (u.parameters.map (';' :: ·)).getD []

/-- The path with the parameters of its last segment. -/
def path (u : Url) : List Char := u.before ++ u.last

/-- What stands behind the scheme. -/
def tail (u : Url) : List Char :=
  (u.authority.map fun a => '/' :: '/' :: a).getD [] ++ (u.path ++ u.rest)

/-- The URL as it is written. -/
def chars (u : Url) : List Char := u.scheme ++ ':' :: u.tail

/-- The pieces are where their characters allow them to be. -/
structure WellFormed (u : Url) : Prop where
  scheme : ∀ c ∈ u.scheme, isSchemeChar c = true
  letter : u.scheme.head?.any Char.isAlpha = true
  authority : ∀ a ∈ u.authority, ∀ c ∈ a, endsAuthority c = false
  /-- Behind an authority the path starts with a slash, and without one it
  does not start with two. -/
  start : if u.authority.isSome then ∀ c ∈ u.path.head?, c = '/' else ¬ ['/', '/'] <+: u.path
  before : ∀ c ∈ u.before, c ≠ '?' ∧ c ≠ '#'
  slash : ∀ c ∈ u.before.getLast?, c = '/'
  segment : ∀ c ∈ u.segment, c ≠ '/' ∧ c ≠ ';' ∧ c ≠ '?' ∧ c ≠ '#'
  parameters : ∀ p ∈ u.parameters, ∀ c ∈ p, c ≠ '/' ∧ c ≠ '?' ∧ c ≠ '#'
  rest : ∀ c ∈ u.rest.head?, c = '?' ∨ c = '#'

end Url

/-- The characters of a location that count are those of the URL. -/
def Spells (s : List Char) (u : Url) : Prop := significant s = u.chars ∧ u.WellFormed

variable {s : List Char} {u : Url} {l : Location}

/-! ### Taking a URL apart -/

theorem splitScheme_chars (hu : u.WellFormed) :
    splitScheme u.chars = (u.scheme.map Char.toLower, u.tail) := by
  have hspan := span_append (r := ':' :: u.tail) hu.scheme (by rintro _ ⟨⟩; rfl)
  rw [splitScheme, Url.chars, hspan.1, List.drop_left]
  simp only [hu.letter, if_true]

theorem mem_last (hu : u.WellFormed) : ∀ c ∈ u.last, c ≠ '/' ∧ c ≠ '?' ∧ c ≠ '#' := by
  intro c hc
  rcases List.mem_append.1 hc with hc | hc
  · exact ⟨(hu.segment c hc).1, (hu.segment c hc).2.2⟩
  rcases hp : u.parameters with - | p <;> rw [hp] at hc
  · cases hc
  · rcases List.mem_cons.1 hc with rfl | hc
    · decide
    · exact hu.parameters p hp c hc

/-- Query and fragment start where the path ends. -/
theorem takeWhile_path (hu : u.WellFormed) :
    (u.path ++ u.rest).takeWhile (fun c => c ≠ '?' && c ≠ '#') = u.path := by
  refine (span_append (fun c hc => ?_) fun c hc => ?_).1
  · have hne : c ≠ '?' ∧ c ≠ '#' :=
      (List.mem_append.1 hc).elim (hu.before c) fun h => (mem_last hu c h).2
    simp [hne]
  · rcases hu.rest c hc with rfl | rfl <;> rfl

theorem splitAuthority_tail (hu : u.WellFormed) :
    splitAuthority u.tail = (u.authority.getD [], u.path ++ u.rest) := by
  have hrest : u.rest.head? ≠ some '/' := fun h => absurd (hu.rest '/' h) (by decide)
  have hstart := hu.start
  rcases ha : u.authority with - | a <;> rw [ha] at hstart
  · -- two slashes would have to be in the path
    rw [Url.tail, ha]
    show splitAuthority (u.path ++ u.rest) = ([], u.path ++ u.rest)
    unfold splitAuthority
    split
    · next tail h =>
      exfalso
      rcases hpath : u.path with - | ⟨c, - | ⟨d, path⟩⟩ <;> rw [hpath] at h hstart
      · exact hrest (congrArg List.head? h)
      · exact hrest (congrArg List.head? (List.cons.inj h).2)
      · obtain ⟨hc, hnext⟩ := List.cons.inj h
        obtain ⟨hd, -⟩ := List.cons.inj hnext
        subst hc hd
        exact hstart (List.prefix_append ['/', '/'] path)
    · rfl
  · rw [Url.tail, ha]
    show ((a ++ (u.path ++ u.rest)).span fun c => !endsAuthority c) = (a, u.path ++ u.rest)
    have hspan := span_append (p := fun c => !endsAuthority c) (s := a) (r := u.path ++ u.rest)
      (fun c hc => by simpa using hu.authority a ha c hc) ?_
    · rw [List.span_eq_takeWhile_dropWhile, hspan.1, hspan.2]
    · intro c hc
      rcases hpath : u.path with - | ⟨d, path⟩ <;> rw [hpath] at hc hstart
      · rcases hu.rest c hc with rfl | rfl <;> rfl
      · obtain rfl := Option.some.inj hc
        rw [hstart _ rfl]
        rfl

/-- The text before the last slash, and the text behind it. -/
theorem splitLast_append {before last : List Char} (hbefore : ∀ c ∈ before.getLast?, c = '/')
    (hlast : '/' ∉ last) : splitLast (before ++ last) = (before, last) := by
  rw [splitLast]
  simp only [behind_last hbefore hlast]
  simp

theorem withoutParameters_path (hu : u.WellFormed) :
    withoutParameters u.path = u.before ++ u.segment := by
  have hslash : '/' ∉ u.last := fun h => (mem_last hu '/' h).1 rfl
  have hsegment : u.last.takeWhile (· ≠ ';') = u.segment := by
    refine (span_append (fun c hc => ?_) ?_).1
    · simpa using (hu.segment c hc).2.1
    · cases u.parameters with
      | none => nofun
      | some p => rintro _ ⟨⟩; rfl
  rw [withoutParameters, splitParameters, Url.path, splitLast_append hu.slash hslash]
  simp only [hsegment]

/-- A location taken apart step by step. -/
theorem split_eq {s scheme authority rest rest' : List Char}
    (hscheme : splitScheme (significant s) = (scheme, rest))
    (hauthority : splitAuthority rest = (authority, rest')) :
    split s = (checkAuthority authority).map fun _ => ⟨scheme, authority,
      if schemesWithParameters.contains scheme then
        withoutParameters (rest'.takeWhile fun c => c ≠ '?' && c ≠ '#')
      else rest'.takeWhile fun c => c ≠ '?' && c ≠ '#'⟩ := by
  rw [split, hscheme]
  simp only [hauthority]
  cases checkAuthority authority with
  | error e => rfl
  | ok u => rfl

theorem eq_of_split {scheme authority rest rest' : List Char}
    (hscheme : splitScheme (significant s) = (scheme, rest))
    (hauthority : splitAuthority rest = (authority, rest')) (hl : split s = .ok l) :
    l = ⟨scheme, authority,
      if schemesWithParameters.contains scheme then
        withoutParameters (rest'.takeWhile fun c => c ≠ '?' && c ≠ '#')
      else rest'.takeWhile fun c => c ≠ '?' && c ≠ '#'⟩ := by
  rw [split_eq hscheme hauthority] at hl
  rcases hcheck : checkAuthority authority with e | checked <;> rw [hcheck] at hl
  · cases hl
  · exact (Except.ok.inj hl).symm

/-- The path of a location that is fetched is that of its URL, without
parameters, query and fragment. -/
theorem path_of_split (hu : Spells s u) (hl : split s = .ok l) (hremote : l.isRemote = true) :
    l.path = u.before ++ u.segment := by
  obtain ⟨hchars, hwell⟩ := hu
  have hscheme : splitScheme (significant s) = _ := hchars ▸ splitScheme_chars hwell
  obtain rfl := eq_of_split hscheme (splitAuthority_tail hwell) hl
  have hschemes : u.scheme.map Char.toLower ∈ ["http".toList, "https".toList] :=
    List.contains_iff_mem.1 hremote
  have hparameters : schemesWithParameters.contains (u.scheme.map Char.toLower) = true := by
    rcases List.mem_cons.1 hschemes with h | h
    · rw [h]
      decide
    · rw [List.mem_singleton.1 h]
      decide
  rw [takeWhile_path hwell, withoutParameters_path hwell]
  exact if_pos hparameters

theorem segment_eq (hu : Spells s u) (hl : split s = .ok l) (hremote : l.isRemote = true) :
    (splitLast l.path).2 = u.segment := by
  rw [path_of_split hu hl hremote, splitLast_append hu.2.slash]
  exact fun h => (hu.2.segment '/' h).1 rfl

/-! ### Every location that is fetched -/

theorem exists_scheme {scheme rest : List Char} (h : splitScheme s = (scheme, rest))
    (hne : scheme ≠ []) : ∃ given, s = given ++ ':' :: rest ∧
      (∀ c ∈ given, isSchemeChar c = true) ∧ given.head?.any Char.isAlpha = true := by
  have hwhole := List.takeWhile_append_dropWhile (p := isSchemeChar) (l := s)
  have hdrop : s.drop (s.takeWhile isSchemeChar).length = s.dropWhile isSchemeChar :=
    calc s.drop (s.takeWhile isSchemeChar).length
      _ = (s.takeWhile isSchemeChar ++ s.dropWhile isSchemeChar).drop
            (s.takeWhile isSchemeChar).length := by rw [hwhole]
      _ = s.dropWhile isSchemeChar := List.drop_left
  unfold splitScheme at h
  simp only [hdrop] at h
  split at h
  · next tail htail =>
    split at h
    · next hletter =>
      obtain ⟨-, rfl⟩ := Prod.mk.inj h
      rw [htail] at hwhole
      exact ⟨_, hwhole.symm, fun c => List.mem_takeWhile_imp, hletter⟩
    · exact absurd (Prod.mk.inj h).1.symm hne
  · exact absurd (Prod.mk.inj h).1.symm hne

theorem exists_authority {authority rest : List Char} (h : splitAuthority s = (authority, rest)) :
    ∃ given : Option (List Char), s = (given.map fun a => '/' :: '/' :: a).getD [] ++ rest ∧
      (∀ a ∈ given, ∀ c ∈ a, endsAuthority c = false) ∧
      if given.isSome then ∀ c ∈ rest.head?, endsAuthority c = true else ¬ ['/', '/'] <+: rest := by
  unfold splitAuthority at h
  split at h
  · next tail =>
    rw [List.span_eq_takeWhile_dropWhile] at h
    obtain ⟨rfl, rfl⟩ := Prod.mk.inj h
    refine ⟨some (tail.takeWhile fun c => !endsAuthority c), ?_, ?_, ?_⟩
    · exact congrArg (['/', '/'] ++ ·) List.takeWhile_append_dropWhile.symm
    · rintro _ ⟨⟩ c hc
      simpa using List.mem_takeWhile_imp hc
    · intro c hc
      simpa using head?_dropWhile _ tail c hc
  · next hslashes =>
    obtain ⟨rfl, rfl⟩ := Prod.mk.inj h
    refine ⟨none, rfl, nofun, ?_⟩
    rintro ⟨tail, rfl⟩
    exact hslashes tail rfl

theorem exists_path (whole : List Char) : ∃ path rest, whole = path ++ rest ∧
    (∀ c ∈ path, c ≠ '?' ∧ c ≠ '#') ∧ ∀ c ∈ rest.head?, c = '?' ∨ c = '#' := by
  refine ⟨_, _, (List.takeWhile_append_dropWhile (p := fun c => c ≠ '?' && c ≠ '#')).symm,
    fun c hc => ?_, fun c hc => ?_⟩
  · simpa using List.mem_takeWhile_imp hc
  · simpa [or_iff_not_imp_left] using head?_dropWhile _ whole c hc

theorem exists_segment (path : List Char) : ∃ before last, path = before ++ last ∧
    (∀ c ∈ before.getLast?, c = '/') ∧ '/' ∉ last := by
  rcases exists_last '/' path with h | ⟨before, last, rfl, h⟩
  · exact ⟨[], path, rfl, nofun, h⟩
  · exact ⟨before ++ ['/'], last, by simp, by simp, h⟩

theorem exists_parameters (last : List Char) : ∃ segment, ∃ parameters : Option (List Char),
    last = segment ++ (parameters.map (';' :: ·)).getD [] ∧ ';' ∉ segment := by
  by_cases h : ';' ∈ last
  · obtain ⟨segment, parameters, rfl, hsegment⟩ := List.eq_append_cons_of_mem h
    exact ⟨segment, some parameters, rfl, hsegment⟩
  · exact ⟨last, none, by simp, h⟩

/-- Every location that is fetched is written as a URL. -/
theorem exists_url (hl : split s = .ok l) (hremote : l.isRemote = true) : ∃ u, Spells s u := by
  -- the pieces are found from left to right, as the text is taken apart
  rcases hscheme : splitScheme (significant s) with ⟨scheme, tail⟩
  rcases hauthority : splitAuthority tail with ⟨authority, whole⟩
  have hne : scheme ≠ [] := by
    rintro rfl
    obtain rfl := eq_of_split hscheme hauthority hl
    cases hremote
  obtain ⟨given, hgiven, hchars, hletter⟩ := exists_scheme hscheme hne
  obtain ⟨host, htail, hhost, hstart⟩ := exists_authority hauthority
  obtain ⟨path, rest, rfl, hpath, hrest⟩ := exists_path whole
  obtain ⟨before, last, rfl, hslash, hlast⟩ := exists_segment path
  obtain ⟨segment, parameters, rfl, hsegment⟩ := exists_parameters last
  refine ⟨⟨given, host, before, segment, parameters, rest⟩, ?_, ?_⟩
  · rw [hgiven, htail]
    rfl
  have hmem : ∀ c ∈ segment ++ (parameters.map (';' :: ·)).getD [], c ≠ '/' ∧ c ≠ '?' ∧ c ≠ '#' :=
    fun c hc => ⟨fun h => hlast (h ▸ hc), hpath c (List.mem_append_right before hc)⟩
  refine ⟨hchars, hletter, hhost, ?_, ?_, hslash, ?_, ?_, hrest⟩
  · cases host with
    | none => exact fun h => hstart (h.trans (List.prefix_append _ _))
    | some a =>
      intro c hc
      have hends := hstart c (by
        rw [Option.mem_def, List.head?_append, Option.or_eq_some_iff]
        exact .inl hc)
      have hmark := hpath c (List.mem_of_mem_head? hc)
      simpa [endsAuthority, hmark] using hends
  · exact fun c hc => hpath c (List.mem_append_left _ hc)
  · intro c hc
    obtain ⟨hc₁, hc₂⟩ := hmem c (List.mem_append_left _ hc)
    exact ⟨hc₁, fun h => hsegment (h ▸ hc), hc₂⟩
  · rintro p hp c hc
    obtain rfl : parameters = some p := hp
    exact hmem c (List.mem_append_right segment (List.mem_cons_of_mem ';' hc))

/-! ### Suffixes -/

theorem suffix_of_notMem (h : '.' ∉ (splitLast l.path).2) : l.suffix = [] := by
  rw [suffix]
  simp only [behind_last_of_notMem h, decide_true, Bool.true_or, if_true]

theorem suffix_of_append {stem tail : List Char} (h : (splitLast l.path).2 = stem ++ '.' :: tail)
    (htail : '.' ∉ tail) : l.suffix = if stem.all (· = '.') then [] else '.' :: tail := by
  have hlength : (stem ++ '.' :: tail).length = stem.length + 1 + tail.length := by
    rw [List.length_append, List.length_cons]
    omega
  have hstem : (stem ++ '.' :: tail).take ((stem ++ '.' :: tail).length - tail.length - 1) =
      stem := by
    rw [hlength, show stem.length + 1 + tail.length - tail.length - 1 = stem.length by omega,
      List.take_left]
  have hne : ¬ tail.length = (stem ++ '.' :: tail).length := by omega
  rw [suffix]
  simp only [h, behind_last_append htail, hstem, hne, decide_false, Bool.false_or]

/-- The suffix of a location is what its last segment ends in from the last
point on, if there is more than points before. -/
theorem suffix_eq_iff {x : List Char} (hx : x ≠ []) :
    l.suffix = x ↔ ∃ stem tail, (splitLast l.path).2 = stem ++ x ∧ x = '.' :: tail ∧ '.' ∉ tail ∧
      ∃ c ∈ stem, c ≠ '.' := by
  rcases exists_last '.' (splitLast l.path).2 with h | ⟨before, last, h, hlast⟩
  · rw [suffix_of_notMem h]
    refine ⟨fun hnil => absurd hnil.symm hx, ?_⟩
    rintro ⟨stem, tail, hsegment, rfl, -, -⟩
    rw [hsegment] at h
    exact absurd (List.mem_append_right stem List.mem_cons_self) h
  · rw [suffix_of_append h hlast, h]
    constructor
    · intro hsuffix
      split at hsuffix
      · exact absurd hsuffix.symm hx
      · next hall =>
        subst hsuffix
        exact ⟨before, last, rfl, rfl, hlast, by simpa using hall⟩
    · rintro ⟨stem, tail, hsegment, rfl, htail, c, hc, hpoint⟩
      obtain ⟨rfl, rfl⟩ := append_cons_inj hlast htail hsegment
      exact if_neg fun hall => hpoint (by simpa using List.all_eq_true.1 hall c hc)

theorem suffix_eq_nil_or (l : Location) :
    l.suffix = [] ∨ ∃ tail, l.suffix = '.' :: tail ∧ '.' ∉ tail := by
  by_cases h : l.suffix = []
  · exact .inl h
  · obtain ⟨stem, tail, -, htail, hpoint, -⟩ := (suffix_eq_iff h).1 rfl
    exact .inr ⟨tail, htail, hpoint⟩

end ReleaseGate.Location
