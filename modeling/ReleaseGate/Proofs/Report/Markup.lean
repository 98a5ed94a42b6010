/-
ReleaseGate/Proofs/Report/Markup.lean

The tags of the page, and what stands between them.

A reader goes over the characters of a page (`Reader.next`).  It takes `<` as
the start of a tag, which ends with the next `>`, and it keeps the elements
of four kinds that hold nothing but text, with what that text stands for.
Nobody tells the reader which pieces of the page are markup.

Whatever is compared, the reader finds the tags that belong to the shape of
the comparison (`Shape.tags`): how many exclusions, classes, rules and
members there are, and which of them break old callers.  And between the tags
it finds the values of the comparison, as they are.

Design.  What a stretch of the page adds to the tags and to the elements is
the same for every reader that comes to it outside of a tag (`Adds`).  So the
stretches can be put together in the order of the page.  Markup as it stands
adds what a new reader finds in it (`Plain`), a text adds nothing, and a text
between two tags adds an element.

Main result: `markup_of_shape`.
-/
import ReleaseGate.Proofs.Report.Printed

namespace ReleaseGate.Page

/-! ### What a text stands for -/

/-- The text that is written as a given one. -/
def unescape : List Char → List Char
  | '&' :: 'a' :: 'm' :: 'p' :: ';' :: s => '&' :: unescape s
  | '&' :: 'l' :: 't' :: ';' :: s => '<' :: unescape s
  | '&' :: 'g' :: 't' :: ';' :: s => '>' :: unescape s
  | '&' :: '#' :: '3' :: '4' :: ';' :: s => '"' :: unescape s
  | '&' :: '#' :: '3' :: '9' :: ';' :: s => '\'' :: unescape s
  | c :: s => c :: unescape s
  | [] => []

theorem unescape_cons {c : Char} (hc : c ≠ '&') (s : List Char) :
    unescape (c :: s) = c :: unescape s := by
  rw [unescape] <;> exact fun _ h => absurd h hc

/-- **A text can be read** as it was before it was written. -/
theorem unescape_escape (s : List Char) : unescape (escape s) = s := by
  induction s with
  | nil => rfl
  | cons c s ih =>
    have hchars : escape (c :: s) = escapeChar c ++ escape s := rfl
    rw [hchars]
    unfold escapeChar
    split
    · exact congrArg _ ih
    · exact congrArg _ ih
    · exact congrArg _ ih
    · exact congrArg _ ih
    · exact congrArg _ ih
    · -- any other character stands for itself
      next hamp _ _ _ _ =>
      rw [List.singleton_append, unescape_cons hamp, ih]

/-! ### The reader -/

/-- An element that holds nothing but text. -/
structure Element where
  name : String
  text : String
  deriving DecidableEq

/-- The kinds of elements that show what was compared. -/
def kinds : List String := ["code", "h2", "li", "td"]

/-- What a reader of a page has found. -/
structure Reader where
  tags : List String := []
  elements : List Element := []
  /-- The kind of element that starts with the last tag. -/
  opened? : Option String := none
  /-- What stands behind the last tag. -/
  text : List Char := []
  /-- What was read of a tag that is not over. -/
  tag? : Option (List Char) := none

/-- The kind of element that starts with a tag. -/
def opening? : List Char → Option String
  | '/' :: _ => none
  | tag => some (String.ofList (tag.takeWhile Char.isAlphanum))

/-- The kind of element that ends with a tag. -/
def closing? : List Char → Option String
  | '/' :: name => some (String.ofList name)
  | _ => none

namespace Reader

/-- The element that a tag ends, if it is of one of the kinds and started with
the last tag. -/
def ended (r : Reader) (tag : List Char) : List Element :=
  match closing? tag with
  | some name =>
    if name ∈ kinds ∧ r.opened? = some name then [⟨name, String.ofList (unescape r.text)⟩] else []
  | none => []

/-- Takes a tag to its end. -/
def endTag (r : Reader) (tag : List Char) : Reader where
  tags := r.tags ++ ["<" ++ String.ofList tag ++ ">"]
  elements := r.elements ++ r.ended tag
  opened? := opening? tag

/-- Takes a character. -/
def next (r : Reader) (c : Char) : Reader :=
  match r.tag? with
  | none => if c = '<' then { r with tag? := some [] } else { r with text := r.text ++ [c] }
  | some tag => if c = '>' then r.endTag tag else { r with tag? := some (tag ++ [c]) }

/-- Takes characters. -/
def read (r : Reader) (s : List Char) : Reader := s.foldl next r

end Reader

/-- The tags of a page: each starts with a `<` and ends with the next `>`. -/
def tags (page : String) : List String := (Reader.read {} page.toList).tags

/-- The elements of a page that show what was compared. -/
def elements (page : String) : List Element := (Reader.read {} page.toList).elements

namespace Reader

variable {r : Reader} {s : List Char}

theorem read_append (r : Reader) (s s' : List Char) : r.read (s ++ s') = (r.read s).read s' :=
  List.foldl_append

theorem read_cons (r : Reader) (c : Char) (s : List Char) : r.read (c :: s) = (r.next c).read s :=
  rfl

/-- Outside of a tag, what starts no tag is text. -/
theorem read_text (hr : r.tag? = none) (hs : '<' ∉ s) :
    r.read s = { r with text := r.text ++ s } := by
  induction s generalizing r with
  | nil => simp [read]
  | cons c s ih =>
    rw [List.mem_cons, not_or] at hs
    obtain ⟨hc, hs⟩ := hs
    have hnext : r.next c = { r with text := r.text ++ [c] } := by
      rw [next, hr]
      exact if_neg (Ne.symm hc)
    have htag : (r.next c).tag? = none := by rw [hnext, hr]
    rw [read_cons, ih htag hs, hnext, List.append_assoc, List.singleton_append]

/-- Inside of a tag, what does not end it belongs to it. -/
theorem read_inside {t : List Char} (hr : r.tag? = some t) (hs : '>' ∉ s) :
    r.read s = { r with tag? := some (t ++ s) } := by
  induction s generalizing r t with
  | nil => simp [read, ← hr]
  | cons c s ih =>
    rw [List.mem_cons, not_or] at hs
    obtain ⟨hc, hs⟩ := hs
    have hnext : r.next c = { r with tag? := some (t ++ [c]) } := by
      rw [next, hr]
      exact if_neg (Ne.symm hc)
    rw [read_cons, hnext, ih rfl hs, List.append_assoc, List.singleton_append]

/-- A tag is taken as a whole. -/
theorem read_tag {tag : String} (hr : r.tag? = none) (htag : '>' ∉ tag.toList) :
    r.read ("<" ++ tag ++ ">").toList = r.endTag tag.toList := by
  have hchars : ("<" ++ tag ++ ">").toList = '<' :: (tag.toList ++ ['>']) := by simp
  have hstart : r.next '<' = { r with tag? := some [] } := by
    rw [next, hr]
    rfl
  rw [hchars, read_cons, hstart, read_append, read_inside rfl htag]
  rfl

end Reader

/-! ### Stretches of a page -/

/-- What a stretch of a page adds to what a reader has found. -/
structure Adds (s : List Char) (found : List String) (shown : List Element) : Prop where
  outside : ∀ r : Reader, r.tag? = none → (r.read s).tag? = none
  tags : ∀ r : Reader, r.tag? = none → (r.read s).tags = r.tags ++ found
  elements : ∀ r : Reader, r.tag? = none → (r.read s).elements = r.elements ++ shown

namespace Adds

variable {s s' : List Char} {found found' : List String} {shown shown' : List Element}

theorem nil : Adds [] [] [] where
  outside _ hr := hr
  tags _ _ := (List.append_nil _).symm
  elements _ _ := (List.append_nil _).symm

theorem append (h : Adds s found shown) (h' : Adds s' found' shown') :
    Adds (s ++ s') (found ++ found') (shown ++ shown') where
  outside r hr := by
    rw [Reader.read_append]
    exact h'.outside _ (h.outside r hr)
  tags r hr := by
    rw [Reader.read_append, h'.tags _ (h.outside r hr), h.tags r hr, List.append_assoc]
  elements r hr := by
    rw [Reader.read_append, h'.elements _ (h.outside r hr), h.elements r hr, List.append_assoc]

/-- Stretches of one kind, one after the other. -/
theorem flatMap {α : Type} {chars : α → List Char} {found : α → List String}
    {shown : α → List Element} (h : ∀ x, Adds (chars x) (found x) (shown x)) (xs : List α) :
    Adds (xs.flatMap chars) (xs.flatMap found) (xs.flatMap shown) := by
  induction xs with
  | nil => exact nil
  | cons x xs ih => exact (h x).append ih

/-- What starts no tag adds nothing. -/
theorem of_notMem (h : '<' ∉ s) : Adds s [] [] where
  outside r hr := by
    rw [Reader.read_text hr h]
    exact hr
  tags r hr := by
    rw [Reader.read_text hr h, List.append_nil]
  elements r hr := by
    rw [Reader.read_text hr h, List.append_nil]

/-- A text adds nothing. -/
theorem text (s : String) : Adds (Piece.text s).chars [] [] := of_notMem (notMem_escape _)

end Adds

/-- The tags that end an element of one of the kinds. -/
def closingTags : List String := kinds.map fun name => "</" ++ name ++ ">"

/-- Markup with the given tags, none of which ends an element of one of the
kinds. -/
def Plain (s : String) (found : List String) : Prop :=
  (Reader.read {} s.toList).tag? = none ∧ (Reader.read {} s.toList).tags = found ∧
    ∀ tag ∈ found, tag ∉ closingTags

instance (s : String) (found : List String) : Decidable (Plain s found) :=
  inferInstanceAs (Decidable (_ ∧ _ ∧ _))

namespace Reader

variable {r r' : Reader}

/-- A tag that ends no element of one of the kinds adds no element. -/
theorem ended_eq_nil {tag : List Char} (h : "<" ++ String.ofList tag ++ ">" ∉ closingTags) :
    r.ended tag = [] := by
  unfold ended closing?
  split
  · next name hname =>
    split at hname
    · next rest =>
      obtain rfl := Option.some.inj hname
      refine if_neg fun hkind => h (List.mem_map.2 ⟨_, hkind.1, ?_⟩)
      rw [← String.toList_inj]
      simp
    · cases hname
  · rfl

/-- What one reader takes from a stretch another one takes as well, if both
are at the same point of a tag or both outside of one. -/
theorem read_congr (s : List Char) (h : r.tag? = r'.tag?) :
    ∃ found, (r.read s).tag? = (r'.read s).tag? ∧ (r.read s).tags = r.tags ++ found ∧
      (r'.read s).tags = r'.tags ++ found ∧
      ((∀ tag ∈ found, tag ∉ closingTags) → (r.read s).elements = r.elements) := by
  induction s generalizing r r' with
  | nil => exact ⟨[], h, (List.append_nil _).symm, (List.append_nil _).symm, fun _ => rfl⟩
  | cons c s ih =>
    have hstep : ∃ found, (r.next c).tag? = (r'.next c).tag? ∧ (r.next c).tags = r.tags ++ found ∧
        (r'.next c).tags = r'.tags ++ found ∧
        ((∀ tag ∈ found, tag ∉ closingTags) → (r.next c).elements = r.elements) := by
      unfold next
      rw [← h]
      rcases r.tag? with - | tag
      · -- outside of a tag, one may start
        refine ⟨[], ?_⟩
        by_cases hc : c = '<'
        · simp [hc]
        · simp [hc]
      · -- inside of a tag, it may end
        by_cases hc : c = '>'
        · refine ⟨["<" ++ String.ofList tag ++ ">"], ?_⟩
          simp only [hc, if_true]
          refine ⟨rfl, rfl, rfl, fun hplain => ?_⟩
          rw [endTag, ended_eq_nil (hplain _ (List.mem_singleton_self _)), List.append_nil]
        · refine ⟨[], ?_⟩
          simp [hc]
    obtain ⟨found, htag, hfound, hfound', helements⟩ := hstep
    obtain ⟨more, htag, hmore, hmore', hrest⟩ := ih htag
    refine ⟨found ++ more, htag, ?_, ?_, fun hplain => ?_⟩
    · rw [read_cons, hmore, hfound, List.append_assoc]
    · rw [read_cons, hmore', hfound', List.append_assoc]
    · obtain ⟨hp, hp'⟩ := List.forall_mem_append.1 hplain
      rw [read_cons, hrest hp', helements hp]

end Reader

/-- Markup adds the tags that are in it. -/
theorem Plain.adds {s : String} {found : List String} (h : Plain s found) :
    Adds s.toList found [] := by
  obtain ⟨htag, hfound, hplain⟩ := h
  have hread : ∀ r : Reader, r.tag? = none → (r.read s.toList).tag? = none ∧
      (r.read s.toList).tags = r.tags ++ found ∧ (r.read s.toList).elements = r.elements := by
    intro r hr
    have hnew : r.tag? = ({} : Reader).tag? := hr
    obtain ⟨found', htag', htags, htags', helements⟩ := Reader.read_congr s.toList hnew
    obtain rfl : found' = found := htags'.symm.trans hfound
    exact ⟨htag'.trans htag, htags, helements hplain⟩
  refine ⟨fun r hr => (hread r hr).1, fun r hr => (hread r hr).2.1, fun r hr => ?_⟩
  rw [(hread r hr).2.2, List.append_nil]

/-- A stretch between two pieces of markup. -/
theorem Adds.between {a b : String} {pieces : List Piece} {first found last : List String}
    {shown : List Element} (hstart : Adds a.toList first [])
    (h : Adds (pieces.flatMap Piece.chars) found shown) (hend : Adds b.toList last []) :
    Adds (([Piece.markup a] ++ pieces ++ [Piece.markup b]).flatMap Piece.chars)
      (first ++ found ++ last) shown := by
  have hall := (hstart.append h).append hend
  rw [List.nil_append, List.append_nil] at hall
  rw [List.flatMap_append, List.flatMap_append, List.flatMap_singleton, List.flatMap_singleton]
  exact hall

/-- A text that stands alone. -/
theorem Adds.single (text : String) : Adds ([Piece.text text].flatMap Piece.chars) [] [] := by
  rw [List.flatMap_singleton]
  exact Adds.text text

/-- A paragraph adds its own two tags. -/
theorem Adds.paragraph {pieces : List Piece} {found : List String} {shown : List Element}
    (h : Adds (pieces.flatMap Piece.chars) found shown) :
    Adds (([Piece.markup "  <p>"] ++ pieces ++ [Piece.markup "</p>\n"]).flatMap Piece.chars)
      (["<p>"] ++ found ++ ["</p>"]) shown := by
  have hstart : Plain "  <p>" ["<p>"] := by decide
  have hend : Plain "</p>\n" ["</p>"] := by decide
  exact Adds.between hstart.adds h hend.adds

/-! ### Elements -/

namespace Reader

variable {tag : List Char} {name : String}

/-- A tag that starts an element leaves the reader at its start. -/
theorem endTag_opening (r : Reader) (h : opening? tag = some name) : r.endTag tag =
    { tags := r.tags ++ ["<" ++ String.ofList tag ++ ">"], elements := r.elements,
      opened? := some name } := by
  have hended : r.ended tag = [] := by
    unfold opening? at h
    split at h
    · cases h
    · next hslash =>
      unfold ended closing?
      split
      · next hname =>
        split at hname
        · exact absurd rfl (hslash _)
        · cases hname
      · rfl
  rw [endTag, hended, List.append_nil, h]

/-- The tag that ends the element adds it, with its text. -/
theorem endTag_closing {r : Reader} (hname : name ∈ kinds) (h : r.opened? = some name) :
    r.endTag ("/" ++ name).toList =
      { tags := r.tags ++ ["<" ++ ("/" ++ name) ++ ">"],
        elements := r.elements ++ [⟨name, String.ofList (unescape r.text)⟩] } := by
  have hclosing : closing? ("/" ++ name).toList = some name := by simp [closing?]
  have hopening : opening? ("/" ++ name).toList = none := by simp [opening?]
  have hended : r.ended ("/" ++ name).toList = [⟨name, String.ofList (unescape r.text)⟩] := by
    rw [ended, hclosing]
    exact if_pos ⟨hname, h⟩
  rw [endTag, hended, hopening, String.ofList_toList]

end Reader

/-- An element with a text, as it is written. -/
def written (name attributes text : String) : List Char :=
  ("<" ++ (name ++ attributes) ++ ">").toList ++
    ((Piece.text text).chars ++ ("<" ++ ("/" ++ name) ++ ">").toList)

/-- **A text between two tags** is found as it was before it was written. -/
theorem adds_written {name attributes : String} (hname : name ∈ kinds)
    (hopening : opening? (name ++ attributes).toList = some name)
    (hend : '>' ∉ (name ++ attributes).toList) (text : String) :
    Adds (written name attributes text)
      ["<" ++ (name ++ attributes) ++ ">", "<" ++ ("/" ++ name) ++ ">"] [⟨name, text⟩] := by
  have hend' : '>' ∉ ("/" ++ name).toList := by
    rw [String.toList_append, List.mem_append, not_or] at hend ⊢
    exact ⟨by decide, hend.1⟩
  -- the reader stands behind the first tag, then behind the text, then behind the other tag
  have hread : ∀ r : Reader, r.tag? = none → r.read (written name attributes text) =
      { tags := r.tags ++ ["<" ++ (name ++ attributes) ++ ">", "<" ++ ("/" ++ name) ++ ">"],
        elements := r.elements ++ [⟨name, text⟩] } := by
    intro r hr
    rw [written, Reader.read_append, Reader.read_tag hr hend, Reader.endTag_opening r hopening,
      Reader.read_append, Piece.chars, Reader.read_text rfl (notMem_escape _),
      Reader.read_tag rfl hend', Reader.endTag_closing hname rfl]
    simp only [List.nil_append, unescape_escape, String.ofList_toList, List.append_assoc,
      List.singleton_append]
  refine ⟨fun r hr => ?_, fun r hr => ?_, fun r hr => ?_⟩
  · rw [hread r hr]
  · rw [hread r hr]
  · rw [hread r hr]

/-! ### The shape of a comparison -/

/-- What the tags of a page show of a class. -/
structure ClassShape where
  compatible : Bool
  codes : Nat
  /-- The members, by whether they break old callers. -/
  members : List Bool
  deriving DecidableEq

/-- What the tags of a page show of a comparison. -/
structure Shape where
  skipped : Bool
  exclusions : Nat
  classes : List ClassShape
  deriving DecidableEq

/-- The shape of a class. -/
def ClassShape.of (k : ClassChange) : ClassShape :=
  ⟨k.compatible, k.codes.length, k.members.map (·.compatible)⟩

/-- The shape of a comparison. -/
def Shape.of (c : Comparison) : Shape :=
  ⟨c.skipped.isSome, c.exclusions.length, c.model.changes.map .of⟩

/-- The tags of the row of an artifact. -/
def artifactTags : List String :=
  ["<tr>", "<th>", "</th>", "<td>", "</td>", "<th>", "</th>", "<td>", "</td>", "</tr>"]

/-- The tags of the row of a member. -/
def memberTags (compatible : Bool) : List String :=
  ["<tr class=\"" ++ styleClass compatible ++ "\">", "<td>", "</td>", "<td>", "</td>", "<td>",
    "</td>", "<td>", "</td>", "<td>", "</td>", "</tr>"]

/-- The tags of the table of some members. -/
def tableTags (members : List Bool) : List String :=
  if members.isEmpty then []
  else
    ["<table class=\"members\">", "<tr>", "<th>", "</th>", "<th>", "</th>", "<th>", "</th>",
      "<th>", "</th>", "<th>", "</th>", "</tr>"] ++ members.flatMap memberTags ++ ["</table>"]

/-- The tags of a list of so many rules. -/
def codeTags (n : Nat) : List String :=
  if n = 0 then []
  else
    ["<ul>"] ++ (List.replicate n ["<li class=\"incompatible\">", "</li>"]).flatten ++ ["</ul>"]

/-- The tags of a list of so many exclusions. -/
def exclusionTags (n : Nat) : List String :=
  if n = 0 then []
  else ["<p>"] ++ (List.replicate n ["<code>", "</code>"]).flatten ++ ["</p>"]

/-- The tags of the section of a class. -/
def ClassShape.tags (k : ClassShape) : List String :=
  ["<h2 class=\"" ++ styleClass k.compatible ++ "\">", "</h2>"] ++ codeTags k.codes ++
    tableTags k.members

/-- The tags of what was found. -/
def Shape.bodyTags (s : Shape) : List String :=
  if s.skipped then ["<p>", "</p>"]
  else exclusionTags s.exclusions ++ ["<p>", "</p>"] ++ s.classes.flatMap ClassShape.tags

/-- The tags of a page. -/
def Shape.tags (s : Shape) : List String :=
  ["<!DOCTYPE html>", "<html lang=\"en\">", "<head>", "<meta charset=\"utf-8\">", "<title>",
    "</title>", "<style>", "</style>", "</head>", "<body>", "<h1>", "</h1>", "<table>"] ++
    artifactTags ++ artifactTags ++ ["</table>"] ++ s.bodyTags ++
    ["<p>", "<strong>", "</strong>", "<code>", "</code>", "</p>", "<footer>", "<small>",
      "</small>", "</footer>", "</body>", "</html>"]

/-! ### What is shown of a comparison -/

/-- The cells of an artifact. -/
def artifactElements (a : Artifact) : List Element := [⟨"td", a.file⟩, ⟨"td", a.version⟩]

/-- The cells of a member. -/
def memberElements (m : MemberChange) : List Element :=
  [⟨"td", m.kind⟩, ⟨"td", m.name⟩, ⟨"td", m.status.name⟩, ⟨"td", flag m.binaryCompatible⟩,
    ⟨"td", flag m.sourceCompatible⟩]

/-- What is shown of a class. -/
def classElements (k : ClassChange) : List Element :=
  [⟨"h2", k.status.name ++ " " ++ k.name ++ " (" ++ k.severity.name ++ ")"⟩] ++
    k.codes.map (⟨"li", ·⟩) ++ k.members.flatMap memberElements

/-- What is shown of what was found. -/
def bodyElements (c : Comparison) : List Element :=
  if c.skipped.isSome then []
  else c.exclusions.map (⟨"code", ·⟩) ++ c.model.changes.flatMap classElements

/-- The elements of the page on a comparison. -/
def shown (c : Comparison) : List Element :=
  artifactElements c.old ++ artifactElements c.new ++ bodyElements c ++
    [⟨"code", c.model.suggestedVersion.text⟩]

/-! ### The stretches of the page -/

/-- A cell, as it is written. -/
theorem written_td (text : String) :
    written "td" "" text = "<td>".toList ++ ((Piece.text text).chars ++ "</td>".toList) := rfl

theorem written_code (text : String) :
    written "code" "" text = "<code>".toList ++ ((Piece.text text).chars ++ "</code>".toList) := rfl

theorem adds_td (text : String) : Adds (written "td" "" text) ["<td>", "</td>"] [⟨"td", text⟩] :=
  adds_written (by decide) (by decide) (by decide) text

theorem adds_code (text : String) :
    Adds (written "code" "" text) ["<code>", "</code>"] [⟨"code", text⟩] :=
  adds_written (by decide) (by decide) (by decide) text

theorem adds_artifactRow (age : String) (a : Artifact) :
    Adds ((artifactRow age a).flatMap Piece.chars) artifactTags (artifactElements a) := by
  -- the markup between two texts ends one element and starts another one
  have hcell : "</th><td>" = "</th>" ++ "<td>" := rfl
  have hheading : "</td><th>" = "</td>" ++ "<th>" := rfl
  have hrow : "</td></tr>\n" = "</td>" ++ "</tr>\n" := rfl
  have hchars : (artifactRow age a).flatMap Piece.chars =
      "    <tr><th>".toList ++ ((Piece.text (age ++ " jar")).chars ++ ("</th>".toList ++
        (written "td" "" a.file ++ ("<th>".toList ++ ((Piece.text (age ++ " version")).chars ++
          ("</th>".toList ++ (written "td" "" a.version ++ "</tr>\n".toList))))))) := by
    simp only [artifactRow, hcell, hheading, hrow, written_td, List.flatMap_cons, List.flatMap_nil,
      Piece.chars, String.toList_append, List.append_assoc, List.append_nil]
  have hstart : Plain "    <tr><th>" ["<tr>", "<th>"] := by decide
  have hopen : Plain "<th>" ["<th>"] := by decide
  have hclose : Plain "</th>" ["</th>"] := by decide
  have hend : Plain "</tr>\n" ["</tr>"] := by decide
  rw [hchars]
  exact hstart.adds.append ((Adds.text _).append (hclose.adds.append ((adds_td _).append
    (hopen.adds.append ((Adds.text _).append (hclose.adds.append ((adds_td _).append
      hend.adds)))))))

theorem adds_memberRow (m : MemberChange) :
    Adds ((memberRow m).flatMap Piece.chars) (memberTags m.compatible) (memberElements m) := by
  have hcell : "</td><td>" = "</td>" ++ "<td>" := rfl
  have hfirst : "\">\n      <td>" = "\">\n      " ++ "<td>" := rfl
  have hline : "</td>\n      <td>" = "</td>" ++ ("\n      " ++ "<td>") := rfl
  have hrow : "</td>\n    </tr>\n" = "</td>" ++ "\n    </tr>\n" := rfl
  have hchars : (memberRow m).flatMap Piece.chars =
      ("    <tr class=\"" ++ styleClass m.compatible ++ "\">\n      ").toList ++
        (written "td" "" m.kind ++ (written "td" "" m.name ++ (written "td" "" m.status.name ++
          ("\n      ".toList ++ (written "td" "" (flag m.binaryCompatible) ++
            (written "td" "" (flag m.sourceCompatible) ++ "\n    </tr>\n".toList)))))) := by
    simp only [memberRow, hcell, hfirst, hline, hrow, written_td, List.flatMap_cons,
      List.flatMap_nil, Piece.chars, String.toList_append, List.append_assoc, List.append_nil]
  have hstart : Plain ("    <tr class=\"" ++ styleClass m.compatible ++ "\">\n      ")
      ["<tr class=\"" ++ styleClass m.compatible ++ "\">"] := by
    cases m.compatible <;> decide
  have hbetween : Plain "\n      " [] := by decide
  have hend : Plain "\n    </tr>\n" ["</tr>"] := by decide
  rw [hchars]
  exact hstart.adds.append ((adds_td _).append ((adds_td _).append ((adds_td _).append
    (hbetween.adds.append ((adds_td _).append ((adds_td _).append hend.adds))))))

/-- As many times the same tags as there are things to show. -/
theorem flatten_replicate_length {α : Type} (xs : List α) (found : List String) :
    (List.replicate xs.length found).flatten = xs.flatMap fun _ => found := by
  rw [List.flatMap_def, List.map_const']

/-- The item of a rule. -/
theorem adds_item (code : String) :
    Adds ([.markup "    <li class=\"incompatible\">", .text code, .markup "</li>\n"].flatMap
      Piece.chars) ["<li class=\"incompatible\">", "</li>"] [⟨"li", code⟩] := by
  have hchars : [.markup "    <li class=\"incompatible\">", .text code,
      .markup "</li>\n"].flatMap Piece.chars =
      "    ".toList ++ (written "li" " class=\"incompatible\"" code ++ "\n".toList) := by
    have hstart : "    <li class=\"incompatible\">" =
        "    " ++ ("<" ++ ("li" ++ " class=\"incompatible\"") ++ ">") := rfl
    have hend : "</li>\n" = ("<" ++ ("/" ++ "li") ++ ">") ++ "\n" := rfl
    rw [hstart, hend]
    simp only [written, List.flatMap_cons, List.flatMap_nil, Piece.chars, String.toList_append,
      List.append_assoc, List.append_nil]
  have hstart : Plain "    " [] := by decide
  have hcode : Adds (written "li" " class=\"incompatible\"" code)
      ["<li class=\"incompatible\">", "</li>"] [⟨"li", code⟩] :=
    adds_written (by decide) (by decide) (by decide) code
  have hend : Plain "\n" [] := by decide
  rw [hchars]
  exact hstart.adds.append (hcode.append hend.adds)

theorem adds_codes (k : ClassChange) :
    Adds ((codes k).flatMap Piece.chars) (codeTags k.codes.length) (k.codes.map (⟨"li", ·⟩)) := by
  have hstart : Plain "  <ul>\n" ["<ul>"] := by decide
  have hend : Plain "  </ul>\n" ["</ul>"] := by decide
  unfold codes codeTags
  rcases hcodes : k.codes with - | ⟨code, rest⟩
  · exact Adds.nil
  · have hitems := Adds.flatMap adds_item k.codes
    rw [← List.flatMap_assoc, ← List.map_eq_flatMap] at hitems
    rw [← hcodes, flatten_replicate_length, if_neg (by simp [hcodes]), if_neg (by simp [hcodes])]
    exact Adds.between hstart.adds hitems hend.adds

/-- The headings over the members. -/
theorem adds_headings :
    Adds (("  <table class=\"members\">\n    <tr><th>Kind</th><th>Name</th><th>Status</th>" ++
      "<th>Binary compatible</th><th>Source compatible</th></tr>\n").toList)
      ["<table class=\"members\">", "<tr>", "<th>", "</th>", "<th>", "</th>", "<th>", "</th>",
        "<th>", "</th>", "<th>", "</th>", "</tr>"] [] := by
  have hfirst : "  <table class=\"members\">\n    <tr><th>Kind</th><th>Name</th><th>Status</th>" =
      "  <table class=\"members\">\n    <tr>" ++ ("<th>Kind</th>" ++ ("<th>Name</th>" ++
        "<th>Status</th>")) := rfl
  have hlast : "<th>Binary compatible</th><th>Source compatible</th></tr>\n" =
      "<th>Binary compatible</th>" ++ ("<th>Source compatible</th>" ++ "</tr>\n") := rfl
  have hstart : Plain "  <table class=\"members\">\n    <tr>"
      ["<table class=\"members\">", "<tr>"] := by decide
  have hkind : Plain "<th>Kind</th>" ["<th>", "</th>"] := by decide
  have hname : Plain "<th>Name</th>" ["<th>", "</th>"] := by decide
  have hstatus : Plain "<th>Status</th>" ["<th>", "</th>"] := by decide
  have hbinary : Plain "<th>Binary compatible</th>" ["<th>", "</th>"] := by decide
  have hsource : Plain "<th>Source compatible</th>" ["<th>", "</th>"] := by decide
  have hend : Plain "</tr>\n" ["</tr>"] := by decide
  rw [hfirst, hlast]
  simp only [String.toList_append]
  exact (hstart.adds.append (hkind.adds.append (hname.adds.append hstatus.adds))).append
    (hbinary.adds.append (hsource.adds.append hend.adds))

theorem adds_members (k : ClassChange) :
    Adds ((members k).flatMap Piece.chars) (tableTags (k.members.map (·.compatible)))
      (k.members.flatMap memberElements) := by
  have hend : Plain "  </table>\n" ["</table>"] := by decide
  unfold members tableTags
  rcases hmembers : k.members with - | ⟨m, rest⟩
  · exact Adds.nil
  · have hrows := Adds.flatMap adds_memberRow k.members
    rw [← List.flatMap_assoc] at hrows
    rw [← hmembers, if_neg (by simp [hmembers]), if_neg (by simp [hmembers]), List.flatMap_map]
    exact Adds.between adds_headings hrows hend.adds

theorem adds_classSection (k : ClassChange) :
    Adds ((classSection k).flatMap Piece.chars) (ClassShape.of k).tags (classElements k) := by
  have hchars : (classSection k).flatMap Piece.chars =
      "  ".toList ++ (written "h2" (" class=\"" ++ styleClass k.compatible ++ "\"")
        s!"{k.status.name} {k.name} ({k.severity.name})" ++ "\n".toList) ++
        (codes k).flatMap Piece.chars ++ (members k).flatMap Piece.chars := by
    have hstart : "  <h2 class=\"" = "  " ++ ("<" ++ ("h2" ++ " class=\"")) := rfl
    have hquote : "\">" = "\"" ++ ">" := rfl
    have hend : "</h2>\n" = ("<" ++ ("/" ++ "h2") ++ ">") ++ "\n" := rfl
    rw [classSection, List.flatMap_append, List.flatMap_append, hstart, hquote, hend]
    simp only [written, List.flatMap_cons, List.flatMap_nil, Piece.chars, String.toList_append,
      List.append_assoc, List.append_nil]
  have hstart : Plain "  " [] := by decide
  have hend : Plain "\n" [] := by decide
  have hname : Adds (written "h2" (" class=\"" ++ styleClass k.compatible ++ "\"")
      s!"{k.status.name} {k.name} ({k.severity.name})")
      ["<h2 class=\"" ++ styleClass k.compatible ++ "\">", "</h2>"]
      [⟨"h2", s!"{k.status.name} {k.name} ({k.severity.name})"⟩] := by
    cases k.compatible <;> exact adds_written (by decide) (by decide) (by decide) _
  rw [hchars]
  exact ((hstart.adds.append (hname.append hend.adds)).append (adds_codes k)).append (adds_members k)

theorem adds_exclusionPieces (patterns : List String) :
    Adds ((exclusionPieces patterns).flatMap Piece.chars)
      (patterns.flatMap fun _ => ["<code>", "</code>"]) (patterns.map (⟨"code", ·⟩)) := by
  have hpattern : ∀ p : String, [.markup "<code>", .text p, .markup "</code>"].flatMap Piece.chars =
      written "code" "" p := by
    intro p
    simp only [written_code, List.flatMap_cons, List.flatMap_nil, Piece.chars, List.append_nil]
  induction patterns using exclusionPieces.induct with
  | case1 => exact Adds.nil
  | case2 p =>
    rw [exclusionPieces, hpattern]
    exact adds_code p
  | case3 p rest hne ih =>
    -- the comma is a text of the paragraph
    have hchars : (exclusionPieces (p :: rest)).flatMap Piece.chars =
        written "code" "" p ++ ((Piece.text ", ").chars ++
          (exclusionPieces rest).flatMap Piece.chars) := by
      rw [← hpattern, exclusionPieces, List.flatMap_append]
      · simp
      · exact hne
    rw [hchars]
    exact (adds_code p).append ((Adds.text _).append ih)

theorem adds_exclusions (patterns : List String) :
    Adds ((exclusions patterns).flatMap Piece.chars) (exclusionTags patterns.length)
      (patterns.map (⟨"code", ·⟩)) := by
  unfold exclusions exclusionTags
  rcases hpatterns : patterns with - | ⟨p, rest⟩
  · exact Adds.nil
  · rw [← hpatterns, flatten_replicate_length, if_neg (by simp [hpatterns]),
      if_neg (by simp [hpatterns])]
    have htext : Adds ((.text "Excluded: " :: exclusionPieces patterns).flatMap Piece.chars)
        (patterns.flatMap fun _ => ["<code>", "</code>"]) (patterns.map (⟨"code", ·⟩)) :=
      (Adds.text _).append (adds_exclusionPieces patterns)
    exact htext.paragraph

theorem adds_body (c : Comparison) :
    Adds ((body c).flatMap Piece.chars) (Shape.of c).bodyTags (bodyElements c) := by
  unfold body Shape.bodyTags bodyElements Shape.of
  rcases c.skipped with - | reason
  · have hclasses := Adds.flatMap adds_classSection c.model.changes
    rw [← List.flatMap_assoc] at hclasses
    have hall := fun counts =>
      ((adds_exclusions c.exclusions).append (Adds.single counts).paragraph).append hclasses
    simp only [List.append_nil] at hall
    rw [List.flatMap_append, List.flatMap_append]
    simp only [List.flatMap_map]
    exact hall _
  · exact (Adds.single reason.note).paragraph

theorem adds_artifacts (c : Comparison) :
    Adds ((artifacts c).flatMap Piece.chars)
      (["<h1>", "</h1>", "<table>"] ++ (artifactTags ++ artifactTags) ++ ["</table>"])
      (artifactElements c.old ++ artifactElements c.new) := by
  have hstart : Plain "  <h1>API changes</h1>\n  <table>\n" ["<h1>", "</h1>", "<table>"] := by
    decide
  have hend : Plain "  </table>\n\n" ["</table>"] := by decide
  have hrows := (adds_artifactRow "Old" c.old).append (adds_artifactRow "New" c.new)
  rw [← List.flatMap_append] at hrows
  exact Adds.between hstart.adds hrows hend.adds

theorem adds_title (c : Comparison) :
    Adds ((title c).flatMap Piece.chars) ["<title>", "</title>"] [] := by
  have hstart : Plain "  <title>" ["<title>"] := by decide
  have hend : Plain "</title>\n" ["</title>"] := by decide
  exact Adds.between hstart.adds (Adds.single _) hend.adds

theorem adds_closing (c : Comparison) (now : String) :
    Adds ((closing c now).flatMap Piece.chars)
      ["<p>", "<strong>", "</strong>", "<code>", "</code>", "</p>", "<footer>", "<small>",
        "</small>", "</footer>", "</body>", "</html>"]
      [⟨"code", c.model.suggestedVersion.text⟩] := by
  have hchars : (closing c now).flatMap Piece.chars =
      "\n  <p>".toList ++ ((Piece.text "Required version change: ").chars ++ ("<strong>".toList ++
        ((Piece.text c.model.requiredBump.name).chars ++ ("</strong>".toList ++
          ((Piece.text ".\n     Suggested semantic version increment: ").chars ++
            (written "code" "" c.model.suggestedVersion.text ++ ((Piece.text ".").chars ++
              ("</p>\n".toList ++ ("  <footer><small>".toList ++
                ((Piece.text ("Generated " ++ now)).chars ++
                  "</small></footer>\n</body>\n</html>".toList)))))))))) := by
    simp only [closing, written_code, List.flatMap_cons, List.flatMap_nil, Piece.chars,
      List.append_assoc, List.append_nil]
  have hparagraph : Plain "\n  <p>" ["<p>"] := by decide
  have hstrong : Plain "<strong>" ["<strong>"] := by decide
  have hstrong' : Plain "</strong>" ["</strong>"] := by decide
  have hparagraph' : Plain "</p>\n" ["</p>"] := by decide
  have hfooter : Plain "  <footer><small>" ["<footer>", "<small>"] := by decide
  have hend : Plain "</small></footer>\n</body>\n</html>"
      ["</small>", "</footer>", "</body>", "</html>"] := by decide
  rw [hchars]
  exact hparagraph.adds.append ((Adds.text _).append (hstrong.adds.append ((Adds.text _).append
    (hstrong'.adds.append ((Adds.text _).append ((adds_code _).append ((Adds.text _).append
      (hparagraph'.adds.append (hfooter.adds.append ((Adds.text _).append hend.adds))))))))))

theorem notMem_of_mem_styleRules : ∀ rule ∈ styleRules, '<' ∉ rule.toList := by
  simp only [styleRules, List.forall_mem_cons, List.not_mem_nil, false_implies, implies_true,
    and_true]
  refine ⟨?_, ?_, ?_, ?_, ?_, ?_, ?_⟩ <;> rw [String.toList_ofList] <;> decide

theorem adds_style : Adds style.chars ["<style>", "</style>", "</head>", "<body>"] [] := by
  have hstart : Plain "  <style>\n" ["<style>"] := by decide
  have hrules : '<' ∉ (String.join (styleRules.map fun rule => "    " ++ rule ++ "\n")).toList := by
    rw [String.toList_join, List.flatMap_map, List.mem_flatMap]
    rintro ⟨rule, hmem, hc⟩
    rw [String.toList_append, String.toList_append, List.mem_append, List.mem_append] at hc
    rcases hc with (hblank | hrule) | hend
    · exact absurd hblank (by decide)
    · exact notMem_of_mem_styleRules rule hmem hrule
    · exact absurd hend (by decide)
  have hend : Plain "  </style>\n</head>\n<body>\n" ["</style>", "</head>", "<body>"] := by
    decide
  rw [style, Piece.chars, String.toList_append, String.toList_append]
  exact (hstart.adds.append (Adds.of_notMem hrules)).append hend.adds

/-- What the whole page adds. -/
theorem adds_pieces (c : Comparison) (now : String) :
    Adds ((pieces c now).flatMap Piece.chars) (Shape.of c).tags (shown c) := by
  have hopening : Adds ([opening].flatMap Piece.chars)
      ["<!DOCTYPE html>", "<html lang=\"en\">", "<head>", "<meta charset=\"utf-8\">"] [] := by
    rw [List.flatMap_singleton]
    exact Plain.adds (by decide)
  unfold pieces
  simp only [List.flatMap_append]
  rw [List.flatMap_singleton _ style]
  exact ((((hopening.append (adds_title c)).append adds_style).append (adds_artifacts c)).append
    (adds_body c)).append (adds_closing c now)

/-- The tags of a page are those of the shape. -/
theorem tags_render (c : Comparison) (now : String) :
    tags (render c now) = (Shape.of c).tags := by
  rw [tags, render, write, String.toList_ofList, (adds_pieces c now).tags {} rfl]
  rfl

/-- The elements of a page are those of the comparison. -/
theorem elements_render (c : Comparison) (now : String) : elements (render c now) = shown c := by
  rw [elements, render, write, String.toList_ofList, (adds_pieces c now).elements {} rfl]
  rfl

/-- **Nothing adds a tag to the page**: its tags are those of the shape of the
comparison, so they are the same for all texts and times.  And between them
the reader finds the texts, each where it belongs and as it is: those of the
artifacts and of a comparison that was made, and the suggested version. -/
theorem markup_of_shape :
    (∀ c now, tags (render c now) = (Shape.of c).tags) ∧
    (∀ c c' now now', Shape.of c = Shape.of c' → tags (render c now) = tags (render c' now')) ∧
    ∀ c now, elements (render c now) = shown c := by
  refine ⟨tags_render, fun c c' now now' hshape => ?_, elements_render⟩
  rw [tags_render, tags_render, hshape]

/-- A comparison with a class, a rule and a member of the given names. -/
def naming (text : String) : Comparison where
  old := ⟨text, "1.0.0", none, false⟩
  new := ⟨text, text, none, false⟩
  model := ⟨[{ name := text, status := .removed, binaryCompatible := false, severity := .major,
               codes := [text], members := [⟨text, text, .modified, true, false⟩] }]⟩
  exclusions := [text]

/-- Names that look like the row of a harmless member do not make one. -/
theorem markup_of_shape_forged :
    Shape.of (naming "</td></tr>") = Shape.of (naming "A") ∧
      tags (render (naming "</td></tr>") "<td>") = tags (render (naming "A") "") ∧
      ⟨"td", "</td><td>&lt;"⟩ ∈ elements (render (naming "</td><td>&lt;") "") := by
  obtain ⟨-, hsame, helements⟩ := markup_of_shape
  refine ⟨by decide, hsame _ _ _ _ (by decide), ?_⟩
  rw [helements]
  decide

end ReleaseGate.Page
