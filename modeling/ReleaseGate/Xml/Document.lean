/-
ReleaseGate/Xml/Document.lean

Reading a whole document into its tree of elements.

`Builder` holds the elements that are open, innermost first, each with the
children it has got so far.  `content` reads text and markup inside the root
element and calls itself for the text of each entity, which has to leave as
many elements open as it found.  `epilog` checks what follows the root.
-/
import ReleaseGate.Xml.Doctype
import ReleaseGate.Xml.Element
import ReleaseGate.Xml.Namespace
import ReleaseGate.Xml.Wide

namespace ReleaseGate.Xml

/-! ### Open elements -/

/-- An element that is open. -/
structure Frame where
  /-- The name as it stands in the start tag. -/
  rawName : List Char
  tag : List Char
  attributes : List (List Char × List Char)
  /-- The text before the first child, reversed. -/
  text : List Char := []
  /-- The children, last one first. -/
  children : List Element := []
  scope : Scope

/-- The element that an open element has become. -/
def Frame.finish (f : Frame) : Element :=
  .mk (String.ofList f.tag)
    (f.attributes.map fun (n, v) => (String.ofList n, String.ofList v))
    (String.ofList f.text.reverse) f.children.reverse

/-- The part of the tree that has been read. -/
structure Builder where
  /-- The open elements, innermost first. -/
  frames : List Frame := []
  root : Option Element := none
  allowance : Allowance

namespace Builder

/-- How many elements are open. -/
def depth (b : Builder) : Nat := b.frames.length

/-- The bindings in force. -/
def scope (b : Builder) : Scope := (b.frames.head?.map (·.scope)).getD Scope.outermost

/-- Adds a character of text. -/
def addChar (b : Builder) (c : Char) : Builder :=
  match b.frames with
  | f :: rest =>
    if f.children.isEmpty then { b with frames := { f with text := c :: f.text } :: rest } else b
  | [] => b

/-- Adds some text. -/
def addText (b : Builder) (s : List Char) : Builder := s.foldl addChar b

/-- Ends the innermost element. -/
def close (b : Builder) : Builder :=
  match b.frames with
  | [] => b
  | [f] => { b with frames := [], root := some f.finish }
  | f :: parent :: rest =>
    { b with frames := { parent with children := f.finish :: parent.children } :: rest }

end Builder

/-! ### Start tags -/

/-- A start tag as it is written. -/
structure StartTag where
  name : List Char
  attributes : List (List Char × List Piece)
  isEmpty : Bool
  deriving Repr

/-- One attribute, from the start of its name. -/
def oneAttribute (inEntity : Bool) (s : List Char) : Except Error ((List Char × List Piece) × List Char) := do
  let (n, rest) ← qualifiedName s
  match skipSpace rest with
  | [] => .error .unclosedToken
  | '=' :: rest =>
    match skipSpace rest with
    | [] => .error .unclosedToken
    | q :: rest =>
      if q = '"' || q = '\'' then
        let (value, rest) ← pieces q inEntity rest []
        return ((n, value), rest)
      else .error .invalidToken
  | _ => .error .invalidToken

theorem leaves_oneAttribute (inEntity : Bool) (s : List Char) :
    Leaves s.length (oneAttribute inEntity s) := by
  refine .bind fun ⟨n, rest⟩ h => ?_
  have h := leaves_qualifiedName s _ _ h
  have h' := length_dropWhile_le isSpace rest
  dsimp only
  split
  · exact .error
  · next rest' hs =>
    have h'' := length_dropWhile_le isSpace rest'
    split
    · exact .error
    · next q rest'' hs' =>
      split
      · refine .bind fun ⟨value, left⟩ hp => .ok ?_
        have hp := leaves_pieces _ _ _ _ _ _ hp
        rw [skipSpace] at hs hs'
        rw [hs, List.length_cons] at h'
        rw [hs', List.length_cons] at h''
        dsimp only at hp ⊢
        omega
      · exact .error
  · exact .error

/-- The end of a start tag, and whether the element is empty; `none` where
something else stands. -/
def tagEnd? : List Char → Option (Except Error (Bool × List Char))
  | [] => some (.error .unclosedToken)
  | '>' :: rest => some (.ok (false, rest))
  | '/' :: '>' :: rest => some (.ok (true, rest))
  | ['/'] => some (.error .unclosedToken)
  | _ => none

theorem leaves_tagEnd {s : List Char} {scan : Except Error (Bool × List Char)}
    (h : tagEnd? s = some scan) : Leaves s.length scan := by
  unfold tagEnd? at h
  split at h <;> cases h
  · exact .error
  · exact .ok (Nat.lt_succ_self _)
  · exact .ok (by simp only [List.length_cons]; omega)
  · exact .error

/-- The attributes and the end of a start tag, from after a name or a value. -/
def attributes (inEntity : Bool) (s : List Char) (done : List (List Char × List Piece)) :
    Except Error ((List (List Char × List Piece) × Bool) × List Char) :=
  match tagEnd? (skipSpace s) with
  | some (.error e) => .error e
  | some (.ok (isEmpty, rest)) => .ok ((done.reverse, isEmpty), rest)
  | none =>
    if !s.head?.any isSpace then .error .invalidToken
    else
      match _h : oneAttribute inEntity (skipSpace s) with
      | .error e => .error e
      | .ok (a, after) => attributes inEntity after (a :: done)
  termination_by s.length
  decreasing_by
    exact Nat.lt_of_lt_of_le (leaves_oneAttribute _ _ _ _ _h) (length_dropWhile_le isSpace s)

theorem leaves_attributes (inEntity : Bool) (s : List Char)
    (done : List (List Char × List Piece)) : Leaves s.length (attributes inEntity s done) := by
  fun_induction attributes inEntity s done with
  | case1 => exact .error
  | case2 s done isEmpty rest h =>
    exact .ok (Nat.lt_of_lt_of_le (leaves_tagEnd h _ _ rfl) (length_dropWhile_le isSpace s))
  | case3 => exact .error
  | case4 => exact .error
  | case5 s done _ _ a after h ih =>
    intro r left h'
    have := leaves_oneAttribute _ _ _ _ h
    have := length_dropWhile_le isSpace s
    have := ih r left h'
    rw [skipSpace] at *
    omega

/-- A start tag, from after its `<`. -/
def startTag (inEntity : Bool) (s : List Char) : Except Error (StartTag × List Char) := do
  let (n, rest) ← qualifiedName s
  let ((as, isEmpty), rest) ← attributes inEntity rest []
  return (⟨n, as, isEmpty⟩, rest)

theorem leaves_startTag (inEntity : Bool) (s : List Char) :
    Leaves s.length (startTag inEntity s) := by
  refine .bind fun ⟨n, rest⟩ h => .bind fun ⟨⟨as, isEmpty⟩, left⟩ h' => .ok ?_
  have h := leaves_qualifiedName s _ _ h
  have h' := leaves_attributes _ _ _ _ _ h'
  omega

/-- A character of the name in an end tag. -/
def isTagChar (c : Char) : Bool := isNameChar c || c = ':'

/-- An end tag, from after its `</`. -/
def endTag (s : List Char) : Except Error (List Char × List Char) :=
  match s with
  | [] => .error .unclosedToken
  | c :: rest =>
    if !isNameStart c then .error .invalidToken
    else
      match skipSpace (rest.dropWhile isTagChar) with
      | [] => .error .unclosedToken
      | '>' :: left => .ok (c :: rest.takeWhile isTagChar, left)
      | _ => .error .invalidToken

theorem leaves_endTag (s : List Char) : Leaves s.length (endTag s) := by
  unfold endTag
  split
  · exact .error
  · next c rest =>
    split
    · exact .error
    · split
      · exact .error
      · next rest' hs =>
        have h := length_dropWhile_le isSpace (rest.dropWhile isTagChar)
        have h' := length_dropWhile_le isTagChar rest
        rw [skipSpace] at hs
        rw [hs, List.length_cons] at h
        exact .ok (by simp only [List.length_cons]; omega)
      · exact .error

/-- The attributes of a start tag with their values resolved, and the scope
with the namespaces that they declare.  `seen` are the names so far. -/
def resolveAttributes (d : Doctype) (es : Entities) (element : List Char) :
    List (List Char × List Piece) → Allowance → Scope → List (List Char) →
      Except Error (List (List Char × List Char) × Scope × List (List Char) × Allowance)
  | [], a, scope, seen => .ok ([], scope, seen, a)
  | (n, value) :: rest, a, scope, seen =>
    if seen.contains n then .error .duplicateAttribute
    else do
      let rule := d.rules.find? fun r => r.element == element && r.name == n
      let (text, a) ← attributeText es a ((rule.map (·.plain)).getD true) value
      match declaredPrefix? n with
      | some p => resolveAttributes d es element rest a (← scope.bind p text) (n :: seen)
      | none =>
        let (done, scope, seen, a) ← resolveAttributes d es element rest a scope (n :: seen)
        return ((n, text) :: done, scope, seen, a)

/-- The attributes that an element has by default, and the scope with the
namespaces that they declare. -/
def defaultAttributes (seen : List (List Char)) : List AttributeRule → Scope →
    Except Error (List (List Char × List Char) × Scope)
  | [], scope => .ok ([], scope)
  | r :: rest, scope =>
    match r.value with
    | none => defaultAttributes seen rest scope
    | some value =>
      if seen.contains r.name then defaultAttributes seen rest scope
      else
        match declaredPrefix? r.name with
        | some p => do defaultAttributes seen rest (← scope.bind p value)
        | none => do
          let (done, scope) ← defaultAttributes seen rest scope
          return ((r.name, value) :: done, scope)

/-- Opens the element of a start tag. -/
def Builder.open (b : Builder) (d : Doctype) (es : Entities) (t : StartTag) :
    Except Error Builder := do
  let (given, scope, seen, a) ←
    resolveAttributes d es t.name t.attributes b.allowance b.scope []
  let (added, scope) ←
    defaultAttributes seen (d.rules.filter (·.element == t.name)) scope
  let all ← attributeNames scope (given ++ added) []
  let tag ← elementName scope t.name
  let frame : Frame := { rawName := t.name, tag, attributes := all, scope }
  return { b with frames := frame :: b.frames, allowance := a }

/-! ### Content -/

/-- The text of a CDATA section, reversed, from after its opening. -/
def cdata (inEntity : Bool) (s done : List Char) : Except Error (List Char × List Char) :=
  match s with
  | [] => .error .unclosedCdata
  | ']' :: ']' :: '>' :: rest => .ok (done, rest)
  | '\r' :: '\n' :: rest =>
    if inEntity then cdata inEntity ('\n' :: rest) ('\r' :: done)
    else cdata inEntity rest ('\n' :: done)
  | c :: rest =>
    if !isXmlChar c then .error .invalidToken
    else cdata inEntity rest ((if c = '\r' && !inEntity then '\n' else c) :: done)
  termination_by s.length

theorem leaves_cdata (inEntity : Bool) (s done : List Char) :
    Leaves s.length (cdata inEntity s done) := by
  have step {n k : Nat} {x : Except Error (List Char × List Char)} (h : Leaves n x) :
      Leaves (n + k) x := fun t left e => Nat.lt_of_lt_of_le (h t left e) (Nat.le_add_right ..)
  fun_induction cdata inEntity s done with
  | case1 => exact .error
  | case2 => exact .ok (by simp only [List.length_cons]; omega)
  | case3 _ _ _ ih => exact step (k := 1) ih
  | case4 _ _ _ ih => exact step (k := 2) ih
  | case5 => exact .error
  | case6 _ _ _ _ _ _ ih => exact step (k := 1) ih

/-- A piece of markup inside the root element. -/
inductive Markup where
  | startTag (t : StartTag)
  | endTag (name : List Char)
  | text (reversed : List Char)
  | skipped
  deriving Repr

/-- The opening of a CDATA section after `<![`. -/
def cdataOpening : List Char := "CDATA[".toList

/-- What a `<` begins, from after it. -/
def markup (inEntity : Bool) : List Char → Except Error (Markup × List Char)
  | [] => .error .unclosedToken
  | '/' :: rest => do
    let (n, rest) ← endTag rest
    return (.endTag n, rest)
  | '?' :: rest => do
    let (kind, rest) ← instruction rest
    match kind with
    | .declaration _ => .error .misplacedDeclaration
    | .other => return (.skipped, rest)
  | ['!'] => .error .unclosedToken
  | '!' :: '-' :: rest => do return (.skipped, ← comment rest)
  | '!' :: '[' :: rest =>
    if Text.Utf8.size (rest.take cdataOpening.length) < cdataOpening.length then
      .error .unclosedToken
    else if rest.take cdataOpening.length = cdataOpening then do
      let (text, rest) ← cdata inEntity (rest.drop cdataOpening.length) []
      return (.text text, rest)
    else .error .invalidToken
  | '!' :: _ => .error .invalidToken
  | s => do
    let (t, rest) ← startTag inEntity s
    return (.startTag t, rest)

theorem leaves_markup (inEntity : Bool) (s : List Char) :
    Leaves (s.length + 1) (markup inEntity s) := by
  unfold markup
  split
  · exact .error
  · refine .bind fun ⟨n, rest⟩ h => .ok ?_
    have h := leaves_endTag _ _ _ h
    simp only [List.length_cons]
    omega
  · refine .bind fun ⟨kind, rest⟩ h => ?_
    have h := leaves_instruction _ _ _ h
    dsimp only
    split
    · exact .error
    · exact .ok (by simp only [List.length_cons]; omega)
  · exact .error
  · refine .bind fun rest h => .ok ?_
    have h := length_lt_of_comment h
    simp only [List.length_cons]
    omega
  · next rest _ =>
    split
    · exact .error
    · split
      · refine .bind fun ⟨text, left⟩ h => .ok ?_
        have h := leaves_cdata _ _ _ _ _ h
        simp only [List.length_cons, List.length_drop] at h ⊢
        omega
      · exact .error
  · exact .error
  · refine .bind fun ⟨t, rest⟩ h => .ok ?_
    exact Nat.lt_succ_of_lt (leaves_startTag _ _ _ _ h)

/-- What is left to do after a piece of content. -/
inductive Progress where
  | goOn (b : Builder)
  /-- The root element is complete. -/
  | done (b : Builder)
  /-- An entity has to be read first. -/
  | expand (n text : List Char)

/-- What a reference inside an element leads to. -/
def contentReference (d : Doctype) (es : Entities) (b : Builder) : Reference → Except Error Progress
  | .code n =>
    match charOfCode? n with
    | some c => .ok (.goOn (b.addChar c))
    | none => .error .invalidCode
  | .entity n =>
    match builtin? n with
    | some c => .ok (.goOn (b.addChar c))
    | none =>
      match es.find n with
      | .unknown =>
        if d.hasOutside && !d.standalone then .error (.unreadEntity ('&' :: n ++ [';']))
        else .error .undefinedEntity
      | .reading => .error .recursiveEntity
      | .known .unparsed => .error .binaryEntity
      | .known .external => .error (.unreadEntity ('&' :: n ++ [';']))
      | .known (.internal text) => .ok (.expand n text)

/-- What a piece of markup leads to, inside `base` open elements that it may
not close. -/
def contentMarkup (d : Doctype) (es : Entities) (base : Nat) (b : Builder) :
    Markup → Except Error Progress
  | .skipped => .ok (.goOn b)
  | .text reversed => .ok (.goOn (b.addText reversed.reverse))
  | .startTag t => do
    let opened ← b.open d es t
    if t.isEmpty then
      let b := opened.close
      return if b.depth = 0 then .done b else .goOn b
    else return .goOn opened
  | .endTag n =>
    match b.frames with
    | [] => .error .asynchronousEntity
    | f :: _ =>
      if b.depth = base then .error .asynchronousEntity
      else if f.rawName ≠ n then .error .mismatchedTag
      else
        let b := b.close
        .ok (if b.depth = 0 then .done b else .goOn b)

/-- The piece of content at the start of a text. -/
def contentStep (d : Doctype) (es : Entities) (inEntity : Bool) (base : Nat) (b : Builder)
    (c : Char) (rest : List Char) : Except Error (Progress × List Char) :=
  if c = '<' then do
    let (m, rest) ← markup inEntity rest
    return (← contentMarkup d es base b m, rest)
  else if c = '&' then do
    let (r, rest) ← reference rest
    return (← contentReference d es b r, rest)
  else if c = '\r' && !inEntity then
    .ok (.goOn (b.addChar '\n'), if rest.head? = some '\n' then rest.drop 1 else rest)
  else if c = ']' && rest.take 2 = [']', '>'] then .error .invalidToken
  else if isXmlChar c then .ok (.goOn (b.addChar c), rest)
  else .error .invalidToken

theorem leaves_contentStep (d : Doctype) (es : Entities) (inEntity : Bool) (base : Nat)
    (b : Builder) (c : Char) (rest : List Char) :
    Leaves (rest.length + 1) (contentStep d es inEntity base b c rest) := by
  unfold contentStep
  split
  · refine .bind fun ⟨m, left⟩ h => .bind fun progress _ => .ok ?_
    exact leaves_markup _ _ _ _ h
  · split
    · refine .bind fun ⟨r, left⟩ h => .bind fun progress _ => .ok ?_
      exact Nat.lt_succ_of_lt (leaves_reference _ _ _ h)
    · split
      · refine .ok ?_
        split
        · simp only [List.length_drop]; omega
        · exact Nat.lt_succ_self _
      · split
        · exact .error
        · split
          · exact .ok (Nat.lt_succ_self _)
          · exact .error

/-- Reads content: the inside of the root element, or the text of an entity
that was used inside `base` open elements.  The result holds the text after
the root element. -/
def content (d : Doctype) (es : Entities) (inEntity : Bool) (base : Nat) (b : Builder)
    (s : List Char) : Except Error (Builder × List Char) :=
  match s with
  | [] =>
    if !inEntity then .error .noElement
    else if b.depth = base then .ok (b, [])
    else .error .asynchronousEntity
  | c :: rest =>
    match _h : contentStep d es inEntity base b c rest with
    | .error e => .error e
    | .ok (.done b, after) => .ok (b, after)
    | .ok (.goOn b, after) => content d es inEntity base b after
    | .ok (.expand n text, after) =>
      let inner := es.enter n
      if _h : inner.closed.length < es.closed.length then
        match b.allowance.spend text with
        | .error e => .error e
        | .ok a =>
          match content d inner true b.depth { b with allowance := a } text with
          | .error e => .error e
          | .ok (b, _) => content d es inEntity base b after
      else .error .recursiveEntity
  termination_by (es.closed.length, s.length)
  decreasing_by
    · exact Prod.Lex.right _ (leaves_contentStep _ _ _ _ _ _ _ _ _ _h)
    · exact Prod.Lex.left _ _ ‹_›
    · exact Prod.Lex.right _ (leaves_contentStep _ _ _ _ _ _ _ _ _ ‹_›)

/-! ### The whole document -/

/-- Checks what follows the root element. -/
def epilog (s : List Char) : Except Error Unit :=
  match _h : declToken s with
  | none => .ok ()
  | some (.error e) => .error e
  | some (.ok (t, rest)) =>
    if t = .space || t = .comment || t = .instruction then epilog rest
    else .error .junkAfterRoot
  termination_by s.length
  decreasing_by exact leaves_declToken _h _ _ rfl

/-- The text without a byte order mark in front. -/
def withoutMark : List Char → List Char
  | '\uFEFF' :: rest => rest
  | s => s

/-- Reads a document of `size` bytes. -/
def parseSized (size : Nat) (text : List Char) : Except Error Element := do
  let (d, s) ← Doctype.read { allowance := ⟨size, 0⟩ } .start (withoutMark text)
  let es := { d.entities with complete := d.standalone || !d.hasOutside }
  let (b, rest) ← content d es false 0 { allowance := d.allowance } s
  epilog rest
  match b.root with
  | some e => return e
  | none => .error .noElement

/-- Reads a document. -/
def parse (text : List Char) : Except Error Element :=
  match byteOrder? text with
  | none => parseSized (Text.Utf8.size text) text
  | some order =>
    let (units, odd) := order.units (Text.Utf8.encode text)
    match parseSized (Text.Utf8.size text) (charsOfUnits units) with
    | .ok e => if odd then .error .unclosedToken else .ok e
    | .error .noElement => .error (if odd then .unclosedToken else .noElement)
    | .error e => .error e

end ReleaseGate.Xml
