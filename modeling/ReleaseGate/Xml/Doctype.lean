/-
ReleaseGate/Xml/Doctype.lean

What may stand before the root element: comments, instructions, and one
document type declaration with its entities and attribute lists.

The declaration is read token by token.  `Doctype.State` says where in the
grammar the reader is, one constructor for each place, and `Doctype.step`
is its transition function.  Only entity values, attribute defaults and
the presence of outside parts matter to the document itself; content models
and notations are checked for their form and then forgotten.

Once a parameter entity is used outside a standalone document, later
declarations no longer count, since the entity may hold earlier ones.
-/
import ReleaseGate.Xml.Entity

namespace ReleaseGate.Xml

/-! ### Tokens -/

/-- A mark after a name or a group: how often it occurs. -/
inductive Repeat where
  | once
  | optional
  | any
  | some
  deriving DecidableEq, Repr

/-- The kind of a word. -/
inductive WordKind where
  | name
  | qualified
  /-- A word that may not start a name. -/
  | other
  deriving DecidableEq, Repr

/-- A token before the root element. -/
inductive DeclToken where
  | space
  | comment
  | instruction
  | declaration (body : List Char)
  /-- The opening of a markup declaration with its keyword. -/
  | opening (keyword : List Char)
  /-- The first character of the root element. -/
  | root
  | literal (body : List Char)
  | word (kind : WordKind) (text : List Char)
  | marked (text : List Char)
  | poundName (text : List Char)
  | percent
  | parameter
  | openBracket
  | closeBracket
  | openSection
  | closeSection
  | openParen
  | closeParen (mark : Repeat)
  | comma
  | bar
  | close
  deriving DecidableEq, Repr

/-- A text in quotes, from after the quote `q`.  What follows it must not be
glued to it. -/
def literalToken (q : Char) (s done : List Char) : Except Error (DeclToken × List Char) :=
  match s with
  | [] => .error .unclosedToken
  | c :: rest =>
    if c = q then
      match rest with
      | [] => .ok (.literal done.reverse, [])
      | d :: _ =>
        if isSpace d || d = '>' || d = '%' || d = '[' then .ok (.literal done.reverse, rest)
        else .error .invalidToken
    else if isXmlChar c then literalToken q rest (c :: done)
    else .error .invalidToken

/-- The keyword of a markup declaration. -/
def keywordToken (s done : List Char) : Except Error (DeclToken × List Char) :=
  match s with
  | [] => .error .unclosedToken
  | c :: rest =>
    if c.isAlpha || c = '_' then keywordToken rest (c :: done)
    else if done.isEmpty then .error .invalidToken
    else if isSpace c then .ok (.opening done.reverse, c :: rest)
    else if c = '%' then
      match rest with
      | [] => .error .unclosedToken
      | d :: _ =>
        if isSpace d || d = '%' then .error .invalidToken
        else .ok (.opening done.reverse, c :: rest)
    else .error .invalidToken

theorem leaves_literalToken (q : Char) (s done : List Char) :
    Leaves s.length (literalToken q s done) := by
  fun_induction literalToken q s done with
  | case1 => exact .error
  | case2 => exact .ok (by simp)
  | case3 => exact .ok (by simp only [List.length_cons]; omega)
  | case4 => exact .error
  | case5 _ _ _ _ _ ih =>
    intro t left h
    have := ih t left h
    simp only [List.length_cons]
    omega
  | case6 => exact .error

theorem leaves_keywordToken (s done : List Char) :
    Leaves (s.length + 1) (keywordToken s done) := by
  fun_induction keywordToken s done with
  | case1 => exact .error
  | case2 _ _ _ _ ih =>
    intro t left h
    have := ih t left h
    simp only [List.length_cons]
    omega
  | case3 => exact .error
  | case4 => exact .ok (by simp)
  | case5 => exact .error
  | case6 => exact .error
  | case7 => exact .ok (by simp)
  | case8 => exact .error

/-- What a `%` begins, from after it. -/
def percentToken : List Char → Except Error (DeclToken × List Char)
  | [] => .error .unclosedToken
  | c :: rest =>
    if isSpace c || c = '%' then .ok (.percent, c :: rest)
    else
      match name (c :: rest) with
      | .error e => .error e
      | .ok (_, []) => .error .unclosedToken
      | .ok (_, ';' :: rest) => .ok (.parameter, rest)
      | .ok _ => .error .invalidToken

theorem leaves_percentToken (s : List Char) : Leaves (s.length + 1) (percentToken s) := by
  unfold percentToken
  split
  · exact .error
  · next c rest =>
    split
    · exact .ok (by simp)
    · split
      · exact .error
      · exact .error
      · next h =>
        have := leaves_name _ _ _ h
        simp only [List.length_cons] at this
        exact .ok (by simp only [List.length_cons]; omega)
      · exact .error

/-- What a `#` begins, from after it. -/
def poundToken (s : List Char) : Except Error (DeclToken × List Char) := do
  let (n, rest) ← name s
  match rest with
  | [] => return (.poundName n, [])
  | c :: _ =>
    if isSpace c || c = ')' || c = '>' || c = '%' || c = '|' then return (.poundName n, rest)
    else .error .invalidToken

theorem leaves_poundToken (s : List Char) : Leaves s.length (poundToken s) := by
  refine .bind fun ⟨n, rest⟩ h => ?_
  have h := leaves_name s _ _ h
  dsimp only
  split
  · exact .ok h
  · split
    · exact .ok h
    · exact .error

/-- Reads a word on, `done` being its reversed start. -/
def wordToken (kind : WordKind) (s done : List Char) : Except Error (DeclToken × List Char) :=
  match s with
  | [] => .ok (.word kind done.reverse, [])
  | c :: rest =>
    if isNameChar c then wordToken kind rest (c :: done)
    else if c = ':' then
      if kind = .name then
        match rest.head? with
        | none => .error .unclosedToken
        | some d =>
          if isNameChar d then wordToken .qualified rest (':' :: done)
          else if d.toNat < 128 then wordToken .other rest (':' :: done)
          else .error .invalidToken
      else wordToken .other rest (':' :: done)
    else if c = '>' || c = ')' || c = ',' || c = '|' || c = '[' || c = '%' || isSpace c then
      .ok (.word kind done.reverse, c :: rest)
    else if c = '+' || c = '*' || c = '?' then
      if kind = .other then .error .invalidToken else .ok (.marked done.reverse, rest)
    else .error .invalidToken

theorem leaves_wordToken (kind : WordKind) (s done : List Char) :
    Leaves (s.length + 1) (wordToken kind s done) := by
  have step {n : Nat} {x : Except Error (DeclToken × List Char)} (h : Leaves n x) :
      Leaves (n + 1) x := fun t left e => Nat.lt_succ_of_lt (h t left e)
  fun_induction wordToken kind s done with
  | case1 => exact .ok (Nat.lt_succ_self _)
  | case2 _ _ _ _ _ ih => exact step ih
  | case3 => exact .error
  | case4 _ _ _ _ _ _ ih => exact step ih
  | case5 _ _ _ _ _ _ _ ih => exact step ih
  | case6 => exact .error
  | case7 _ _ _ _ _ ih => exact step ih
  | case8 => exact .ok (Nat.lt_succ_self _)
  | case9 => exact .error
  | case10 => exact .ok (by simp only [List.length_cons]; omega)
  | case11 => exact .error

/-- What a `)` begins, from after it. -/
def parenToken : List Char → Except Error (DeclToken × List Char)
  | [] => .ok (.closeParen .once, [])
  | '*' :: rest => .ok (.closeParen .any, rest)
  | '?' :: rest => .ok (.closeParen .optional, rest)
  | '+' :: rest => .ok (.closeParen .some, rest)
  | c :: rest =>
    if isSpace c || c = '>' || c = ',' || c = '|' || c = ')' then
      .ok (.closeParen .once, c :: rest)
    else .error .invalidToken

theorem leaves_parenToken (s : List Char) : Leaves (s.length + 1) (parenToken s) := by
  unfold parenToken
  split
  · exact .ok (by simp)
  · exact .ok (by simp only [List.length_cons]; omega)
  · exact .ok (by simp only [List.length_cons]; omega)
  · exact .ok (by simp only [List.length_cons]; omega)
  · split
    · exact .ok (by simp)
    · exact .error

/-- What a `<` begins, from after it. -/
def lessToken : List Char → Except Error (DeclToken × List Char)
  | [] => .error .unclosedToken
  | '!' :: [] => .error .unclosedToken
  | '!' :: '-' :: rest => do return (.comment, ← comment rest)
  | '!' :: '[' :: rest => .ok (.openSection, rest)
  | '!' :: rest => keywordToken rest []
  | '?' :: rest => do
    let (kind, rest) ← instruction rest
    match kind with
    | .declaration body => return (.declaration body, rest)
    | .other => return (.instruction, rest)
  | c :: rest =>
    if isNameStart c || 128 ≤ c.toNat then .ok (.root, c :: rest)
    else .error .invalidToken

/-- The next token before the root element; `none` at the end of the text. -/
def declToken : List Char → Option (Except Error (DeclToken × List Char))
  | [] => none
  | c :: rest => some <|
    match c with
    | '"' => literalToken '"' rest []
    | '\'' => literalToken '\'' rest []
    | '<' => lessToken rest
    | '%' => percentToken rest
    | '#' => poundToken rest
    | ',' => .ok (.comma, rest)
    | '[' => .ok (.openBracket, rest)
    | ']' =>
      match rest with
      | [']'] => .error .unclosedToken
      | ']' :: '>' :: rest => .ok (.closeSection, rest)
      | _ => .ok (.closeBracket, rest)
    | '(' => .ok (.openParen, rest)
    | ')' => parenToken rest
    | '|' => .ok (.bar, rest)
    | '>' => .ok (.close, rest)
    | c =>
      if isSpace c then .ok (.space, skipSpace rest)
      else if isNameStart c then wordToken .name rest [c]
      else if isNameChar c || c = ':' then wordToken .other rest [c]
      else .error .invalidToken

theorem leaves_lessToken (s : List Char) : Leaves (s.length + 1) (lessToken s) := by
  unfold lessToken
  split
  · exact .error
  · exact .error
  · refine .bind fun rest h => .ok ?_
    have := length_lt_of_comment h
    simp only [List.length_cons]
    omega
  · exact .ok (by simp only [List.length_cons]; omega)
  · next rest _ _ _ =>
    intro t left h
    have := leaves_keywordToken _ _ _ _ h
    simp only [List.length_cons]
    omega
  · refine .bind fun ⟨kind, rest⟩ h => ?_
    have := leaves_instruction _ _ _ h
    dsimp only
    split <;> exact .ok (by simp only [List.length_cons]; omega)
  · split
    · exact .ok (by simp)
    · exact .error

/-- Every token takes up some text. -/
theorem leaves_declToken {s : List Char} {scan : Except Error (DeclToken × List Char)}
    (h : declToken s = some scan) : Leaves s.length scan := by
  unfold declToken at h
  split at h
  · cases h
  · next c rest =>
    cases h
    split
    · exact fun t left h => Nat.lt_succ_of_lt (leaves_literalToken _ _ _ t left h)
    · exact fun t left h => Nat.lt_succ_of_lt (leaves_literalToken _ _ _ t left h)
    · exact leaves_lessToken rest
    · exact leaves_percentToken rest
    · exact fun t left h => Nat.lt_succ_of_lt (leaves_poundToken _ t left h)
    · exact .ok (Nat.lt_succ_self _)
    · exact .ok (Nat.lt_succ_self _)
    · split
      · exact .error
      · exact .ok (by simp only [List.length_cons]; omega)
      · exact .ok (Nat.lt_succ_self _)
    · exact .ok (Nat.lt_succ_self _)
    · exact leaves_parenToken rest
    · exact .ok (Nat.lt_succ_self _)
    · exact .ok (Nat.lt_succ_self _)
    · split
      · exact .ok (Nat.lt_succ_of_le (length_dropWhile_le _ _))
      · split
        · exact leaves_wordToken _ _ _
        · split
          · exact leaves_wordToken _ _ _
          · exact .error

/-! ### The XML declaration -/

/-- One `name = "value"` of an XML declaration; `none` when nothing is left. -/
def pseudoAttribute (s : List Char) :
    Option (Option (List Char × List Char) × List Char) :=
  match s with
  | [] => some (none, [])
  | c :: rest =>
    if !isSpace c then none
    else
      match skipSpace rest with
      | [] => some (none, [])
      | s =>
        let n := s.takeWhile fun c => c ≠ '=' && !isSpace c && c.toNat < 128
        match skipSpace (s.dropWhile fun c => c ≠ '=' && !isSpace c && c.toNat < 128) with
        | '=' :: rest =>
          if n.isEmpty then none
          else
            match skipSpace rest with
            | q :: rest =>
              if q ≠ '"' && q ≠ '\'' then none
              else
                let value := rest.takeWhile fun c =>
                  c.isAlphanum || c = '.' || c = '-' || c = '_'
                match rest.drop value.length with
                | d :: rest => if d = q then some (some (n, value), rest) else none
                | [] => none
            | [] => none
        | _ => none

/-- Whether an XML declaration says that the document stands alone; `none`
when the declaration is not well-formed. -/
def standalone? (body : List Char) : Option Bool := do
  let (first, rest) ← pseudoAttribute body
  let (version, _) ← first
  if version ≠ "version".toList then none
  else
    let (next, rest) ← pseudoAttribute rest
    match next with
    | none => some false
    | some (n, value) =>
      if n = "encoding".toList then
        if !(value.head?.any Char.isAlpha) then none
        else
          let (next, rest) ← pseudoAttribute rest
          match next with
          | none => some false
          | some (n, value) => yesOrNo n value rest
      else yesOrNo n value rest
where
  /-- The last part of a declaration. -/
  yesOrNo (n value rest : List Char) : Option Bool :=
    if n ≠ "standalone".toList || !(skipSpace rest).isEmpty then none
    else if value = "yes".toList then some true
    else if value = "no".toList then some false
    else none

/-! ### Declared attributes -/

/-- An attribute that is declared for elements with a given name. -/
structure AttributeRule where
  element : List Char
  name : List Char
  /-- The value is plain text, not a list of words. -/
  plain : Bool
  value : Option (List Char)
  deriving DecidableEq, Repr

/-- What the declarations say. -/
structure Doctype where
  entities : Entities := {}
  rules : List AttributeRule := []
  /-- There may be declarations that are not read. -/
  hasOutside : Bool := false
  standalone : Bool := false
  /-- Declarations still count. -/
  active : Bool := true
  allowance : Allowance
  deriving Repr

namespace Doctype

/-- Adds a rule.  A rule with a value, or for an identifier, gives way to an
earlier one for the same attribute. -/
def declareAttribute (d : Doctype) (r : AttributeRule) (isId : Bool) : Doctype :=
  let known := d.rules.any fun r' => r'.element == r.element && r'.name == r.name
  if (r.value.isSome || isId) && known then d else { d with rules := d.rules ++ [r] }

/-- The type of a declared attribute. -/
structure ValueType where
  plain : Bool
  isId : Bool
  deriving DecidableEq, Repr

/-- The type that a keyword names. -/
def valueType? (word : List Char) : Option ValueType :=
  match String.ofList word with
  | "CDATA" => some ⟨true, false⟩
  | "ID" => some ⟨false, true⟩
  | "IDREF" | "IDREFS" | "ENTITY" | "ENTITIES" | "NMTOKEN" | "NMTOKENS" => some ⟨false, false⟩
  | _ => none

/-! ### The grammar -/

/-- Where the reader of the declarations is. -/
inductive State where
  | start
  | beforeDoctype
  | afterDoctype
  | doctypeName
  | doctypeId
  | doctypePublic
  | doctypeSystem
  | doctypeSubset
  | doctypeEnd
  | subset
  /-- Before the `>` of a declaration. -/
  | declEnd
  | entityStart
  | parameterName
  /-- `target` is the entity to declare, if it is to be declared. -/
  | entityBody (target : Option (List Char)) (isParameter : Bool)
  | entityPublic (target : Option (List Char)) (isParameter : Bool)
  | entitySystem (target : Option (List Char)) (isParameter : Bool)
  | entityKind (target : Option (List Char))
  | entityNotation (target : Option (List Char))
  | notationName
  | notationId
  | notationPublic
  | notationSystem
  | notationSystemOrEnd
  | attlistElement
  | attributeName (element : List Char)
  | attributeType (element attr : List Char)
  | enumValue (element attr : List Char)
  | enumNext (element attr : List Char)
  | notationsOpen (element attr : List Char)
  | notationsValue (element attr : List Char)
  | notationsNext (element attr : List Char)
  | attributeDefault (element attr : List Char) (type : ValueType)
  | attributeFixed (element attr : List Char) (type : ValueType)
  | elementName
  | elementContent
  | groupStart
  | mixedNext
  | mixedName
  | mixedAfterName
  /-- Inside nested groups; each has the separator it uses, innermost first. -/
  | groupItem (separators : List (Option Char))
  | groupNext (separators : List (Option Char))
  deriving DecidableEq, Repr

/-- What a token leads to. -/
inductive Outcome where
  | goOn (d : Doctype) (s : State)
  /-- The root element starts. -/
  | root (d : Doctype)
  deriving Repr

/-- A character of a public identifier. -/
def isPublicIdChar (c : Char) : Bool :=
  c.isAlphanum || (" \r\n-'()+,./:=?;!*#@$_%".toList.contains c)

/-- Adds the text of an entity. -/
def storeEntity (d : Doctype) (target : Option (List Char)) (body : EntityBody) : Doctype :=
  match target with
  | some n => { d with entities := d.entities.declare ⟨n, body⟩ }
  | none => d

/-- The text that a literal gives to an entity: character references are
resolved, entity references stay. -/
def entityText (s done : List Char) : Except Error (List Char) :=
  match s with
  | [] => .ok done.reverse
  | '&' :: rest =>
    match _h : reference rest with
    | .error _ => .error .invalidToken
    | .ok (.code n, after) =>
      match charOfCode? n with
      | none => .error .invalidCode
      | some c => entityText after (c :: done)
    | .ok (.entity n, after) => entityText after (';' :: n.reverse ++ '&' :: done)
  | '%' :: rest =>
    match percentToken rest with
    | .ok (.parameter, _) => .error .parameterReference
    | _ => .error .invalidToken
  | '\r' :: '\n' :: rest => entityText rest ('\n' :: done)
  | '\r' :: rest => entityText rest ('\n' :: done)
  | c :: rest => entityText rest (c :: done)
  termination_by s.length
  decreasing_by
    · have := leaves_reference _ _ _ _h
      simp only [List.length_cons]
      omega
    · have := leaves_reference _ _ _ _h
      simp only [List.length_cons]
      omega
    all_goals simp only [List.length_cons]; omega

/-- Whether an entity used in a default value has to be declared before. -/
def needsDeclared (d : Doctype) : Bool := d.standalone || !d.hasOutside

/-- The default value that a literal gives to an attribute. -/
def defaultText (d : Doctype) (plain : Bool) (body : List Char) :
    Except Error (List Char × Allowance) :=
  attributeText { d.entities with complete := d.needsDeclared } d.allowance plain
    (wholePieces false body)

/-- What is wrong with a token that the grammar does not allow here. -/
def unexpected : DeclToken → Error
  | .parameter => .parameterReference
  | .declaration _ => .misplacedDeclaration
  | _ => .badSyntax

/-- Goes on after the `keyword` of a markup declaration. -/
def declared? (keyword : List Char) : Option State :=
  match String.ofList keyword with
  | "ENTITY" => some .entityStart
  | "ATTLIST" => some .attlistElement
  | "ELEMENT" => some .elementName
  | "NOTATION" => some .notationName
  | _ => none

/-- An entity name that a declaration may give a meaning to. -/
def target (d : Doctype) (n : List Char) : Option (List Char) :=
  if (builtin? n).isSome || !d.active || d.entities.closed.any (·.name == n) then none else some n

/-- The state after a group is closed. -/
def closeGroup : List (Option Char) → State
  | _ :: outer :: rest => .groupNext (outer :: rest)
  | _ => .declEnd

/-- Uses `c` as the separator of the innermost group, which keeps to one. -/
def separate (separators : List (Option Char)) (c : Char) : Except Error State :=
  match separators with
  | some c' :: _ => if c' = c then .ok (.groupItem separators) else .error .badSyntax
  | none :: rest => .ok (.groupItem (some c :: rest))
  | [] => .error .badSyntax

/-- Declares an attribute with the default in a literal. -/
def defaultValue (d : Doctype) (element attr : List Char) (type : ValueType)
    (body : List Char) : Except Error Outcome :=
  if d.active then do
    let (value, a) ← d.defaultText type.plain body
    let d := { d with allowance := a }
    return .goOn (d.declareAttribute ⟨element, attr, type.plain, some value⟩ false)
      (.attributeName element)
  else return .goOn d (.attributeName element)

/-- The keyword SYSTEM or PUBLIC. -/
def isSystem (n : List Char) : Bool := n = "SYSTEM".toList

/-- The keyword SYSTEM or PUBLIC. -/
def isPublic (n : List Char) : Bool := n = "PUBLIC".toList

/-- The transition function. -/
def step (d : Doctype) (s : State) (t : DeclToken) : Except Error Outcome :=
  let go (s : State) : Except Error Outcome := .ok (.goOn d s)
  let fail : Except Error Outcome := .error (unexpected t)
  let publicId (body : List Char) (s : State) : Except Error Outcome :=
    if body.all isPublicIdChar then go s else .error .badPublicId
  match s, t with
  -- around the declaration
  | .start, .declaration body =>
    match standalone? body with
    | none => .error .badDeclaration
    | some b => .ok (.goOn { d with standalone := b } .beforeDoctype)
  | .start, .space | .start, .comment | .start, .instruction => go .beforeDoctype
  | .start, .opening k | .beforeDoctype, .opening k =>
    if k = "DOCTYPE".toList then go .doctypeName else fail
  | .beforeDoctype, .comment | .beforeDoctype, .instruction => go .beforeDoctype
  | .afterDoctype, .comment | .afterDoctype, .instruction => go .afterDoctype
  | .start, .root | .beforeDoctype, .root | .afterDoctype, .root => .ok (.root d)
  | s, .space => go s
  -- the head of the document type declaration
  | .doctypeName, .word .name _ | .doctypeName, .word .qualified _ => go .doctypeId
  | .doctypeId, .openBracket => go .subset
  | .doctypeId, .close => go .afterDoctype
  | .doctypeId, .word .name n =>
    if isSystem n then go .doctypeSystem else if isPublic n then go .doctypePublic else fail
  | .doctypePublic, .literal body =>
    if body.all isPublicIdChar then .ok (.goOn { d with hasOutside := true } .doctypeSystem)
    else .error .badPublicId
  | .doctypeSystem, .literal _ => .ok (.goOn { d with hasOutside := true } .doctypeSubset)
  | .doctypeSubset, .openBracket => go .subset
  | .doctypeSubset, .close => go .afterDoctype
  | .doctypeEnd, .close => go .afterDoctype
  -- inside it
  | .subset, .opening k => match declared? k with | some s => go s | none => fail
  | .subset, .comment | .subset, .instruction => go .subset
  | .subset, .parameter =>
    .ok (.goOn { d with hasOutside := true, active := d.standalone } .subset)
  | .subset, .closeBracket => go .doctypeEnd
  | .declEnd, .close => go .subset
  -- entities
  | .entityStart, .percent => go .parameterName
  | .entityStart, .word .name n => go (.entityBody (d.target n) false)
  | .parameterName, .word .name _ => go (.entityBody none true)
  | .entityBody target isParameter, .word .name n =>
    if isSystem n then go (.entitySystem target isParameter)
    else if isPublic n then go (.entityPublic target isParameter)
    else fail
  | .entityBody target _, .literal body =>
    if d.active then do
      let text ← entityText body []
      return .goOn (d.storeEntity target (.internal text)) .declEnd
    else go .declEnd
  | .entityPublic target isParameter, .literal body =>
    publicId body (.entitySystem target isParameter)
  | .entitySystem target isParameter, .literal _ =>
    if isParameter then go .declEnd else go (.entityKind target)
  | .entityKind target, .close => .ok (.goOn (d.storeEntity target .external) .subset)
  | .entityKind target, .word .name n =>
    if n = "NDATA".toList then go (.entityNotation target) else fail
  | .entityNotation target, .word .name _ =>
    .ok (.goOn (d.storeEntity target .unparsed) .declEnd)
  -- notations
  | .notationName, .word .name _ => go .notationId
  | .notationId, .word .name n =>
    if isSystem n then go .notationSystem else if isPublic n then go .notationPublic else fail
  | .notationPublic, .literal body => publicId body .notationSystemOrEnd
  | .notationSystem, .literal _ => go .declEnd
  | .notationSystemOrEnd, .literal _ => go .declEnd
  | .notationSystemOrEnd, .close => go .subset
  -- attribute lists
  | .attlistElement, .word .name n | .attlistElement, .word .qualified n => go (.attributeName n)
  | .attributeName _, .close => go .subset
  | .attributeName e, .word .name n | .attributeName e, .word .qualified n =>
    go (.attributeType e n)
  | .attributeType e a, .word .name n =>
    match valueType? n with
    | some type => go (.attributeDefault e a type)
    | none => if n = "NOTATION".toList then go (.notationsOpen e a) else fail
  | .attributeType e a, .openParen => go (.enumValue e a)
  | .enumValue e a, .word _ _ => go (.enumNext e a)
  | .enumNext e a, .closeParen .once => go (.attributeDefault e a ⟨false, false⟩)
  | .enumNext e a, .bar => go (.enumValue e a)
  | .notationsOpen e a, .openParen => go (.notationsValue e a)
  | .notationsValue e a, .word .name _ => go (.notationsNext e a)
  | .notationsNext e a, .closeParen .once => go (.attributeDefault e a ⟨false, false⟩)
  | .notationsNext e a, .bar => go (.notationsValue e a)
  | .attributeDefault e a type, .poundName n =>
    if n = "IMPLIED".toList || n = "REQUIRED".toList then
      let d := if d.active then d.declareAttribute ⟨e, a, type.plain, none⟩ type.isId else d
      .ok (.goOn d (.attributeName e))
    else if n = "FIXED".toList then go (.attributeFixed e a type)
    else fail
  | .attributeDefault e a type, .literal body => d.defaultValue e a type body
  | .attributeFixed e a type, .literal body => d.defaultValue e a type body
  -- content models
  | .elementName, .word .name _ | .elementName, .word .qualified _ => go .elementContent
  | .elementContent, .word .name n =>
    if n = "EMPTY".toList || n = "ANY".toList then go .declEnd else fail
  | .elementContent, .openParen => go .groupStart
  | .groupStart, .poundName n => if n = "PCDATA".toList then go .mixedNext else fail
  | .groupStart, .openParen => go (.groupItem [none, none])
  | .groupStart, .word .name _ | .groupStart, .word .qualified _ | .groupStart, .marked _ =>
    go (.groupNext [none])
  | .mixedNext, .closeParen .once | .mixedNext, .closeParen .any => go .declEnd
  | .mixedNext, .bar => go .mixedName
  | .mixedName, .word .name _ | .mixedName, .word .qualified _ => go .mixedAfterName
  | .mixedAfterName, .closeParen .any => go .declEnd
  | .mixedAfterName, .bar => go .mixedName
  | .groupItem separators, .openParen => go (.groupItem (none :: separators))
  | .groupItem separators, .word .name _ | .groupItem separators, .word .qualified _
  | .groupItem separators, .marked _ => go (.groupNext separators)
  | .groupNext separators, .closeParen _ => go (closeGroup separators)
  | .groupNext separators, .comma => do return .goOn d (← separate separators ',')
  | .groupNext separators, .bar => do return .goOn d (← separate separators '|')
  | _, _ => fail

/-- Reads all that stands before the root element.  The result holds the
text from the root element on. -/
def read (d : Doctype) (state : State) (s : List Char) : Except Error (Doctype × List Char) :=
  match _h : declToken s with
  | none => .error .noElement
  | some (.error e) => .error e
  | some (.ok (t, rest)) =>
    match d.step state t with
    | .error e => .error e
    | .ok (.root d) => .ok (d, '<' :: rest)
    | .ok (.goOn d state) => read d state rest
  termination_by s.length
  decreasing_by exact leaves_declToken _h _ _ rfl

end Doctype

end ReleaseGate.Xml
