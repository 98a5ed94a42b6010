/-
ReleaseGate/Xml/Scan.lean

The small pieces of XML markup: names, references, comments, instructions,
and the values of attributes.

Every scanner takes the text from where its piece starts and gives the piece
together with the text after it.  It fails with `unclosedToken` when the text ends too
early and with `invalidToken` at a character that does not fit; whichever
comes first in the text wins.
-/
import ReleaseGate.Text.Digit
import ReleaseGate.Xml.Error
import ReleaseGate.Xml.NameChar

namespace ReleaseGate.Xml

/-- A character that may occur in a document. -/
def isXmlChar (c : Char) : Bool :=
  (32 ≤ c.toNat || c == '\t' || c == '\n' || c == '\r') && c.toNat != 0xFFFE && c.toNat != 0xFFFF

/-- White space between the parts of markup. -/
def isSpace (c : Char) : Bool := c == ' ' || c == '\t' || c == '\n' || c == '\r'

/-- The text from its first character that is no space. -/
def skipSpace (s : List Char) : List Char := s.dropWhile isSpace

/-! ### Progress

Scanners are called again on what they leave, so it matters that they leave
less than they were given. -/

/-- If the scan succeeds, it leaves less than `n` characters. -/
def Leaves (n : Nat) (scan : Except Error (α × List Char)) : Prop :=
  ∀ a rest, scan = .ok (a, rest) → rest.length < n

theorem Leaves.error {n : Nat} {e : Error} :
    Leaves n (.error e : Except Error (α × List Char)) := by
  intro a rest h
  cases h

theorem Leaves.ok {n : Nat} {a : α} {rest : List Char} (h : rest.length < n) :
    Leaves n (.ok (a, rest)) := by
  intro b rest' h'
  cases h'
  exact h

theorem Leaves.bind {n : Nat} {x : Except Error γ} {f : γ → Except Error (β × List Char)}
    (h : ∀ c, x = .ok c → Leaves n (f c)) : Leaves n (x >>= f) := by
  match x, h with
  | .error e, _ => exact Leaves.error
  | .ok c, h => exact h c rfl

theorem length_dropWhile_le (p : Char → Bool) (s : List Char) :
    (s.dropWhile p).length ≤ s.length := (List.dropWhile_suffix p).length_le

/-! ### Names -/

/-- A name without a colon. -/
def name : List Char → Except Error (List Char × List Char)
  | [] => .error .unclosedToken
  | c :: rest =>
    if isNameStart c then .ok (c :: rest.takeWhile isNameChar, rest.dropWhile isNameChar)
    else .error .invalidToken

theorem leaves_name (s : List Char) : Leaves s.length (name s) := by
  unfold name
  split
  · exact .error
  · next c rest =>
    split
    · exact .ok (Nat.lt_succ_of_le (length_dropWhile_le isNameChar rest))
    · exact .error

/-- A name with at most one colon inside. -/
def qualifiedName (s : List Char) : Except Error (List Char × List Char) := do
  let (first, rest) ← name s
  match rest with
  | ':' :: rest =>
    let (second, rest) ← name rest
    return (first ++ ':' :: second, rest)
  | _ => return (first, rest)

theorem leaves_qualifiedName (s : List Char) : Leaves s.length (qualifiedName s) := by
  refine .bind fun ⟨first, rest⟩ h => ?_
  have h := leaves_name s _ _ h
  dsimp only
  split
  · next rest' _ =>
    refine .bind fun ⟨second, rest''⟩ h' => .ok ?_
    have h' := leaves_name _ _ _ h'
    simp only [List.length_cons] at h ⊢
    omega
  · exact .ok h

/-! ### References -/

/-- What an ampersand leads to: an entity, or a character by its code. -/
inductive Reference where
  | entity (name : List Char)
  | code (n : Nat)
  deriving DecidableEq, Repr

/-- The number that hexadecimal digits write. -/
def hexNumber (cs : List Char) : Nat :=
  cs.foldl (fun n c => 16 * n + (Text.hexValue? c).getD 0) 0

/-- A run of digits up to a semicolon. -/
def digitsToSemicolon (isDigit : Char → Bool) (s : List Char) : Except Error (List Char × List Char) :=
  let digits := s.takeWhile isDigit
  match s.dropWhile isDigit with
  | [] => .error .unclosedToken
  | c :: rest =>
    if c = ';' && !digits.isEmpty then .ok (digits, rest) else .error .invalidToken

/-- A reference, from after its ampersand. -/
def reference : List Char → Except Error (Reference × List Char)
  | '#' :: 'x' :: rest => do
    let (digits, rest) ← digitsToSemicolon Text.isHexDigit rest
    return (.code (hexNumber digits), rest)
  | '#' :: rest => do
    let (digits, rest) ← digitsToSemicolon Char.isDigit rest
    return (.code (Text.digitsValue digits), rest)
  | s => do
    let (n, rest) ← name s
    match rest with
    | [] => .error .unclosedToken
    | ';' :: rest => return (.entity n, rest)
    | _ => .error .invalidToken

theorem leaves_digitsToSemicolon (isDigit : Char → Bool) (s : List Char) :
    Leaves s.length (digitsToSemicolon isDigit s) := by
  have h := length_dropWhile_le isDigit s
  unfold digitsToSemicolon
  dsimp only
  split
  · exact .error
  · next c rest hs =>
    rw [hs, List.length_cons] at h
    split
    · exact .ok (by omega)
    · exact .error

theorem leaves_reference (s : List Char) : Leaves s.length (reference s) := by
  unfold reference
  split
  · next rest =>
    refine .bind fun ⟨digits, rest'⟩ h => .ok ?_
    have h := leaves_digitsToSemicolon _ _ _ _ h
    simp only [List.length_cons]
    omega
  · next rest _ =>
    refine .bind fun ⟨digits, rest'⟩ h => .ok ?_
    have h := leaves_digitsToSemicolon _ _ _ _ h
    simp only [List.length_cons]
    omega
  · refine .bind fun ⟨n, rest⟩ h => ?_
    have h := leaves_name s _ _ h
    dsimp only
    split
    · exact .error
    · simp only [List.length_cons] at h
      exact .ok (by omega)
    · exact .error

/-- The character with a code, if it may occur in a document. -/
def charOfCode? (n : Nat) : Option Char :=
  if h : n.isValidChar then
    let c := Char.ofNatAux n h
    if isXmlChar c then some c else none
  else none

/-- The character that one of the five built-in entities stands for. -/
def builtin? (name : List Char) : Option Char :=
  match String.ofList name with
  | "lt" => some '<'
  | "gt" => some '>'
  | "amp" => some '&'
  | "quot" => some '"'
  | "apos" => some '\''
  | _ => none

/-! ### Comments and instructions -/

/-- The rest of a comment, from after its opening. -/
def commentBody : List Char → Except Error (List Char)
  | [] => .error .unclosedToken
  | '-' :: '-' :: '>' :: rest => .ok rest
  | ['-', '-'] => .error .unclosedToken
  | '-' :: '-' :: _ => .error .invalidToken
  | c :: rest => if isXmlChar c then commentBody rest else .error .invalidToken

/-- A comment, from after `<!-`. -/
def comment : List Char → Except Error (List Char)
  | [] => .error .unclosedToken
  | '-' :: rest => commentBody rest
  | _ => .error .invalidToken

theorem length_lt_of_commentBody {s rest : List Char} (h : commentBody s = .ok rest) :
    rest.length < s.length := by
  fun_induction commentBody s with
  | case1 => cases h
  | case2 => cases h; simp only [List.length_cons]; omega
  | case3 => cases h
  | case4 => cases h
  | case5 c s _ _ _ _ ih => simp only [List.length_cons]; have := ih h; omega
  | case6 => cases h

theorem length_lt_of_comment {s rest : List Char} (h : comment s = .ok rest) :
    rest.length < s.length := by
  unfold comment at h
  split at h
  · cases h
  · have h := length_lt_of_commentBody h
    simp only [List.length_cons]
    omega
  · cases h

/-- An instruction: either the XML declaration, with its text, or another. -/
inductive Instruction where
  | declaration (body : List Char)
  | other
  deriving DecidableEq, Repr

/-- The text of an instruction up to its end mark. -/
def instructionBody (s : List Char) (body : List Char) : Except Error (List Char × List Char) :=
  match s with
  | [] => .error .unclosedToken
  | '?' :: '>' :: rest => .ok (body.reverse, rest)
  | c :: rest => if isXmlChar c then instructionBody rest (c :: body) else .error .invalidToken

/-- The name `xml` in small letters is kept for the declaration, and in
other letters for nobody. -/
def instructionKind (target body : List Char) : Except Error Instruction :=
  if target.map Char.toLower = ['x', 'm', 'l'] then
    if target = ['x', 'm', 'l'] then .ok (.declaration body) else .error .invalidToken
  else .ok .other

/-- What follows the target of an instruction; `kind` is its kind if it has
no text. -/
def instructionRest (target : List Char) (kind : Instruction) :
    List Char → Except Error (Instruction × List Char)
  | '?' :: '>' :: rest => .ok (kind, rest)
  | ['?'] => .error .unclosedToken
  | c :: rest =>
    if isSpace c then do
      let (body, rest) ← instructionBody rest [c]
      return (← instructionKind target body, rest)
    else .error .invalidToken
  | [] => .error .unclosedToken

/-- An instruction, from after `<?`. -/
def instruction (s : List Char) : Except Error (Instruction × List Char) := do
  let (target, rest) ← name s
  if rest.isEmpty then .error .unclosedToken
  else instructionRest target (← instructionKind target []) rest

theorem leaves_instructionBody (s body : List Char) :
    Leaves s.length (instructionBody s body) := by
  fun_induction instructionBody s body with
  | case1 => exact .error
  | case2 => exact .ok (by simp only [List.length_cons]; omega)
  | case3 body c rest _ _ ih =>
    intro a left h
    have := ih a left h
    simp only [List.length_cons]
    omega
  | case4 => exact .error

theorem leaves_instructionRest (target : List Char) (kind : Instruction) (s : List Char) :
    Leaves s.length (instructionRest target kind s) := by
  unfold instructionRest
  split
  · exact .ok (by simp only [List.length_cons]; omega)
  · exact .error
  · next c rest _ _ =>
    split
    · refine .bind fun ⟨body, rest'⟩ hb => .bind fun kind _ => .ok ?_
      have hb := leaves_instructionBody _ _ _ _ hb
      simp only [List.length_cons]
      omega
    · exact .error
  · exact .error

theorem leaves_instruction (s : List Char) : Leaves s.length (instruction s) := by
  refine .bind fun ⟨target, rest⟩ h => ?_
  have h := leaves_name s _ _ h
  dsimp only
  split
  · exact .error
  · refine .bind fun kind _ => ?_
    intro i left h'
    have := leaves_instructionRest _ _ _ _ _ h'
    omega

/-! ### Values -/

/-- A part of an attribute value before references are resolved. -/
inductive Piece where
  | char (c : Char)
  /-- White space of any kind, which counts as one space. -/
  | space
  | reference (r : Reference)
  /-- Something that no value may hold; what follows it is not read. -/
  | wrong
  deriving DecidableEq, Repr

/-- The piece that a character makes, references apart; `none` if no value
may hold it. -/
def charPiece? (c : Char) : Option Piece :=
  if c = '<' || !isXmlChar c then none
  else if isSpace c then some .space
  else some (.char c)

/-- The pieces of an attribute value up to its closing quote `q`.  Inside an
entity a carriage return before a line feed is a space of its own. -/
def pieces (q : Char) (inEntity : Bool) (s : List Char) (done : List Piece) :
    Except Error (List Piece × List Char) :=
  match s with
  | [] => .error .unclosedToken
  | '&' :: rest =>
    match _h : reference rest with
    | .error e => .error e
    | .ok (r, after) => pieces q inEntity after (.reference r :: done)
  | '\r' :: '\n' :: rest =>
    if inEntity then pieces q inEntity ('\n' :: rest) (.space :: done)
    else pieces q inEntity rest (.space :: done)
  | c :: rest =>
    if c = q then .ok (done.reverse, rest)
    else
      match charPiece? c with
      | some p => pieces q inEntity rest (p :: done)
      | none => .error .invalidToken
  termination_by s.length
  decreasing_by
    · have := leaves_reference _ _ _ _h
      simp only [List.length_cons]
      omega
    all_goals simp only [List.length_cons]; omega

theorem leaves_pieces (q : Char) (inEntity : Bool) (s : List Char) (done : List Piece) :
    Leaves s.length (pieces q inEntity s done) := by
  fun_induction pieces q inEntity s done with
  | case1 => exact .error
  | case2 => exact .error
  | case3 done rest r after h ih =>
    have := leaves_reference _ _ _ h
    intro a left h
    have := ih a left h
    simp only [List.length_cons]
    omega
  | case4 _ _ _ ih => 
    intro a left h
    have := ih a left h
    simp only [List.length_cons] at this ⊢
    omega
  | case5 _ _ _ ih => 
    intro a left h
    have := ih a left h
    simp only [List.length_cons]
    omega
  | case6 => exact .ok (by simp only [List.length_cons]; omega)
  | case7 _ _ _ _ _ _ _ _ ih => 
    intro a left h
    have := ih a left h
    simp only [List.length_cons]
    omega
  | case8 => exact .error

/-- The pieces of a text that is a value as a whole.  A fault in it becomes
a piece of its own, so that whatever is wrong before it is found first. -/
def wholePieces (inEntity : Bool) (s : List Char) : List Piece :=
  match s with
  | [] => []
  | '&' :: rest =>
    match _h : reference rest with
    | .error _ => [.wrong]
    | .ok (r, after) => .reference r :: wholePieces inEntity after
  | '\r' :: '\n' :: rest =>
    if inEntity then .space :: wholePieces inEntity ('\n' :: rest)
    else .space :: wholePieces inEntity rest
  | c :: rest =>
    match charPiece? c with
    | some p => p :: wholePieces inEntity rest
    | none => [.wrong]
  termination_by s.length
  decreasing_by
    · have := leaves_reference _ _ _ _h
      simp only [List.length_cons]
      omega
    all_goals simp only [List.length_cons]; omega

end ReleaseGate.Xml
