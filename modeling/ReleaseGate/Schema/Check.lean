/-
ReleaseGate/Schema/Check.lean

Checking loose data piece by piece.

A check turns a value into what it should be, or lists what is wrong with
it.  Checks of the parts of a record are put together so that the issues of
all parts are found, in the order of the parts, and not only the first.
-/
import ReleaseGate.Path
import ReleaseGate.Schema.Issue
import ReleaseGate.Text.Number

namespace ReleaseGate.Schema

/-- A checked value, or all that is wrong with it. -/
inductive Checked (α : Type) where
  | good (value : α)
  | bad (issues : List Issue)

namespace Checked

/-- The issues that were found. -/
def issues : Checked α → List Issue
  | good _ => []
  | bad issues => issues

/-- Applies a checked function to a checked value; the issues of both count. -/
def both : Checked (α → β) → Checked α → Checked β
  | good f, good a => good (f a)
  | f, a => bad (f.issues ++ a.issues)

instance : Applicative Checked where
  pure := good
  seq f a := both f (a ())

/-- Issues seen from one step further out. -/
def within (key : Key) : Checked α → Checked α
  | good a => good a
  | bad issues => bad (issues.map fun i => { i with path := key :: i.path })

/-- A checked value, or one issue. -/
def ofOption (fault : Fault) (d : Data) : Option α → Checked α
  | some a => good a
  | none => bad [⟨[], fault, d⟩]

/-- The outcome for a whole record. -/
def toExcept (record : String) : Checked α → Except Rejection α
  | good a => .ok a
  | bad issues => .error ⟨record, issues⟩

end Checked

/-- A check of a value. -/
abbrev Check (α : Type) := Data → Checked α

/-- The fields of a record. -/
abbrev Fields := List (String × Data)

/-! ### Single values -/

/-- A value with one thing wrong. -/
def wrong (fault : Fault) (d : Data) : Checked α := .bad [⟨[], fault, d⟩]

/-- A text. -/
def text : Check String
  | .text s => .good s
  | d => wrong .text d

/-- A path. -/
def path : Check Path
  | .text s => .good (.ofString s)
  | d => wrong .path d

/-- A text from a list. -/
def literal (allowed : List String) (ofName : String → Option α) : Check α
  | .text s => .ofOption (.literal allowed) (.text s) (ofName s)
  | d => wrong (.literal allowed) d

/-- The name of an alternative. -/
def choice (allowed : List String) (ofName : String → Option α) : Check α
  | .text s => .ofOption (.choice allowed) (.text s) (ofName s)
  | d => wrong (.choice allowed) d

/-- The words for yes. -/
def yesWords : List String := ["1", "on", "t", "true", "y", "yes"]

/-- The words for no. -/
def noWords : List String := ["0", "off", "f", "false", "n", "no"]

/-- What a word says; ASCII capitals count as small letters. -/
def boolOfWord? (s : String) : Option Bool :=
  let word := String.ofList (s.toList.map Char.toLower)
  if yesWords.contains word then some true
  else if noWords.contains word then some false
  else none

/-- What a whole number says. -/
def boolOfInt? (n : Int) : Option Bool :=
  if n = 0 then some false else if n = 1 then some true else none

/-- The whole number that a double is. -/
def intOfFloat? (x : Float) : Option Int :=
  match Decimal.Parts.ofBits x.toBits.toNat with
  | .finite negative m q =>
    let n? : Option Nat :=
      if 0 ≤ q then some (m * Nat.pow 2 q.toNat)
      else if m % Nat.pow 2 (-q).toNat = 0 then some (m / Nat.pow 2 (-q).toNat)
      else none
    n?.map fun n => if negative then -(n : Int) else n
  | _ => none

/-- The double nearest to a whole number. -/
def floatOfInt (n : Int) : Float :=
  let x := Decimal.toFloat n.natAbs 0
  if n < 0 then -x else x

/-- Yes or no. -/
def bool : Check Bool
  | .bool b => .good b
  | .text s => .ofOption .boolWord (.text s) (boolOfWord? s)
  | .int n =>
    if (floatOfInt n).isInf then wrong .bool (.int n)
    else .ofOption .boolWord (.int n) (boolOfInt? n)
  | .float x =>
    match intOfFloat? x with
    | some n => .ofOption .boolWord (.float x) (boolOfInt? n)
    | none => wrong .bool (.float x)
  | d => wrong .bool d

/-- A whole number. -/
def int : Check Int
  | .bool b => .good (if b then 1 else 0)
  | .int n => .good n
  | .float x =>
    if x.isNaN || x.isInf then wrong .finite (.float x)
    else .ofOption .intFraction (.float x) (intOfFloat? x)
  | .text s =>
    let word := Text.trim s.toList
    if Text.digitLimit < word.length then wrong .intWordLength (.text s)
    else .ofOption .intWord (.text s) (Text.wholeNumber? word)
  | d => wrong .int d

/-- A whole number that is not negative. -/
def nat : Check Nat := fun d =>
  match int d with
  | .good n => if n < 0 then wrong .natural d else .good n.toNat
  | .bad issues => .bad issues

/-- A number. -/
def float : Check Float
  | .bool b => .good (if b then 1.0 else 0.0)
  | .int n => if (floatOfInt n).isInf then wrong .float (.int n) else .good (floatOfInt n)
  | .float x => .good x
  | .text s => .ofOption .floatWord (.text s) (Text.decimal? s.toList)
  | d => wrong .float d

/-! ### Values made of others -/

/-- Nothing, or a value that passes a check. -/
def nullable (check : Check α) : Check (Option α)
  | .null => .good none
  | d => some <$> check d

/-- Checks items; `index` is that of the first one. -/
def itemsFrom (check : Check α) (index : Nat) : List Data → Checked (List α)
  | [] => .good []
  | d :: rest => List.cons <$> (check d).within (.item index) <*> itemsFrom check (index + 1) rest

/-- A list whose items pass a check. -/
def list (check : Check α) : Check (List α)
  | .list items => itemsFrom check 0 items
  | d => wrong .list d

/-- A list of fixed items that pass a check. -/
def tuple (check : Check α) : Check (List α)
  | .list items => itemsFrom check 0 items
  | d => wrong .tuple d

/-- A record with a name. -/
def record (name : String) (check : Fields → Checked α) : Check α
  | .record fields => check fields
  | d => wrong (.record name) d

/-- A field that has to be there. -/
def required (fields : Fields) (name : String) (check : Check α) : Checked α :=
  match Data.field? fields name with
  | some d => (check d).within (.field name)
  | none => (wrong .missing (.record fields)).within (.field name)

/-- A field that may be left out. -/
def optional (fields : Fields) (name : String) (check : Check α) (default : α) : Checked α :=
  match Data.field? fields name with
  | some d => (check d).within (.field name)
  | none => .good default

end ReleaseGate.Schema
