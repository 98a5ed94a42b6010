/-
ReleaseGate/Schema/Issue.lean

What is wrong with loose data, and where.

An issue has the keys that lead to it, its fault, and the value that was
found there.  A rejection lists all issues of one record, and its message
shows them line by line; a long value is shown by its two ends.
-/
import ReleaseGate.Data
import ReleaseGate.Text.Utf8

namespace ReleaseGate.Schema

/-- A step into loose data. -/
inductive Key where
  | field (name : String)
  | item (index : Nat)
  deriving DecidableEq, Repr

/-- What a value should have been. -/
inductive Fault where
  /-- There is no such field. -/
  | missing
  | text
  | path
  | list
  | tuple
  /-- Data of a record that is known under a name. -/
  | record (name : String)
  /-- One of some texts. -/
  | literal (allowed : List String)
  /-- The name of one of some alternatives. -/
  | choice (allowed : List String)
  | bool
  /-- A number or text that says yes or no. -/
  | boolWord
  | int
  | intWord
  /-- A text of a whole number that is not too long. -/
  | intWordLength
  /-- A number without a fraction. -/
  | intFraction
  | finite
  /-- A number that is not negative. -/
  | natural
  | float
  | floatWord
  deriving DecidableEq, Repr

/-- Something wrong in loose data. -/
structure Issue where
  path : List Key
  fault : Fault
  value : Data

/-- Loose data that is no record of the kind wanted. -/
structure Rejection where
  record : String
  issues : List Issue

namespace Fault

/-- The name under which a fault is published. -/
def name : Fault → String
  | missing => "missing"
  | text => "string_type"
  | path => "path_type"
  | list => "list_type"
  | tuple => "tuple_type"
  | record _ => "model_type"
  | literal _ => "literal_error"
  | choice _ => "enum"
  | bool => "bool_type"
  | boolWord => "bool_parsing"
  | int => "int_type"
  | intWord => "int_parsing"
  | intWordLength => "int_parsing_size"
  | intFraction => "int_from_float"
  | finite => "finite_number"
  | natural => "greater_than_equal"
  | float => "float_type"
  | floatWord => "float_parsing"

/-- Some texts in quotes, as alternatives. -/
def alternatives : List String → String
  | [] => ""
  | [a] => Text.quoted a
  | [a, b] => Text.quoted a ++ " or " ++ Text.quoted b
  | a :: rest => Text.quoted a ++ ", " ++ alternatives rest

/-- What is said about a fault. -/
def message : Fault → String
  | missing => "Field required"
  | text => "Input should be a valid string"
  | path => "Input is not a valid path"
  | list => "Input should be a valid list"
  | tuple => "Input should be a valid tuple"
  | record name => s!"Input should be a valid dictionary or instance of {name}"
  | literal allowed => s!"Input should be {alternatives allowed}"
  | choice allowed => s!"Input should be {alternatives allowed}"
  | bool => "Input should be a valid boolean"
  | boolWord => "Input should be a valid boolean, unable to interpret input"
  | int => "Input should be a valid integer"
  | intWord => "Input should be a valid integer, unable to parse string as an integer"
  | intWordLength => "Unable to parse input string as an integer, exceeded maximum size"
  | intFraction => "Input should be a valid integer, got a number with a fractional part"
  | finite => "Input should be a finite number"
  | natural => "Input should be greater than or equal to 0"
  | float => "Input should be a valid number"
  | floatWord => "Input should be a valid number, unable to parse string as a number"

end Fault

/-- A key as it is written. -/
def Key.text : Key → String
  | field name => name
  | item index => toString index

/-- The name of the kind of a value. -/
def kindName : Data → String
  | .null => "NoneType"
  | .bool _ => "bool"
  | .int _ => "int"
  | .float _ => "float"
  | .text _ => "str"
  | .list _ => "list"
  | .record _ => "dict"

/-! ### Messages -/

/-- The longest start of a text with at most `limit` bytes. -/
def takeSize (limit : Nat) : List Char → List Char
  | [] => []
  | c :: rest => if c.utf8Size ≤ limit then c :: takeSize (limit - c.utf8Size) rest else []

/-- The most bytes of a value that are shown. -/
def shownSize : Nat := 50

/-- A text that is not too long, or its two ends. -/
def shorten (s : List Char) : List Char :=
  if Text.Utf8.size s ≤ shownSize then s
  else
    let half := shownSize / 2
    takeSize half s ++ "...".toList ++ (takeSize (half - 1) s.reverse).reverse

/-- An issue on two lines. -/
def Issue.lines (i : Issue) : List String :=
  let value := String.ofList (shorten i.value.display.toList)
  [".".intercalate (i.path.map Key.text),
    s!"  {i.fault.message} [type={i.fault.name}, input_value={value}, input_type={kindName i.value}]"]

/-- What is said about rejected data. -/
def Rejection.message (r : Rejection) : String :=
  let count := r.issues.length
  let noun := if count = 1 then "error" else "errors"
  "\n".intercalate (s!"{count} validation {noun} for {r.record}" :: r.issues.flatMap Issue.lines)

end ReleaseGate.Schema
