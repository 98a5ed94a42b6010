/-
ReleaseGate/Data.lean

Loose data, as it arrives from a request or an environment: a tree of
numbers, texts, lists and records whose fields keep their order.

`Data.display` writes a tree on one line, texts in quotes.
-/
import ReleaseGate.Decimal.Shortest
import ReleaseGate.Text.Quoted
import ReleaseGate.Version

namespace ReleaseGate

/-- A value whose shape has not been checked. -/
inductive Data where
  | null
  | bool (b : Bool)
  | int (n : Int)
  | float (x : Float)
  | text (s : String)
  | list (items : List Data)
  | record (fields : List (String × Data))
  deriving Inhabited

namespace Data

/-- The field of a record with a given name. -/
def field? (fields : List (String × Data)) (name : String) : Option Data :=
  (fields.find? (·.1 == name)).map (·.2)

/-- The texts in brackets, with commas between them. -/
def bracketed (first last : Char) (parts : List String) : String :=
  first.toString ++ ", ".intercalate parts ++ last.toString

mutual

/-- A value on one line. -/
def display : Data → String
  | null => "None"
  | bool b => if b then "True" else "False"
  | int n => toString n
  | float x => Decimal.ofFloat x
  | text s => Text.quoted s
  | list items => bracketed '[' ']' (showItems items)
  | record fields => bracketed (Char.ofNat 0x7B) (Char.ofNat 0x7D) (showFields fields)

/-- The members of a list, each on one line. -/
def showItems : List Data → List String
  | [] => []
  | d :: rest => d.display :: showItems rest

/-- The fields of a record, each on one line. -/
def showFields : List (String × Data) → List String
  | [] => []
  | (name, d) :: rest => (Text.quoted name ++ ": " ++ d.display) :: showFields rest

end

end Data

/-- Reads a version from loose data.  Only a text can be one. -/
def Version.ofData : Data → Except VersionError Version
  | .text s => Version.parse s
  | d => .error (.unreadable d.display)

end ReleaseGate
