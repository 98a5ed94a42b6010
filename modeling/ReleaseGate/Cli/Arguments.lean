/-
ReleaseGate/Cli/Arguments.lean

Reading the words of a command line.

A word is a flag, or a flag with a value attached by `=`, or plain.  A word
that starts with a hyphen but is no flag counts as plain if it is only the
hyphen, looks like a negative number, or holds a space.  A flag that takes a
value has it attached or in the next word, which must be plain.  The word
`--` ends the flags.

A later value of a flag replaces an earlier one.  Asking for help or for the
version stops the reading at once, so it wins over what is wrong further on.
What is left over, and flags that are missing, are found at the end.

In two points there is an older rule for such words and a newer one, and this
is the older one.  Letters behind a short flag are looked at before the flag
counts, so a word like `-hx` is an error and no call for help (`shortFlags`).
And an attached value that is the end mark is taken for the mark, so the flag
is left without a value (`Value`).
-/
import ReleaseGate.Cli.Flag
import ReleaseGate.Text.Digit
import ReleaseGate.Text.Quoted

namespace ReleaseGate.Cli

/-- What is wrong with a command line. -/
inductive UsageError where
  | missingValue (f : Flag)
  /-- A flag without a value has one attached. -/
  | unusedValue (f : Flag) (value : List Char)
  | missingFlags (flags : List Flag)
  | unknownWords (words : List (List Char))
  deriving DecidableEq, Repr

/-- What is said about a command line that is wrong. -/
def UsageError.message : UsageError → String
  | missingValue f => s!"argument {f.title}: expected one argument"
  | unusedValue f value =>
    s!"argument {f.title}: ignored explicit argument " ++ String.ofList (Text.quote value)
  | missingFlags flags =>
    "the following arguments are required: " ++ ", ".intercalate (flags.map Flag.title)
  | unknownWords words =>
    "unrecognized arguments: " ++ " ".intercalate (words.map String.ofList)

/-- Why reading stops. -/
inductive Stop where
  | help
  | version
  | wrong (e : UsageError)
  deriving DecidableEq, Repr

/-- The value of a flag; none if only the end mark is attached to it. -/
abbrev Value := Option (List Char)

/-- What a command line says. -/
structure Arguments where
  /-- The flags with their values, the last one first. -/
  values : List (Flag × Value) := []
  /-- The words that belong to no flag. -/
  extra : List (List Char) := []
  deriving DecidableEq, Repr, Inhabited

namespace Arguments

/-- A flag is given. -/
def has (a : Arguments) (f : Flag) : Bool := a.values.any (·.1 == f)

/-- The value of a flag, if it is given. -/
def value? (a : Arguments) (f : Flag) : Option Value := a.values.lookup f

/-- Adds a flag. -/
def add (a : Arguments) (f : Flag) (v : Value) : Arguments := { a with values := (f, v) :: a.values }

/-- Adds a word that belongs to no flag. -/
def addExtra (a : Arguments) (word : List Char) : Arguments := { a with extra := a.extra ++ [word] }

end Arguments

/-! ### Words -/

/-- What a word is. -/
inductive Word where
  | plain
  /-- A flag by one of its names, perhaps with something attached. -/
  | flag (f : Flag) (isShort : Bool) (attached : Option (List Char))
  /-- Something like a flag. -/
  | unknown
  deriving DecidableEq, Repr

/-- Digits only, and at least one. -/
def areDigits (s : List Char) : Bool := !s.isEmpty && s.all Text.isDigit

/-- A word that looks like a negative number.  One line end behind it does
not count. -/
def looksNegative : List Char → Bool
  | '-' :: rest =>
    let rest := if rest.getLast? = some '\n' then rest.dropLast else rest
    match rest.dropWhile Text.isDigit with
    | [] => areDigits rest
    | '.' :: fraction => areDigits fraction
    | _ => false
  | _ => false

/-- The flag whose name the text is. -/
def flagNamed? (s : List Char) : Option Flag := Flag.ofName? (String.ofList s)

/-- Whether a name of a flag is a short one: one hyphen. -/
def isShortName (s : List Char) : Bool := s.take 2 ≠ ['-', '-']

/-- A word in two at its first `=`. -/
def attachment? (s : List Char) : Option (List Char × List Char) :=
  match s.dropWhile (· ≠ '=') with
  | _ :: value => some (s.takeWhile (· ≠ '='), value)
  | [] => none

/-- What a word that is no flag as it stands is. -/
def wordOther (s : List Char) : Word :=
  match s with
  | '-' :: 'h' :: attached => .flag .help true (some attached)
  | _ => if looksNegative s || s.contains ' ' then .plain else .unknown

/-- What a word is. -/
def wordOf (s : List Char) : Word :=
  if s.head? ≠ some '-' then .plain
  else
    match flagNamed? s with
    | some f => .flag f (isShortName s) none
    | none =>
      if s.length = 1 then .plain
      else
        match attachment? s with
        | some (name, value) =>
          match flagNamed? name with
          | some f => .flag f (isShortName name) (some value)
          | none => wordOther s
        | none => wordOther s

/-- The word that ends the flags. -/
def endMark : List Char := ['-', '-']

/-! ### Reading -/

/-- Letters behind a short flag, each of them a short flag. -/
def shortFlags : List Char → Option UsageError
  | [] => none
  | ['h'] => none
  | 'h' :: rest => shortFlags rest
  | letters => some (.unusedValue .help letters)

/-- A flag without a value. -/
def readSwitch (f : Flag) (isShort : Bool) (attached : Option (List Char)) (a : Arguments) :
    Except Stop Arguments :=
  let error? : Option UsageError :=
    match attached with
    | none => none
    | some value =>
      if isShort && !value.isEmpty then shortFlags value else some (.unusedValue f value)
  match error?, f with
  | some e, _ => .error (.wrong e)
  | none, .help => .error .help
  | none, .version => .error .version
  | none, f => .ok (a.add f none)

/-- Reads the words of a command line. -/
def readWords : List (List Char) → Arguments → Except Stop Arguments
  | [], a => .ok a
  | word :: rest, a =>
    if word = endMark then .ok { a with extra := a.extra ++ word :: rest }
    else
      match wordOf word with
      | .plain | .unknown => readWords rest (a.addExtra word)
      | .flag f isShort attached =>
        if f.takesValue then
          match attached with
          | some value => readWords rest (a.add f (if value = endMark then none else some value))
          | none =>
            match rest with
            | value :: rest =>
              if value ≠ endMark && wordOf value = .plain then
                readWords rest (a.add f (some value))
              else .error (.wrong (.missingValue f))
            | [] => .error (.wrong (.missingValue f))
        else do readWords rest (← readSwitch f isShort attached a)

/-- Reads a command line. -/
def Arguments.parse (words : List (List Char)) : Except Stop Arguments := do
  let a ← readWords words {}
  match Flag.all.filter fun f => f.isRequired && !a.has f with
  | [] => if a.extra.isEmpty then return a else throw (.wrong (.unknownWords a.extra))
  | missing => throw (.wrong (.missingFlags missing))

end ReleaseGate.Cli
