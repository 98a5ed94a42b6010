/-
ReleaseGate/Net/Address.lean

Numeric network addresses: four decimal numbers with points between them,
or eight hexadecimal ones with colons, where a double colon stands for a
run of zeros and the last two may be written as four decimal numbers.
-/
import ReleaseGate.Text.Digit
import ReleaseGate.Text.Split

namespace ReleaseGate.Net

/-- One number of a decimal address: at most 255, without needless zeros. -/
def isOctet (s : List Char) : Bool :=
  !s.isEmpty && s.length ≤ 3 && s.all Char.isDigit && (s = ['0'] || s.head? ≠ some '0') &&
    Text.digitsValue s ≤ 255

/-- An address of four decimal numbers. -/
def isIPv4 (s : List Char) : Bool :=
  let parts := Text.split '.' s
  parts.length = 4 && parts.all isOctet

/-- One number of a hexadecimal address. -/
def isHextet (s : List Char) : Bool := !s.isEmpty && s.length ≤ 4 && s.all Text.isHexDigit

/-- The numbers of a hexadecimal address, a decimal end counting as two of
them; `none` when the decimal end is wrong. -/
def hextets? (s : List Char) : Option (List (List Char)) :=
  let parts := Text.split ':' s
  match parts.getLast? with
  | some last =>
    if last.contains '.' then
      if isIPv4 last then some (parts.dropLast ++ [['0'], ['0']]) else none
    else some parts
  | none => some parts

/-- One side of a double colon: numbers, or nothing at all. -/
def isSide : List (List Char) → Bool
  | [[]] => true
  | parts => parts.all isHextet

/-- How many numbers one side of a double colon has. -/
def sideLength : List (List Char) → Nat
  | [[]] => 0
  | parts => parts.length

/-- An address of hexadecimal numbers without a zone. -/
def isPlainIPv6 (s : List Char) : Bool :=
  match hextets? s with
  | none => false
  | some parts =>
    let inner := (List.range parts.length).filter fun i =>
      0 < i && i + 1 < parts.length && (parts.getD i []).isEmpty
    if parts.length < 3 || 9 < parts.length then false
    else
      match inner with
      | [] => parts.length = 8 && parts.all isHextet
      | [i] =>
        let high := parts.take i
        let low := parts.drop (i + 1)
        isSide high && isSide low && sideLength high + sideLength low < 8
      | _ => false

/-- An address of hexadecimal numbers, with a zone after a percent sign or
without. -/
def isIPv6 (s : List Char) : Bool :=
  match Text.split '%' s with
  | [address] => isPlainIPv6 address
  | [address, zone] => !zone.isEmpty && isPlainIPv6 address
  | _ => false

end ReleaseGate.Net
