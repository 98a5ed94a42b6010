/-
ReleaseGate/Decimal/Shortest.lean

The shortest decimal that reads back as a given double.

A finite double is `m · 2^q` for whole numbers `m` and `q`, and the reals
that round to it fill an interval around it, ends included when `m` is even.
For one digit, two digits and so on, the two multiples of the matching power
of ten next to the value are tried; the first count of digits with a hit
wins, and of two hits the nearer.  Seventeen digits always suffice.  All
arithmetic is exact, on fractions of natural numbers.
-/
import ReleaseGate.Text.Digit

namespace ReleaseGate.Decimal

/-- A positive decimal: digits without a leading zero, and the place of the
point counted from the left of the first digit. -/
structure Digits where
  digits : List Char
  point : Int
  deriving DecidableEq, Repr

/-- The parts of a double: a finite one is `mantissa · 2^exponent` with its
sign. -/
inductive Parts where
  | notANumber
  | infinite (negative : Bool)
  | finite (negative : Bool) (mantissa : Nat) (exponent : Int)
  deriving DecidableEq, Repr

/-- The mantissa of a power of two: the bit that a double does not store. -/
def hiddenBit : Nat := 0x10000000000000

/-- The parts that the bits of a double stand for. -/
def Parts.ofBits (bits : Nat) : Parts :=
  let negative := bits / Nat.pow 2 63 % 2 == 1
  let field := bits / hiddenBit % 2048
  let fraction := bits % hiddenBit
  if field = 2047 then
    if fraction = 0 then .infinite negative else .notANumber
  else if field = 0 then .finite negative fraction (-1074)
  else .finite negative (hiddenBit + fraction) (Int.ofNat field - 1075)

/-- The least `k` with `num / den < 10 ^ k`, for a positive fraction. -/
def magnitude (num den : Nat) : Int :=
  if den ≤ num then (Nat.toDigits 10 (num / den)).length
  else
    let zeros := (List.range 400).findIdx fun j => den ≤ num * Nat.pow 10 (j + 1)
    Int.negOfNat zeros

/-- `num / den` in units of `10 ^ place`, as a fraction. -/
def scaled (num den : Nat) (place : Int) : Nat × Nat :=
  if 0 ≤ place then (num, den * Nat.pow 10 place.toNat)
  else (num * Nat.pow 10 (-place).toNat, den)

/-- The decimal with `count` digits nearest to `m · 2^q` among those that
read back as it, if there is one. -/
def candidate? (m : Nat) (q : Int) (count : Nat) : Option (Nat × Int) :=
  -- Everything is in quarters of `2 ^ q`, so that both half-way points are whole.
  let below := if m = hiddenBit && q ≠ -1074 then 4 * m - 1 else 4 * m - 2
  let above := 4 * m + 2
  let (up, down) := if 0 ≤ q then (Nat.pow 2 q.toNat, 4) else (1, 4 * Nat.pow 2 (-q).toNat)
  let value := 4 * m * up
  let place := magnitude value down - Int.ofNat count
  let (num, den) := scaled value down place
  let (lowNum, _) := scaled (below * up) down place
  let (highNum, _) := scaled (above * up) down place
  let fits (d : Nat) : Bool :=
    if m % 2 = 0 then lowNum ≤ d * den && d * den ≤ highNum
    else lowNum < d * den && d * den < highNum
  let d := num / den
  let lower := d != 0 && fits d
  let upper := fits (d + 1)
  if lower && (!upper || 2 * (num - d * den) ≤ den) then some (d, place)
  else if upper then some (d + 1, place)
  else none

/-- The shortest decimal that reads back as `m · 2^q`, for `m` not zero. -/
def shortest (m : Nat) (q : Int) : Digits :=
  match (List.range 17).findSome? fun n => candidate? m q (n + 1) with
  | none => ⟨['0'], 1⟩
  | some (d, place) =>
    let digits := Nat.toDigits 10 d
    let trimmed := (digits.reverse.dropWhile (· = '0')).reverse
    ⟨trimmed, place + digits.length⟩

/-- A decimal written out: positionally when the point falls within sixteen
places to the right of the first digit or four to its left, and with an
exponent of at least two digits otherwise. -/
def Digits.render (d : Digits) : List Char :=
  if -4 < d.point && d.point ≤ 16 then
    if d.point ≤ 0 then
      '0' :: '.' :: List.replicate (-d.point).toNat '0' ++ d.digits
    else
      let n := d.point.toNat
      let whole := d.digits.take n ++ List.replicate (n - d.digits.length) '0'
      let tail := d.digits.drop n
      whole ++ '.' :: (if tail.isEmpty then ['0'] else tail)
  else
    let e := d.point - 1
    let power := Nat.toDigits 10 e.natAbs
    let mark := if e < 0 then '-' else '+'
    let point := if d.digits.length ≤ 1 then [] else ['.']
    d.digits.take 1 ++ point ++ d.digits.drop 1 ++ 'e' :: mark ::
      List.replicate (2 - power.length) '0' ++ power

/-- The text of a double. -/
def Parts.render : Parts → List Char
  | .notANumber => ['n', 'a', 'n']
  | .infinite negative => (if negative then ['-'] else []) ++ ['i', 'n', 'f']
  | .finite negative m q =>
    (if negative then ['-'] else []) ++
      if m = 0 then ['0', '.', '0'] else (shortest m q).render

/-- The text of a double. -/
def ofFloat (x : Float) : String :=
  String.ofList (Parts.ofBits x.toBits.toNat).render

/-- The double nearest to `digits · 10^exponent`.  Exponents far outside the
range of doubles are cut off where the result no longer depends on them. -/
def toFloat (digits : Nat) (exponent : Int) : Float :=
  let size := (Nat.toDigits 10 digits).length
  if digits = 0 then 0.0
  else if 400 < exponent + size then 1.0 / 0.0
  else if exponent + size < -400 then 0.0
  else if 0 ≤ exponent then Float.ofScientific digits false exponent.toNat
  else Float.ofScientific digits true (-exponent).toNat

end ReleaseGate.Decimal
