/-
ReleaseGate/Xml/Wide.lean

Documents in units of sixteen bits.

No document starts with a zero character, so a zero byte among the first
two says that every unit takes two bytes, the more significant one first if
it is the first byte that is zero.  A last byte without a partner is a unit
that never ends.
-/
import ReleaseGate.Text.Utf8

namespace ReleaseGate.Xml

/-- The order of the two bytes of a unit. -/
inductive ByteOrder where
  | highFirst
  | lowFirst
  deriving DecidableEq, Repr

/-- The byte order that the first two bytes of a text show; `none` if its
units are single bytes. -/
def byteOrder? : List Char → Option ByteOrder
  | '\x00' :: _ => some .highFirst
  | c :: '\x00' :: _ => if c.toNat < 128 then some .lowFirst else none
  | _ => none

/-- The unit that two bytes make. -/
def ByteOrder.unit (order : ByteOrder) (a b : UInt8) : Nat :=
  match order with
  | highFirst => 256 * a.toNat + b.toNat
  | lowFirst => 256 * b.toNat + a.toNat

/-- The units of a text, and whether a byte is left over. -/
def ByteOrder.units (order : ByteOrder) : List UInt8 → List Nat × Bool
  | [] => ([], false)
  | [_] => ([], true)
  | a :: b :: rest =>
    let (ns, odd) := order.units rest
    (order.unit a b :: ns, odd)

/-- The characters that units make.  Half of a pair without its other half
becomes a character that no document may hold. -/
def charsOfUnits : List Nat → List Char
  | [] => []
  | [n] => [if h : n.isValidChar then Char.ofNatAux n h else '\uFFFE']
  | n :: m :: rest =>
    if 0xD800 ≤ n && n < 0xDC00 then
      if 0xDC00 ≤ m && m < 0xE000 then
        Char.ofNat (0x10000 + 0x400 * (n - 0xD800) + (m - 0xDC00)) :: charsOfUnits rest
      else '\uFFFE' :: charsOfUnits (m :: rest)
    else
      (if h : n.isValidChar then Char.ofNatAux n h else '\uFFFE') :: charsOfUnits (m :: rest)

end ReleaseGate.Xml
