/-
ReleaseGate/Text/Utf8.lean

Reading UTF-8, byte by byte.

The reader is a machine with two kinds of state: between characters, or
inside one with some continuation bytes still to come.  The first byte of a
character fixes how many follow and narrows the range of the second, which
rules out overlong forms, surrogates and values above U+10FFFF.

  state                next byte                  goes to
  between              first byte of n + 1        inside, n to come
  between              anything else              fault: start
  inside, n to come    in range                   inside, n - 1 to come
  inside               out of range               fault: continuation
  inside               no more bytes              fault: end

`decode` stops at the first fault and says where it lies; `decodeLossy`
puts U+FFFD in its place and reads on.
-/
import ReleaseGate.Text.Quoted

namespace ReleaseGate.Text.Utf8

/-- Why some bytes are no character. -/
inductive Defect where
  | start
  | continuation
  | ending
  deriving DecidableEq, Repr

/-- The bytes from `first` up to but not including `stop` are no character;
`byte` is the first of them. -/
structure Fault where
  defect : Defect
  byte : UInt8
  first : Nat
  stop : Nat
  deriving DecidableEq, Repr

/-- The name of a defect. -/
def Defect.name : Defect → String
  | start => "invalid start byte"
  | continuation => "invalid continuation byte"
  | ending => "unexpected end of data"

/-- What is said about bytes that are no text. -/
def Fault.message (f : Fault) : String :=
  if f.stop = f.first + 1 then
    "'utf-8' codec can't decode byte 0x" ++ String.ofList (hex 2 f.byte.toNat) ++ " in position " ++
      toString f.first ++ ": " ++ f.defect.name
  else
    "'utf-8' codec can't decode bytes in position " ++ toString f.first ++ "-" ++
      toString (f.stop - 1) ++ ": " ++ f.defect.name

/-- A character of which some bytes have been read. -/
structure Pending where
  /-- The first byte of the character. -/
  byte : UInt8
  /-- How many bytes have been read. -/
  seen : Nat
  /-- How many more are needed after the next one. -/
  more : Nat
  /-- The least value of the next byte. -/
  low : UInt8
  /-- The greatest value of the next byte. -/
  high : UInt8
  /-- The bits collected so far. -/
  value : Nat
  deriving DecidableEq, Repr

/-- What a byte between two characters begins. -/
inductive Opening where
  | whole (c : Char)
  | part (p : Pending)
  | wrong
  deriving DecidableEq, Repr

/-- What the byte `b` begins. -/
def opening (b : UInt8) : Opening :=
  if b < 0x80 then .whole (Char.ofNat b.toNat)
  else if b < 0xC2 then .wrong
  else if b < 0xE0 then .part ⟨b, 1, 0, 0x80, 0xBF, b.toNat - 0xC0⟩
  else if b < 0xF0 then
    .part ⟨b, 1, 1, if b = 0xE0 then 0xA0 else 0x80, if b = 0xED then 0x9F else 0xBF,
      b.toNat - 0xE0⟩
  else if b < 0xF5 then
    .part ⟨b, 1, 2, if b = 0xF0 then 0x90 else 0x80, if b = 0xF4 then 0x8F else 0xBF,
      b.toNat - 0xF0⟩
  else .wrong

/-- The state after a continuation byte: a finished character, or the rest. -/
def Pending.push (p : Pending) (b : UInt8) : Char ⊕ Pending :=
  let value := 64 * p.value + (b.toNat - 0x80)
  match p.more with
  | 0 => .inl (Char.ofNat value)
  | n + 1 => .inr ⟨p.byte, p.seen + 1, n, 0x80, 0xBF, value⟩

/-- Reads the bytes that follow `pos` earlier ones. -/
def decodeFrom (pos : Nat) : Option Pending → List UInt8 → Except Fault (List Char)
  | none, [] => .ok []
  | some p, [] => .error ⟨.ending, p.byte, pos - p.seen, pos⟩
  | none, b :: rest =>
    match opening b with
    | .whole c => (decodeFrom (pos + 1) none rest).map (c :: ·)
    | .part p => decodeFrom (pos + 1) (some p) rest
    | .wrong => .error ⟨.start, b, pos, pos + 1⟩
  | some p, b :: rest =>
    if p.low ≤ b && b ≤ p.high then
      match p.push b with
      | .inl c => (decodeFrom (pos + 1) none rest).map (c :: ·)
      | .inr q => decodeFrom (pos + 1) (some q) rest
    else .error ⟨.continuation, p.byte, pos - p.seen, pos⟩

/-- The text that the bytes encode, or the first fault. -/
def decode (bytes : List UInt8) : Except Fault (List Char) := decodeFrom 0 none bytes

/-- Reads on after every fault; see `decodeLossy`. -/
def decodeLossyFrom : Option Pending → List UInt8 → List Char
  | none, [] => []
  | some _, [] => ['\uFFFD']
  | none, b :: rest =>
    match opening b with
    | .whole c => c :: decodeLossyFrom none rest
    | .part p => decodeLossyFrom (some p) rest
    | .wrong => '\uFFFD' :: decodeLossyFrom none rest
  | some p, b :: rest =>
    if p.low ≤ b && b ≤ p.high then
      match p.push b with
      | .inl c => c :: decodeLossyFrom none rest
      | .inr q => decodeLossyFrom (some q) rest
    else
      '\uFFFD' ::
        match opening b with
        | .whole c => c :: decodeLossyFrom none rest
        | .part q => decodeLossyFrom (some q) rest
        | .wrong => '\uFFFD' :: decodeLossyFrom none rest

/-- The text that the bytes encode, with U+FFFD for each faulty stretch. -/
def decodeLossy (bytes : List UInt8) : List Char := decodeLossyFrom none bytes

/-- The bytes of a text. -/
def encode (s : List Char) : List UInt8 := s.flatMap String.utf8EncodeChar

/-- How many bytes a text takes. -/
def size (s : List Char) : Nat := s.foldl (fun n c => n + c.utf8Size) 0

end ReleaseGate.Text.Utf8
