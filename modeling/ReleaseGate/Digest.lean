/-
ReleaseGate/Digest.lean

SHA-256 fingerprints.

A `Hasher` takes bytes one at a time.  It keeps the bytes of the block that
is not full yet, mixes each full block into its state, and pads the last
one in `finish`.  It does not know how its bytes were handed over, so a file
may be read in pieces of any size.
-/
import ReleaseGate.Bytes
import ReleaseGate.Text.Quoted

namespace ReleaseGate

namespace Digest

/-- The eight working words. -/
structure Words where
  a : UInt32
  b : UInt32
  c : UInt32
  d : UInt32
  e : UInt32
  f : UInt32
  g : UInt32
  h : UInt32
  deriving DecidableEq, Repr, Inhabited

/-- The words before any block. -/
def Words.start : Words :=
  ⟨0x6a09e667, 0xbb67ae85, 0x3c6ef372, 0xa54ff53a, 0x510e527f, 0x9b05688c, 0x1f83d9ab, 0x5be0cd19⟩

/-- One constant for each round. -/
def roundConstants : Array UInt32 :=
  #[0x428a2f98, 0x71374491, 0xb5c0fbcf, 0xe9b5dba5, 0x3956c25b, 0x59f111f1, 0x923f82a4, 0xab1c5ed5,
    0xd807aa98, 0x12835b01, 0x243185be, 0x550c7dc3, 0x72be5d74, 0x80deb1fe, 0x9bdc06a7, 0xc19bf174,
    0xe49b69c1, 0xefbe4786, 0x0fc19dc6, 0x240ca1cc, 0x2de92c6f, 0x4a7484aa, 0x5cb0a9dc, 0x76f988da,
    0x983e5152, 0xa831c66d, 0xb00327c8, 0xbf597fc7, 0xc6e00bf3, 0xd5a79147, 0x06ca6351, 0x14292967,
    0x27b70a85, 0x2e1b2138, 0x4d2c6dfc, 0x53380d13, 0x650a7354, 0x766a0abb, 0x81c2c92e, 0x92722c85,
    0xa2bfe8a1, 0xa81a664b, 0xc24b8b70, 0xc76c51a3, 0xd192e819, 0xd6990624, 0xf40e3585, 0x106aa070,
    0x19a4c116, 0x1e376c08, 0x2748774c, 0x34b0bcb5, 0x391c0cb3, 0x4ed8aa4a, 0x5b9cca4f, 0x682e6ff3,
    0x748f82ee, 0x78a5636f, 0x84c87814, 0x8cc70208, 0x90befffa, 0xa4506ceb, 0xbef9a3f7, 0xc67178f2]

/-- A word rotated to the right. -/
def rotate (x : UInt32) (n : UInt32) : UInt32 := (x >>> n) ||| (x <<< (32 - n))

/-- One round with its constant and its word of the schedule. -/
def Words.round (s : Words) (k w : UInt32) : Words :=
  let s1 := rotate s.e 6 ^^^ rotate s.e 11 ^^^ rotate s.e 25
  let ch := (s.e &&& s.f) ^^^ (~~~s.e &&& s.g)
  let t1 := s.h + s1 + ch + k + w
  let s0 := rotate s.a 2 ^^^ rotate s.a 13 ^^^ rotate s.a 22
  let maj := (s.a &&& s.b) ^^^ (s.a &&& s.c) ^^^ (s.b &&& s.c)
  ⟨t1 + (s0 + maj), s.a, s.b, s.c, s.d + t1, s.e, s.f, s.g⟩

/-- The word of a block that starts at byte `i`, most significant byte first. -/
def wordAt (block : ByteArray) (i : Nat) : UInt32 :=
  let byte (j : Nat) : UInt32 := (byteAt block (i + j)).toUInt32
  (byte 0 <<< 24) ||| (byte 1 <<< 16) ||| (byte 2 <<< 8) ||| byte 3

/-- The schedule of a block: its sixteen words, then each further word from
four earlier ones. -/
def schedule (block : ByteArray) : Array UInt32 :=
  let first := (Array.range 16).map fun i => wordAt block (4 * i)
  (List.range' 16 48).foldl (fun w i =>
    let w15 := w.getD (i - 15) 0
    let w2 := w.getD (i - 2) 0
    let s0 := rotate w15 7 ^^^ rotate w15 18 ^^^ (w15 >>> 3)
    let s1 := rotate w2 17 ^^^ rotate w2 19 ^^^ (w2 >>> 10)
    w.push (w.getD (i - 16) 0 + s0 + w.getD (i - 7) 0 + s1)) first

/-- The words after one more block of 64 bytes. -/
def Words.compress (s : Words) (block : ByteArray) : Words :=
  let w := schedule block
  let t := (List.range 64).foldl (fun t i => t.round (roundConstants.getD i 0) (w.getD i 0)) s
  ⟨s.a + t.a, s.b + t.b, s.c + t.c, s.d + t.d, s.e + t.e, s.f + t.f, s.g + t.g, s.h + t.h⟩

/-- The state of a hash that is still taking bytes. -/
structure Hasher where
  words : Words := .start
  /-- The bytes of the block that is not full yet. -/
  block : ByteArray := .empty
  /-- How many bytes were taken. -/
  length : Nat := 0

namespace Hasher

/-- Takes one byte. -/
def push (h : Hasher) (b : UInt8) : Hasher :=
  let block := h.block.push b
  if block.size = 64 then ⟨h.words.compress block, .empty, h.length + 1⟩
  else ⟨h.words, block, h.length + 1⟩

/-- Takes some bytes. -/
def update (h : Hasher) (bytes : ByteArray) : Hasher := bytes.data.foldl push h

/-- The bytes of a number, most significant first. -/
def bigEndian (count n : Nat) : ByteArray :=
  ⟨((List.range count).map fun i => UInt8.ofNat (n / Nat.pow 256 (count - 1 - i))).toArray⟩

/-- What is appended to a content of `length` bytes: a one bit, zeros, and
the length in bits, up to a whole number of blocks. -/
def padding (length : Nat) : ByteArray :=
  let zeros := (119 - length % 64) % 64
  ByteArray.mk #[0x80] ++ ⟨Array.replicate zeros 0⟩ ++ bigEndian 8 (8 * length)

/-- The eight words of the digest. -/
def finish (h : Hasher) : Words := (h.update (padding h.length)).words

end Hasher

/-- A digest in hexadecimal. -/
def Words.toHex (w : Words) : String :=
  String.ofList ([w.a, w.b, w.c, w.d, w.e, w.f, w.g, w.h].flatMap fun x => Text.hex 8 x.toNat)

/-- The fingerprint that a hasher has reached. -/
def Hasher.fingerprint (h : Hasher) : String := "sha256:" ++ h.finish.toHex

/-- The fingerprint of a content. -/
def ofBytes (content : ByteArray) : String := (Hasher.update {} content).fingerprint

/-- How many bytes of a file are read at a time. -/
def pieceSize : Nat := 1024 * 1024

/-- A content cut into pieces of `size` bytes, the last one shorter. -/
def pieces (size : Nat) (content : ByteArray) : List ByteArray :=
  if _h : 0 < size ∧ 0 < content.size then
    content.extract 0 size :: pieces size (content.extract size content.size)
  else []
  termination_by content.size
  decreasing_by simp only [ByteArray.size_extract]; omega

/-- The fingerprint of a content that is read piece by piece. -/
def ofPieces (content : ByteArray) : String :=
  ((pieces pieceSize content).foldl Hasher.update {}).fingerprint

end Digest

end ReleaseGate
