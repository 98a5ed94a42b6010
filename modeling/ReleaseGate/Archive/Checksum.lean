/-
ReleaseGate/Archive/Checksum.lean

The two checksums of compressed data.

CRC-32 is the remainder of the content, taken as a polynomial over bits,
with the low bit of a byte first; `crcTable` holds the step for one byte.
Adler-32 is a pair of sums modulo 65521.
-/

namespace ReleaseGate.Archive

/-- The remainder after eight more zero bits. -/
def crcStep (n : UInt32) : UInt32 :=
  (List.range 8).foldl (fun r _ =>
    if r &&& 1 = 1 then (r >>> 1) ^^^ 0xEDB88320 else r >>> 1) n

/-- The remainder after one byte, for each value of the low byte. -/
def crcTable : Array UInt32 := (Array.range 256).map fun n => crcStep n.toUInt32

/-- The CRC-32 of a content. -/
def crc32 (content : ByteArray) : UInt32 :=
  content.data.foldl (fun (r : UInt32) (b : UInt8) =>
    (crcTable.getD ((r ^^^ b.toUInt32) &&& 0xFF).toNat 0) ^^^ (r >>> 8)) 0xFFFFFFFF ^^^ 0xFFFFFFFF

/-- The Adler-32 of a content. -/
def adler32 (content : ByteArray) : Nat :=
  let (a, b) := content.data.foldl (fun (a, b) x =>
    let a := (a + x.toNat) % 65521
    (a, (b + a) % 65521)) (1, 0)
  65536 * b + a

end ReleaseGate.Archive
