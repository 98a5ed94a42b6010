/-
ReleaseGate/Net/Coding.lean

Bodies that a server sends in compressed form.

Two codings are known, each deflated data in an envelope of its own.  Data
that ends early gives what it holds; data that no coder writes is an error.
Several codings are undone in the reverse of the order in which they are
named, and unknown ones are passed over.
-/
import ReleaseGate.Archive.Checksum
import ReleaseGate.Archive.Inflate
import ReleaseGate.Text.Blank
import ReleaseGate.Text.Case
import ReleaseGate.Text.Split

namespace ReleaseGate.Net

open Archive (InflateDefect Stop bits inflate crc32 adler32)

/-- How a body is compressed. -/
inductive Coding where
  | gzip
  | deflate
  deriving DecidableEq, Repr

namespace Coding

/-- The codings that a header names. -/
def named (header : String) : List Coding :=
  (Text.split ',' header.toList).filterMap fun s =>
    match String.ofList (Text.lower (Text.strip s)) with
    | "gzip" => some gzip
    | "deflate" => some deflate
    | _ => none

/-- More bytes than deflated data of a given size can become. -/
def limit (data : ByteArray) : Nat := 2000 * (data.size + 1)

/-- The bits from `pos` on as a number, or nothing when they run out. -/
def field? (data : ByteArray) (pos count : Nat) : Option Nat := (bits data (8 * pos) (8 * count)).toOption

/-- The position after a text that ends with a zero byte. -/
def afterZero? (data : ByteArray) (pos : Nat) : Option Nat :=
  if _h : pos < data.size then
    if byteAt data pos = 0 then some (pos + 1) else afterZero? data (pos + 1)
  else none
  termination_by data.size - pos

/-- Reads the head of a gzip file: where its data starts, or nothing when it
ends early. -/
def gzipHead (data : ByteArray) : Except InflateDefect (Option Nat) :=
  match field? data 0 2 with
  | none => .ok none
  | some magic =>
    if magic ≠ 0x8B1F then .error .headerCheck
    else
      match field? data 2 2 with
      | none => .ok none
      | some flags =>
        if flags % 256 ≠ 8 then .error .method
        else if 0x2000 ≤ flags then .error .headerFlags
        else
          let has (bit : Nat) : Bool := flags / bit % 2 = 1
          let start : Option Nat := do
            let pos ← if data.size < 10 then none else some 10
            let pos ← if has 0x400 then (field? data pos 2).map (pos + 2 + ·) else some pos
            let pos ← if data.size < pos then none else some pos
            let pos ← if has 0x800 then afterZero? data pos else some pos
            if has 0x1000 then afterZero? data pos else some pos
          match start with
          | none => .ok none
          | some pos =>
            if !has 0x200 then .ok (some pos)
            else
              match field? data pos 2 with
              | none => .ok none
              | some sum =>
                if sum ≠ (crc32 (data.extract 0 pos)).toNat % 65536 then .error .headerSum
                else .ok (some (pos + 2))

/-- Undoes the gzip coding. -/
def ungzip (data : ByteArray) : Except InflateDefect ByteArray := do
  match ← gzipHead data with
  | none => return .empty
  | some start =>
    match inflate data start (limit data) with
    | (.failed d, _) => .error d
    | (.finished pos, out) =>
      let pos := (pos + 7) / 8
      match field? data pos 4 with
      | none => return out
      | some sum =>
        if sum ≠ (crc32 out).toNat then .error .dataSum
        else
          match field? data (pos + 4) 4 with
          | none => return out
          | some length => if length ≠ out.size % 0x100000000 then .error .lengthSum else return out
    | (_, out) => return out

/-- Undoes the deflate coding in its envelope. -/
def unwrap (data : ByteArray) : Except InflateDefect ByteArray :=
  match field? data 0 2 with
  | none => .ok .empty
  | some head =>
    let method := head % 256
    if (256 * method + head / 256) % 31 ≠ 0 then .error .headerCheck
    else if method % 16 ≠ 8 then .error .method
    else if 7 < method / 16 then .error .windowSize
    else if head / 0x2000 % 2 = 1 then
      if data.size < 6 then .ok .empty else .error .dictionary
    else
      match inflate data 2 (limit data) with
      | (.failed d, _) => .error d
      | (.finished pos, out) =>
        let pos := (pos + 7) / 8
        match field? data pos 4 with
        | none => .ok out
        | some _ =>
          let sum := (data.extract pos (pos + 4)).data.foldl (fun n b => 256 * n + b.toNat) 0
          if sum ≠ adler32 out then .error .dataSum else .ok out
      | (_, out) => .ok out

/-- Undoes the deflate coding, with its envelope or, if that is wrong, bare. -/
def undeflate (data : ByteArray) : Except InflateDefect ByteArray :=
  match unwrap data with
  | .ok out => .ok out
  | .error _ =>
    match inflate data 0 (limit data) with
    | (.failed d, _) => .error d
    | (_, out) => .ok out

/-- Undoes one coding. -/
def undo : Coding → ByteArray → Except InflateDefect ByteArray
  | gzip => ungzip
  | deflate => undeflate

/-- Undoes all codings of a body, the last one first. -/
def undoAll (codings : List Coding) (body : ByteArray) : Except InflateDefect ByteArray :=
  codings.reverse.foldlM (fun body c => c.undo body) body

end Coding

end ReleaseGate.Net
