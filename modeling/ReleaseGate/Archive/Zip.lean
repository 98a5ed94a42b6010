/-
ReleaseGate/Archive/Zip.lean

Reading members of a zip archive.

An archive ends with a record that says where its directory is and how
large.  The directory lists the members; in front of the data of each
member stands a header that repeats its name.  All positions count from the
start of the archive, which need not be the start of the file, so they are
shifted by what the end record and its place have to say about it.

`directory` reads the list and `contents` the data of one member.  Sizes and
checksum are those of the directory.  At most as many bytes as the directory
says are produced; a checksum that does not fit them is an error.

Members are stored as they are or deflated.  For the two other methods that
are known the data go to a decoder that is not part of this library.  Whether
members may reach into one another is settled by whoever reads, and how far a
file goes by the system that keeps it.  All this is left to a `Reader`.
-/
import ReleaseGate.Archive.Checksum
import ReleaseGate.Archive.Inflate
import ReleaseGate.Bytes
import ReleaseGate.LibraryError
import ReleaseGate.Text.Quoted
import ReleaseGate.Text.Utf8

namespace ReleaseGate.Archive

/-- A member of an archive, as the directory describes it. -/
structure Member where
  /-- The name up to its first zero character. -/
  name : List Char
  /-- The whole name. -/
  fullName : List Char
  flags : Nat
  method : Nat
  sum : Nat
  packedSize : Nat
  size : Nat
  attributes : Nat
  /-- Where the header is in the file. -/
  position : Int
  deriving DecidableEq, Repr

/-- Why an archive, or a member, cannot be read. -/
inductive ZipError where
  | notZip
  | severalDisks
  | badOffset
  | truncatedDirectory
  | badDirectoryMagic
  | corruptExtra (id size : Nat)
  | corruptSizes (field : String)
  | truncatedHeader
  | badHeaderMagic
  | nameMismatch (inDirectory : List Char) (inHeader : List UInt8)
  /-- The data of a member reach into what stands behind them. -/
  | overlapped (name : List Char)
  | badSum (name : List Char)
  /-- A name that should be UTF-8. -/
  | badName (fault : Text.Utf8.Fault)
  /-- A member needs a reader of a later version; ten times that version is given. -/
  | laterVersion (n : Nat)
  | patched
  | stronglyEncrypted
  | encrypted (m : Member)
  | unknownMethod
  /-- A header before the start of the file. -/
  | negativePosition
  /-- The file ends before the data does. -/
  | cutOff
  | badData (d : InflateDefect)
  /-- What reading rests on fails: a decoder, or a position that no file has. -/
  | library (e : LibraryError)
  deriving DecidableEq, Repr

/-! ### Readers -/

/-- A decoder: what it gives for a piece of packed data after some earlier
ones, and whether the data end there. -/
abbrev Unpacker := List ByteArray → ByteArray → Except LibraryError (ByteArray × Bool)

/-- Where a member lies in a file: where its header starts, where its data
stop, and the limit, where the next header or the directory starts. -/
structure Extent where
  start : Int
  stop : Int
  limit : Int
  deriving DecidableEq, Repr

/-- What reading an archive depends on besides the archive. -/
structure Reader where
  /-- The decoder of method 12, where there is one. -/
  bzip2 : Option Unpacker := none
  /-- The decoder of method 14, where there is one. -/
  lzma : Option Unpacker := none
  /-- The extents of members that are refused. -/
  refuses : Extent → Bool := fun _ => false
  /-- The last position in a file that the system goes to. -/
  farthest : Nat := 0x7FFFFFFFFFFFFFFF

/-! ### Fields -/

/-- The number in `count` bytes from `pos` on, the lowest byte first. -/
def little (data : ByteArray) (pos : Nat) : Nat → Nat
  | 0 => 0
  | count + 1 => (byteAt data pos).toNat + 256 * little data (pos + 1) count

/-- Whether the bytes from `pos` on are `P`, `K` and two numbers. -/
def hasMark (data : ByteArray) (pos : Nat) (a b : UInt8) : Bool :=
  data.extract pos (pos + 4) == ⟨#[0x50, 0x4B, a, b]⟩

/-- The last place where the mark of an end record stands, below `bound` and
not below `least`. -/
def lastEndMark? (data : ByteArray) (least : Nat) : Nat → Option Nat
  | 0 => none
  | bound + 1 =>
    if bound < least then none
    else if hasMark data bound 5 6 then some bound
    else lastEndMark? data least bound

/-- What the end of an archive says about its directory. -/
structure EndRecord where
  /-- Where the record is. -/
  position : Nat
  size : Nat
  offset : Nat
  /-- The bytes of the large form that stand before the record. -/
  extension : Nat
  deriving DecidableEq, Repr

/-- The size of an end record without its comment. -/
def endSize : Nat := 22

/-- The size of the pointer to a large end record. -/
def locatorSize : Nat := 20

/-- The size of a large end record. -/
def largeEndSize : Nat := 56

/-- Takes the large form of an end record into account, if there is one. -/
def extended (data : ByteArray) (r : EndRecord) : Except ZipError EndRecord :=
  if r.position < locatorSize then .ok r
  else
    let locator := r.position - locatorSize
    if !hasMark data locator 6 7 then .ok r
    else if little data (locator + 4) 4 ≠ 0 || 1 < little data (locator + 16) 4 then
      .error .severalDisks
    else if locator < largeEndSize then .error .notZip
    else
      let large := locator - largeEndSize
      if !hasMark data large 6 6 then .ok r
      else
        .ok { r with
          size := little data (large + 40) 8
          offset := little data (large + 48) 8
          extension := locatorSize + largeEndSize }

/-- Finds the end record: at the very end without a comment, or else the
last one within reach of a comment. -/
def endRecord (data : ByteArray) : Except ZipError EndRecord :=
  if data.size < endSize then .error .notZip
  else
    let plain := data.size - endSize
    let position? :=
      if hasMark data plain 5 6 && little data (plain + 20) 2 = 0 then some plain
      else lastEndMark? data (data.size - 65536 - endSize) data.size
    match position? with
    | none => .error .notZip
    | some p =>
      if data.size < p + endSize then .error .notZip
      else extended data ⟨p, little data (p + 12) 4, little data (p + 16) 4, 0⟩

/-! ### The directory -/

/-- The upper half of the old code page for names. -/
def oldNameChars : List Char :=
  ("ÇüéâäàåçêëèïîìÄÅÉæÆôöòûùÿÖÜ¢£¥₧ƒáíóúñÑªº¿⌐¬½¼¡«»░▒▓│┤╡╢╖╕╣║╗╝╜╛┐└┴┬├─┼╞╟╚╔╩╦╠═╬╧╨╤╥╙╘╒╓╫╪┘┌" ++
    "█▄▌▐▀αßΓπΣσµτΦΘΩδ∞φε∩≡±≥≤⌠⌡÷≈°∙·√ⁿ²■\u00a0").toList

/-- The character of a byte in the old code page. -/
def oldNameChar (b : UInt8) : Char :=
  if b < 0x80 then Char.ofNat b.toNat else oldNameChars.getD (b.toNat - 0x80) ' '

/-- Whether a flag is set. -/
def hasFlag (flags bit : Nat) : Bool := flags / bit % 2 = 1

/-- The flag that says that a name is UTF-8. -/
def utf8Flag : Nat := 0x800

/-- Reads a name. -/
def readName (flags : Nat) (bytes : List UInt8) : Except ZipError (List Char) :=
  if hasFlag flags utf8Flag then (Text.Utf8.decode bytes).mapError .badName
  else .ok (bytes.map oldNameChar)

/-- The size that says that the true one stands among the extra fields. -/
def moved : Nat := 0xFFFFFFFF

/-- A number of eight bytes, from a field that may be too short. -/
def eight (field : String) (data : ByteArray) (pos stop : Nat) : Except ZipError Nat :=
  if stop < pos + 8 then .error (.corruptSizes field) else .ok (little data pos 8)

/-- Sizes and position from the extra field for large archives. -/
def largeSizes (data : ByteArray) (pos stop : Nat) (m : Member) : Except ZipError Member := do
  let isMoved := m.size = moved || m.size = 0xFFFFFFFFFFFFFFFF
  let size ← if isMoved then eight "File size" data pos stop else .ok m.size
  let pos := if isMoved then pos + 8 else pos
  let isPackedMoved := m.packedSize = moved
  let packedSize ← if isPackedMoved then eight "Compress size" data pos stop else .ok m.packedSize
  let pos := if isPackedMoved then pos + 8 else pos
  let position ← if m.position = moved then Int.ofNat <$> eight "Header offset" data pos stop
    else .ok m.position
  return { m with size, packedSize, position }

/-- Applies the extra fields of a member. -/
def readExtra (data : ByteArray) (pos stop : Nat) (m : Member) : Except ZipError Member :=
  if stop < pos + 4 then .ok m
  else
    let id := little data pos 2
    let size := little data (pos + 2) 2
    if stop < pos + 4 + size then .error (.corruptExtra id size)
    else do
      let m ← if id = 1 then largeSizes data (pos + 4) (pos + 4 + size) m else .ok m
      readExtra data (pos + 4 + size) stop m
  termination_by stop - pos

/-- The size of a directory entry without its name, extra fields and comment. -/
def entrySize : Nat := 46

/-- The latest version that members may need, times ten. -/
def latestVersion : Nat := 63

/-- Reads the directory entry at `pos`.  Positions are shifted by `shift`. -/
def readEntry (data : ByteArray) (pos : Nat) (shift : Int) : Except ZipError Member := do
  if data.size < pos + entrySize then .error .truncatedDirectory
  if !hasMark data pos 1 2 then .error .badDirectoryMagic
  let flags := little data (pos + 8) 2
  let nameStart := pos + entrySize
  let extraStart := nameStart + little data (pos + 28) 2
  let commentStart := extraStart + little data (pos + 30) 2
  let fullName ← readName flags (data.extract nameStart extraStart).data.toList
  let version := little data (pos + 6) 1
  if latestVersion < version then .error (.laterVersion version)
  let m : Member := {
    name := fullName.takeWhile (· ≠ '\x00')
    fullName, flags
    method := little data (pos + 10) 2
    sum := little data (pos + 16) 4
    packedSize := little data (pos + 20) 4
    size := little data (pos + 24) 4
    attributes := little data (pos + 38) 4
    position := little data (pos + 42) 4 }
  let m ← readExtra data extraStart (min commentStart data.size) m
  return { m with position := m.position + shift }

/-- How many bytes the entry at `pos` takes. -/
def entryLength (data : ByteArray) (pos : Nat) : Nat :=
  entrySize + little data (pos + 28) 2 + little data (pos + 30) 2 + little data (pos + 32) 2

theorem entryLength_pos (data : ByteArray) (pos : Nat) : 0 < entryLength data pos := by
  simp only [entryLength, entrySize]
  omega

/-- Reads the entries from `pos` on, while they start before `stop`. -/
def readEntries (data : ByteArray) (stop pos : Nat) (shift : Int) :
    Except ZipError (List Member) :=
  if _h : pos < stop then do
    let m ← readEntry data pos shift
    return m :: (← readEntries data stop (pos + entryLength data pos) shift)
  else .ok []
  termination_by stop - pos
  decreasing_by have := entryLength_pos data pos; omega

/-- The end record of an archive, and where its directory starts. -/
def directoryPlace (data : ByteArray) : Except ZipError (EndRecord × Nat) := do
  let r ← endRecord data
  if r.position < r.size + r.extension then .error .badOffset
  return (r, r.position - r.size - r.extension)

/-- The members of an archive in the order of its directory. -/
def directory (data : ByteArray) : Except ZipError (List Member) := do
  let (r, start) ← directoryPlace data
  let shift := Int.ofNat start - Int.ofNat r.offset
  -- Nothing behind the directory counts as part of it.
  readEntries (data.extract 0 (start + r.size)) (start + r.size) start shift

/-- The member with a name; of several the last one. -/
def member? (members : List Member) (name : List Char) : Option Member :=
  members.reverse.find? (·.name == name)

/-! ### Members -/

/-- Where the data of a member have to stop: at the next header, or at the
directory, which starts at `start`.  Of several members with one header all
but the first have no room. -/
def Member.limit (members : List Member) (start : Int) (m : Member) : Int :=
  let earlier := (members.reverse.dropWhile (· ≠ m)).drop 1
  if earlier.any (·.position = m.position) then m.position
  else (((members.map Member.position).filter (m.position < ·)).min?).getD start

/-- Where a member lies in a file, if its data start at `pos`. -/
def extent (data : ByteArray) (m : Member) (pos : Nat) : Extent :=
  let members := (directory data).toOption.getD []
  let start := ((directoryPlace data).toOption.map Prod.snd).getD 0
  ⟨m.position, pos + m.packedSize, m.limit members start⟩

/-- The size of a header without name and extra fields. -/
def headerSize : Nat := 30

/-- Positions in files are numbers of 64 bits with a sign; this is the first
one beyond them. -/
def positionBound : Nat := 0x8000000000000000

/-- What is said about a position that is no such number. -/
def unfitPosition : LibraryError where
  kind := "ValueError"
  message := "cannot fit 'int' into an offset-sized integer"
  standing := .expected

/-- What is said about a position that the system does not go to. -/
def deniedPosition : LibraryError where
  kind := "OSError"
  message := "[Errno 22] Invalid argument"
  standing := .system

/-- Where the header of a member is, if a file goes so far. -/
def headerPlace (reader : Reader) (m : Member) : Except ZipError Nat :=
  match m.position with
  | .ofNat n =>
    if positionBound ≤ n then .error (.library unfitPosition)
    else if reader.farthest < n then .error (.library deniedPosition)
    else .ok n
  | .negSucc n =>
    if positionBound ≤ n then .error (.library unfitPosition) else .error .negativePosition

/-- Where the data of a member starts. -/
def dataStart (reader : Reader) (data : ByteArray) (m : Member) : Except ZipError Nat := do
  let pos ← headerPlace reader m
  if data.size < pos + headerSize then .error .truncatedHeader
  if !hasMark data pos 3 4 then .error .badHeaderMagic
  let nameStart := pos + headerSize
  let extraStart := nameStart + little data (pos + 26) 2
  let name := (data.extract nameStart extraStart).data.toList
  if hasFlag m.flags 0x20 then .error .patched
  if hasFlag m.flags 0x40 then .error .stronglyEncrypted
  let shown ← readName (little data (pos + 6) 2) name
  if shown ≠ m.fullName then .error (.nameMismatch m.fullName name)
  let start := min (extraStart + little data (pos + 28) 2) data.size
  if reader.refuses (extent data m start) then .error (.overlapped m.fullName)
  if hasFlag m.flags 1 then .error (.encrypted m)
  return start

/-- How many bytes of a member are produced at a time. -/
def roundSize : Nat := 65536

/-- The end of the first round that produces the last byte wanted. -/
def lastRound (size : Nat) : Nat := roundSize * max 1 ((size + roundSize - 1) / roundSize)

/-- The bytes of a stored member before the checksum is looked at. -/
def storedBytes (packed : ByteArray) (m : Member) : Except ZipError ByteArray :=
  if packed.size < m.packedSize && (packed.size < m.size || packed.isEmpty) then .error .cutOff
  else .ok (packed.extract 0 m.size)

/-- The bytes of a deflated member before the checksum is looked at.  What
comes after the round with the last byte wanted is not read. -/
def inflatedBytes (packed : ByteArray) (m : Member) : Except ZipError ByteArray :=
  let limit := lastRound m.size
  let (stop, out) := inflate packed 0 limit
  let wanted := out.extract 0 m.size
  if packed.isEmpty && 0 < m.packedSize then .error .cutOff
  else if limit < out.size then .ok wanted
  else
    match stop with
    | .failed d => .error (.badData d)
    | .starved =>
      if packed.size < m.packedSize && out.size < m.size then .error .cutOff else .ok wanted
    | _ => .ok wanted

/-- The least number of packed bytes that are read at a time. -/
def leastPiece : Nat := 4096

/-- How many packed bytes are read when `done` bytes have been produced: as
many as are missing of a round, but not too few. -/
def pieceSize (done : Nat) : Nat := max (roundSize - done % roundSize) leastPiece

/-- The bytes of a member before the checksum is looked at, where a decoder
was given the pieces `fed` up to `pos`, and has produced `out`.  It is given
no more once it says that the data end, or all packed bytes were read, or all
bytes wanted are there. -/
def unpackFrom (unpack : Unpacker) (packed : ByteArray) (m : Member) (fed : List ByteArray)
    (pos : Nat) (out : ByteArray) : Except ZipError ByteArray :=
  let piece := packed.extract pos (min (pos + pieceSize out.size) m.packedSize)
  if _hcut : piece.size = 0 ∧ pos < m.packedSize then .error .cutOff
  else
    match unpack fed piece with
    | .error e => .error (.library e)
    | .ok (more, ends) =>
      let out := (out ++ more).extract 0 m.size
      if _hdone : ends ∨ m.packedSize ≤ pos + piece.size ∨ m.size ≤ out.size then .ok out
      else unpackFrom unpack packed m (fed ++ [piece]) (pos + piece.size) out
  termination_by m.packedSize - pos
  decreasing_by
    obtain ⟨-, _, -⟩ := not_or.1 _hdone |>.imp_right not_or.1
    show m.packedSize - (pos + piece.size) < m.packedSize - pos
    omega

/-- What is said where the library of a decoder is not there. -/
def missingDecoder (name : String) : LibraryError where
  kind := "RuntimeError"
  message := "Compression requires the (missing) " ++ name ++ " module"
  standing := .expected

/-- The bytes of a member that a decoder is needed for. -/
def unpackedBytes (name : String) (unpack? : Option Unpacker) (packed : ByteArray) (m : Member) :
    Except ZipError ByteArray :=
  match unpack? with
  | none => .error (.library (missingDecoder name))
  | some unpack => unpackFrom unpack packed m [] 0 .empty

/-- The bytes of a member, packed in its own way, before the checksum is
looked at. -/
def unpacked (reader : Reader) (packed : ByteArray) (m : Member) : Except ZipError ByteArray :=
  match m.method with
  | 0 => storedBytes packed m
  | 8 => inflatedBytes packed m
  | 12 => unpackedBytes "bz2" reader.bzip2 packed m
  | 14 => unpackedBytes "lzma" reader.lzma packed m
  | _ => .error .unknownMethod

/-- The content of a member. -/
def contents (reader : Reader) (data : ByteArray) (m : Member) : Except ZipError ByteArray := do
  let start ← dataStart reader data m
  let bytes ← unpacked reader (data.extract start (start + m.packedSize)) m
  if (crc32 bytes).toNat ≠ m.sum then .error (.badSum m.name)
  return bytes

/-! ### Messages -/

/-- The names of compression methods. -/
def methodName (n : Nat) : String :=
  match n with
  | 1 => "shrink"
  | 2 | 3 | 4 | 5 => "reduce"
  | 6 | 10 => "implode"
  | 7 => "tokenize"
  | 8 => "deflate"
  | 9 => "deflate64"
  | 12 => "bzip2"
  | 14 => "lzma"
  | 18 => "terse"
  | 19 => "lz77"
  | 97 => "wavpack"
  | 98 => "ppmd"
  | n => toString n

/-- The letter for the kind of a file with a given mode. -/
def kindLetter (mode : Nat) : Char :=
  match mode / 4096 with
  | 8 => '-'
  | 4 => 'd'
  | 10 => 'l'
  | 6 => 'b'
  | 2 => 'c'
  | 1 => 'p'
  | 12 => 's'
  | _ => '?'

/-- Three letters for one set of permissions, the last one changed by a
special bit. -/
def permissionLetters (p : Nat) (special : Bool) (letter : Char) : List Char :=
  [if hasFlag p 4 then 'r' else '-', if hasFlag p 2 then 'w' else '-',
    if special then (if hasFlag p 1 then letter else letter.toUpper)
    else if hasFlag p 1 then 'x' else '-']

/-- A file mode as ten letters. -/
def modeLetters (mode : Nat) : List Char :=
  kindLetter mode :: permissionLetters (mode / 64) (hasFlag mode 0x800) 's' ++
    permissionLetters (mode / 8) (hasFlag mode 0x400) 's' ++
    permissionLetters mode (hasFlag mode 0x200) 't'

/-- A member on one line. -/
def Member.summary (m : Member) : String :=
  let isDir := m.name.getLast? = some '/'
  let mode := m.attributes / 65536
  let low := m.attributes % 65536
  String.join [
    "<ZipInfo filename=", String.ofList (Text.quote m.name),
    if m.method = 0 then "" else " compress_type=" ++ methodName m.method,
    if mode = 0 then "" else " filemode='" ++ String.ofList (modeLetters mode) ++ "'",
    if low = 0 then "" else " external_attr=0x" ++ String.ofList (Nat.toDigits 16 low),
    if isDir && m.size = 0 then "" else " file_size=" ++ toString m.size,
    if (isDir && m.packedSize = 0) || (m.method = 0 && m.size = m.packedSize) then ""
    else " compress_size=" ++ toString m.packedSize,
    ">"]

namespace ZipError

/-- The archive itself is not built as it should be, rather than using
something that is not supported. -/
def isStructural : ZipError → Bool
  | notZip | severalDisks | badOffset | truncatedDirectory | badDirectoryMagic
  | corruptExtra _ _ | corruptSizes _ | truncatedHeader | badHeaderMagic | nameMismatch _ _
  | overlapped _ | badSum _ => true
  | _ => false

/-- What is said about an archive that cannot be read. -/
def message : ZipError → String
  | notZip => "File is not a zip file"
  | severalDisks => "zipfiles that span multiple disks are not supported"
  | badOffset => "Bad offset for central directory"
  | truncatedDirectory => "Truncated central directory"
  | badDirectoryMagic => "Bad magic number for central directory"
  | corruptExtra id size =>
    "Corrupt extra field " ++ String.ofList (Text.hex 4 id) ++ " (size=" ++ toString size ++ ")"
  | corruptSizes field => "Corrupt zip64 extra field. " ++ field ++ " not found."
  | truncatedHeader => "Truncated file header"
  | badHeaderMagic => "Bad magic number for file header"
  | nameMismatch inDirectory inHeader =>
    "File name in directory " ++ String.ofList (Text.quote inDirectory) ++ " and header " ++
      String.ofList (Text.quoteBytes inHeader) ++ " differ."
  | overlapped name =>
    "Overlapped entries: " ++ String.ofList (Text.quote name) ++ " (possible zip bomb)"
  | badSum name => "Bad CRC-32 for file " ++ String.ofList (Text.quote name)
  | badName fault => fault.message
  | laterVersion n => "zip file version " ++ toString (n / 10) ++ "." ++ toString (n % 10)
  | patched => "compressed patched data (flag bit 5)"
  | stronglyEncrypted => "strong encryption (flag bit 6)"
  | encrypted m => "File " ++ m.summary ++ " is encrypted, password required for extraction"
  | unknownMethod => "That compression method is not supported"
  | negativePosition => "[Errno 22] Invalid argument"
  | cutOff => ""
  | badData d => d.message
  | library e => e.message

end ZipError

end ReleaseGate.Archive
