/-
ReleaseGate/Archive/Inflate.lean

Decompression of deflated data.

The data is a stream of bits, the low bit of each byte first, in blocks.
A block is stored as it is, or coded with two prefix codes: one for single
bytes and lengths of repetitions, one for their distances.  A code is given
by the lengths of its words; words of one length are in the order of their
symbols, and longer words come after shorter ones.

Reading stops at the end of the last block, when the bits run out, at data
that no coder writes, or when the output has passed a limit.  What was
written before the stop is kept in each case.  Every step of a loop uses up
at least one bit, which is why the loops end.
-/
import ReleaseGate.Bytes

namespace ReleaseGate.Archive

/-- What no coder writes. -/
inductive InflateDefect where
  | blockType
  | storedLengths
  | tooManySymbols
  | codeLengths
  | lengthRepeat
  | noEndOfBlock
  | literalLengths
  | distanceLengths
  | literalCode
  | distanceCode
  | distanceTooFar
  | headerCheck
  | method
  | headerFlags
  | headerSum
  | windowSize
  | dataSum
  | lengthSum
  /-- A dictionary is needed that is not part of the data. -/
  | dictionary
  deriving DecidableEq, Repr

/-- The name of a defect. -/
def InflateDefect.name : InflateDefect → String
  | blockType => "invalid block type"
  | storedLengths => "invalid stored block lengths"
  | tooManySymbols => "too many length or distance symbols"
  | codeLengths => "invalid code lengths set"
  | lengthRepeat => "invalid bit length repeat"
  | noEndOfBlock => "invalid code -- missing end-of-block"
  | literalLengths => "invalid literal/lengths set"
  | distanceLengths => "invalid distances set"
  | literalCode => "invalid literal/length code"
  | distanceCode => "invalid distance code"
  | distanceTooFar => "invalid distance too far back"
  | headerCheck => "incorrect header check"
  | method => "unknown compression method"
  | headerFlags => "unknown header flags set"
  | headerSum => "header crc mismatch"
  | windowSize => "invalid window size"
  | dataSum => "incorrect data check"
  | lengthSum => "incorrect length check"
  | dictionary => ""

/-- What is said about data that no coder writes. -/
def InflateDefect.message : InflateDefect → String
  | dictionary => "Error 2 while decompressing data"
  | d => "Error -3 while decompressing data: " ++ d.name

/-- Why reading stopped. -/
inductive Stop where
  /-- At the end of the last block; the next unread bit is given. -/
  | finished (pos : Nat)
  /-- The bits ran out. -/
  | starved
  /-- The output passed its limit. -/
  | full
  | failed (d : InflateDefect)
  deriving DecidableEq, Repr

/-! ### Bits -/

/-- The bit at a position; `none` behind the end. -/
def bitAt? (data : ByteArray) (pos : Nat) : Option Nat :=
  (byteAt? data (pos / 8)).map fun b => (b.toNat >>> (pos % 8)) % 2

/-- The number in the next `count` bits, the first bit lowest. -/
def bits (data : ByteArray) (pos : Nat) : Nat → Except Stop Nat
  | 0 => .ok 0
  | count + 1 =>
    match bitAt? data pos with
    | none => .error .starved
    | some b => (bits data (pos + 1) count).map (2 * · + b)

/-! ### Prefix codes -/

/-- A code: how many words of each length there are, and the symbols in the
order of their words. -/
structure PrefixCode where
  counts : Array Nat
  symbols : Array Nat
  /-- The length of the longest word; at least one. -/
  longest : Nat
  deriving Repr

/-- The greatest length of a word. -/
def maxWord : Nat := 15

namespace PrefixCode

/-- The code whose words have the given lengths, symbol by symbol; a length
of zero leaves a symbol out. -/
def ofLengths (lengths : List Nat) : PrefixCode :=
  let counts := lengths.foldl (fun a n => a.modify n (· + 1)) (Array.replicate (maxWord + 1) 0)
  let numbered := lengths.zipIdx
  let symbols := (List.range maxWord).flatMap fun n =>
    (numbered.filter (·.1 == n + 1)).map (·.2)
  ⟨counts, symbols.toArray, max 1 (lengths.foldl max 0)⟩

/-- How many words of the greatest length are left over; negative when there
are too many words. -/
def room (c : PrefixCode) : Int :=
  (List.range maxWord).foldl (fun room n => 2 * room - (c.counts.getD (n + 1) 0 : Nat)) 1

/-- Too many words of some length. -/
def isCrowded (c : PrefixCode) : Bool :=
  ((List.range maxWord).foldl (fun (room, bad) n =>
    let room : Int := 2 * room - (c.counts.getD (n + 1) 0 : Nat)
    (room, bad || room < 0)) ((1 : Int), false)).2

/-- There are no words at all. -/
def isEmpty (c : PrefixCode) : Bool := c.symbols.isEmpty

/-- The words fill their room; a single word of one bit may also stand alone
where `lenient`, and no word at all is no fault either. -/
def isSound (c : PrefixCode) (lenient : Bool) : Bool :=
  c.isEmpty || (!c.isCrowded && (c.room = 0 || (lenient && c.longest = 1)))

/-- Reads a word bit by bit.  `code` is the word so far, `first` the first
word of its length, and `index` the place of that word among the symbols.
No symbol is given for bits that are no word. -/
def readFrom (c : PrefixCode) (data : ByteArray) :
    Nat → Nat → Nat → Nat → Nat → Nat → Except Stop (Option Nat × Nat)
  | 0, _, pos, _, _, _ => .ok (none, pos)
  | left + 1, len, pos, code, first, index =>
    match bitAt? data pos with
    | none => .error .starved
    | some b =>
      let code := 2 * code + b
      let count := c.counts.getD len 0
      if code < first + count then .ok (c.symbols[index + (code - first)]?, pos + 1)
      else readFrom c data left (len + 1) (pos + 1) code (2 * (first + count)) (index + count)

/-- The symbol of the next word, and the position after it. -/
def read (c : PrefixCode) (data : ByteArray) (pos : Nat) : Except Stop (Option Nat × Nat) :=
  c.readFrom data c.longest 1 pos 0 0 0

end PrefixCode

/-! ### Repetitions -/

/-- The shortest length of each length symbol, and its extra bits. -/
def lengthTable : Array (Nat × Nat) :=
  #[(3, 0), (4, 0), (5, 0), (6, 0), (7, 0), (8, 0), (9, 0), (10, 0), (11, 1), (13, 1), (15, 1),
    (17, 1), (19, 2), (23, 2), (27, 2), (31, 2), (35, 3), (43, 3), (51, 3), (59, 3), (67, 4),
    (83, 4), (99, 4), (115, 4), (131, 5), (163, 5), (195, 5), (227, 5), (258, 0)]

/-- The shortest distance of each distance symbol, and its extra bits. -/
def distanceTable : Array (Nat × Nat) :=
  #[(1, 0), (2, 0), (3, 0), (4, 0), (5, 1), (7, 1), (9, 2), (13, 2), (17, 3), (25, 3), (33, 4),
    (49, 4), (65, 5), (97, 5), (129, 6), (193, 6), (257, 7), (385, 7), (513, 8), (769, 8),
    (1025, 9), (1537, 9), (2049, 10), (3073, 10), (4097, 11), (6145, 11), (8193, 12),
    (12289, 12), (16385, 13), (24577, 13)]

/-- Appends `count` bytes, each a copy of the one `distance` bytes back. -/
def repeatBack (distance : Nat) : Nat → ByteArray → ByteArray
  | 0, out => out
  | count + 1, out =>
    repeatBack distance count (out.push (byteAt out (out.size - distance)))

/-- A repetition, from after its length symbol: its length, its distance and
the position after it. -/
def repetition (distances : PrefixCode) (data : ByteArray) (symbol pos : Nat) :
    Except Stop (Nat × Nat × Nat) := do
  match lengthTable[symbol - 257]? with
  | none => .error (.failed .literalCode)
  | some (base, extra) =>
    let length := base + (← bits data pos extra)
    let pos := pos + extra
    let (symbol, pos) ← distances.read data pos
    match symbol.bind (distanceTable[·]?) with
    | none => .error (.failed .distanceCode)
    | some (base, extra) =>
      let distance := base + (← bits data pos extra)
      return (length, distance, pos + extra)

/-- Reads one symbol with all that belongs to it: whether it ends the block,
and the position after it. -/
def readSymbol (literals distances : PrefixCode) (data : ByteArray) (pos : Nat)
    (out : ByteArray) : Except Stop (Bool × Nat) × ByteArray :=
  match literals.read data pos with
  | .error e => (.error e, out)
  | .ok (none, _) => (.error (.failed .literalCode), out)
  | .ok (some symbol, next) =>
    if symbol < 256 then (.ok (false, next), out.push (UInt8.ofNat symbol))
    else if symbol = 256 then (.ok (true, next), out)
    else
      match repetition distances data symbol next with
      | .error e => (.error e, out)
      | .ok (length, distance, next) =>
        if out.size < distance then (.error (.failed .distanceTooFar), out)
        else (.ok (false, next), repeatBack distance length out)

/-- Reads the symbols of a block up to its end. -/
def readSymbols (literals distances : PrefixCode) (data : ByteArray) (limit pos : Nat)
    (out : ByteArray) : Except Stop Nat × ByteArray :=
  if limit < out.size then (.error .full, out)
  else
    match readSymbol literals distances data pos out with
    | (.error e, out) => (.error e, out)
    | (.ok (isEnd, next), out) =>
      if isEnd then (.ok next, out)
      else if _h : pos < next ∧ pos < 8 * data.size then
        readSymbols literals distances data limit next out
      else (.error .starved, out)
  termination_by 8 * data.size - pos

/-! ### Blocks -/

/-- The fixed code for bytes and lengths. -/
def fixedLiterals : PrefixCode :=
  .ofLengths (List.replicate 144 8 ++ List.replicate 112 9 ++ List.replicate 24 7 ++
    List.replicate 8 8)

/-- The fixed code for distances. -/
def fixedDistances : PrefixCode := .ofLengths (List.replicate 30 5)

/-- The order in which the lengths of the code for lengths are given. -/
def lengthOrder : List Nat := [16, 17, 18, 0, 8, 7, 9, 6, 10, 5, 11, 4, 12, 3, 13, 2, 14, 1, 15]

/-- Reads `count` numbers of three bits. -/
def readThrees (data : ByteArray) (pos : Nat) : Nat → Except Stop (List Nat)
  | 0 => .ok []
  | count + 1 => do
    let n ← bits data pos 3
    return n :: (← readThrees data (pos + 3) count)

/-- Reads the word lengths of the two codes of a block, `done` being the
lengths so far, last one first, and `missing` how many are left. -/
def readLengths (code : PrefixCode) (data : ByteArray) (pos missing : Nat) (done : List Nat) :
    Except Stop (List Nat × Nat) :=
  match missing with
  | 0 => .ok (done.reverse, pos)
  | left + 1 => do
    let (symbol, pos) ← code.read data pos
    -- A code without words still takes a bit for each length.
    let symbol := symbol.getD 0
    if symbol < 16 then readLengths code data pos left (symbol :: done)
    else
      let (base, extra) := if symbol = 16 then (3, 2) else if symbol = 17 then (3, 3) else (11, 7)
      let count := base + (← bits data pos extra)
      if symbol = 16 && done.isEmpty then .error (.failed .lengthRepeat)
      else if _h : 0 < count ∧ count ≤ left + 1 then
        let value := if symbol = 16 then done.head?.getD 0 else 0
        readLengths code data (pos + extra) (left + 1 - count) (List.replicate count value ++ done)
      else .error (.failed .lengthRepeat)
  termination_by missing

/-- Reads the two codes of a block, from after its type. -/
def readCodes (data : ByteArray) (pos : Nat) : Except Stop (PrefixCode × PrefixCode × Nat) := do
  let header ← bits data pos 14
  let literalCount := header % 32 + 257
  let distanceCount := header / 32 % 32 + 1
  let orderCount := header / 1024 + 4
  if 286 < literalCount || 30 < distanceCount then .error (.failed .tooManySymbols)
  let threes ← readThrees data (pos + 14) orderCount
  let pos := pos + 14 + 3 * orderCount
  let given := lengthOrder.zip threes
  let code := PrefixCode.ofLengths ((List.range 19).map fun s =>
    ((given.find? (·.1 == s)).map (·.2)).getD 0)
  if !code.isSound false then .error (.failed .codeLengths)
  let (lengths, pos) ← readLengths code data pos (literalCount + distanceCount) []
  if lengths.getD 256 0 = 0 then .error (.failed .noEndOfBlock)
  let literals := PrefixCode.ofLengths (lengths.take literalCount)
  if !literals.isSound true then .error (.failed .literalLengths)
  let distances := PrefixCode.ofLengths (lengths.drop literalCount)
  if !distances.isSound true then .error (.failed .distanceLengths)
  return (literals, distances, pos)

/-- Copies a stored block, from after its type. -/
def readStored (data : ByteArray) (pos : Nat) (out : ByteArray) : Except Stop Nat × ByteArray :=
  let start := (pos + 7) / 8
  match bits data (8 * start) 32 with
  | .error e => (.error e, out)
  | .ok lengths =>
    let length := lengths % 65536
    if lengths / 65536 ≠ 65535 - length then (.error (.failed .storedLengths), out)
    else
      let piece := data.extract (start + 4) (start + 4 + length)
      let out := out ++ piece
      if piece.size < length then (.error .starved, out) else (.ok (8 * (start + 4 + length)), out)

/-- Reads one block: whether it is the last one, and the position after it. -/
def readBlock (data : ByteArray) (limit pos : Nat) (out : ByteArray) :
    Except Stop (Bool × Nat) × ByteArray :=
  match bits data pos 3 with
  | .error e => (.error e, out)
  | .ok header =>
    let (result, out) :=
      match header / 2 with
      | 0 => readStored data (pos + 3) out
      | 1 => readSymbols fixedLiterals fixedDistances data limit (pos + 3) out
      | 2 =>
        match readCodes data (pos + 3) with
        | .error e => (.error e, out)
        | .ok (literals, distances, next) => readSymbols literals distances data limit next out
      | _ => (.error (.failed .blockType), out)
    (result.map fun next => (header % 2 = 1, next), out)

/-- Reads blocks up to the last one. -/
def readBlocks (data : ByteArray) (limit pos : Nat) (out : ByteArray) : Stop × ByteArray :=
  if limit < out.size then (.full, out)
  else
    match readBlock data limit pos out with
    | (.error e, out) => (e, out)
    | (.ok (isLast, next), out) =>
      if isLast then (.finished next, out)
      else if _h : pos < next ∧ pos < 8 * data.size then readBlocks data limit next out
      else (.starved, out)
  termination_by 8 * data.size - pos

/-- Decompresses the data from byte `start` on.  The output is cut off soon
after `limit` bytes. -/
def inflate (data : ByteArray) (start limit : Nat) : Stop × ByteArray :=
  readBlocks data limit (8 * start) .empty

end ReleaseGate.Archive
