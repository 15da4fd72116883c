import DocumentSchema.Text.Utf8

/-!
# Inflating

A compressed stream is a sequence of blocks: stored octets, or symbols of a prefix code that stand
for octets and for copies of earlier output. The stream is read bit by bit from a list, so every
place where it can end too early is visible: reading then stops as *truncated* and the output so far
stands. A stream that breaks the format stops as *corrupt*; what had been decoded into the current
window of `2^15` octets is lost with it.

The code is total: each step of a block takes at least one bit, so the number of bits bounds the
steps.
-/

namespace DocumentSchema.Gzip

/-- Bits in the order of the stream, the lowest of each octet first. -/
abbrev Bits := List Bool

/-- Why a stream ended before its end. -/
inductive Stop where
  | truncated
  | corrupt
  deriving DecidableEq, Repr

/-- The bits of an octet. -/
private def bitsOfOctet (octet : UInt8) : Bits := (List.range 8).map octet.toNat.testBit

/-- The bits of octets. -/
def bitsOf (octets : Octets) : Bits := octets.flatMap bitsOfOctet

/-- A number of so many bits, the lowest first. -/
private def takeNumber : Nat → Bits → Except Stop (Nat × Bits)
  | 0, bits => .ok (0, bits)
  | _ + 1, [] => .error .truncated
  | count + 1, bit :: bits => do
    let (value, rest) ← takeNumber count bits
    return (2 * value + bit.toNat, rest)

/-! ## Prefix codes -/

/-- A canonical prefix code: for each length from one on the number of codewords, and all symbols in
the order of their codewords. -/
private structure PrefixCode where
  counts : List Nat
  symbols : Array Nat

/-- The longest codeword. -/
private def maxCodeLength : Nat := 15

/-- The code in which symbol `i` has the `i`-th length; length zero means no codeword. -/
private def PrefixCode.ofLengths (lengths : List Nat) : PrefixCode :=
  let indexed := lengths.zipIdx
  let withLength (length : Nat) : List Nat :=
    (indexed.filter (·.1 = length)).map (·.2)
  let groups := (List.range maxCodeLength).map fun k ↦ withLength (k + 1)
  ⟨groups.map List.length, groups.flatten.toArray⟩

/-- The codewords fill the space of all words exactly. If asked for, a code with at most one
codeword may leave space. -/
private def PrefixCode.isComplete (code : PrefixCode) (maySingle : Bool) : Bool :=
  let filled := code.counts.foldl (fun total count ↦ 2 * total + count) 0
  filled == Nat.pow 2 maxCodeLength || (maySingle && code.symbols.size ≤ 1)

/-- The symbol of the codeword in front. The word read so far is compared with the first codeword of
each length. -/
private def PrefixCode.decode (symbols : Array Nat) :
    List Nat → Nat → Nat → Nat → Bits → Except Stop (Nat × Bits)
  | [], _, _, _, _ => .error .corrupt
  | _ :: _, _, _, _, [] => .error .truncated
  | count :: counts, word, first, index, bit :: bits =>
    let word := 2 * word + bit.toNat
    let first := 2 * first
    if word < first + count then
      match symbols[index + (word - first)]? with
      | some symbol => .ok (symbol, bits)
      | none => .error .corrupt
    else PrefixCode.decode symbols counts word (first + count) (index + count) bits

private def PrefixCode.read (code : PrefixCode) (bits : Bits) : Except Stop (Nat × Bits) :=
  PrefixCode.decode code.symbols code.counts 0 0 0 bits

/-! ## Lengths and distances -/

/-- The least length and the number of extra bits for each length symbol. -/
private def lengthTable : Array (Nat × Nat) :=
  #[(3, 0), (4, 0), (5, 0), (6, 0), (7, 0), (8, 0), (9, 0), (10, 0), (11, 1), (13, 1), (15, 1),
    (17, 1), (19, 2), (23, 2), (27, 2), (31, 2), (35, 3), (43, 3), (51, 3), (59, 3), (67, 4),
    (83, 4), (99, 4), (115, 4), (131, 5), (163, 5), (195, 5), (227, 5), (258, 0)]

/-- The least distance and the number of extra bits for each distance symbol. -/
private def distanceTable : Array (Nat × Nat) :=
  #[(1, 0), (2, 0), (3, 0), (4, 0), (5, 1), (7, 1), (9, 2), (13, 2), (17, 3), (25, 3), (33, 4),
    (49, 4), (65, 5), (97, 5), (129, 6), (193, 6), (257, 7), (385, 7), (513, 8), (769, 8),
    (1025, 9), (1537, 9), (2049, 10), (3073, 10), (4097, 11), (6145, 11), (8193, 12), (12289, 12),
    (16385, 13), (24577, 13)]

/-- A table's number with its extra bits. -/
private def readFrom (table : Array (Nat × Nat)) (symbol : Nat) (bits : Bits) :
    Except Stop (Nat × Bits) :=
  match table[symbol]? with
  | none => .error .corrupt
  | some (least, extra) => do
    let (more, bits) ← takeNumber extra bits
    return (least + more, bits)

/-- Output copied from a distance back, octet by octet. Before the start of the output there are
zeros. -/
private def copyBack (distance : Nat) : Nat → Array UInt8 → Array UInt8
  | 0, out => out
  | count + 1, out =>
    let octet := if distance ≤ out.size then out[out.size - distance]?.getD 0 else 0
    copyBack distance count (out.push octet)

/-! ## Blocks -/

/-- What has been read: the output, and the bits that are left or the reason to stop. -/
private abbrev Progress := Array UInt8 × Except Stop Bits

private def readSymbols (literals distances : PrefixCode) :
    Nat → Array UInt8 → Bits → Progress
  | 0, out, _ => (out, .error .corrupt)
  | fuel + 1, out, bits =>
    match literals.read bits with
    | .error stop => (out, .error stop)
    | .ok (symbol, bits) =>
      if symbol < 256 then readSymbols literals distances fuel (out.push symbol.toUInt8) bits
      else if symbol = 256 then (out, .ok bits)
      else
        let copy : Except Stop (Nat × Nat × Bits) := do
          let (length, bits) ← readFrom lengthTable (symbol - 257) bits
          let (symbol, bits) ← distances.read bits
          let (distance, bits) ← readFrom distanceTable symbol bits
          return (length, distance, bits)
        match copy with
        | .error stop => (out, .error stop)
        | .ok (length, distance, bits) =>
          readSymbols literals distances fuel (copyBack distance length out) bits

private def fixedLiterals : PrefixCode :=
  .ofLengths (List.replicate 144 8 ++ List.replicate 112 9 ++ List.replicate 24 7 ++
    List.replicate 8 8)

private def fixedDistances : PrefixCode := .ofLengths (List.replicate 30 5)

/-- The order in which the lengths of the code for lengths are written. -/
private def lengthOrder : List Nat :=
  [16, 17, 18, 0, 8, 7, 9, 6, 10, 5, 11, 4, 12, 3, 13, 2, 14, 1, 15]

private def readNumbers (width : Nat) : Nat → Bits → Except Stop (List Nat × Bits)
  | 0, bits => .ok ([], bits)
  | count + 1, bits => do
    let (value, bits) ← takeNumber width bits
    let (values, bits) ← readNumbers width count bits
    return (value :: values, bits)

/-- Code lengths with their repetitions written out; those read so far come in reverse. -/
private def readLengths (code : PrefixCode) (wanted : Nat) :
    Nat → List Nat → Bits → Except Stop (List Nat × Bits)
  | 0, _, _ => .error .corrupt
  | fuel + 1, done, bits =>
    if wanted ≤ done.length then
      if done.length = wanted then .ok (done.reverse, bits) else .error .corrupt
    else do
      let (symbol, bits) ← code.read bits
      if symbol < 16 then readLengths code wanted fuel (symbol :: done) bits
      else if symbol = 16 then
        match done with
        | [] => .error .corrupt
        | last :: _ =>
          let (more, bits) ← takeNumber 2 bits
          readLengths code wanted fuel (List.replicate (3 + more) last ++ done) bits
      else if symbol = 17 then
        let (more, bits) ← takeNumber 3 bits
        readLengths code wanted fuel (List.replicate (3 + more) 0 ++ done) bits
      else
        let (more, bits) ← takeNumber 7 bits
        readLengths code wanted fuel (List.replicate (11 + more) 0 ++ done) bits

/-- The codes that a block brings along. -/
private def readCodes (bits : Bits) : Except Stop (PrefixCode × PrefixCode × Bits) := do
  let (literals, bits) ← takeNumber 5 bits
  let (distances, bits) ← takeNumber 5 bits
  let (lengths, bits) ← takeNumber 4 bits
  let literals := literals + 257
  let distances := distances + 1
  if 286 < literals || 30 < distances then throw .corrupt
  let (widths, bits) ← readNumbers 3 (lengths + 4) bits
  let placed := lengthOrder.zip widths
  let code := PrefixCode.ofLengths ((List.range 19).map fun k ↦ (placed.lookup k).getD 0)
  if !code.isComplete false then throw .corrupt
  let wanted := literals + distances
  let (all, bits) ← readLengths code wanted (wanted + 1) [] bits
  let literalCode := PrefixCode.ofLengths (all.take literals)
  let distanceCode := PrefixCode.ofLengths (all.drop literals)
  if !literalCode.isComplete true || !distanceCode.isComplete true then throw .corrupt
  return (literalCode, distanceCode, bits)

/-- Octets as they stand. -/
private def readStored : Nat → Array UInt8 → Bits → Progress
  | 0, out, bits => (out, .ok bits)
  | count + 1, out, bits =>
    match takeNumber 8 bits with
    | .error stop => (out, .error stop)
    | .ok (octet, bits) => readStored count (out.push octet.toUInt8) bits

/-- The length of a stored block; its complement follows it. -/
private def readStoredLength (bits : Bits) : Except Stop (Nat × Bits) := do
  let (length, bits) ← takeNumber 16 (bits.drop (bits.length % 8))
  let (complement, bits) ← takeNumber 16 bits
  if length + complement = 65535 then return (length, bits) else throw .corrupt

/-- One block after its first bit. -/
private def readBlock (out : Array UInt8) (bits : Bits) : Progress :=
  match takeNumber 2 bits with
  | .error stop => (out, .error stop)
  | .ok (0, bits) =>
    match readStoredLength bits with
    | .error stop => (out, .error stop)
    | .ok (length, bits) => readStored length out bits
  | .ok (1, bits) => readSymbols fixedLiterals fixedDistances (bits.length + 1) out bits
  | .ok (2, bits) =>
    match readCodes bits with
    | .error stop => (out, .error stop)
    | .ok (literals, distances, bits) =>
      readSymbols literals distances (bits.length + 1) out bits
  | .ok _ => (out, .error .corrupt)

private def readBlocks : Nat → Array UInt8 → Bits → Progress
  | 0, out, _ => (out, .error .corrupt)
  | fuel + 1, out, bits =>
    match bits with
    | [] => (out, .error .truncated)
    | last :: bits =>
      match readBlock out bits with
      | (out, .ok bits) => if last then (out, .ok bits) else readBlocks fuel out bits
      | stopped => stopped

/-- The size of the window that is lost when a stream is corrupt. -/
def windowSize : Nat := Nat.pow 2 15

/-- The output of a compressed stream, and the bits after it up to a whole octet, or why there are
none. -/
def inflate (bits : Bits) : Octets × Except Stop Bits :=
  match readBlocks (bits.length + 1) #[] bits with
  | (out, .ok rest) => (out.toList, .ok (rest.drop (rest.length % 8)))
  | (out, .error .truncated) => (out.toList, .error .truncated)
  | (out, .error .corrupt) =>
    (out.toList.take (out.size / windowSize * windowSize), .error .corrupt)

end DocumentSchema.Gzip
