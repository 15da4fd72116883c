import DocumentSchema.Gzip.Inflate

/-!
# Compressed stores

A compressed store is a sequence of members, each a header, a compressed stream, and a trailer with
the checksum and the length of what it holds. The contents of a store are those of its members one
after the other. When a member is broken, everything decoded before that point can still be read,
and only then does reading fail.
-/

namespace DocumentSchema.Gzip

/-- The octets that a compressed store begins with. -/
def magic : Octets := [0x1f, 0x8b]

/-- The store is compressed. -/
def isCompressed (octets : Octets) : Bool := magic.isPrefixOf octets

/-! ## Checksums -/

private def crcBit (crc : UInt32) : UInt32 :=
  if crc &&& 1 = 1 then (crc >>> 1) ^^^ 0xEDB88320 else crc >>> 1

private def crcOctet (crc : UInt32) (octet : UInt8) : UInt32 :=
  (List.range 8).foldl (fun crc _ ↦ crcBit crc) (crc ^^^ octet.toUInt32)

/-- The checksum of octets. -/
def checksum (octets : Octets) : UInt32 := octets.foldl crcOctet 0xFFFFFFFF ^^^ 0xFFFFFFFF

/-- A number written with its lowest octet first. -/
private def littleEndian (octets : Octets) : Nat :=
  octets.foldr (fun octet value ↦ octet.toNat + 256 * value) 0

/-! ## Headers -/

private def takeOctets (count : Nat) (octets : Octets) : Option (Octets × Octets) :=
  let taken := octets.take count
  if taken.length = count then some (taken, octets.drop count) else none

/-- What follows a text that ends with a zero. -/
private def skipText (octets : Octets) : Option Octets :=
  match octets.dropWhile (· ≠ 0) with
  | [] => none
  | _ :: rest => some rest

/-- What follows a header. Its optional parts are skipped, and its checksum is checked if it has
one. -/
private def skipHeader (octets : Octets) : Option Octets := do
  let (fixed, rest) ← takeOctets 10 octets
  let flags := (fixed.getD 3 0).toNat
  if !isCompressed fixed || fixed.getD 2 0 != 8 || 32 ≤ flags then none
  else
    let rest ←
      if flags.testBit 2 then do
        let (size, rest) ← takeOctets 2 rest
        let (_, rest) ← takeOctets (littleEndian size) rest
        pure rest
      else pure rest
    let rest ← if flags.testBit 3 then skipText rest else pure rest
    let rest ← if flags.testBit 4 then skipText rest else pure rest
    if flags.testBit 1 then
      let header := octets.take (octets.length - rest.length)
      let (sum, rest) ← takeOctets 2 rest
      if littleEndian sum = (checksum header).toNat % 65536 then some rest else none
    else some rest

/-! ## Members -/

/-- The octets of whole octets of bits. -/
private def octetsOf : Nat → Bits → Octets
  | fuel + 1, bit :: bits =>
    let octet := (bit :: bits).take 8
    (octet.foldr (fun (bit : Bool) value ↦ bit.toNat + 2 * value) 0).toUInt8 ::
      octetsOf fuel ((bit :: bits).drop 8)
  | _, _ => []

/-- The contents of a sequence of members, and whether it was read to its end. -/
private def readMembers : Nat → Octets → Octets × Bool
  | 0, _ => ([], false)
  | fuel + 1, octets =>
    match skipHeader octets with
    | none => ([], false)
    | some body =>
      match inflate (bitsOf body) with
      | (out, .error _) => (out, false)
      | (out, .ok bits) =>
        match takeOctets 8 (octetsOf bits.length bits) with
        | none => (out, false)
        | some (trailer, rest) =>
          if littleEndian (trailer.take 4) ≠ (checksum out).toNat ||
              littleEndian (trailer.drop 4) ≠ out.length % Nat.pow 2 32 then (out, false)
          else if rest.isEmpty then (out, true)
          else
            let (more, complete) := readMembers fuel rest
            (out ++ more, complete)

/-- The octets that can be read from a compressed store, and whether they are all there is. -/
def decompress (octets : Octets) : Octets × Bool := readMembers octets.length octets

end DocumentSchema.Gzip
