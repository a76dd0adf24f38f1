/-!
# Checksums

The three digests that stand in the files read here.  Adler-32 is two sums modulo 65521, the
largest prime below 2^16: one of the bytes, one of the first sum's values, and the second stands
above the first.  CRC-32 is the cyclic redundancy check of archives: reflected polynomial
0xEDB88320, all ones at the start, complemented at the end.  SHA-1 is a 160-bit digest: the
message is padded to whole 64-byte blocks, and each block is mixed into five words by eighty rounds.
-/

set_option autoImplicit false

namespace DexMembers.Checksum

def adlerModulus : Nat := 65521

def adlerStep (sums : Nat × Nat) (byte : UInt8) : Nat × Nat :=
  let low := (sums.1 + byte.toNat) % adlerModulus
  (low, (sums.2 + low) % adlerModulus)

def adler32 (bytes : List UInt8) : UInt32 :=
  let (low, high) := bytes.foldl adlerStep (1, 0)
  UInt32.ofNat (high * 65536 + low)

example : adler32 [0x57, 0x69, 0x6B, 0x69, 0x70, 0x65, 0x64, 0x69, 0x61] = 0x11E60398 := by
  decide

def crcShift (remainder : UInt32) : UInt32 :=
  if remainder &&& 1 = 1 then (remainder >>> 1) ^^^ 0xEDB88320 else remainder >>> 1

def crcStep (remainder : UInt32) (byte : UInt8) : UInt32 :=
  (List.range 8).foldl (fun r _ => crcShift r) (remainder ^^^ byte.toUInt32)

def crc32 (bytes : List UInt8) : UInt32 :=
  bytes.foldl crcStep 0xFFFFFFFF ^^^ 0xFFFFFFFF

-- The check value of this polynomial: the digits from 1 to 9.
example : crc32 [0x31, 0x32, 0x33, 0x34, 0x35, 0x36, 0x37, 0x38, 0x39] = 0xCBF43926 := by
  decide +kernel

structure ShaState where
  a : UInt32
  b : UInt32
  c : UInt32
  d : UInt32
  e : UInt32

namespace Sha1

def initial : ShaState :=
  ⟨0x67452301, 0xEFCDAB89, 0x98BADCFE, 0x10325476, 0xC3D2E1F0⟩

def rotateLeft (word n : UInt32) : UInt32 :=
  (word <<< n) ||| (word >>> (32 - n))

def lengthBytes (n : Nat) : List UInt8 :=
  (List.range 8).reverse.map fun i => UInt8.ofNat (n >>> (8 * i))

def wordBytes (word : UInt32) : Vector UInt8 4 :=
  #v[(word >>> 24).toUInt8, (word >>> 16).toUInt8, (word >>> 8).toUInt8, word.toUInt8]

/-- The message with a one bit, zeros, and its length in bits, filling whole blocks. -/
def padded (message : List UInt8) : List UInt8 :=
  let zeros := (119 - message.length % 64) % 64
  message ++ 0x80 :: List.replicate zeros 0 ++ lengthBytes (8 * message.length)

def words : List UInt8 → List UInt32
  | a :: b :: c :: d :: rest =>
      (a.toUInt32 <<< 24 ||| b.toUInt32 <<< 16 ||| c.toUInt32 <<< 8 ||| d.toUInt32) :: words rest
  | _ => []

/-- The sixteen words of a block and the sixty-four that follow from them, given the latest
sixteen with the newest first; `count` words are still to come. -/
def extend : (count : Nat) → (newest : List UInt32) → List UInt32
  | 0, newest => newest
  | count + 1, newest =>
      match newest[2]?, newest[7]?, newest[13]?, newest[15]? with
      | some w3, some w8, some w14, some w16 =>
          extend count (rotateLeft (w3 ^^^ w8 ^^^ w14 ^^^ w16) 1 :: newest)
      | _, _, _, _ => newest

def roundRule (round : Nat) (b c d : UInt32) : UInt32 × UInt32 :=
  if round < 20 then ((b &&& c) ||| (~~~b &&& d), 0x5A827999)
  else if round < 40 then (b ^^^ c ^^^ d, 0x6ED9EBA1)
  else if round < 60 then ((b &&& c) ||| (b &&& d) ||| (c &&& d), 0x8F1BBCDC)
  else (b ^^^ c ^^^ d, 0xCA62C1D6)

def roundStep (s : ShaState) (numbered : UInt32 × Nat) : ShaState :=
  let (mix, constant) := roundRule numbered.2 s.b s.c s.d
  ⟨rotateLeft s.a 5 + mix + s.e + constant + numbered.1, s.a, rotateLeft s.b 30, s.c, s.d⟩

def mixBlock (s : ShaState) (block : List UInt32) : ShaState :=
  let t := (extend 64 block.reverse).reverse.zipIdx.foldl roundStep s
  ⟨s.a + t.a, s.b + t.b, s.c + t.c, s.d + t.d, s.e + t.e⟩

def mixBlocks : (count : Nat) → ShaState → List UInt32 → ShaState
  | 0, s, _ => s
  | count + 1, s, message => mixBlocks count (mixBlock s (message.take 16)) (message.drop 16)

end Sha1

def sha1 (message : List UInt8) : Vector UInt8 20 :=
  let blocks := Sha1.padded message
  let s := Sha1.mixBlocks (blocks.length / 64) Sha1.initial (Sha1.words blocks)
  Sha1.wordBytes s.a ++ Sha1.wordBytes s.b ++ Sha1.wordBytes s.c ++ Sha1.wordBytes s.d ++
    Sha1.wordBytes s.e

-- The digest of "abc".
example : sha1 [0x61, 0x62, 0x63] =
    #v[0xA9, 0x99, 0x3E, 0x36, 0x47, 0x06, 0x81, 0x6A, 0xBA, 0x3E,
      0x25, 0x71, 0x78, 0x50, 0xC2, 0x6C, 0x9C, 0xD0, 0xD8, 0x9D] := by
  decide +kernel

end DexMembers.Checksum
