/-!
# Numbers as bytes

Sixteen- and thirty-two-bit words are written with the low byte first; writing keeps the low bits of
a number that is too large for its word.

Unsigned LEB128 for thirty-two-bit numbers takes seven bits per byte, the low ones first, and sets
the high bit of every byte but the last.  A reader stops after five bytes whatever the fifth one's
high bit says, and drops what lies beyond thirty-two bits.
-/

set_option autoImplicit false

namespace DexMembers.Binary

def lowByte (n : Nat) : UInt8 := UInt8.ofNat n

def u16Bytes (n : Nat) : List UInt8 :=
  [lowByte n, lowByte (n / 256)]

def u32Bytes (n : Nat) : List UInt8 :=
  [lowByte n, lowByte (n / 256), lowByte (n / 65536), lowByte (n / 16777216)]

def wordValue : List UInt8 → Nat
  | [] => 0
  | byte :: rest => byte.toNat + 256 * wordValue rest

@[simp] theorem length_u16Bytes (n : Nat) : (u16Bytes n).length = 2 := rfl

@[simp] theorem length_u32Bytes (n : Nat) : (u32Bytes n).length = 4 := rfl

theorem toNat_lowByte (n : Nat) : (lowByte n).toNat = n % 256 := rfl

theorem wordValue_u16Bytes (n : Nat) : wordValue (u16Bytes n) = n % 65536 := by
  simp only [u16Bytes, wordValue, toNat_lowByte]
  omega

theorem wordValue_u32Bytes (n : Nat) : wordValue (u32Bytes n) = n % 4294967296 := by
  simp only [u32Bytes, wordValue, toNat_lowByte]
  omega

theorem lowByte_toNat (byte : UInt8) : lowByte byte.toNat = byte := by
  simp [lowByte]

theorem u16Bytes_wordValue (a b : UInt8) : u16Bytes (wordValue [a, b]) = [a, b] := by
  have boundA := a.toNat_lt
  have boundB := b.toNat_lt
  have low : lowByte (a.toNat + 256 * b.toNat) = a := by
    apply UInt8.toNat_inj.mp
    rw [toNat_lowByte]
    omega
  have high : (a.toNat + 256 * b.toNat) / 256 = b.toNat := by omega
  simp [u16Bytes, wordValue, low, high, lowByte_toNat]

theorem u32Bytes_wordValue (a b c d : UInt8) :
    u32Bytes (wordValue [a, b, c, d]) = [a, b, c, d] := by
  have boundA := a.toNat_lt
  have boundB := b.toNat_lt
  have boundC := c.toNat_lt
  have boundD := d.toNat_lt
  simp only [u32Bytes, wordValue, List.cons.injEq, and_true]
  refine ⟨?_, ?_, ?_, ?_⟩ <;> apply UInt8.toNat_inj.mp <;> rw [toNat_lowByte] <;> omega

theorem u16Bytes_wordValue_of_length {part : List UInt8} (two : part.length = 2) :
    u16Bytes (wordValue part) = part := by
  match part, two with
  | [a, b], _ => exact u16Bytes_wordValue a b

theorem u32Bytes_wordValue_of_length {part : List UInt8} (four : part.length = 4) :
    u32Bytes (wordValue part) = part := by
  match part, four with
  | [a, b, c, d], _ => exact u32Bytes_wordValue a b c d

def lebBytes (n : Nat) : List UInt8 :=
  if n < 128 then [lowByte n] else lowByte (n % 128 + 128) :: lebBytes (n / 128)

def wordLimit : Nat := 0x100000000

def maxLebBytes : Nat := 5

/-- The number that the bytes start with, still without the cut to thirty-two bits, and how many
bytes it takes; `room` bytes at most, the last of which always ends it. -/
def lebPrefix? : (room : Nat) → List UInt8 → Option (Nat × Nat)
  | _, [] => none
  | 0, _ => none
  | room + 1, byte :: rest =>
      if byte.toNat < 128 ∨ room = 0 then some (byte.toNat % 128, 1)
      else (lebPrefix? room rest).map fun (high, used) => (byte.toNat % 128 + 128 * high, used + 1)

def readLeb? (bytes : List UInt8) : Option (Nat × Nat) :=
  (lebPrefix? maxLebBytes bytes).map fun (value, used) => (value % wordLimit, used)

end DexMembers.Binary
