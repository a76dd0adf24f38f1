import DexMembers.Proofs.Guarded.Tables
import DexMembers.Proofs.Image.HeaderFields

/-!
# Images read without faults

The reader of a header looks at the length of the buffer once, and relies on it from then on.  The
checksum covers a slice that ends where the header says, kept inside of the image.
-/

set_option autoImplicit false

namespace DexMembers

open Binary (Cursor)

namespace Guarded

variable {ε : Type}

def chunk (length : Nat) (c : Cursor) : Guarded ε (Array UInt8 × Cursor) :=
  if c.position ≤ c.bytes.size ∧ length ≤ c.bytes.size - c.position then do
    let taken ← slice (c.bytes.extract c.position) 0 length
    let next ← sum c.position length
    return (taken, c.seek next)
  else stop (.missing c.position length)

def headerWord (c : Cursor) : Guarded ImageError (UInt32 × Cursor) := do
  let (value, c) ← ofRead (u4 c)
  return (UInt32.ofNat value, c)

def headerBehind (magic : Vector UInt8 8) (c : Cursor) : Guarded ImageError Header := do
  let (checksum, c) ← headerWord c
  let (signature, c) ← chunk 20 c
  let signature ← copy 20 signature
  let (fileSize, c) ← headerWord c
  let (headerSize, c) ← headerWord c
  let (endianTag, c) ← headerWord c
  let (linkSize, c) ← headerWord c
  let (linkOffset, c) ← headerWord c
  let (mapOffset, c) ← headerWord c
  let (stringIdsSize, c) ← headerWord c
  let (stringIdsOffset, c) ← headerWord c
  let (typeIdsSize, c) ← headerWord c
  let (typeIdsOffset, c) ← headerWord c
  let (protoIdsSize, c) ← headerWord c
  let (protoIdsOffset, c) ← headerWord c
  let (fieldIdsSize, c) ← headerWord c
  let (fieldIdsOffset, c) ← headerWord c
  let (methodIdsSize, c) ← headerWord c
  let (methodIdsOffset, c) ← headerWord c
  let (classDefsSize, c) ← headerWord c
  let (classDefsOffset, c) ← headerWord c
  let (dataSize, c) ← headerWord c
  let (dataOffset, _) ← headerWord c
  if endianTag = Header.littleEndianTag then
    return {
      magic, checksum, signature, fileSize, headerSize, endianTag, linkSize, linkOffset, mapOffset,
      stringIdsSize, stringIdsOffset, typeIdsSize, typeIdsOffset, protoIdsSize, protoIdsOffset,
      fieldIdsSize, fieldIdsOffset, methodIdsSize, methodIdsOffset, classDefsSize, classDefsOffset,
      dataSize, dataOffset }
  else throw { fault := .badEndianTag endianTag }

def header (bytes : Array UInt8) : Guarded ImageError Header :=
  if bytes.size < Header.byteLength then throw { fault := .shortHeader }
  else do
    let (magic, c) ← chunk 8 ⟨bytes, 0⟩
    let magic ← copy 8 magic
    if isDex magic.toList then headerBehind magic c else throw { fault := .badMagic }

def checksum (header : Header) (bytes : Array UInt8) : Guarded ε UInt32 := do
  let stop ← clamp header.fileSize.toNat 12 bytes.size
  let part ← slice bytes 12 stop
  return Checksum.adler32 part.toList

def image (bytes : Array UInt8) : Guarded ImageError Image := do
  let found ← header bytes
  let _ ← checksum found bytes
  tables found bytes

theorem chunk_of_le {bytes : Array UInt8} {position length : Nat} (short : bytes.size < 2 ^ 63)
    (inside : position + length ≤ bytes.size) :
    (chunk length ⟨bytes, position⟩ : Guarded ε (Array UInt8 × Cursor)) =
      pure (bytes.extract position (position + length), ⟨bytes, position + length⟩) := by
  have known : position ≤ bytes.size ∧ length ≤ bytes.size - position := by omega
  have behind : length ≤ (bytes.extract position).size := by
    rw [Array.size_extract]
    omega
  have stop : min (position + length) bytes.size = position + length := Nat.min_eq_left inside
  have small : position + length < 2 ^ 64 := by omega
  rw [chunk, if_pos known, slice_of_le (Nat.zero_le _) behind, pure_bind, sum_of_lt small,
    pure_bind, Array.extract_extract, Nat.add_zero, stop]
  rfl

theorem headerWord_of_le {bytes : Array UInt8} {position : Nat} (short : bytes.size < 2 ^ 63)
    (inside : position + 4 ≤ bytes.size) :
    headerWord ⟨bytes, position⟩ =
      pure (Header.wordAt bytes.toList position, ⟨bytes, position + 4⟩) := by
  have inRange : (Cursor.mk bytes position).InRange := Cursor.inRange_mk short (by omega)
  have same : headerWord ⟨bytes, position⟩ = of (Header.readWord ⟨bytes, position⟩) := by
    rw [headerWord, Header.readWord, (u4_ofRead_follows inRange).same]
    exact of_bind fun _ _ => rfl
  rw [same, Header.readWord_of_le bytes inside (by omega)]
  rfl

theorem headerBehind_eq {bytes : Array UInt8} (short : bytes.size < 2 ^ 63)
    (long : Header.byteLength ≤ bytes.toList.length) {magic : Vector UInt8 8}
    (start : magic = (Header.ofBytes bytes.toList long).magic) :
    headerBehind magic ⟨bytes, 8⟩ =
      of (if (Header.ofBytes bytes.toList long).endianTag = Header.littleEndianTag then
          .ok (Header.ofBytes bytes.toList long)
        else .error { fault := .badEndianTag (Header.ofBytes bytes.toList long).endianTag }) := by
  have size : 112 ≤ bytes.size := long
  have signature : (bytes.extract 12 32).size = 20 := by
    rw [Array.size_extract]
    omega
  have copied : (⟨bytes.extract 12 32, signature⟩ : Vector UInt8 20) =
      (Header.ofBytes bytes.toList long).signature := by
    rw [Header.ofBytes, Vector.mk.injEq]
    exact Header.extract_eq_take_drop bytes 12 20
  have tag : (Header.ofBytes bytes.toList long).endianTag = Header.wordAt bytes.toList 40 := rfl
  subst start
  rw [headerBehind, tag]
  simp (disch := omega) only [headerWord_of_le short, chunk_of_le short, pure_bind, Nat.reduceAdd]
  rw [copy_of_eq signature, copied, pure_bind]
  by_cases little : Header.wordAt bytes.toList 40 = Header.littleEndianTag
  · rw [if_pos little, if_pos little]
    rfl
  · rw [if_neg little, if_neg little]
    rfl

theorem header_eq {bytes : Array UInt8} (short : bytes.size < 2 ^ 63) :
    header bytes = of (Header.read bytes.toList) := by
  rw [header, Header.read]
  by_cases long : Header.byteLength ≤ bytes.toList.length
  · have size : 112 ≤ bytes.size := long
    have unclear : ¬ bytes.size < Header.byteLength := Nat.not_lt_of_le long
    have magic : (bytes.extract 0 8).size = 8 := by
      rw [Array.size_extract]
      omega
    have copied : (⟨bytes.extract 0 8, magic⟩ : Vector UInt8 8) =
        (Header.ofBytes bytes.toList long).magic := by
      rw [Header.ofBytes, Vector.mk.injEq]
      exact Header.extract_eq_take_drop bytes 0 8
    have start : isDex (Header.ofBytes bytes.toList long).magic.toList = isDex bytes.toList :=
      Header.isDex_take bytes.toList
    rw [dif_pos long, if_neg unclear, chunk_of_le short (by omega), pure_bind]
    dsimp only
    rw [copy_of_eq magic, pure_bind, copied, start]
    split
    · exact headerBehind_eq short long rfl
    · rfl
  · have cut : bytes.size < Header.byteLength := Nat.lt_of_not_le long
    rw [dif_neg long, if_pos cut]
    rfl

theorem checksum_eq (header : Header) {bytes : Array UInt8} (long : 12 ≤ bytes.size) :
    (checksum header bytes : Guarded ε UInt32) =
      pure (Image.computedChecksum header bytes.toList) := by
  have start : 12 ≤ max 12 (min header.fileSize.toNat bytes.size) := Nat.le_max_left ..
  have stop : max 12 (min header.fileSize.toNat bytes.size) ≤ bytes.size := by omega
  rw [checksum, clamp_of_le long, pure_bind, slice_of_le start stop, pure_bind,
    Array.toList_extract, List.extract_eq_take_drop, ← List.drop_take]
  rfl

theorem length_of_header {bytes : List UInt8} {header : Header}
    (read : Header.read bytes = .ok header) : Header.byteLength ≤ bytes.length := by
  obtain ⟨long, -⟩ := Header.read_eq_ok_iff.mp read
  exact long

theorem image_eq {bytes : Array UInt8} (short : bytes.size < 2 ^ 63) :
    image bytes = of (Image.read bytes.toList) := by
  rw [image, header_eq short, Image.read_eq_bind]
  apply of_bind
  intro header read
  have long : 12 ≤ bytes.size := Nat.le_trans (by decide) (length_of_header read)
  rw [checksum_eq header long, pure_bind, tables_eq header short]

end Guarded

end DexMembers
