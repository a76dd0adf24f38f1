import DexMembers.Image.Error

/-!
# Headers of dex images

The 112 bytes at the start of an image: magic, checksum, signature and twenty words, most of them
the size and offset of a table.
-/

set_option autoImplicit false

namespace DexMembers

def dexMagic : List UInt8 := [0x64, 0x65, 0x78, 0x0A]

def isDex (bytes : List UInt8) : Bool :=
  dexMagic.isPrefixOf bytes

theorem isDex_iff {bytes : List UInt8} : isDex bytes = true ↔ dexMagic <+: bytes :=
  List.isPrefixOf_iff_prefix

structure Header where
  magic : Vector UInt8 8
  checksum : UInt32
  signature : Vector UInt8 20
  fileSize : UInt32
  headerSize : UInt32
  endianTag : UInt32
  linkSize : UInt32
  linkOffset : UInt32
  mapOffset : UInt32
  stringIdsSize : UInt32
  stringIdsOffset : UInt32
  typeIdsSize : UInt32
  typeIdsOffset : UInt32
  protoIdsSize : UInt32
  protoIdsOffset : UInt32
  fieldIdsSize : UInt32
  fieldIdsOffset : UInt32
  methodIdsSize : UInt32
  methodIdsOffset : UInt32
  classDefsSize : UInt32
  classDefsOffset : UInt32
  dataSize : UInt32
  dataOffset : UInt32
deriving DecidableEq, Repr

namespace Header

def byteLength : Nat := 0x70

def littleEndianTag : UInt32 := 0x12345678

def words (h : Header) : List UInt32 :=
  [h.fileSize, h.headerSize, h.endianTag, h.linkSize, h.linkOffset, h.mapOffset,
    h.stringIdsSize, h.stringIdsOffset, h.typeIdsSize, h.typeIdsOffset,
    h.protoIdsSize, h.protoIdsOffset, h.fieldIdsSize, h.fieldIdsOffset,
    h.methodIdsSize, h.methodIdsOffset, h.classDefsSize, h.classDefsOffset,
    h.dataSize, h.dataOffset]

def wordBytes (word : UInt32) : List UInt8 :=
  Binary.u32Bytes word.toNat

def signedBytes (h : Header) : List UInt8 :=
  h.signature.toList ++ h.words.flatMap wordBytes

def bytes (h : Header) : List UInt8 :=
  h.magic.toList ++ wordBytes h.checksum ++ h.signedBytes

def wordAt (bytes : List UInt8) (offset : Nat) : UInt32 :=
  UInt32.ofNat (Binary.wordValue ((bytes.drop offset).take 4))

/-- The header that long enough bytes start with, its magic and tag unchecked. -/
def ofBytes (bytes : List UInt8) (long : byteLength ≤ bytes.length) : Header where
  magic := ⟨(bytes.take 8).toArray, by simp [byteLength] at *; omega⟩
  checksum := wordAt bytes 8
  signature := ⟨((bytes.drop 12).take 20).toArray, by simp [byteLength] at *; omega⟩
  fileSize := wordAt bytes 32
  headerSize := wordAt bytes 36
  endianTag := wordAt bytes 40
  linkSize := wordAt bytes 44
  linkOffset := wordAt bytes 48
  mapOffset := wordAt bytes 52
  stringIdsSize := wordAt bytes 56
  stringIdsOffset := wordAt bytes 60
  typeIdsSize := wordAt bytes 64
  typeIdsOffset := wordAt bytes 68
  protoIdsSize := wordAt bytes 72
  protoIdsOffset := wordAt bytes 76
  fieldIdsSize := wordAt bytes 80
  fieldIdsOffset := wordAt bytes 84
  methodIdsSize := wordAt bytes 88
  methodIdsOffset := wordAt bytes 92
  classDefsSize := wordAt bytes 96
  classDefsOffset := wordAt bytes 100
  dataSize := wordAt bytes 104
  dataOffset := wordAt bytes 108

def read (bytes : List UInt8) : Except ImageError Header :=
  if long : byteLength ≤ bytes.length then
    if isDex bytes then
      let header := ofBytes bytes long
      if header.endianTag = littleEndianTag then .ok header
      else .error { fault := .badEndianTag header.endianTag }
    else .error { fault := .badMagic }
  else .error { fault := .shortHeader }

/-! ### Field by field -/

def readBytes (length : Nat) (c : Binary.Cursor) :
    Except ImageError (Vector UInt8 length × Binary.Cursor) :=
  if inside : c.position + length ≤ c.bytes.size then
    let taken := c.bytes.extract c.position (c.position + length)
    .ok (⟨taken, by simp only [taken, Array.size_extract]; omega⟩, c.advance length)
  else .error { fault := .shortField }

def readWord (c : Binary.Cursor) : Except ImageError (UInt32 × Binary.Cursor) := do
  let (word, c) ← ImageError.ofRead c.u4
  return (UInt32.ofNat word, c)

def readBehindMagic (magic : Vector UInt8 8) (c : Binary.Cursor) :
    Except ImageError (Header × Binary.Cursor) := do
  let (checksum, c) ← readWord c
  let (signature, c) ← readBytes 20 c
  let (fileSize, c) ← readWord c
  let (headerSize, c) ← readWord c
  let (endianTag, c) ← readWord c
  let (linkSize, c) ← readWord c
  let (linkOffset, c) ← readWord c
  let (mapOffset, c) ← readWord c
  let (stringIdsSize, c) ← readWord c
  let (stringIdsOffset, c) ← readWord c
  let (typeIdsSize, c) ← readWord c
  let (typeIdsOffset, c) ← readWord c
  let (protoIdsSize, c) ← readWord c
  let (protoIdsOffset, c) ← readWord c
  let (fieldIdsSize, c) ← readWord c
  let (fieldIdsOffset, c) ← readWord c
  let (methodIdsSize, c) ← readWord c
  let (methodIdsOffset, c) ← readWord c
  let (classDefsSize, c) ← readWord c
  let (classDefsOffset, c) ← readWord c
  let (dataSize, c) ← readWord c
  let (dataOffset, c) ← readWord c
  if endianTag = littleEndianTag then
    return ({
      magic, checksum, signature, fileSize, headerSize, endianTag, linkSize, linkOffset, mapOffset,
      stringIdsSize, stringIdsOffset, typeIdsSize, typeIdsOffset, protoIdsSize, protoIdsOffset,
      fieldIdsSize, fieldIdsOffset, methodIdsSize, methodIdsOffset, classDefsSize, classDefsOffset,
      dataSize, dataOffset }, c)
  else throw { fault := .badEndianTag endianTag }

/-- The header at the cursor, read field by field, and the cursor behind it.  The length that is
looked at first is that of the whole buffer, wherever the cursor is. -/
def readFields (c : Binary.Cursor) : Except ImageError (Header × Binary.Cursor) :=
  if c.bytes.size < byteLength then .error { fault := .shortHeader }
  else do
    let (magic, c) ← readBytes 8 c
    if isDex magic.toList then readBehindMagic magic c else throw { fault := .badMagic }

/-- Where the checked part of an image of the given length ends: at the size the header states,
kept between the end of the checksum and the end of the image. -/
def checkedEnd (h : Header) (length : Nat) : Nat :=
  max 12 (min h.fileSize.toNat length)

end Header

end DexMembers
