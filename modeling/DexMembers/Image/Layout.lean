import DexMembers.Checksum
import DexMembers.Image.Draft
import DexMembers.Image.Header

/-!
# The bytes of a draft

The sections of an image stand in a fixed order: header, the five id tables without gaps, type
lists, string data, and the map that lists all sections.  Type lists and the map begin at multiples
of four.  A section that would be empty has no place in the map and offset zero in the header.
-/

set_option autoImplicit false

namespace DexMembers

namespace Layout

def gap (position : Nat) : Nat := (4 - position % 4) % 4

def zeros (count : Nat) : List UInt8 := List.replicate count 0

/-- The offsets and the bytes of the type lists from a position on, each at a multiple of four; an
empty list is not stored and has offset zero. -/
def placeTypeLists (position : Nat) : List (List Nat) → List Nat × List UInt8
  | [] => ([], [])
  | types :: rest =>
      if types = [] then
        let (offsets, bytes) := placeTypeLists position rest
        (0 :: offsets, bytes)
      else
        let start := position + gap position
        let stored := TypeList.bytes types
        let (offsets, bytes) := placeTypeLists (start + stored.length) rest
        (start :: offsets, zeros (gap position) ++ stored ++ bytes)

def placeStrings (position : Nat) : List String → List Nat × List UInt8
  | [] => ([], [])
  | text :: rest =>
      let stored := (StringData.decoded text).bytes
      let (offsets, bytes) := placeStrings (position + stored.length) rest
      (position :: offsets, stored ++ bytes)

structure Section where
  code : Nat
  size : Nat
  offset : Nat
deriving DecidableEq, Repr

namespace Section

/-- The section of `size` entries that would start at `offset`; an empty one is nowhere. -/
def place (code size offset : Nat) : Section :=
  if size = 0 then ⟨code, 0, 0⟩ else ⟨code, size, offset⟩

def bytes (s : Section) : List UInt8 :=
  Binary.u16Bytes s.code ++ Binary.u16Bytes 0 ++ Binary.u32Bytes s.size ++
    Binary.u32Bytes s.offset

end Section

def mapBytes (sections : List Section) : List UInt8 :=
  Binary.u32Bytes sections.length ++ sections.flatMap Section.bytes

end Layout

open Layout

structure Layout where
  stringIds : Section
  typeIds : Section
  protoIds : Section
  fieldIds : Section
  methodIds : Section
  typeLists : Section
  stringData : Section
  dataOffset : Nat
  mapOffset : Nat
  /-- Per prototype, where its parameters are stored. -/
  parameterOffsets : List Nat
  /-- Per string, where it is stored. -/
  stringOffsets : List Nat
  /-- The type lists, the strings, and the gap up to the map. -/
  data : List UInt8

namespace Layout

def sections (layout : Layout) : List Section :=
  [⟨0x0000, 1, 0⟩, layout.stringIds, layout.typeIds, layout.protoIds, layout.fieldIds,
    layout.methodIds, layout.typeLists, layout.stringData, ⟨0x1000, 1, layout.mapOffset⟩].filter
      fun s => s.size ≠ 0

def dataBytes (layout : Layout) : List UInt8 :=
  layout.data ++ mapBytes layout.sections

end Layout

namespace Draft

def layout (draft : Draft) : Layout :=
  let strings := draft.strings.entries.toList
  let prototypes := draft.prototypes.entries.toList
  let stringIds := Header.byteLength
  let typeIds := stringIds + 4 * strings.length
  let protoIds := typeIds + 4 * draft.types.entries.size
  let fieldIds := protoIds + 12 * prototypes.length
  let methodIds := fieldIds + 8 * draft.fields.size
  let dataOffset := methodIds + 8 * draft.methods.size
  let (parameterOffsets, listBytes) :=
    placeTypeLists dataOffset (prototypes.map Prototype.parameters)
  let lists := parameterOffsets.filter (· ≠ 0)
  let stringStart := dataOffset + listBytes.length
  let (stringOffsets, textBytes) := placeStrings stringStart strings
  let stringEnd := stringStart + textBytes.length
  { stringIds := .place 0x0001 strings.length stringIds
    typeIds := .place 0x0002 draft.types.entries.size typeIds
    protoIds := .place 0x0003 prototypes.length protoIds
    fieldIds := .place 0x0004 draft.fields.size fieldIds
    methodIds := .place 0x0005 draft.methods.size methodIds
    typeLists := .place 0x1001 lists.length (lists.headD 0)
    stringData := .place 0x2002 strings.length stringStart
    dataOffset
    mapOffset := stringEnd + gap stringEnd
    parameterOffsets
    stringOffsets
    data := listBytes ++ textBytes ++ zeros (gap stringEnd) }

def tableBytes (draft : Draft) (layout : Layout) : List UInt8 :=
  layout.stringOffsets.flatMap Binary.u32Bytes ++
    draft.types.entries.toList.flatMap Binary.u32Bytes ++
    (draft.prototypes.entries.toList.zip layout.parameterOffsets).flatMap
      (fun (prototype, offset) => prototype.bytes offset) ++
    draft.fields.toList.flatMap FieldId.bytes ++
    draft.methods.toList.flatMap MethodId.bytes

def versionMagic : Vector UInt8 8 := #v[0x64, 0x65, 0x78, 0x0A, 0x30, 0x33, 0x35, 0x00]

def unsignedHeader (layout : Layout) (fileSize dataSize : Nat) : Header where
  magic := versionMagic
  checksum := 0
  signature := Vector.replicate 20 0
  fileSize := .ofNat fileSize
  headerSize := .ofNat Header.byteLength
  endianTag := Header.littleEndianTag
  linkSize := 0
  linkOffset := 0
  mapOffset := .ofNat layout.mapOffset
  stringIdsSize := .ofNat layout.stringIds.size
  stringIdsOffset := .ofNat layout.stringIds.offset
  typeIdsSize := .ofNat layout.typeIds.size
  typeIdsOffset := .ofNat layout.typeIds.offset
  protoIdsSize := .ofNat layout.protoIds.size
  protoIdsOffset := .ofNat layout.protoIds.offset
  fieldIdsSize := .ofNat layout.fieldIds.size
  fieldIdsOffset := .ofNat layout.fieldIds.offset
  methodIdsSize := .ofNat layout.methodIds.size
  methodIdsOffset := .ofNat layout.methodIds.offset
  classDefsSize := 0
  classDefsOffset := 0
  dataSize := .ofNat dataSize
  dataOffset := .ofNat layout.dataOffset

/-- The header signed for the bytes behind it: the signature is the SHA-1 of everything after
itself, the checksum the Adler-32 of everything after itself. -/
def sign (header : Header) (body : List UInt8) : Header :=
  let rest := header.words.flatMap Header.wordBytes ++ body
  let signed := { header with signature := Checksum.sha1 rest }
  { signed with checksum := Checksum.adler32 (signed.signedBytes ++ body) }

def bytes (draft : Draft) : List UInt8 :=
  let layout := draft.layout
  let body := draft.tableBytes layout ++ layout.dataBytes
  let header :=
    unsignedHeader layout (Header.byteLength + body.length) layout.dataBytes.length
  (sign header body).bytes ++ body

end Draft

end DexMembers
