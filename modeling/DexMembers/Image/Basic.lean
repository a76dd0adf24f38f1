import DexMembers.Checksum
import DexMembers.Image.Header
import DexMembers.Image.Item

/-!
# Dex images

An image as five tables behind a header, and its reader.  The tables are read where the header says
they stand, in any order and even over one another; only bytes that are missing, a type without a
string, and an oversized list make the reader fail.
-/

set_option autoImplicit false

namespace DexMembers

structure Image where
  header : Header
  strings : Array StringData
  /-- Per type, the number of the string that describes it. -/
  types : Array Nat
  prototypes : Array Prototype
  fields : Array FieldId
  methods : Array MethodId
deriving DecidableEq, Repr

namespace Image

def readString (index : Nat) (c : Binary.Cursor) :
    Except ImageError (StringData × Binary.Cursor) :=
  match ImageError.ofRead c.u4 with
  | .error error => .error error
  | .ok (offset, next) =>
      match ImageError.ofRead (StringData.read (c.seek offset)) with
      | .error error => .error (error.inside (.stringId index))
      | .ok (text, _) => .ok (text, next)

/-- The type with the given number, which must name one of the `strings` strings. -/
def readType (strings : Nat) (index : Nat) (c : Binary.Cursor) :
    Except ImageError (Nat × Binary.Cursor) :=
  match ImageError.ofRead c.u4 with
  | .error error => .error error
  | .ok (text, next) =>
      if text < strings then .ok (text, next)
      else .error ({ fault := .noString text : ImageError }.inside (.typeId index))

def readPrototype (index : Nat) (c : Binary.Cursor) :
    Except ImageError (Prototype × Binary.Cursor) :=
  (Prototype.read c).mapError (ImageError.inside (.protoId index))

def readTable {α : Type} (next : Nat → Binary.Cursor → Except ImageError (α × Binary.Cursor))
    (bytes : Array UInt8) (size offset : UInt32) : Except ImageError (Array α) :=
  (Binary.Cursor.many next size.toNat ⟨bytes, offset.toNat⟩).map Prod.fst

def readTables (header : Header) (bytes : Array UInt8) : Except ImageError Image := do
  let strings ← readTable readString bytes header.stringIdsSize header.stringIdsOffset
  let types ← readTable (readType strings.size) bytes header.typeIdsSize header.typeIdsOffset
  let prototypes ← readTable readPrototype bytes header.protoIdsSize header.protoIdsOffset
  let fields ← readTable (fun _ c => ImageError.ofRead (FieldId.read c)) bytes
    header.fieldIdsSize header.fieldIdsOffset
  let methods ← readTable (fun _ c => ImageError.ofRead (MethodId.read c)) bytes
    header.methodIdsSize header.methodIdsOffset
  return { header, strings, types, prototypes, fields, methods }

def read (bytes : List UInt8) : Except ImageError Image :=
  match Header.read bytes with
  | .ok header => readTables header bytes.toArray
  | .error error => .error error

def computedChecksum (header : Header) (bytes : List UInt8) : UInt32 :=
  Checksum.adler32 ((bytes.take (header.checkedEnd bytes.length)).drop 12)

def string (image : Image) (index : Nat) : Except ImageError String :=
  match image.strings[index]? with
  | some (.decoded text) => .ok text
  | some (.raw _ _) => .error { fault := .undecodableString index }
  | none => .error { fault := .noString index }

def typeName (image : Image) (index : Nat) : Except ImageError String :=
  match image.types[index]? with
  | some text => (image.string text).mapError (ImageError.inside (.typeId index))
  | none => .error { fault := .noType index }

def parameterTypes (image : Image) (index : Nat) : Except ImageError (List Nat) :=
  match image.prototypes[index]? with
  | some prototype => .ok prototype.parameters
  | none => .error { fault := .noPrototype index }

def returnType (image : Image) (index : Nat) : Except ImageError Nat :=
  match image.prototypes[index]? with
  | some prototype => .ok prototype.returnType
  | none => .error { fault := .noPrototype index }

end Image

end DexMembers
