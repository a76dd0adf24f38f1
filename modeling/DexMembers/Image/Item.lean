import DexMembers.Image.Error
import DexMembers.Text.Encoding

/-!
# Entries of the id tables

The parts an image is made of, each with its reader and its bytes: strings, type lists,
prototypes, field ids and method ids.  Ids point into other tables by number; whether a number is
in range shows only when it is followed.
-/

set_option autoImplicit false

namespace DexMembers

inductive StringData where
  | decoded (text : String)
  /-- A string whose bytes are in no known encoding, with its length as stated. -/
  | raw (units : Nat) (bytes : List UInt8)
deriving DecidableEq, Repr

namespace StringData

/-- The string stored at the cursor: its length in UTF-16 units, its bytes, and a zero byte.  The
stated length is not compared with the bytes. -/
def read (c : Binary.Cursor) : Except Binary.ReadFailure (StringData × Binary.Cursor) :=
  match c.uleb128 with
  | .error failure => .error failure
  | .ok (units, c) =>
      match c.untilZero with
      | .error failure => .error failure
      | .ok (content, c) =>
          match Text.ofModifiedUtf8? content with
          | some text => .ok (.decoded text, c)
          | none => .ok (.raw units content, c)

def bytes : StringData → List UInt8
  | decoded text =>
      Binary.lebBytes (Text.utf16Length text % Binary.wordLimit) ++
        Text.modifiedUtf8Bytes text ++ [0]
  | raw units content => Binary.lebBytes units ++ content ++ [0]

def parts : StringData → List (List UInt8)
  | decoded text =>
      [Binary.lebBytes (Text.utf16Length text % Binary.wordLimit), Text.modifiedUtf8Bytes text, [0]]
  | raw units content => [Binary.lebBytes units, content, [0]]

/-- A buffer with the parts of the string behind what it held, and how many bytes they are
together. -/
def write (string : StringData) (buffer : List UInt8) : List UInt8 × Nat :=
  string.parts.foldl (fun (buffer, count) part => (buffer ++ part, count + part.length)) (buffer, 0)

theorem write_eq (string : StringData) (buffer : List UInt8) :
    string.write buffer = (buffer ++ string.bytes, string.bytes.length) := by
  cases string <;> simp [write, parts, bytes, Nat.add_assoc]

end StringData

namespace TypeList

def read (c : Binary.Cursor) : Except ImageError (List Nat × Binary.Cursor) :=
  match ImageError.ofRead c.u4 with
  | .error error => .error error
  | .ok (size, c) =>
      if c.bytes.size / 2 < size then .error { fault := .typeListTooLong size }
      else
        (ImageError.ofRead (Binary.Cursor.many (fun _ c => c.u2) size c)).map fun (types, c) =>
          (types.toList, c)

def bytes (types : List Nat) : List UInt8 :=
  Binary.u32Bytes types.length ++ types.flatMap Binary.u16Bytes

end TypeList

structure Prototype where
  shorty : Nat
  returnType : Nat
  parameters : List Nat
deriving DecidableEq, Repr

namespace Prototype

/-- The prototype id at the cursor; its parameters stand elsewhere in the image, or nowhere when
their offset is zero. -/
def read (c : Binary.Cursor) : Except ImageError (Prototype × Binary.Cursor) := do
  let (shorty, c) ← ImageError.ofRead c.u4
  let (returnType, c) ← ImageError.ofRead c.u4
  let (offset, c) ← ImageError.ofRead c.u4
  if offset = 0 then return ({ shorty, returnType, parameters := [] }, c)
  else
    let (parameters, _) ← TypeList.read (c.seek offset)
    return ({ shorty, returnType, parameters }, c)

def bytes (prototype : Prototype) (parametersOffset : Nat) : List UInt8 :=
  Binary.u32Bytes prototype.shorty ++ Binary.u32Bytes prototype.returnType ++
    Binary.u32Bytes parametersOffset

end Prototype

def readIdTriple (c : Binary.Cursor) :
    Except Binary.ReadFailure ((Nat × Nat × Nat) × Binary.Cursor) := do
  let (first, c) ← c.u2
  let (second, c) ← c.u2
  let (third, c) ← c.u4
  return ((first, second, third), c)

def idTripleBytes (first second third : Nat) : List UInt8 :=
  Binary.u16Bytes first ++ Binary.u16Bytes second ++ Binary.u32Bytes third

structure FieldId where
  declaringType : Nat
  fieldType : Nat
  name : Nat
deriving DecidableEq, Repr

namespace FieldId

def read (c : Binary.Cursor) : Except Binary.ReadFailure (FieldId × Binary.Cursor) :=
  (readIdTriple c).map fun ((declaringType, fieldType, name), c) =>
    ({ declaringType, fieldType, name }, c)

def bytes (field : FieldId) : List UInt8 :=
  idTripleBytes field.declaringType field.fieldType field.name

end FieldId

structure MethodId where
  declaringType : Nat
  prototype : Nat
  name : Nat
deriving DecidableEq, Repr

namespace MethodId

def read (c : Binary.Cursor) : Except Binary.ReadFailure (MethodId × Binary.Cursor) :=
  (readIdTriple c).map fun ((declaringType, prototype, name), c) =>
    ({ declaringType, prototype, name }, c)

def bytes (method : MethodId) : List UInt8 :=
  idTripleBytes method.declaringType method.prototype method.name

end MethodId

/-- The outcomes of the given number of reads, each with the position at which the next one
starts.  A failed read leaves the position where its failing part began. -/
def readsFrom {α : Type} (read : Binary.Cursor → Except Binary.ReadFailure (α × Binary.Cursor)) :
    (count : Nat) → Binary.Cursor → List (Except Binary.ReadFailure α × Nat)
  | 0, _ => []
  | count + 1, c =>
      match read c with
      | .ok (item, next) => (.ok item, next.position) :: readsFrom read count next
      | .error failure =>
          (.error failure, failure.position) :: readsFrom read count (c.seek failure.position)

end DexMembers
