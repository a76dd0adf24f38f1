import DexMembers.Image.Basic
import DexMembers.Proofs.Outcome

/-!
# Readers as chains of steps

The readers of an image as chains: a step goes on with the value and the cursor that the one before
it left, and the first failure ends the chain.
-/

set_option autoImplicit false

namespace DexMembers

open Binary (Cursor)

theorem StringData.read_eq_bind (c : Cursor) :
    StringData.read c = c.uleb128 >>= fun units => units.2.untilZero >>= fun content =>
      match Text.ofModifiedUtf8? content.1 with
      | some text => .ok (.decoded text, content.2)
      | none => .ok (.raw units.1 content.1, content.2) := by
  rw [StringData.read]
  rcases c.uleb128 with failure | ⟨units, next⟩
  · rfl
  · rw [Except.ok_bind]
    dsimp only
    rcases next.untilZero with failure | ⟨content, behind⟩ <;> rfl

theorem TypeList.read_eq_bind (c : Cursor) :
    TypeList.read c = ImageError.ofRead c.u4 >>= fun size =>
      if size.2.bytes.size / 2 < size.1 then .error { fault := .typeListTooLong size.1 }
      else ImageError.ofRead (Cursor.many (fun _ c => c.u2) size.1 size.2) >>= fun types =>
        .ok (types.1.toList, types.2) := by
  rw [TypeList.read]
  cases ImageError.ofRead c.u4 <;> rfl

theorem FieldId.read_eq_bind (c : Cursor) :
    FieldId.read c = readIdTriple c >>= fun id =>
      .ok ({ declaringType := id.1.1, fieldType := id.1.2.1, name := id.1.2.2 }, id.2) := by
  rw [FieldId.read]
  cases readIdTriple c <;> rfl

theorem MethodId.read_eq_bind (c : Cursor) :
    MethodId.read c = readIdTriple c >>= fun id =>
      .ok ({ declaringType := id.1.1, prototype := id.1.2.1, name := id.1.2.2 }, id.2) := by
  rw [MethodId.read]
  cases readIdTriple c <;> rfl

namespace Image

/-- The offset is the last that is read at the cursor; the string stands elsewhere. -/
theorem readString_eq_bind (index : Nat) (c : Cursor) :
    readString index c = ImageError.ofRead c.u4 >>= fun offset =>
      (ImageError.ofRead (StringData.read (c.seek offset.1))).mapError
        (ImageError.inside (.stringId index)) >>= fun text => .ok (text.1, offset.2) := by
  rw [readString]
  rcases ImageError.ofRead c.u4 with failure | ⟨offset, next⟩
  · rfl
  · rw [Except.ok_bind]
    dsimp only
    rcases ImageError.ofRead (StringData.read (c.seek offset)) with failure | ⟨text, _⟩ <;> rfl

theorem readType_eq_bind (strings index : Nat) (c : Cursor) :
    readType strings index c = ImageError.ofRead c.u4 >>= fun text =>
      if text.1 < strings then .ok (text.1, text.2)
      else .error (({ fault := .noString text.1 } : ImageError).inside (.typeId index)) := by
  rw [readType]
  cases ImageError.ofRead c.u4 <;> rfl

theorem read_eq_bind (content : List UInt8) :
    Image.read content =
      Header.read content >>= fun header => readTables header content.toArray := by
  rw [Image.read]
  cases Header.read content <;> rfl

structure ReadFrom (image : Image) (bytes : Array UInt8) : Prop where
  strings : readTable readString bytes image.header.stringIdsSize image.header.stringIdsOffset =
    .ok image.strings
  types : readTable (readType image.strings.size) bytes image.header.typeIdsSize
    image.header.typeIdsOffset = .ok image.types
  prototypes : readTable readPrototype bytes image.header.protoIdsSize image.header.protoIdsOffset =
    .ok image.prototypes
  fields : readTable (fun _ c => ImageError.ofRead (FieldId.read c)) bytes
    image.header.fieldIdsSize image.header.fieldIdsOffset = .ok image.fields
  methods : readTable (fun _ c => ImageError.ofRead (MethodId.read c)) bytes
    image.header.methodIdsSize image.header.methodIdsOffset = .ok image.methods

theorem read_eq_ok_iff {content : List UInt8} {image : Image} :
    Image.read content = .ok image ↔
      Header.read content = .ok image.header ∧ image.ReadFrom content.toArray := by
  rw [read_eq_bind]
  constructor
  · intro read
    obtain ⟨header, headerRead, read⟩ := eq_ok_of_bind_eq_ok read
    obtain ⟨strings, stringsRead, read⟩ := eq_ok_of_bind_eq_ok read
    obtain ⟨types, typesRead, read⟩ := eq_ok_of_bind_eq_ok read
    obtain ⟨prototypes, prototypesRead, read⟩ := eq_ok_of_bind_eq_ok read
    obtain ⟨fields, fieldsRead, read⟩ := eq_ok_of_bind_eq_ok read
    obtain ⟨methods, methodsRead, read⟩ := eq_ok_of_bind_eq_ok read
    cases read
    exact ⟨headerRead, stringsRead, typesRead, prototypesRead, fieldsRead, methodsRead⟩
  · rintro ⟨headerRead, tables⟩
    simp only [headerRead, readTables, tables.strings, tables.types, tables.prototypes,
      tables.fields, tables.methods, Except.ok_bind]
    rfl

end Image

end DexMembers
