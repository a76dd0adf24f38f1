import DexMembers.Image.Basic
import DexMembers.Proofs.Image.Layout

/-!
# The image of a draft is read back

The reader gets the tables of a draft from its image, provided that the image is smaller than 4 GiB
and that each number fits into the word it is written to.
-/

set_option autoImplicit false

namespace DexMembers

open Binary (Cursor)

structure Draft.Fits (draft : Draft) : Prop where
  small : draft.bytes.length < 4294967296
  types : ∀ text ∈ draft.types.entries, text < draft.strings.entries.size
  prototypes : ∀ prototype ∈ draft.prototypes.entries,
    prototype.shorty < 4294967296 ∧ prototype.returnType < 4294967296 ∧
      ∀ parameter ∈ prototype.parameters, parameter < 65536
  fields : ∀ field ∈ draft.fields,
    field.declaringType < 65536 ∧ field.fieldType < 65536 ∧ field.name < 4294967296
  methods : ∀ method ∈ draft.methods,
    method.declaringType < 65536 ∧ method.prototype < 65536 ∧ method.name < 4294967296

namespace Image

theorem lt_of_holds {bytes : Array UInt8} {offset : Nat} {part : List UInt8}
    (small : bytes.size < 4294967296) (holds : (Cursor.mk bytes offset).Holds part)
    (nonempty : part ≠ []) : offset < 4294967296 := by
  have inside := holds.end_le nonempty
  have position : (Cursor.mk bytes offset).position = offset := rfl
  rw [position] at inside
  change offset + part.length ≤ bytes.size at inside
  omega

theorem lt_of_standsAt {bytes : Array UInt8} {types : List Nat} {offset : Nat}
    (small : bytes.size < 4294967296) (stored : TypeList.StandsAt bytes types offset) :
    offset < 4294967296 := by
  rw [TypeList.StandsAt] at stored
  split at stored
  · omega
  · exact lt_of_holds small stored.2 (List.cons_ne_nil _ _)

theorem toNat_ofNat {n : Nat} (small : n < 4294967296) : (UInt32.ofNat n).toNat = n := by
  rw [UInt32.toNat_ofNat']
  omega

section Table

variable {ι α : Type} {bytes : Array UInt8}

theorem readTable_of_holds (next : Nat → Cursor → Except ImageError (α × Cursor))
    (part : ι → List UInt8) (value : ι → α) (items : List ι)
    (reads : ∀ item ∈ items, ∀ index position, (Cursor.mk bytes position).Holds (part item) →
      next index ⟨bytes, position⟩ = .ok (value item, ⟨bytes, position + (part item).length⟩))
    (code : Nat) {count offset : Nat} (counted : items.length = count) (few : count < 4294967296)
    (low : offset < 4294967296) (holds : (Cursor.mk bytes offset).Holds (items.flatMap part)) :
    readTable next bytes (.ofNat (Layout.Section.place code count offset).size)
      (.ofNat (Layout.Section.place code count offset).offset) =
        .ok (items.map value).toArray := by
  rw [Layout.Section.place]
  split
  · rename_i none
    have empty : items = [] := List.eq_nil_of_length_eq_zero (counted.trans none)
    rw [empty]
    rfl
  · rw [readTable, toNat_ofNat few, toNat_ofNat low, ← counted,
      Cursor.many_of_holds next part value items reads offset holds]
    rfl

end Table

theorem readString_of_holds {bytes : Array UInt8} {text : String} {offset : Nat}
    (small : bytes.size < 4294967296)
    (stored : (Cursor.mk bytes offset).Holds (StringData.decoded text).bytes) (index position : Nat)
    (holds : (Cursor.mk bytes position).Holds (Binary.u32Bytes offset)) :
    readString index ⟨bytes, position⟩ =
      .ok (.decoded text, ⟨bytes, position + (Binary.u32Bytes offset).length⟩) := by
  have nonempty : (StringData.decoded text).bytes ≠ [] := by
    rw [StringData.bytes]
    exact List.append_ne_nil_of_right_ne_nil _ (List.cons_ne_nil _ _)
  have low := lt_of_holds small stored nonempty
  simp only [readString, Cursor.u4_of_holds low holds, ImageError.ofRead_ok, Cursor.seek,
    StringData.read_of_holds stored]
  rfl

theorem readType_of_holds {bytes : Array UInt8} {strings text : Nat} (few : strings ≤ 4294967296)
    (known : text < strings) (index position : Nat)
    (holds : (Cursor.mk bytes position).Holds (Binary.u32Bytes text)) :
    readType strings index ⟨bytes, position⟩ =
      .ok (text, ⟨bytes, position + (Binary.u32Bytes text).length⟩) := by
  simp only [readType, Cursor.u4_of_holds (Nat.lt_of_lt_of_le known few) holds,
    ImageError.ofRead_ok, known, if_true]
  rfl

theorem readPrototype_of_holds {bytes : Array UInt8} {prototype : Prototype} {offset : Nat}
    (small : bytes.size < 4294967296)
    (fits : prototype.shorty < 4294967296 ∧ prototype.returnType < 4294967296 ∧
      ∀ parameter ∈ prototype.parameters, parameter < 65536)
    (stored : TypeList.StandsAt bytes prototype.parameters offset) (index position : Nat)
    (holds : (Cursor.mk bytes position).Holds (prototype.bytes offset)) :
    readPrototype index ⟨bytes, position⟩ =
      .ok (prototype, ⟨bytes, position + (prototype.bytes offset).length⟩) := by
  have low := lt_of_standsAt small stored
  have few : prototype.parameters.length < 4294967296 := by
    rw [TypeList.StandsAt] at stored
    split at stored
    · rename_i empty
      rw [empty]
      decide
    · have inside := stored.2.end_le (List.cons_ne_nil _ _)
      rw [TypeList.length_bytes] at inside
      change _ ≤ bytes.size at inside
      omega
  have read := Prototype.read_of_holds fits.1 fits.2.1 fits.2.2 few low stored holds
  rw [readPrototype, read]
  rfl

end Image

namespace Draft

def image (draft : Draft) : Image where
  header := draft.header
  strings := draft.strings.entries.map .decoded
  types := draft.types.entries
  prototypes := draft.prototypes.entries
  fields := draft.fields
  methods := draft.methods

theorem size_strings_image (draft : Draft) :
    draft.image.strings.size = draft.strings.entries.size := Array.size_map

section Tables

variable {draft : Draft} {bytes : Array UInt8}

theorem readTable_strings (fits : draft.Fits) (small : bytes.size < 4294967296)
    (stands : draft.StandsIn bytes) :
    Image.readTable Image.readString bytes draft.header.stringIdsSize draft.header.stringIdsOffset =
      .ok draft.image.strings := by
  have room := draft.tables_le
  have limit := fits.small
  have texts : (draft.placedStrings.map fun pair => StringData.decoded pair.1).toArray =
      draft.image.strings := by
    have firsts : draft.placedStrings.map Prod.fst = draft.strings.entries.toList :=
      List.map_fst_zip (Nat.le_of_eq draft.length_stringOffsets.symm)
    change (draft.placedStrings.map (StringData.decoded ∘ Prod.fst)).toArray =
      draft.strings.entries.map .decoded
    rw [← List.map_map, firsts, ← Array.toList_map, Array.toArray_toList]
  have few : draft.strings.entries.toList.length < 4294967296 := by
    rw [Array.length_toList]
    omega
  rw [← texts]
  exact Image.readTable_of_holds Image.readString _ _ draft.placedStrings
    (fun pair member index position holds =>
      Image.readString_of_holds small (stands.strings pair member) index position holds)
    0x0001 draft.length_placedStrings few (by decide) stands.stringIds

theorem readTable_types (fits : draft.Fits) (stands : draft.StandsIn bytes) :
    Image.readTable (Image.readType draft.image.strings.size) bytes draft.header.typeIdsSize
      draft.header.typeIdsOffset = .ok draft.image.types := by
  have room := draft.tables_le
  have limit := fits.small
  have few : draft.strings.entries.size ≤ 4294967296 := by omega
  have read := Image.readTable_of_holds (Image.readType draft.strings.entries.size) _ id
    draft.types.entries.toList
    (fun text member index position holds =>
      Image.readType_of_holds few (fits.types text (Array.mem_toList_iff.mp member)) index position
        holds)
    0x0002 Array.length_toList (by omega) (by omega) stands.typeIds
  rw [List.map_id, Array.toArray_toList] at read
  rw [size_strings_image]
  exact read

theorem readTable_prototypes (fits : draft.Fits) (small : bytes.size < 4294967296)
    (stands : draft.StandsIn bytes) :
    Image.readTable Image.readPrototype bytes draft.header.protoIdsSize
      draft.header.protoIdsOffset = .ok draft.image.prototypes := by
  have room := draft.tables_le
  have limit := fits.small
  have firsts : draft.placedPrototypes.map Prod.fst = draft.prototypes.entries.toList :=
    List.map_fst_zip (Nat.le_of_eq draft.length_parameterOffsets.symm)
  have read := Image.readTable_of_holds Image.readPrototype _ Prod.fst draft.placedPrototypes
    (fun pair member index position holds =>
      Image.readPrototype_of_holds small
        (fits.prototypes pair.1 (Array.mem_toList_iff.mp (List.of_mem_zip member).1))
        (stands.parameters pair member) index position holds)
    0x0003 draft.length_placedPrototypes (by omega) (by omega) stands.protoIds
  rw [firsts, Array.toArray_toList] at read
  exact read

theorem readTable_fields (fits : draft.Fits) (stands : draft.StandsIn bytes) :
    Image.readTable (fun _ c => ImageError.ofRead (FieldId.read c)) bytes
      draft.header.fieldIdsSize draft.header.fieldIdsOffset = .ok draft.image.fields := by
  have room := draft.tables_le
  have limit := fits.small
  have read := Image.readTable_of_holds (fun _ c => ImageError.ofRead (FieldId.read c)) _ id
    draft.fields.toList
    (fun field member index position holds => by
      obtain ⟨declaring, own, name⟩ := fits.fields field (Array.mem_toList_iff.mp member)
      exact congrArg ImageError.ofRead (FieldId.read_of_holds declaring own name holds))
    0x0004 Array.length_toList (by omega) (by omega) stands.fieldIds
  rw [List.map_id, Array.toArray_toList] at read
  exact read

theorem readTable_methods (fits : draft.Fits) (stands : draft.StandsIn bytes) :
    Image.readTable (fun _ c => ImageError.ofRead (MethodId.read c)) bytes
      draft.header.methodIdsSize draft.header.methodIdsOffset = .ok draft.image.methods := by
  have room := draft.tables_le
  have limit := fits.small
  have read := Image.readTable_of_holds (fun _ c => ImageError.ofRead (MethodId.read c)) _ id
    draft.methods.toList
    (fun method member index position holds => by
      obtain ⟨declaring, prototype, name⟩ := fits.methods method (Array.mem_toList_iff.mp member)
      exact congrArg ImageError.ofRead (MethodId.read_of_holds declaring prototype name holds))
    0x0005 Array.length_toList (by omega) (by omega) stands.methodIds
  rw [List.map_id, Array.toArray_toList] at read
  exact read

end Tables

/-- A draft that fits is read back from its image. -/
theorem read_bytes {draft : Draft} (fits : draft.Fits) :
    Image.read draft.bytes = .ok draft.image := by
  have stands := draft.standsIn_bytes (Nat.lt_trans fits.small (by decide))
  have small : draft.bytes.toArray.size < 4294967296 := fits.small
  have header : Header.read draft.bytes = .ok draft.header :=
    Header.read_bytes_append (h := draft.header) rfl rfl _
  simp only [Image.read, header, Image.readTables, readTable_strings fits small stands,
    readTable_types fits stands, readTable_prototypes fits small stands,
    readTable_fields fits stands, readTable_methods fits stands, bind, Except.bind, pure,
    Except.pure]
  rfl

end Draft

end DexMembers
