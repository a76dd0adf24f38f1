import DexMembers.Proofs.Binary.Number
import DexMembers.Proofs.Image.ReaderSteps

/-!
# Where the entries of an image stand

Entry `i` of a table that was read is what stands at the table's offset plus `i` times the width of
an entry.  Where the other tables are makes no difference: they may touch it or lie over it.
-/

set_option autoImplicit false

namespace DexMembers

open Binary (Cursor numberAt?)
open Binary.Cursor (eq_ok_of_u2 eq_ok_of_u4)

/-- The types are those of the list at the offset: its size, then its numbers.  The offset zero is
that of the empty list. -/
def TypeList.ListedAt (content : List UInt8) (offset : Nat) (types : List Nat) : Prop :=
  if offset = 0 then types = []
  else numberAt? 4 content offset = some types.length ∧
    ∀ i (inside : i < types.length), numberAt? 2 content (offset + 4 + 2 * i) = some types[i]

structure Prototype.ReadAt (content : List UInt8) (position : Nat) (prototype : Prototype) :
    Prop where
  shorty : numberAt? 4 content position = some prototype.shorty
  returnType : numberAt? 4 content (position + 4) = some prototype.returnType
  parameters : ∃ offset, numberAt? 4 content (position + 8) = some offset ∧
    TypeList.ListedAt content offset prototype.parameters

structure TripleAt (content : List UInt8) (position first second third : Nat) : Prop where
  first : numberAt? 2 content position = some first
  second : numberAt? 2 content (position + 2) = some second
  third : numberAt? 4 content (position + 4) = some third

variable {c later : Cursor}

theorem listedAt_of_read {types : List Nat} (read : TypeList.read c = .ok (types, later))
    (somewhere : c.position ≠ 0) : TypeList.ListedAt c.bytes.toList c.position types := by
  rw [TypeList.read_eq_bind] at read
  obtain ⟨⟨size, behind⟩, sizeRead, read⟩ := eq_ok_of_bind_eq_ok read
  obtain ⟨stands, rfl⟩ := eq_ok_of_u4 (eq_ok_of_mapError_eq_ok sizeRead)
  dsimp only at read
  split at read
  · cases read
  · obtain ⟨⟨values, after⟩, valuesRead, read⟩ := eq_ok_of_bind_eq_ok read
    cases read
    obtain ⟨length, entries⟩ := Cursor.getElem_many
      (fun _ _ _ _ step => (eq_ok_of_u2 step).2) (eq_ok_of_mapError_eq_ok valuesRead)
    subst length
    rw [TypeList.ListedAt, if_neg somewhere]
    refine ⟨stands, fun i inside => ?_⟩
    rw [Array.getElem_toList]
    exact (eq_ok_of_u2 (entries i inside)).1

theorem readAt_of_read {prototype : Prototype} (read : Prototype.read c = .ok (prototype, later)) :
    prototype.ReadAt c.bytes.toList c.position ∧ later = c.advance 12 := by
  obtain ⟨⟨shorty, next⟩, first, read⟩ := eq_ok_of_bind_eq_ok read
  obtain ⟨shortyStands, rfl⟩ := eq_ok_of_u4 (eq_ok_of_mapError_eq_ok first)
  obtain ⟨⟨returnType, next⟩, second, read⟩ := eq_ok_of_bind_eq_ok read
  obtain ⟨returnStands, rfl⟩ := eq_ok_of_u4 (eq_ok_of_mapError_eq_ok second)
  obtain ⟨⟨offset, next⟩, third, read⟩ := eq_ok_of_bind_eq_ok read
  obtain ⟨offsetStands, rfl⟩ := eq_ok_of_u4 (eq_ok_of_mapError_eq_ok third)
  dsimp only at read
  split at read
  · rename_i nowhere
    cases read
    have none : TypeList.ListedAt c.bytes.toList offset [] := (if_pos nowhere).mpr rfl
    exact ⟨⟨shortyStands, returnStands, offset, offsetStands, none⟩, rfl⟩
  · rename_i somewhere
    obtain ⟨⟨parameters, elsewhere⟩, list, read⟩ := eq_ok_of_bind_eq_ok read
    cases read
    exact ⟨⟨shortyStands, returnStands, offset, offsetStands, listedAt_of_read list somewhere⟩, rfl⟩

theorem tripleAt_of_read {first second third : Nat}
    (read : readIdTriple c = .ok ((first, second, third), later)) :
    TripleAt c.bytes.toList c.position first second third ∧ later = c.advance 8 := by
  obtain ⟨⟨firstValue, next⟩, firstRead, read⟩ := eq_ok_of_bind_eq_ok read
  obtain ⟨firstStands, rfl⟩ := eq_ok_of_u2 firstRead
  obtain ⟨⟨secondValue, next⟩, secondRead, read⟩ := eq_ok_of_bind_eq_ok read
  obtain ⟨secondStands, rfl⟩ := eq_ok_of_u2 secondRead
  obtain ⟨⟨thirdValue, next⟩, thirdRead, read⟩ := eq_ok_of_bind_eq_ok read
  obtain ⟨thirdStands, rfl⟩ := eq_ok_of_u4 thirdRead
  cases read
  exact ⟨⟨firstStands, secondStands, thirdStands⟩, rfl⟩

namespace Image

theorem stands_of_readString {index : Nat} {text : StringData}
    (read : readString index c = .ok (text, later)) :
    (∃ offset behind, numberAt? 4 c.bytes.toList c.position = some offset ∧
      StringData.read (c.seek offset) = .ok (text, behind)) ∧ later = c.advance 4 := by
  rw [readString_eq_bind] at read
  obtain ⟨⟨offset, next⟩, place, read⟩ := eq_ok_of_bind_eq_ok read
  obtain ⟨stands, rfl⟩ := eq_ok_of_u4 (eq_ok_of_mapError_eq_ok place)
  obtain ⟨⟨found, behind⟩, stored, read⟩ := eq_ok_of_bind_eq_ok read
  cases read
  exact ⟨⟨offset, behind, stands, eq_ok_of_mapError_eq_ok (eq_ok_of_mapError_eq_ok stored)⟩, rfl⟩

theorem stands_of_readType {strings index text : Nat}
    (read : readType strings index c = .ok (text, later)) :
    numberAt? 4 c.bytes.toList c.position = some text ∧ later = c.advance 4 := by
  rw [readType_eq_bind] at read
  obtain ⟨⟨number, next⟩, place, read⟩ := eq_ok_of_bind_eq_ok read
  dsimp only at read
  split at read
  · cases read
    exact eq_ok_of_u4 (eq_ok_of_mapError_eq_ok place)
  · cases read

theorem stands_of_readPrototype {index : Nat} {prototype : Prototype}
    (read : readPrototype index c = .ok (prototype, later)) :
    prototype.ReadAt c.bytes.toList c.position ∧ later = c.advance 12 :=
  readAt_of_read (eq_ok_of_mapError_eq_ok read)

theorem stands_of_readField {field : FieldId} (read : FieldId.read c = .ok (field, later)) :
    TripleAt c.bytes.toList c.position field.declaringType field.fieldType field.name ∧
      later = c.advance 8 := by
  rw [FieldId.read_eq_bind] at read
  obtain ⟨⟨⟨first, second, third⟩, next⟩, triple, read⟩ := eq_ok_of_bind_eq_ok read
  cases read
  exact tripleAt_of_read triple

theorem stands_of_readMethod {method : MethodId} (read : MethodId.read c = .ok (method, later)) :
    TripleAt c.bytes.toList c.position method.declaringType method.prototype method.name ∧
      later = c.advance 8 := by
  rw [MethodId.read_eq_bind] at read
  obtain ⟨⟨⟨first, second, third⟩, next⟩, triple, read⟩ := eq_ok_of_bind_eq_ok read
  cases read
  exact tripleAt_of_read triple

theorem getElem_readTable {α : Type} {next : Nat → Cursor → Except ImageError (α × Cursor)}
    {width : Nat}
    (each : ∀ index c value later, next index c = .ok (value, later) → later = c.advance width)
    {bytes : Array UInt8} {size offset : UInt32} {table : Array α}
    (read : readTable next bytes size offset = .ok table) :
    table.size = size.toNat ∧ ∀ i (inside : i < table.size), ∃ later,
      next i ⟨bytes, offset.toNat + width * i⟩ = .ok (table[i], later) := by
  obtain ⟨⟨values, behind⟩, entries, rfl⟩ := eq_ok_of_map_eq_ok read
  obtain ⟨counted, placed⟩ := Cursor.getElem_many each entries
  exact ⟨counted, fun i inside => ⟨_, placed i inside⟩⟩

/-- Each table that is read has the number of entries that the header states, and each entry is
what stands at its place, the offset of the table plus its number times the width of an entry. -/
theorem read_entries {content : List UInt8} {image : Image}
    (read : Image.read content = .ok image) :
    let header := image.header
    Header.read content = .ok header ∧
    (image.strings.size = header.stringIdsSize.toNat ∧
      image.types.size = header.typeIdsSize.toNat ∧
      image.prototypes.size = header.protoIdsSize.toNat ∧
      image.fields.size = header.fieldIdsSize.toNat ∧
      image.methods.size = header.methodIdsSize.toNat) ∧
    (∀ i (inside : i < image.strings.size), ∃ offset behind,
      numberAt? 4 content (header.stringIdsOffset.toNat + 4 * i) = some offset ∧
      StringData.read ⟨content.toArray, offset⟩ = .ok (image.strings[i], behind)) ∧
    (∀ i (inside : i < image.types.size),
      numberAt? 4 content (header.typeIdsOffset.toNat + 4 * i) = some image.types[i]) ∧
    (∀ i (inside : i < image.prototypes.size),
      image.prototypes[i].ReadAt content (header.protoIdsOffset.toNat + 12 * i)) ∧
    (∀ i (inside : i < image.fields.size),
      TripleAt content (header.fieldIdsOffset.toNat + 8 * i) image.fields[i].declaringType
        image.fields[i].fieldType image.fields[i].name) ∧
    (∀ i (inside : i < image.methods.size),
      TripleAt content (header.methodIdsOffset.toNat + 8 * i) image.methods[i].declaringType
        image.methods[i].prototype image.methods[i].name) := by
  rw [read_eq_bind] at read
  obtain ⟨header, headerRead, read⟩ := eq_ok_of_bind_eq_ok read
  obtain ⟨strings, stringsRead, read⟩ := eq_ok_of_bind_eq_ok read
  obtain ⟨types, typesRead, read⟩ := eq_ok_of_bind_eq_ok read
  obtain ⟨prototypes, prototypesRead, read⟩ := eq_ok_of_bind_eq_ok read
  obtain ⟨fields, fieldsRead, read⟩ := eq_ok_of_bind_eq_ok read
  obtain ⟨methods, methodsRead, read⟩ := eq_ok_of_bind_eq_ok read
  cases read
  obtain ⟨stringCount, stringEntries⟩ :=
    getElem_readTable (fun _ _ _ _ step => (stands_of_readString step).2) stringsRead
  obtain ⟨typeCount, typeEntries⟩ :=
    getElem_readTable (fun _ _ _ _ step => (stands_of_readType step).2) typesRead
  obtain ⟨prototypeCount, prototypeEntries⟩ :=
    getElem_readTable (fun _ _ _ _ step => (stands_of_readPrototype step).2) prototypesRead
  obtain ⟨fieldCount, fieldEntries⟩ := getElem_readTable
    (fun _ _ _ _ step => (stands_of_readField (eq_ok_of_mapError_eq_ok step)).2) fieldsRead
  obtain ⟨methodCount, methodEntries⟩ := getElem_readTable
    (fun _ _ _ _ step => (stands_of_readMethod (eq_ok_of_mapError_eq_ok step)).2) methodsRead
  refine ⟨headerRead, ⟨stringCount, typeCount, prototypeCount, fieldCount, methodCount⟩, ?strings,
    ?types, ?prototypes, ?fields, ?methods⟩
  case strings =>
    intro i inside
    obtain ⟨later, entry⟩ := stringEntries i inside
    exact (stands_of_readString entry).1
  case types =>
    intro i inside
    obtain ⟨later, entry⟩ := typeEntries i inside
    exact (stands_of_readType entry).1
  case prototypes =>
    intro i inside
    obtain ⟨later, entry⟩ := prototypeEntries i inside
    exact (stands_of_readPrototype entry).1
  case fields =>
    intro i inside
    obtain ⟨later, entry⟩ := fieldEntries i inside
    exact (stands_of_readField (eq_ok_of_mapError_eq_ok entry)).1
  case methods =>
    intro i inside
    obtain ⟨later, entry⟩ := methodEntries i inside
    exact (stands_of_readMethod (eq_ok_of_mapError_eq_ok entry)).1

/-- An image that is nothing but its header, over which all its tables lie: the string begins at
the end of the magic, the one parameter is the offset of the strings, and the ids are made of the
magic. -/
theorem read_entries_over_header :
    let content : List UInt8 := dexMagic ++ [0x30, 0x33, 0x35, 0x00] ++ [0x41, 0x00, 0x00, 0x00] ++
      List.replicate 20 0 ++
      [0, 0, 0x12345678, 0, 0, 56, 1, 108, 1, 44, 1, 44, 1, 0, 1, 4, 0, 0, 0, 7].flatMap
        Header.wordBytes
    (∃ image, Image.read content = .ok image ∧ image.strings.size = 1) ∧
      (∃ offset behind, numberAt? 4 content 108 = some offset ∧
        StringData.read ⟨content.toArray, offset⟩ = .ok (.decoded "A", behind)) ∧
      numberAt? 4 content 44 = some 0 ∧
      Prototype.ReadAt content 44 { shorty := 0, returnType := 0, parameters := [108] } ∧
      TripleAt content 0 0x6564 0x0A78 0x353330 ∧
      TripleAt content 4 0x3330 0x35 0x41 := by
  intro content
  let image : Image :=
    { header := Header.ofBytes content (by decide +kernel)
      strings := #[.decoded "A"]
      types := #[0]
      prototypes := #[{ shorty := 0, returnType := 0, parameters := [108] }]
      fields := #[{ declaringType := 0x6564, fieldType := 0x0A78, name := 0x353330 }]
      methods := #[{ declaringType := 0x3330, prototype := 0x35, name := 0x41 }] }
  have read : Image.read content = .ok image := by decide +kernel
  obtain ⟨_, ⟨count, _⟩, strings, types, prototypes, fields, methods⟩ := read_entries read
  have one : 0 < 1 := by decide
  exact ⟨⟨image, read, count⟩, strings 0 one, types 0 one, prototypes 0 one, fields 0 one,
    methods 0 one⟩

end Image

end DexMembers
