import DexMembers.Proofs.Image.Entries

/-!
# Images whose bytes are all there

The tables of a complete image lie inside its bytes, its strings end and its type lists are whole.
Such an image can be read whatever its ids refer to, unless a type refers to a string that does not
exist: of all references only these are looked at while the tables are read.
-/

set_option autoImplicit false

namespace DexMembers

open Binary (Cursor numberAt?)
open Binary.Cursor (exists_numberAt? word_of_numberAt?)

/-- A table of entries of the given width lies inside the bytes.  An empty one may be anywhere. -/
def TableWithin (content : List UInt8) (width : Nat) (size offset : UInt32) : Prop :=
  size.toNat = 0 ∨ offset.toNat + width * size.toNat ≤ content.length

theorem TableWithin.entry_le {content : List UInt8} {width : Nat} {size offset : UInt32}
    (within : TableWithin content width size offset) {i : Nat} (inside : i < size.toNat) :
    offset.toNat + width * i + width ≤ content.length := by
  rcases within with empty | within
  · omega
  · have step : width * (i + 1) ≤ width * size.toNat := Nat.mul_le_mul_left width inside
    rw [Nat.mul_succ] at step
    omega

def StringData.EndsIn (content : List UInt8) (offset : Nat) : Prop :=
  ∃ units used, Binary.readLeb? ((content.drop offset).take Binary.maxLebBytes) =
    some (units, used) ∧ 0 ∈ content.drop (offset + used)

def TypeList.LiesIn (content : List UInt8) (offset : Nat) : Prop :=
  ∃ size, numberAt? 4 content offset = some size ∧ offset + 4 + 2 * size ≤ content.length

/-- Everything that the tables of the header lead to is there.  Nothing is said of the numbers by
which ids, prototypes and types refer to one another. -/
structure Image.Complete (content : List UInt8) (header : Header) : Prop where
  strings : TableWithin content 4 header.stringIdsSize header.stringIdsOffset
  types : TableWithin content 4 header.typeIdsSize header.typeIdsOffset
  prototypes : TableWithin content 12 header.protoIdsSize header.protoIdsOffset
  fields : TableWithin content 8 header.fieldIdsSize header.fieldIdsOffset
  methods : TableWithin content 8 header.methodIdsSize header.methodIdsOffset
  texts : ∀ i < header.stringIdsSize.toNat, ∀ offset,
    numberAt? 4 content (header.stringIdsOffset.toNat + 4 * i) = some offset →
      StringData.EndsIn content offset
  parameters : ∀ i < header.protoIdsSize.toNat, ∀ offset ≠ 0,
    numberAt? 4 content (header.protoIdsOffset.toNat + 12 * i + 8) = some offset →
      TypeList.LiesIn content offset

/-! ### Entries that are there are read -/

section Entries

variable {content : List UInt8} {position : Nat}

theorem u2_eq_ok (short : content.length < Cursor.positionLimit) {value : Nat}
    (stands : numberAt? 2 content position = some value) :
    Cursor.u2 ⟨content.toArray, position⟩ = .ok (value, ⟨content.toArray, position + 2⟩) :=
  @word_of_numberAt? ⟨content.toArray, position⟩ 2 value short stands .u2

theorem u4_eq_ok (short : content.length < Cursor.positionLimit) {value : Nat}
    (stands : numberAt? 4 content position = some value) :
    Cursor.u4 ⟨content.toArray, position⟩ = .ok (value, ⟨content.toArray, position + 4⟩) :=
  @word_of_numberAt? ⟨content.toArray, position⟩ 4 value short stands .u4

theorem StringData.exists_read_eq_ok (short : content.length < Cursor.positionLimit)
    {offset : Nat} (ends : StringData.EndsIn content offset) :
    ∃ text later, StringData.read ⟨content.toArray, offset⟩ = .ok (text, later) := by
  obtain ⟨units, used, length, zero⟩ := ends
  have sized : Cursor.uleb128 ⟨content.toArray, offset⟩ =
      .ok (units, ⟨content.toArray, offset + used⟩) := by
    have rest : (Cursor.mk content.toArray offset).rest = content.drop offset := rfl
    rw [Cursor.uleb128, Cursor.toList_extract, rest, length]
    rfl
  -- the string is what stands before the first zero byte
  obtain ⟨before, after, split, nonzero⟩ := List.eq_append_cons_of_mem zero
  have holds : (Cursor.mk content.toArray (offset + used)).Holds (before ++ [0]) := by
    refine ⟨short, after, ?_⟩
    change _ = content.drop (offset + used)
    rw [split, List.append_assoc, List.singleton_append]
  rw [StringData.read_eq_bind, sized, Except.ok_bind, Cursor.untilZero_of_holds nonzero holds,
    Except.ok_bind]
  dsimp only
  split
  · exact ⟨_, _, rfl⟩
  · exact ⟨_, _, rfl⟩

theorem TypeList.exists_read_eq_ok (short : content.length < Cursor.positionLimit) {offset : Nat}
    (lies : TypeList.LiesIn content offset) :
    ∃ types later, TypeList.read ⟨content.toArray, offset⟩ = .ok (types, later) := by
  obtain ⟨size, stands, inside⟩ := lies
  have fits : ¬ content.toArray.size / 2 < size := by
    rw [List.size_toArray]
    omega
  obtain ⟨types, later, entries⟩ : ∃ types later,
      Cursor.many (fun _ c => c.u2) size ⟨content.toArray, offset + 4⟩ = .ok (types, later) := by
    apply Cursor.exists_many_eq_ok fun _ _ _ _ step => (Cursor.eq_ok_of_u2 step).2
    intro i early
    obtain ⟨value, stands⟩ :=
      exists_numberAt? (show offset + 4 + 2 * i + 2 ≤ content.length by omega)
    exact ⟨value, _, u2_eq_ok short stands⟩
  rw [TypeList.read_eq_bind, u4_eq_ok short stands]
  dsimp only [ImageError.ofRead, Except.mapError_ok, Except.ok_bind]
  rw [if_neg fits, entries]
  exact ⟨_, _, rfl⟩

theorem Prototype.exists_read_eq_ok (short : content.length < Cursor.positionLimit)
    (inside : position + 12 ≤ content.length)
    (whole : ∀ offset ≠ 0, numberAt? 4 content (position + 8) = some offset →
      TypeList.LiesIn content offset) :
    ∃ prototype later, Prototype.read ⟨content.toArray, position⟩ = .ok (prototype, later) := by
  obtain ⟨shorty, first⟩ := exists_numberAt? (show position + 4 ≤ content.length by omega)
  obtain ⟨returnType, second⟩ := exists_numberAt? (show position + 4 + 4 ≤ content.length by omega)
  obtain ⟨offset, third⟩ := exists_numberAt? (show position + 8 + 4 ≤ content.length by omega)
  simp only [Prototype.read, u4_eq_ok short first, u4_eq_ok short second, u4_eq_ok short third,
    ImageError.ofRead, Except.mapError_ok, Except.ok_bind, Nat.add_assoc]
  split
  · exact ⟨_, _, rfl⟩
  · rename_i somewhere
    obtain ⟨types, later, list⟩ := TypeList.exists_read_eq_ok short (whole offset somewhere third)
    exact ⟨_, _, by rw [Cursor.seek, list]; rfl⟩

theorem exists_readIdTriple_eq_ok (short : content.length < Cursor.positionLimit)
    (inside : position + 8 ≤ content.length) :
    ∃ triple later, readIdTriple ⟨content.toArray, position⟩ = .ok (triple, later) := by
  obtain ⟨first, firstStands⟩ := exists_numberAt? (show position + 2 ≤ content.length by omega)
  obtain ⟨second, secondStands⟩ :=
    exists_numberAt? (show position + 2 + 2 ≤ content.length by omega)
  obtain ⟨third, thirdStands⟩ :=
    exists_numberAt? (show position + 4 + 4 ≤ content.length by omega)
  simp only [readIdTriple, u2_eq_ok short firstStands, u2_eq_ok short secondStands,
    u4_eq_ok short thirdStands, Except.ok_bind, Nat.add_assoc]
  exact ⟨_, _, rfl⟩

end Entries

namespace Image

variable {content : List UInt8} {header : Header}

def typeTextAt? (content : List UInt8) (header : Header) (i : Nat) : Option Nat :=
  numberAt? 4 content (header.typeIdsOffset.toNat + 4 * i)

def TypeNamed (content : List UInt8) (header : Header) (i : Nat) : Prop :=
  ∀ text, typeTextAt? content header i = some text → text < header.stringIdsSize.toNat

theorem exists_readTable_eq_ok {α : Type} {next : Nat → Cursor → Except ImageError (α × Cursor)}
    {width : Nat}
    (each : ∀ index c value later, next index c = .ok (value, later) → later = c.advance width)
    {bytes : Array UInt8} {size offset : UInt32}
    (good : ∀ i < size.toNat, ∃ value later,
      next i ⟨bytes, offset.toNat + width * i⟩ = .ok (value, later)) :
    ∃ table, readTable next bytes size offset = .ok table := by
  have entries : ∃ values later, Cursor.many next size.toNat ⟨bytes, offset.toNat⟩ =
      .ok (values, later) := Cursor.exists_many_eq_ok each good
  obtain ⟨values, later, entries⟩ := entries
  exact ⟨values, by rw [readTable, entries]; rfl⟩

theorem readType_eq_of_typeTextAt? (short : content.length < Cursor.positionLimit)
    {strings i text : Nat} (stands : typeTextAt? content header i = some text) :
    readType strings i ⟨content.toArray, header.typeIdsOffset.toNat + 4 * i⟩ =
      if text < strings then
        .ok (text, ⟨content.toArray, header.typeIdsOffset.toNat + 4 * i + 4⟩)
      else .error { fault := .noString text, places := [.typeId i] } := by
  rw [readType_eq_bind, u4_eq_ok short stands]
  rfl

section Tables

variable (short : content.length < Cursor.positionLimit) (complete : Complete content header)
include short complete

theorem Complete.exists_strings : ∃ strings, readTable readString content.toArray
    header.stringIdsSize header.stringIdsOffset = .ok strings ∧
      strings.size = header.stringIdsSize.toNat := by
  have width : ∀ index c value later, readString index c = .ok (value, later) →
      later = c.advance 4 := fun _ _ _ _ step => (stands_of_readString step).2
  suffices read : ∃ strings, readTable readString content.toArray header.stringIdsSize
      header.stringIdsOffset = .ok strings by
    obtain ⟨strings, read⟩ := read
    exact ⟨strings, read, (getElem_readTable width read).1⟩
  apply exists_readTable_eq_ok width
  intro i inside
  obtain ⟨offset, stands⟩ := exists_numberAt? (complete.strings.entry_le inside)
  obtain ⟨text, later, stored⟩ :=
    StringData.exists_read_eq_ok short (complete.texts i inside offset stands)
  rw [readString_eq_bind, u4_eq_ok short stands]
  dsimp only [ImageError.ofRead, Except.mapError_ok, Except.ok_bind, Cursor.seek]
  rw [stored]
  exact ⟨_, _, rfl⟩

theorem Complete.exists_types
    (named : ∀ i < header.typeIdsSize.toNat, TypeNamed content header i) :
    ∃ types, readTable (readType header.stringIdsSize.toNat) content.toArray header.typeIdsSize
      header.typeIdsOffset = .ok types := by
  apply exists_readTable_eq_ok fun _ _ _ _ step => (stands_of_readType step).2
  intro i inside
  obtain ⟨text, stands⟩ := exists_numberAt? (complete.types.entry_le inside)
  exact ⟨text, _, (readType_eq_of_typeTextAt? short stands).trans
    (if_pos (named i inside text stands))⟩

theorem Complete.exists_prototypes : ∃ prototypes, readTable readPrototype content.toArray
    header.protoIdsSize header.protoIdsOffset = .ok prototypes := by
  apply exists_readTable_eq_ok fun _ _ _ _ step => (stands_of_readPrototype step).2
  intro i inside
  obtain ⟨prototype, later, read⟩ := Prototype.exists_read_eq_ok short
    (complete.prototypes.entry_le inside) (complete.parameters i inside)
  exact ⟨prototype, later, by rw [readPrototype, read]; rfl⟩

theorem Complete.exists_fields : ∃ fields,
    readTable (fun _ c => ImageError.ofRead (FieldId.read c)) content.toArray header.fieldIdsSize
      header.fieldIdsOffset = .ok fields := by
  apply exists_readTable_eq_ok
    fun _ _ _ _ step => (stands_of_readField (eq_ok_of_mapError_eq_ok step)).2
  intro i inside
  obtain ⟨triple, later, read⟩ := exists_readIdTriple_eq_ok short (complete.fields.entry_le inside)
  exact ⟨_, later, by rw [FieldId.read_eq_bind, read]; rfl⟩

theorem Complete.exists_methods : ∃ methods,
    readTable (fun _ c => ImageError.ofRead (MethodId.read c)) content.toArray header.methodIdsSize
      header.methodIdsOffset = .ok methods := by
  apply exists_readTable_eq_ok
    fun _ _ _ _ step => (stands_of_readMethod (eq_ok_of_mapError_eq_ok step)).2
  intro i inside
  obtain ⟨triple, later, read⟩ := exists_readIdTriple_eq_ok short (complete.methods.entry_le inside)
  exact ⟨_, later, by rw [MethodId.read_eq_bind, read]; rfl⟩

/-- A complete image can be read if every type refers to a string that exists. -/
theorem Complete.exists_read_eq_ok (start : Header.read content = .ok header)
    (named : ∀ i < header.typeIdsSize.toNat, TypeNamed content header i) :
    ∃ image, Image.read content = .ok image := by
  obtain ⟨strings, stringsRead, count⟩ := complete.exists_strings short
  obtain ⟨types, typesRead⟩ := complete.exists_types short named
  obtain ⟨prototypes, prototypesRead⟩ := complete.exists_prototypes short
  obtain ⟨fields, fieldsRead⟩ := complete.exists_fields short
  obtain ⟨methods, methodsRead⟩ := complete.exists_methods short
  rw [← count] at typesRead
  exact ⟨{ header, strings, types, prototypes, fields, methods }, read_eq_ok_iff.mpr
    ⟨start, stringsRead, typesRead, prototypesRead, fieldsRead, methodsRead⟩⟩

/-- The first type that refers to no string is the failure. -/
theorem Complete.read_eq_error (start : Header.read content = .ok header) {i text : Nat}
    (inside : i < header.typeIdsSize.toNat) (stands : typeTextAt? content header i = some text)
    (absent : ¬ text < header.stringIdsSize.toNat)
    (first : ∀ earlier < i, TypeNamed content header earlier) :
    Image.read content = .error { fault := .noString text, places := [.typeId i] } := by
  obtain ⟨strings, stringsRead, count⟩ := complete.exists_strings short
  have entries : Cursor.many (readType header.stringIdsSize.toNat) header.typeIdsSize.toNat
      ⟨content.toArray, header.typeIdsOffset.toNat⟩ =
        .error { fault := .noString text, places := [.typeId i] } := by
    refine Cursor.manyOnto_eq_error_of_first
      (fun _ _ _ _ step => (stands_of_readType step).2) inside ?_ ?_
    · intro earlier before
      obtain ⟨found, stands⟩ :=
        exists_numberAt? (complete.types.entry_le (Nat.lt_trans before inside))
      rw [Array.size_empty, Nat.zero_add]
      exact ⟨found, _, (readType_eq_of_typeTextAt? short stands).trans
        (if_pos (first earlier before found stands))⟩
    · rw [Array.size_empty, Nat.zero_add]
      exact (readType_eq_of_typeTextAt? short stands).trans (if_neg absent)
  rw [read_eq_bind, start, Except.ok_bind, readTables, stringsRead, Except.ok_bind, count,
    readTable, entries]
  rfl

end Tables

theorem lt_of_readType {c later : Cursor} {strings index text : Nat}
    (read : readType strings index c = .ok (text, later)) : text < strings := by
  rw [readType_eq_bind] at read
  obtain ⟨_, _, read⟩ := eq_ok_of_bind_eq_ok read
  split at read
  · rename_i known
    cases read
    exact known
  · cases read

theorem typeNamed_of_read_eq_ok {image : Image} (start : Header.read content = .ok header)
    (read : Image.read content = .ok image) {i : Nat} (inside : i < header.typeIdsSize.toNat) :
    TypeNamed content header i := by
  obtain ⟨headerRead, tables⟩ := read_eq_ok_iff.mp read
  obtain rfl : image.header = header := Except.ok.inj (headerRead.symm.trans start)
  obtain ⟨stringCount, _⟩ :=
    getElem_readTable (fun _ _ _ _ step => (stands_of_readString step).2) tables.strings
  obtain ⟨typeCount, entries⟩ :=
    getElem_readTable (fun _ _ _ _ step => (stands_of_readType step).2) tables.types
  obtain ⟨later, entry⟩ := entries i (typeCount ▸ inside)
  intro text stands
  have same : typeTextAt? content image.header i = some image.types[i] :=
    (stands_of_readType entry).1
  rw [stands] at same
  rw [Option.some.inj same, ← stringCount]
  exact lt_of_readType entry

end Image

end DexMembers
