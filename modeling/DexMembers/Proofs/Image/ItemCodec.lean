import DexMembers.Proofs.Binary.Codec
import DexMembers.Proofs.Image.Complete
import DexMembers.Proofs.Image.Item

/-!
# Ids and type lists are read as they are written

Tables of field and method ids and type lists are read back from where they are written, and what
is read is written as the bytes it was read from.  A type list is read exactly where there is room
for as many numbers as its size says.
-/

set_option autoImplicit false

namespace DexMembers

open Binary (Codec Cursor numberAt?)

structure IdTripleFits (first second third : Nat) : Prop where
  first : first < 65536
  second : second < 65536
  third : third < 4294967296

def FieldId.Fits (field : FieldId) : Prop :=
  IdTripleFits field.declaringType field.fieldType field.name

def MethodId.Fits (method : MethodId) : Prop :=
  IdTripleFits method.declaringType method.prototype method.name

structure TypeList.Fits (types : List Nat) : Prop where
  few : types.length < 4294967296
  small : ∀ type ∈ types, type < 65536

theorem codec_readIdTriple :
    Codec readIdTriple (fun id => IdTripleFits id.1 id.2.1 id.2.2)
      (fun id => idTripleBytes id.1 id.2.1 id.2.2) where
  complete c id fits holds := readIdTriple_of_holds fits.first fits.second fits.third holds
  sound c id later done := by
    have codec := Binary.codec_u2.pair (Binary.codec_u2.pair Binary.codec_u4)
    obtain ⟨⟨first, second, third⟩, stands, later⟩ :=
      codec.sound c id later (by rw [← done, readIdTriple]; simp only [bind_assoc, pure_bind])
    rw [idTripleBytes, List.append_assoc]
    exact ⟨⟨first, second, third⟩, stands, later⟩

theorem codec_fieldId : Codec FieldId.read FieldId.Fits FieldId.bytes := by
  have codec := codec_readIdTriple.change
    (fun (declaringType, fieldType, name) => ({ declaringType, fieldType, name } : FieldId))
    (fun field => (field.declaringType, field.fieldType, field.name)) (fun _ => rfl) fun _ => rfl
  exact codec

theorem codec_methodId : Codec MethodId.read MethodId.Fits MethodId.bytes := by
  have codec := codec_readIdTriple.change
    (fun (declaringType, prototype, name) => ({ declaringType, prototype, name } : MethodId))
    (fun method => (method.declaringType, method.prototype, method.name))
    (fun _ => rfl) (fun _ => rfl)
  exact codec

/-! ### Type lists -/

theorem codec_typeList : Codec TypeList.read TypeList.Fits TypeList.bytes where
  complete c types fits holds := TypeList.read_of_holds fits.small fits.few holds
  sound c types later done := by
    rw [TypeList.read_eq_bind] at done
    obtain ⟨⟨size, next⟩, sizeRead, done⟩ := eq_ok_of_bind_eq_ok done
    obtain ⟨few, sizeStands, rfl⟩ :=
      Binary.codec_u4.sound c size next (eq_ok_of_mapError_eq_ok sizeRead)
    dsimp only at done
    split at done
    · cases done
    · obtain ⟨⟨values, next⟩, valuesRead, done⟩ := eq_ok_of_bind_eq_ok done
      cases done
      obtain ⟨⟨rfl, small⟩, valuesStand, rfl⟩ :=
        (Binary.codec_u2.many size).sound _ values next (eq_ok_of_mapError_eq_ok valuesRead)
      refine ⟨⟨few, small⟩, Cursor.append_prefix_rest sizeStands valuesStand, ?_⟩
      rw [Cursor.advance_advance, TypeList.bytes, List.length_append, Array.length_toList]
      rfl

theorem TypeList.exists_read_eq_ok_iff {buffer : Array UInt8} {offset : Nat}
    (short : buffer.size < Cursor.positionLimit) :
    (∃ types later, TypeList.read ⟨buffer, offset⟩ = .ok (types, later)) ↔
      TypeList.LiesIn buffer.toList offset := by
  constructor
  · rintro ⟨types, later, done⟩
    obtain ⟨fits, stands, -⟩ := codec_typeList.sound _ types later done
    have holds : (Cursor.mk buffer offset).Holds (TypeList.bytes types) := ⟨short, stands⟩
    have inside := holds.end_le (List.cons_ne_nil _ _)
    rw [TypeList.length_bytes] at inside
    refine ⟨types.length, Cursor.numberAt?_of_u32 fits.few holds.left, ?_⟩
    rw [Array.length_toList, Nat.add_assoc]
    exact inside
  · exact TypeList.exists_read_eq_ok short

/-- Method ids in a row, field ids in a row, single ids and type lists: what fits is read from
wherever it is written, and what is read fits and is written as the bytes it was read from, behind
which the cursor stops.  A type list is read if and only if its size is there and room for that many
numbers behind it.  A prototype whose two numbers are words, written with an offset at which its
parameters stand, is read unchanged. -/
theorem ids_and_lists_read_as_written :
    (∀ count, Codec (Cursor.many (fun _ => MethodId.read) count)
      (fun methods => methods.size = count ∧ ∀ method ∈ methods.toList, method.Fits)
      (fun methods => methods.toList.flatMap MethodId.bytes)) ∧
    (∀ count, Codec (Cursor.many (fun _ => FieldId.read) count)
      (fun fields => fields.size = count ∧ ∀ field ∈ fields.toList, field.Fits)
      (fun fields => fields.toList.flatMap FieldId.bytes)) ∧
    Codec MethodId.read MethodId.Fits MethodId.bytes ∧
    Codec FieldId.read FieldId.Fits FieldId.bytes ∧
    Codec TypeList.read TypeList.Fits TypeList.bytes ∧
    (∀ (buffer : Array UInt8) (offset : Nat), buffer.size < Cursor.positionLimit →
      ((∃ types later, TypeList.read ⟨buffer, offset⟩ = .ok (types, later)) ↔
        ∃ size, numberAt? 4 buffer.toList offset = some size ∧
          offset + 4 + 2 * size ≤ buffer.size)) ∧
    ∀ (c : Cursor) (prototype : Prototype) (offset : Nat), offset ≠ 0 → offset < 4294967296 →
      prototype.shorty < 4294967296 → prototype.returnType < 4294967296 →
      TypeList.Fits prototype.parameters →
      (c.seek offset).Holds (TypeList.bytes prototype.parameters) →
      c.Holds (prototype.bytes offset) →
        Prototype.read c = .ok (prototype, c.advance 12) := by
  refine ⟨codec_methodId.many, codec_fieldId.many, codec_methodId, codec_fieldId, codec_typeList,
    fun buffer offset short => TypeList.exists_read_eq_ok_iff short, ?_⟩
  intro c prototype offset somewhere low shorty returnType fits stored holds
  have parameters := codec_typeList.complete (c.seek offset) prototype.parameters fits stored
  rw [Prototype.read_of_entry low holds, if_neg somewhere, parameters, Nat.mod_eq_of_lt shorty,
    Nat.mod_eq_of_lt returnType]
  rfl

/-- Two method ids with numbers as large as there is room for, between other bytes; a type list that
ends with the buffer, and one that lacks a byte; and a prototype without parameters whose offset is
not zero. -/
theorem ids_and_lists_read_as_written_at_the_end :
    let first : MethodId := { declaringType := 0, prototype := 65535, name := 4294967295 }
    let second : MethodId := { declaringType := 65535, prototype := 1, name := 2 }
    let table : Array UInt8 := (0xAA :: (first.bytes ++ second.bytes) ++ [0xBB]).toArray
    let field : FieldId := { declaringType := 0xFFFF, fieldType := 0xFFFF, name := 0x1FFFF }
    let list : List UInt8 := 0xAA :: TypeList.bytes [7, 65535]
    let prototype : Prototype := { shorty := 4294967295, returnType := 6, parameters := [] }
    let entry : Array UInt8 := (prototype.bytes 12 ++ [0, 0, 0, 0]).toArray
    Cursor.many (fun _ => MethodId.read) 2 ⟨table, 1⟩ = .ok (#[first, second], ⟨table, 17⟩) ∧
    (FieldId.read ⟨table, 5⟩ = .ok (field, ⟨table, 13⟩) ∧ field.bytes <+: table.toList.drop 5) ∧
    TypeList.read ⟨list.toArray, 1⟩ = .ok ([7, 65535], ⟨list.toArray, 9⟩) ∧
    (¬ ∃ types later, TypeList.read ⟨list.dropLast.toArray, 1⟩ = .ok (types, later)) ∧
    Prototype.read ⟨entry, 0⟩ = .ok (prototype, ⟨entry, 12⟩) := by
  intro first second table field list prototype entry
  obtain ⟨methods, _, _, fields, lists, room, prototypes⟩ := ids_and_lists_read_as_written
  have fieldRead : FieldId.read ⟨table, 5⟩ = .ok (field, ⟨table, 13⟩) := by decide
  refine ⟨?_, ⟨fieldRead, (fields.sound _ _ _ fieldRead).2.1⟩, ?_, ?_, ?_⟩
  · have firstFits : first.Fits := ⟨by decide, by decide, by decide⟩
    have secondFits : second.Fits := ⟨by decide, by decide, by decide⟩
    have fits : ∀ method ∈ [first, second], method.Fits := by
      simp [firstFits, secondFits]
    exact (methods 2).complete ⟨table, 1⟩ #[first, second] ⟨rfl, fits⟩
      ⟨by decide, by decide⟩
  · exact lists.complete ⟨list.toArray, 1⟩ [7, 65535] ⟨by decide, by decide⟩
      ⟨by decide, by decide⟩
  · intro readable
    obtain ⟨size, stands, inside⟩ := (room list.dropLast.toArray 1 (by decide)).mp readable
    have two : numberAt? 4 list.dropLast 1 = some 2 := by decide
    cases two.symm.trans stands
    exact absurd inside (by decide)
  · exact prototypes ⟨entry, 0⟩ prototype 12 (by decide) (by decide) (by decide) (by decide)
      ⟨by decide, by decide⟩ ⟨by decide, by decide⟩ ⟨by decide, by decide⟩

/-- A prototype whose first number is no word is written, its list stands where its offset says, and
another prototype is read. -/
theorem large_prototype_not_read_as_written :
    let large : Prototype := { shorty := 4294967296, returnType := 6, parameters := [] }
    let entry : Array UInt8 := (large.bytes 12 ++ TypeList.bytes large.parameters).toArray
    TypeList.Fits large.parameters ∧
      (Cursor.mk entry 12).Holds (TypeList.bytes large.parameters) ∧
      (Cursor.mk entry 0).Holds (large.bytes 12) ∧
      Prototype.read ⟨entry, 0⟩ = .ok ({ large with shorty := 0 }, ⟨entry, 12⟩) ∧
      ({ large with shorty := 0 } : Prototype) ≠ large := by
  intro large entry
  exact ⟨⟨by decide, by decide⟩, ⟨by decide, by decide⟩, ⟨by decide, by decide⟩, by decide,
    by decide⟩

end DexMembers
