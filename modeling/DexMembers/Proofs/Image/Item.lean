import DexMembers.Image.Item
import DexMembers.Proofs.Binary.Cursor
import DexMembers.Proofs.Text.ModifiedUtf8

/-!
# Entries of the id tables are read back

Where the bytes of an entry stand at a cursor, the entry's reader gets it and moves past them.
-/

set_option autoImplicit false

namespace DexMembers

open Binary (Cursor)

@[simp] theorem ImageError.ofRead_ok {α : Type} (value : α) : ofRead (.ok value) = .ok value := rfl

theorem StringData.read_of_holds {c : Cursor} {text : String}
    (holds : c.Holds (StringData.decoded text).bytes) :
    StringData.read c = .ok (.decoded text, c.advance (StringData.decoded text).bytes.length) := by
  rw [StringData.bytes, List.append_assoc] at holds
  have small : Text.utf16Length text % Binary.wordLimit < Binary.wordLimit :=
    Nat.mod_lt _ (by decide)
  have content := Cursor.untilZero_of_holds (Text.zero_not_mem_modifiedUtf8Bytes text) holds.right
  simp only [StringData.read, Cursor.uleb128_of_holds small holds.left, content,
    Text.ofModifiedUtf8?_modifiedUtf8Bytes, Cursor.advance_advance]
  simp only [StringData.bytes, List.length_append, List.length_singleton, Nat.add_assoc]

namespace TypeList

theorem length_bytes (types : List Nat) : (bytes types).length = 4 + 2 * types.length := by
  rw [bytes, List.length_append, Binary.length_u32Bytes,
    Binary.length_flatMap_of_width Binary.u16Bytes Binary.length_u16Bytes]

theorem read_of_holds {c : Cursor} {types : List Nat} (small : ∀ type ∈ types, type < 65536)
    (few : types.length < 4294967296) (holds : c.Holds (bytes types)) :
    read c = .ok (types, c.advance (bytes types).length) := by
  have inside := holds.end_le (List.cons_ne_nil _ _)
  rw [length_bytes] at inside
  have room : ¬ c.bytes.size / 2 < types.length := by omega
  have reads : ∀ type ∈ types, ∀ (index position : Nat),
      (Cursor.mk c.bytes position).Holds (Binary.u16Bytes type) →
      (Cursor.mk c.bytes position).u2 =
        .ok (type, ⟨c.bytes, position + (Binary.u16Bytes type).length⟩) :=
    fun type member _ _ stands => Cursor.u2_of_holds (small type member) stands
  have entries := Cursor.many_of_holds (fun _ c => c.u2) Binary.u16Bytes id types reads
    (c.position + 4) holds.right
  have numbers : (c.advance 4).many (fun _ c => c.u2) types.length =
      .ok (types.toArray, c.advance (bytes types).length) := by
    rw [List.map_id, Nat.add_assoc,
      Binary.length_flatMap_of_width Binary.u16Bytes Binary.length_u16Bytes, ← length_bytes] at entries
    exact entries
  simp only [read, Cursor.u4_of_holds few holds.left, ImageError.ofRead_ok, Cursor.bytes_advance,
    room, if_false, numbers, Except.map]

/-- The offset is a place at which the list stands, or zero for the empty list. -/
def StandsAt (bytes : Array UInt8) (types : List Nat) (offset : Nat) : Prop :=
  if types = [] then offset = 0
  else offset ≠ 0 ∧ (Cursor.mk bytes offset).Holds (TypeList.bytes types)

end TypeList

/-- The words of an entry are cut to their size when they are written, and its parameters are the
list at the offset, or none if that is zero. -/
theorem Prototype.read_of_entry {c : Cursor} {prototype : Prototype} {offset : Nat}
    (low : offset < 4294967296) (holds : c.Holds (prototype.bytes offset)) :
    Prototype.read c =
      (if offset = 0 then .ok [] else (TypeList.read (c.seek offset)).map Prod.fst).map
        fun parameters =>
          ({ shorty := prototype.shorty % 4294967296
             returnType := prototype.returnType % 4294967296
             parameters }, c.advance 12) := by
  rw [Prototype.bytes, List.append_assoc] at holds
  have first := Cursor.u4_of_holds_mod holds.left
  have second := Cursor.u4_of_holds_mod holds.right.left
  have third := Cursor.u4_of_holds low holds.right.right
  simp only [Binary.length_u32Bytes, Cursor.advance_advance] at second third
  simp only [Prototype.read, first, second, third, ImageError.ofRead_ok, bind, Except.bind, pure,
    Except.pure, Cursor.seek_advance]
  split
  · rfl
  · cases TypeList.read (c.seek offset) <;> rfl

theorem Prototype.read_of_holds {c : Cursor} {prototype : Prototype} {offset : Nat}
    (shorty : prototype.shorty < 4294967296) (returnType : prototype.returnType < 4294967296)
    (small : ∀ type ∈ prototype.parameters, type < 65536)
    (few : prototype.parameters.length < 4294967296) (low : offset < 4294967296)
    (stored : TypeList.StandsAt c.bytes prototype.parameters offset)
    (holds : c.Holds (prototype.bytes offset)) :
    Prototype.read c = .ok (prototype, c.advance (prototype.bytes offset).length) := by
  rw [read_of_entry low holds, Nat.mod_eq_of_lt shorty, Nat.mod_eq_of_lt returnType]
  rw [TypeList.StandsAt] at stored
  split at stored
  · rename_i empty
    rw [if_pos stored, ← empty]
    rfl
  · have parameters : TypeList.read (c.seek offset) =
        .ok (prototype.parameters, (c.seek offset).advance _) :=
      TypeList.read_of_holds small few stored.2
    rw [if_neg stored.1, parameters]
    rfl

theorem readIdTriple_of_holds {c : Cursor} {first second third : Nat} (firstSmall : first < 65536)
    (secondSmall : second < 65536) (thirdSmall : third < 4294967296)
    (holds : c.Holds (idTripleBytes first second third)) :
    readIdTriple c = .ok ((first, second, third), c.advance 8) := by
  rw [idTripleBytes, List.append_assoc] at holds
  have firstRead := Cursor.u2_of_holds firstSmall holds.left
  have secondRead := Cursor.u2_of_holds secondSmall holds.right.left
  have thirdRead := Cursor.u4_of_holds thirdSmall holds.right.right
  simp only [Binary.length_u16Bytes] at secondRead thirdRead
  simp only [readIdTriple, firstRead, secondRead, thirdRead, bind, Except.bind, pure, Except.pure]
  rfl

theorem FieldId.read_of_holds {c : Cursor} {field : FieldId}
    (declaring : field.declaringType < 65536)
    (own : field.fieldType < 65536) (name : field.name < 4294967296) (holds : c.Holds field.bytes) :
    FieldId.read c = .ok (field, c.advance 8) := by
  rw [FieldId.read, readIdTriple_of_holds declaring own name holds]
  rfl

theorem MethodId.read_of_holds {c : Cursor} {method : MethodId}
    (declaring : method.declaringType < 65536) (prototype : method.prototype < 65536)
    (name : method.name < 4294967296) (holds : c.Holds method.bytes) :
    MethodId.read c = .ok (method, c.advance 8) := by
  rw [MethodId.read, readIdTriple_of_holds declaring prototype name holds]
  rfl

end DexMembers
