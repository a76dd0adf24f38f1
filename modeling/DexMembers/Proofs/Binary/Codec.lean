import DexMembers.Proofs.Binary.Number

/-!
# Readers that undo writing

A reader and a form for values that belong together: a value of the right size is read from
wherever its form stands, and whatever is read has the form that was there.  Reading several values
in a row belongs to writing their forms one after the other.
-/

set_option autoImplicit false

namespace DexMembers.Binary

/-- Values that fit are read from where they are written, and what is read fits and is written as
the bytes that it was read from.  The cursor moves past these bytes and no further. -/
structure Codec {ε α : Type} (read : Cursor → Except ε (α × Cursor)) (Fits : α → Prop)
    (form : α → List UInt8) : Prop where
  complete : ∀ c value, Fits value → c.Holds (form value) →
    read c = .ok (value, c.advance (form value).length)
  sound : ∀ c value later, read c = .ok (value, later) →
    Fits value ∧ form value <+: c.rest ∧ later = c.advance (form value).length

theorem codec_u2 : Codec Cursor.u2 (· < 65536) u16Bytes where
  complete _ _ small holds := Cursor.u2_of_holds small holds
  sound c value later read := by
    obtain ⟨found, rfl⟩ := Cursor.eq_ok_of_u2 read
    obtain ⟨part, two, rfl, stands⟩ := Cursor.exists_part_of_numberAt? found
    rw [u16Bytes_wordValue_of_length two, two]
    exact ⟨wordValue_lt_of_length two, stands, rfl⟩

theorem codec_u4 : Codec Cursor.u4 (· < 4294967296) u32Bytes where
  complete _ _ small holds := Cursor.u4_of_holds small holds
  sound c value later read := by
    obtain ⟨found, rfl⟩ := Cursor.eq_ok_of_u4 read
    obtain ⟨part, four, rfl, stands⟩ := Cursor.exists_part_of_numberAt? found
    rw [u32Bytes_wordValue_of_length four, four]
    exact ⟨wordValue_lt_of_length four, stands, rfl⟩

namespace Codec

variable {ε α β : Type} {read : Cursor → Except ε (α × Cursor)} {Fits : α → Prop}
  {form : α → List UInt8}

/-- Values that are given by others without loss are read and written as these are. -/
theorem change (codec : Codec read Fits form) (make : α → β) (parts : β → α)
    (make_parts : ∀ value, make (parts value) = value)
    (parts_make : ∀ value, parts (make value) = value) :
    Codec (fun c => (read c).map fun found => (make found.1, found.2))
      (fun value => Fits (parts value)) (fun value => form (parts value)) where
  complete c value fits holds := by
    rw [codec.complete c (parts value) fits holds, Except.map, make_parts]
  sound c value later done := by
    obtain ⟨⟨found, after⟩, foundRead, same⟩ := eq_ok_of_map_eq_ok done
    cases same
    dsimp only
    rw [parts_make]
    exact codec.sound c found after foundRead

theorem pair {other : Cursor → Except ε (β × Cursor)} {OtherFits : β → Prop}
    {otherForm : β → List UInt8} (left : Codec read Fits form)
    (right : Codec other OtherFits otherForm) :
    Codec (fun c => do
        let (first, c) ← read c
        let (second, c) ← other c
        return ((first, second), c))
      (fun value => Fits value.1 ∧ OtherFits value.2)
      (fun value => form value.1 ++ otherForm value.2) where
  complete c value fits holds := by
    dsimp only
    rw [left.complete c value.1 fits.1 holds.left, Except.ok_bind,
      right.complete _ value.2 fits.2 holds.right, Except.ok_bind, Cursor.advance_advance,
      List.length_append]
    rfl
  sound c value later done := by
    obtain ⟨⟨first, next⟩, firstRead, done⟩ := eq_ok_of_bind_eq_ok done
    obtain ⟨firstFits, firstStands, rfl⟩ := left.sound c first next firstRead
    obtain ⟨⟨second, next⟩, secondRead, done⟩ := eq_ok_of_bind_eq_ok done
    obtain ⟨secondFits, secondStands, rfl⟩ := right.sound _ second next secondRead
    cases done
    refine ⟨⟨firstFits, secondFits⟩, Cursor.append_prefix_rest firstStands secondStands, ?_⟩
    rw [Cursor.advance_advance, List.length_append]

/-- Values read in a row behind others have their forms there, one after the other. -/
theorem stand_of_manyOnto (codec : Codec read Fits form) {count : Nat} {before values : Array α}
    {c later : Cursor}
    (done : Cursor.manyOnto (fun _ => read) count before c = .ok (values, later)) :
    ∃ found : List α, values = before ++ found.toArray ∧ found.length = count ∧
      (∀ value ∈ found, Fits value) ∧ found.flatMap form <+: c.rest ∧
      later = c.advance (found.flatMap form).length := by
  induction count generalizing before c with
  | zero =>
      cases done
      exact ⟨[], (Array.append_empty).symm, rfl, fun _ member => (nomatch member),
        List.nil_prefix, rfl⟩
  | succ count ih =>
      rw [Cursor.manyOnto_succ] at done
      obtain ⟨⟨first, after⟩, firstRead, done⟩ := eq_ok_of_bind_eq_ok done
      obtain ⟨fits, stands, rfl⟩ := codec.sound c first after firstRead
      obtain ⟨found, rfl, length, others, behind, rfl⟩ := ih done
      refine ⟨first :: found, ?_, congrArg (· + 1) length,
        List.forall_mem_cons.mpr ⟨fits, others⟩, Cursor.append_prefix_rest stands behind, ?_⟩
      · rw [Array.push_eq_append, Array.append_assoc, ← List.toArray_cons]
      · rw [Cursor.advance_advance, List.flatMap_cons, List.length_append]

theorem many (codec : Codec read Fits form) (count : Nat) :
    Codec (Cursor.many (fun _ => read) count)
      (fun values => values.size = count ∧ ∀ value ∈ values.toList, Fits value)
      (fun values => values.toList.flatMap form) where
  complete c values fits holds := by
    obtain ⟨rfl, fits⟩ := fits
    have reads : ∀ value ∈ values.toList, ∀ (index position : Nat),
        (Cursor.mk c.bytes position).Holds (form value) →
        read ⟨c.bytes, position⟩ = .ok (value, ⟨c.bytes, position + (form value).length⟩) :=
      fun value member _ position stands =>
        codec.complete ⟨c.bytes, position⟩ value (fits value member) stands
    have entries :=
      Cursor.many_of_holds (fun _ => read) form id values.toList reads c.position holds
    rw [List.map_id] at entries
    exact entries
  sound c values later done := by
    obtain ⟨found, rfl, length, fits, stands, rfl⟩ := codec.stand_of_manyOnto done
    rw [Array.empty_append]
    exact ⟨⟨length, fits⟩, stands, rfl⟩

end Codec

end DexMembers.Binary
