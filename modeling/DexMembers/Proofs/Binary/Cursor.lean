import DexMembers.Binary.Cursor
import DexMembers.Proofs.Binary.Leb128

/-!
# Reading what stands at a cursor

Where the bytes of a value stand at a cursor, the value's reader gets it and moves past them.  The
buffer has to be short enough for every position in it to be a 64-bit number.
-/

set_option autoImplicit false

namespace DexMembers.Binary

theorem length_flatMap_of_width {ι : Type} (part : ι → List UInt8) {width : Nat}
    (same : ∀ item, (part item).length = width) (items : List ι) :
    (items.flatMap part).length = width * items.length := by
  induction items with
  | nil => rfl
  | cons item items ih =>
      rw [List.flatMap_cons, List.length_append, same, ih, List.length_cons, Nat.mul_succ,
        Nat.add_comm]

theorem wordValue_lt_of_length {part : List UInt8} {width : Nat} (length : part.length = width) :
    wordValue part < 256 ^ width := by
  subst length
  induction part with
  | nil => exact Nat.one_pos
  | cons byte rest ih =>
      have bound := byte.toNat_lt
      rw [wordValue, List.length_cons, Nat.pow_succ]
      omega

namespace Cursor

@[simp] theorem bytes_advance (c : Cursor) (count : Nat) : (c.advance count).bytes = c.bytes := rfl

@[simp] theorem seek_advance (c : Cursor) (count position : Nat) :
    (c.advance count).seek position = c.seek position := rfl

theorem advance_advance (c : Cursor) (first second : Nat) :
    (c.advance first).advance second = c.advance (first + second) := by
  simp only [advance, seek, Nat.add_assoc]

theorem rest_advance (c : Cursor) (count : Nat) : (c.advance count).rest = c.rest.drop count := by
  rw [rest, rest, List.drop_drop]
  rfl

theorem end_le_of_stands {c : Cursor} {part : List UInt8} (stands : part <+: c.rest)
    (nonempty : part ≠ []) : c.position + part.length ≤ c.bytes.size := by
  have length := stands.length_le
  have positive := List.length_pos_iff.mpr nonempty
  rw [rest, List.length_drop] at length
  change _ ≤ c.bytes.size - _ at length
  omega

theorem append_prefix_rest {c : Cursor} {first second : List UInt8} (stands : first <+: c.rest)
    (behind : second <+: (c.advance first.length).rest) : first ++ second <+: c.rest := by
  obtain ⟨others, rest⟩ := stands
  rw [rest_advance, ← rest, List.drop_left] at behind
  rw [← rest]
  exact (List.prefix_append_right_inj first).mpr behind

/-- The part stands at the cursor, in a buffer all of whose positions are numbers a cursor can
have. -/
structure Holds (c : Cursor) (part : List UInt8) : Prop where
  numbered : c.bytes.size < positionLimit
  stands : part <+: c.rest

namespace Holds

variable {c : Cursor} {part first second : List UInt8}

theorem left (holds : c.Holds (first ++ second)) : c.Holds first :=
  ⟨holds.numbered, (List.prefix_append first second).trans holds.stands⟩

theorem right (holds : c.Holds (first ++ second)) : (c.advance first.length).Holds second := by
  obtain ⟨others, rest⟩ := holds.stands
  refine ⟨holds.numbered, others, ?_⟩
  rw [rest_advance, ← rest, List.append_assoc, List.drop_left]

theorem end_le (holds : c.Holds part) (nonempty : part ≠ []) :
    c.position + part.length ≤ c.bytes.size :=
  end_le_of_stands holds.stands nonempty

theorem next {bytes : Array UInt8} {position length : Nat}
    (holds : (Cursor.mk bytes position).Holds (first ++ second)) (width : first.length = length) :
    (Cursor.mk bytes (position + length)).Holds second :=
  width ▸ holds.right

theorem take_rest (holds : c.Holds part) : c.rest.take part.length = part :=
  (List.prefix_iff_eq_take.mp holds.stands).symm

end Holds

variable {c : Cursor}

theorem toList_extract (c : Cursor) (count : Nat) :
    (c.bytes.extract c.position (c.position + count)).toList = c.rest.take count := by
  rw [Array.toList_extract, List.extract_eq_take_drop, Nat.add_sub_cancel_left, rest]

theorem word_of_holds {part : List UInt8} (holds : c.Holds part) (nonempty : part ≠ [])
    (unit : ReadUnit) :
    c.word unit part.length = .ok (wordValue part, c.advance part.length) := by
  have inside := holds.end_le nonempty
  have numbered := holds.numbered
  have below : ¬ positionLimit ≤ c.position + part.length := by omega
  rw [word, if_neg below, peek?, if_pos inside, toList_extract, holds.take_rest]

theorem u2_of_holds {n : Nat} (small : n < 65536) (holds : c.Holds (u16Bytes n)) :
    c.u2 = .ok (n, c.advance 2) := by
  have value : wordValue (u16Bytes n) = n := by
    rw [wordValue_u16Bytes]
    omega
  have read := word_of_holds holds (List.cons_ne_nil _ _) .u2
  rw [value] at read
  exact read

/-- A number too large for its word is read as what is left of it. -/
theorem u4_of_holds_mod {n : Nat} (holds : c.Holds (u32Bytes n)) :
    c.u4 = .ok (n % 4294967296, c.advance 4) := by
  have read := word_of_holds holds (List.cons_ne_nil _ _) .u4
  rw [wordValue_u32Bytes] at read
  exact read

theorem u4_of_holds {n : Nat} (small : n < 4294967296) (holds : c.Holds (u32Bytes n)) :
    c.u4 = .ok (n, c.advance 4) := by
  rw [u4_of_holds_mod holds, Nat.mod_eq_of_lt small]

theorem uleb128_of_holds {n : Nat} (small : n < wordLimit) (holds : c.Holds (lebBytes n)) :
    c.uleb128 = .ok (n, c.advance (lebBytes n).length) := by
  obtain ⟨others, rest⟩ := holds.stands
  rw [uleb128, toList_extract, ← rest, readLeb?_take_lebBytes small]

theorem getElem?_of_stands {byte : UInt8} {part : List UInt8} (stands : byte :: part <+: c.rest) :
    c.bytes[c.position]? = some byte := by
  obtain ⟨others, rest⟩ := stands
  have first : c.rest[0]? = some byte := by rw [← rest]; rfl
  rw [Cursor.rest, List.getElem?_drop, Nat.add_zero] at first
  rw [← Array.getElem?_toList]
  exact first

theorem rest_eq_cons {byte : UInt8} (found : c.bytes[c.position]? = some byte) :
    c.rest = byte :: (c.advance 1).rest := by
  obtain ⟨inside, rfl⟩ := Array.getElem?_eq_some_iff.mp found
  exact List.drop_eq_getElem_cons inside

/-- The content stands at the cursor, and the byte behind it is the first zero byte from there. -/
structure EndsAtZero (c : Cursor) (content : List UInt8) : Prop where
  nonzero : 0 ∉ content
  stands : content ++ [0] <+: c.rest
  numbered : c.position + content.length + 1 < positionLimit

namespace EndsAtZero

variable {byte : UInt8} {content : List UInt8}

theorem end_le (ends : c.EndsAtZero content) : c.position + content.length < c.bytes.size := by
  have length := ends.stands.length_le
  rw [rest, List.length_append, List.length_drop, List.length_singleton] at length
  change _ ≤ c.bytes.size - _ at length
  omega

theorem cons_iff (found : c.bytes[c.position]? = some byte) :
    c.EndsAtZero (byte :: content) ↔ byte ≠ 0 ∧ (c.advance 1).EndsAtZero content := by
  have stands : byte :: content ++ [0] <+: c.rest ↔ content ++ [0] <+: (c.advance 1).rest := by
    rw [rest_eq_cons found, List.cons_append, List.prefix_cons_inj]
  have numbers : c.position + (byte :: content).length + 1 =
      (c.advance 1).position + content.length + 1 := by
    simp only [List.length_cons, advance, seek]
    omega
  constructor
  · intro ends
    have nonzero := ends.nonzero
    rw [List.mem_cons, not_or] at nonzero
    exact ⟨Ne.symm nonzero.1, nonzero.2, stands.mp ends.stands, numbers ▸ ends.numbered⟩
  · rintro ⟨nonzero, ends⟩
    refine ⟨?_, stands.mpr ends.stands, numbers ▸ ends.numbered⟩
    rw [List.mem_cons, not_or]
    exact ⟨Ne.symm nonzero, ends.nonzero⟩

theorem untilZero_go (ends : c.EndsAtZero content) {left : Nat} (enough : content.length < left)
    (taken : List UInt8) :
    untilZero.go left taken c =
      .ok (taken.reverse ++ content, c.advance (content.length + 1)) := by
  induction content generalizing left taken c with
  | nil =>
      obtain ⟨left, rfl⟩ : ∃ less, left = less + 1 := ⟨left - 1, by simp at enough; omega⟩
      have numbered : c.position + 1 < positionLimit := ends.numbered
      unfold untilZero.go
      rw [if_neg (by omega), getElem?_of_stands ends.stands, List.append_nil]
      rfl
  | cons byte content ih =>
      rw [List.length_cons] at enough
      obtain ⟨left, rfl⟩ : ∃ less, left = less + 1 := ⟨left - 1, by omega⟩
      have numbered := ends.numbered
      have first : c.bytes[c.position]? = some byte := getElem?_of_stands ends.stands
      obtain ⟨nonzero, others⟩ := (cons_iff first).mp ends
      unfold untilZero.go
      rw [if_neg (by omega), first]
      dsimp only
      rw [if_neg nonzero, ih others (by omega), advance_advance, List.reverse_cons,
        List.append_assoc, List.length_cons, Nat.add_comm 1]
      rfl

end EndsAtZero

theorem exists_endsAtZero_of_untilZero_go {left : Nat} {taken found : List UInt8} {next : Cursor}
    (read : untilZero.go left taken c = .ok (found, next)) :
    ∃ content, found = taken.reverse ++ content ∧ c.EndsAtZero content ∧
      next = c.advance (content.length + 1) := by
  -- on the bytes left; a run without any of them has failed
  induction left generalizing taken c with
  | zero =>
      unfold untilZero.go at read
      split at read <;> cases read
  | succ left ih =>
      unfold untilZero.go at read
      split at read
      · cases read
      · rename_i numbered
        cases first : c.bytes[c.position]? with
        | none =>
            rw [first] at read
            cases read
        | some byte =>
            rw [first] at read
            dsimp only at read
            split at read
            · rename_i zero
              cases read
              have stands : [] ++ [0] <+: c.rest := by
                rw [rest_eq_cons first, zero]
                exact List.prefix_append [0] _
              exact ⟨[], (List.append_nil _).symm,
                ⟨List.not_mem_nil, stands, Nat.lt_of_not_le numbered⟩, rfl⟩
            · rename_i nonzero
              obtain ⟨content, rfl, ends, rfl⟩ := ih read
              refine ⟨byte :: content, ?_, (EndsAtZero.cons_iff first).mpr ⟨nonzero, ends⟩, ?_⟩
              · rw [List.reverse_cons, List.append_assoc, List.singleton_append]
              · rw [advance_advance, List.length_cons, Nat.add_comm 1]

theorem untilZero_eq_ok_iff {content : List UInt8} {next : Cursor} :
    c.untilZero = .ok (content, next) ↔
      c.EndsAtZero content ∧ next = c.advance (content.length + 1) := by
  constructor
  · intro read
    obtain ⟨stretch, rfl, ends, rfl⟩ := exists_endsAtZero_of_untilZero_go read
    exact ⟨ends, rfl⟩
  · rintro ⟨ends, rfl⟩
    have inside := ends.end_le
    rw [untilZero, ends.untilZero_go (by omega)]
    rfl

theorem untilZero_of_holds {content : List UInt8} (nonzero : 0 ∉ content)
    (holds : c.Holds (content ++ [0])) :
    c.untilZero = .ok (content, c.advance (content.length + 1)) := by
  have inside := holds.end_le (by simp)
  have numbered := holds.numbered
  rw [List.length_append, List.length_singleton] at inside
  exact untilZero_eq_ok_iff.mpr ⟨⟨nonzero, holds.stands, by omega⟩, rfl⟩

section Many

variable {ι ε α : Type} {bytes : Array UInt8}

theorem manyOnto_succ (next : Nat → Cursor → Except ε (α × Cursor)) (count : Nat)
    (read : Array α) (c : Cursor) :
    manyOnto next (count + 1) read c =
      next read.size c >>= fun found => manyOnto next count (read.push found.1) found.2 := by
  rw [manyOnto]
  cases next read.size c <;> rfl

theorem manyOnto_of_holds (next : Nat → Cursor → Except ε (α × Cursor)) (part : ι → List UInt8)
    (value : ι → α) (items : List ι)
    (reads : ∀ item ∈ items, ∀ index position, (Cursor.mk bytes position).Holds (part item) →
      next index ⟨bytes, position⟩ = .ok (value item, ⟨bytes, position + (part item).length⟩))
    (position : Nat) (read : Array α)
    (holds : (Cursor.mk bytes position).Holds (items.flatMap part)) :
    manyOnto next items.length read ⟨bytes, position⟩ =
      .ok (read ++ (items.map value).toArray, ⟨bytes, position + (items.flatMap part).length⟩) := by
  induction items generalizing position read with
  | nil => simp [manyOnto]
  | cons item items ih =>
      simp only [List.mem_cons, forall_eq_or_imp] at reads
      rw [List.flatMap_cons] at holds
      rw [List.length_cons, manyOnto, reads.1 _ _ holds.left]
      dsimp only
      rw [ih reads.2 _ _ holds.right]
      simp [Nat.add_assoc]

theorem many_of_holds (next : Nat → Cursor → Except ε (α × Cursor)) (part : ι → List UInt8)
    (value : ι → α) (items : List ι)
    (reads : ∀ item ∈ items, ∀ index position, (Cursor.mk bytes position).Holds (part item) →
      next index ⟨bytes, position⟩ = .ok (value item, ⟨bytes, position + (part item).length⟩))
    (position : Nat) (holds : (Cursor.mk bytes position).Holds (items.flatMap part)) :
    many next items.length ⟨bytes, position⟩ =
      .ok ((items.map value).toArray, ⟨bytes, position + (items.flatMap part).length⟩) := by
  rw [many, manyOnto_of_holds next part value items reads position #[] holds, Array.empty_append]

end Many

end Cursor

end DexMembers.Binary
