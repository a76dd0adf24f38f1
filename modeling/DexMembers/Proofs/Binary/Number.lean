import DexMembers.Proofs.Binary.Cursor
import DexMembers.Proofs.Outcome

/-!
# Numbers at positions

A word that a cursor reads is the number that stands at its position in the buffer.  What is read
in a row, in steps of one width, stands at multiples of that width from the first position on.
-/

set_option autoImplicit false

namespace DexMembers.Binary

/-- The number that the bytes at a position stand for, the low one first, if all `width` of them
are there. -/
def numberAt? (width : Nat) (bytes : List UInt8) (position : Nat) : Option Nat :=
  if position + width ≤ bytes.length then some (wordValue ((bytes.drop position).take width))
  else none

namespace Cursor

variable {ε α : Type} {c later : Cursor}

theorem eq_ok_of_word {unit : ReadUnit} {width value : Nat}
    (read : c.word unit width = .ok (value, later)) :
    numberAt? width c.bytes.toList c.position = some value ∧ later = c.advance width := by
  rw [word] at read
  split at read
  · cases read
  · rw [peek?, toList_extract] at read
    rw [numberAt?, Array.length_toList]
    split at read
    · rename_i found
      split at found
      · rename_i inside
        cases read
        cases found
        rw [if_pos inside]
        exact ⟨rfl, rfl⟩
      · cases found
    · cases read

theorem eq_ok_of_u2 {value : Nat} (read : c.u2 = .ok (value, later)) :
    numberAt? 2 c.bytes.toList c.position = some value ∧ later = c.advance 2 :=
  eq_ok_of_word read

theorem eq_ok_of_u4 {value : Nat} (read : c.u4 = .ok (value, later)) :
    numberAt? 4 c.bytes.toList c.position = some value ∧ later = c.advance 4 :=
  eq_ok_of_word read

theorem word_of_numberAt? {width value : Nat} (numbered : c.bytes.size < positionLimit)
    (stands : numberAt? width c.bytes.toList c.position = some value) (unit : ReadUnit) :
    c.word unit width = .ok (value, c.advance width) := by
  rw [numberAt?, Array.length_toList] at stands
  split at stands
  · rename_i inside
    have below : ¬ positionLimit ≤ c.position + width := by omega
    rw [word, if_neg below, peek?, if_pos inside, toList_extract, rest]
    dsimp only
    rw [Option.some.inj stands]
  · cases stands

theorem exists_part_of_numberAt? {bytes : List UInt8} {width position value : Nat}
    (stands : numberAt? width bytes position = some value) :
    ∃ part, part.length = width ∧ wordValue part = value ∧ part <+: bytes.drop position := by
  rw [numberAt?] at stands
  split at stands
  · refine ⟨(bytes.drop position).take width, ?_, Option.some.inj stands, List.take_prefix _ _⟩
    rw [List.length_take, List.length_drop]
    omega
  · cases stands

theorem exists_numberAt? {bytes : List UInt8} {width position : Nat}
    (inside : position + width ≤ bytes.length) :
    ∃ value, numberAt? width bytes position = some value :=
  ⟨_, if_pos inside⟩

variable {next : Nat → Cursor → Except ε (α × Cursor)} {width count : Nat}

theorem getElem?_manyOnto
    (each : ∀ index c value later, next index c = .ok (value, later) → later = c.advance width)
    {before values : Array α} (read : manyOnto next count before c = .ok (values, later)) :
    values.size = before.size + count ∧ (∀ i < before.size, values[i]? = before[i]?) ∧
      ∀ i < count, ∃ value, values[before.size + i]? = some value ∧
        next (before.size + i) (c.advance (width * i)) =
          .ok (value, c.advance (width * (i + 1))) := by
  induction count generalizing before c with
  | zero =>
      cases read
      exact ⟨rfl, fun _ _ => rfl, fun i inside => absurd inside (Nat.not_lt_zero i)⟩
  | succ count ih =>
      rw [manyOnto_succ] at read
      obtain ⟨⟨first, after⟩, firstRead, read⟩ := eq_ok_of_bind_eq_ok read
      cases each before.size c first after firstRead
      obtain ⟨size, kept, entries⟩ := ih read
      rw [Array.size_push] at size kept entries
      refine ⟨by omega, ?_, ?_⟩
      · intro i inside
        rw [kept i (by omega), Array.getElem?_push_lt inside]
        exact (Array.getElem?_eq_getElem inside).symm
      · intro i inside
        cases i with
        | zero =>
            refine ⟨first, ?_, ?_⟩
            · rw [Nat.add_zero, kept before.size (by omega), Array.getElem?_push_size]
            · rw [Nat.mul_zero, Nat.add_zero, Nat.zero_add, Nat.mul_one]
              exact firstRead
        | succ i =>
            obtain ⟨value, found, done⟩ := entries i (by omega)
            have place : before.size + 1 + i = before.size + (i + 1) := by omega
            have step : ∀ i, width + width * i = width * (i + 1) := fun i => by
              rw [Nat.mul_succ, Nat.add_comm]
            rw [place] at found done
            rw [advance_advance, advance_advance, step, step] at done
            exact ⟨value, found, done⟩

theorem step_succ (next : Nat → Cursor → Except ε (α × Cursor)) (width : Nat) (before : Array α)
    (first : α) (c : Cursor) (i : Nat) :
    next (before.size + (i + 1)) (c.advance (width * (i + 1))) =
      next ((before.push first).size + i) ((c.advance width).advance (width * i)) := by
  rw [Array.size_push, advance_advance, Nat.mul_succ, Nat.add_comm (width * i), Nat.add_comm i,
    Nat.add_assoc]

theorem exists_manyOnto_eq_ok
    (each : ∀ index c value later, next index c = .ok (value, later) → later = c.advance width)
    {before : Array α} (good : ∀ i < count, ∃ value later,
      next (before.size + i) (c.advance (width * i)) = .ok (value, later)) :
    ∃ values later, manyOnto next count before c = .ok (values, later) := by
  induction count generalizing before c with
  | zero => exact ⟨before, c, rfl⟩
  | succ count ih =>
      obtain ⟨first, after, firstRead⟩ := good 0 (Nat.zero_lt_succ count)
      change next before.size c = _ at firstRead
      cases each before.size c first after firstRead
      rw [manyOnto_succ, firstRead, Except.ok_bind]
      apply ih
      intro i inside
      rw [← step_succ next]
      exact good (i + 1) (Nat.succ_lt_succ inside)

theorem exists_many_eq_ok
    (each : ∀ index c value later, next index c = .ok (value, later) → later = c.advance width)
    (good : ∀ i < count, ∃ value later, next i (c.advance (width * i)) = .ok (value, later)) :
    ∃ values later, many next count c = .ok (values, later) := by
  apply exists_manyOnto_eq_ok each
  intro i inside
  rw [Array.size_empty, Nat.zero_add]
  exact good i inside

theorem manyOnto_eq_error_of_first
    (each : ∀ index c value later, next index c = .ok (value, later) → later = c.advance width)
    {before : Array α} {place : Nat} {failure : ε} (inside : place < count)
    (good : ∀ i < place, ∃ value later,
      next (before.size + i) (c.advance (width * i)) = .ok (value, later))
    (bad : next (before.size + place) (c.advance (width * place)) = .error failure) :
    manyOnto next count before c = .error failure := by
  induction place generalizing before c count with
  | zero =>
      obtain ⟨count, rfl⟩ := Nat.exists_eq_succ_of_ne_zero (Nat.ne_of_gt inside)
      change next before.size c = _ at bad
      rw [manyOnto_succ, bad]
      rfl
  | succ place ih =>
      obtain ⟨count, rfl⟩ := Nat.exists_eq_succ_of_ne_zero (Nat.ne_zero_of_lt inside)
      obtain ⟨first, after, firstRead⟩ := good 0 (Nat.zero_lt_succ place)
      change next before.size c = _ at firstRead
      cases each before.size c first after firstRead
      rw [manyOnto_succ, firstRead, Except.ok_bind]
      refine ih (Nat.lt_of_succ_lt_succ inside) ?_ ?_
      · intro i early
        rw [← step_succ next]
        exact good (i + 1) (Nat.succ_lt_succ early)
      · rw [← step_succ next]
        exact bad

theorem getElem_many
    (each : ∀ index c value later, next index c = .ok (value, later) → later = c.advance width)
    {values : Array α} (read : many next count c = .ok (values, later)) :
    values.size = count ∧ ∀ i (inside : i < values.size),
      next i (c.advance (width * i)) = .ok (values[i], c.advance (width * (i + 1))) := by
  obtain ⟨size, _, entries⟩ := getElem?_manyOnto each read
  rw [Array.size_empty, Nat.zero_add] at size
  refine ⟨size, fun i inside => ?_⟩
  obtain ⟨value, found, done⟩ := entries i (size ▸ inside)
  rw [Array.size_empty, Nat.zero_add] at found done
  rw [Array.getElem?_eq_getElem inside, Option.some.injEq] at found
  rw [done, found]

section Stands

variable {bytes : Array UInt8} {position number : Nat}

theorem numberAt?_of_holds {part : List UInt8} (holds : (Cursor.mk bytes position).Holds part)
    (nonempty : part ≠ []) :
    numberAt? part.length bytes.toList position = some (wordValue part) := by
  have inside : position + part.length ≤ bytes.toList.length := holds.end_le nonempty
  have taken : (bytes.toList.drop position).take part.length = part := holds.take_rest
  rw [numberAt?, if_pos inside, taken]

theorem numberAt?_of_u16 (small : number < 65536)
    (holds : (Cursor.mk bytes position).Holds (u16Bytes number)) :
    numberAt? 2 bytes.toList position = some number := by
  have found := numberAt?_of_holds holds (List.cons_ne_nil _ _)
  rw [wordValue_u16Bytes, Nat.mod_eq_of_lt small] at found
  exact found

theorem numberAt?_of_u32 (small : number < 4294967296)
    (holds : (Cursor.mk bytes position).Holds (u32Bytes number)) :
    numberAt? 4 bytes.toList position = some number := by
  have found := numberAt?_of_holds holds (List.cons_ne_nil _ _)
  rw [wordValue_u32Bytes, Nat.mod_eq_of_lt small] at found
  exact found

/-- Of parts of one width in a row, each stands at a multiple of it from the first one on. -/
theorem holds_part_of_width {ι : Type} {part : ι → List UInt8} {width : Nat}
    (same : ∀ item, (part item).length = width) {items : List ι}
    (holds : (Cursor.mk bytes position).Holds (items.flatMap part)) (i : Nat)
    (inside : i < items.length) :
    (Cursor.mk bytes (position + width * i)).Holds (part items[i]) := by
  induction items generalizing position i with
  | nil => exact absurd inside (Nat.not_lt_zero i)
  | cons item items ih =>
      rw [List.flatMap_cons] at holds
      cases i with
      | zero => exact holds.left
      | succ i =>
          have later := ih (holds.next (same item)) i (Nat.lt_of_succ_lt_succ inside)
          rw [Nat.mul_succ, Nat.add_comm (width * i), ← Nat.add_assoc]
          exact later

end Stands

end Cursor

end DexMembers.Binary
