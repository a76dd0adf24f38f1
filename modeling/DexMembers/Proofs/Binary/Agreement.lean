import DexMembers.Proofs.Binary.Cursor

/-!
# Reading buffers that agree from a position on

A reader never goes back, so two buffers of one size that agree from a position on read the same
from there: both reads fail in the same way, or both give the same value and stop at the same place.
-/

set_option autoImplicit false

namespace DexMembers.Binary

structure AgreeFrom (limit : Nat) (first second : Array UInt8) : Prop where
  size : first.size = second.size
  bytes : ∀ i, limit ≤ i → first[i]? = second[i]?

namespace Cursor

structure AlikeFrom (limit : Nat) (first second : Cursor) : Prop where
  position : first.position = second.position
  behind : limit ≤ first.position
  bytes : AgreeFrom limit first.bytes second.bytes

/-- Both reads fail in the same way, or both give the same value and leave cursors that are
alike. -/
inductive Together {ε α : Type} (limit : Nat) :
    Except ε (α × Cursor) → Except ε (α × Cursor) → Prop
  | failed (failure : ε) : Together limit (.error failure) (.error failure)
  | read (value : α) {first second : Cursor} (alike : AlikeFrom limit first second) :
      Together limit (.ok (value, first)) (.ok (value, second))

variable {ε δ α β : Type} {limit : Nat} {first second : Cursor}

namespace AlikeFrom

theorem seek (alike : AlikeFrom limit first second) {position : Nat} (behind : limit ≤ position) :
    AlikeFrom limit (first.seek position) (second.seek position) :=
  ⟨rfl, behind, alike.bytes⟩

theorem advance (alike : AlikeFrom limit first second) (count : Nat) :
    AlikeFrom limit (first.advance count) (second.advance count) := by
  have behind := alike.behind
  rw [Cursor.advance, Cursor.advance, ← alike.position]
  exact alike.seek (by omega)

theorem rest_eq (alike : AlikeFrom limit first second) : first.rest = second.rest := by
  apply List.ext_getElem?
  intro i
  have behind := alike.behind
  rw [rest, rest, List.getElem?_drop, List.getElem?_drop, ← alike.position, Array.getElem?_toList,
    Array.getElem?_toList]
  exact alike.bytes.bytes _ (by omega)

theorem current_eq (alike : AlikeFrom limit first second) :
    first.bytes[first.position]? = second.bytes[second.position]? := by
  rw [← alike.position]
  exact alike.bytes.bytes _ alike.behind

end AlikeFrom

namespace Together

variable {run other : Except ε (α × Cursor)}

/-- What follows is asked only of the value and the cursor that the first read gives. -/
theorem bind (together : Together limit run other)
    {next after : α × Cursor → Except ε (β × Cursor)}
    (go : ∀ value c d, run = .ok (value, c) → AlikeFrom limit c d →
      Together limit (next (value, c)) (after (value, d))) :
    Together limit (run >>= next) (other >>= after) := by
  cases together with
  | failed failure => exact .failed failure
  | read value alike => exact go value _ _ rfl alike

theorem mapError (together : Together limit run other) (reword : ε → δ) :
    Together limit (run.mapError reword) (other.mapError reword) := by
  cases together with
  | failed failure => exact .failed (reword failure)
  | read value alike => exact .read value alike

theorem values_eq (together : Together limit run other) :
    run.map Prod.fst = other.map Prod.fst := by
  cases together <;> rfl

end Together

variable (alike : AlikeFrom limit first second)
include alike

theorem word_together (unit : ReadUnit) (width : Nat) :
    Together limit (first.word unit width) (second.word unit width) := by
  have same : first.peek? width = second.peek? width := by
    rw [peek?, peek?, toList_extract, toList_extract, alike.rest_eq, alike.position,
      alike.bytes.size]
  rw [word, word, same, ← alike.position]
  split
  · exact .failed _
  · cases second.peek? width with
    | none => exact .failed _
    | some bytes => exact .read _ (alike.advance width)

theorem u2_together : Together limit first.u2 second.u2 :=
  word_together alike .u2 2

theorem u4_together : Together limit first.u4 second.u4 :=
  word_together alike .u4 4

theorem uleb128_together : Together limit first.uleb128 second.uleb128 := by
  rw [uleb128, uleb128, toList_extract, toList_extract, alike.rest_eq, alike.position]
  cases readLeb? (second.rest.take maxLebBytes) with
  | none => exact .failed _
  | some found => exact .read found.1 (alike.advance found.2)

theorem untilZero_go_together (left : Nat) (taken : List UInt8) :
    Together limit (untilZero.go left taken first) (untilZero.go left taken second) := by
  induction left generalizing taken first second with
  | zero =>
      unfold untilZero.go
      rw [alike.position]
      split <;> exact .failed _
  | succ left ih =>
      unfold untilZero.go
      rw [alike.current_eq, alike.position]
      split
      · exact .failed _
      · cases second.bytes[second.position]? with
        | none => exact .failed _
        | some byte =>
            dsimp only
            split
            · exact .read _ (alike.advance 1)
            · exact ih (alike.advance 1) (byte :: taken)

theorem untilZero_together : Together limit first.untilZero second.untilZero := by
  rw [untilZero, untilZero, alike.position, alike.bytes.size]
  exact untilZero_go_together alike _ []

/-- Each step is asked only of the cursor at which the first run comes to it. -/
theorem manyOnto_together {next : Nat → Cursor → Except ε (α × Cursor)} {count : Nat}
    {before : Array α}
    (each : ∀ index < count, ∀ values c, manyOnto next index before first = .ok (values, c) →
      ∀ d, AlikeFrom limit c d → Together limit (next values.size c) (next values.size d)) :
    Together limit (manyOnto next count before first) (manyOnto next count before second) := by
  induction count generalizing before first second with
  | zero => exact .read before alike
  | succ count ih =>
      rw [manyOnto_succ, manyOnto_succ]
      apply (each 0 (Nat.succ_pos count) before first rfl second alike).bind
      intro value c d step alike
      apply ih alike
      intro index inside values later reached
      apply each (index + 1) (Nat.succ_lt_succ inside) values later
      rw [manyOnto_succ, step]
      exact reached

theorem many_together (next : Nat → Cursor → Except ε (α × Cursor)) (count : Nat)
    (each : ∀ index < count, ∀ values c, many next index first = .ok (values, c) →
      ∀ d, AlikeFrom limit c d → Together limit (next values.size c) (next values.size d)) :
    Together limit (many next count first) (many next count second) :=
  manyOnto_together alike each

end Cursor

end DexMembers.Binary
