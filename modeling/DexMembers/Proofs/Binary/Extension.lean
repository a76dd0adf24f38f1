import DexMembers.Proofs.Binary.Cursor
import DexMembers.Proofs.Binary.LebNumber

/-!
# Reading from a longer buffer

A reader that succeeds reads the same, and stops at the same place, when bytes are added behind the
end of its buffer.  What a reader does not find may well be found in a longer buffer.
-/

set_option autoImplicit false

namespace DexMembers.Binary

/-- The number that bytes start with is found in the first five of them. -/
theorem readLeb?_append {bytes : List UInt8} {found : Nat × Nat}
    (read : readLeb? bytes = some found) (more : List UInt8) :
    readLeb? (bytes ++ more) = some found := by
  obtain ⟨value, used⟩ := found
  obtain ⟨number, rest, rfl, isNumber, rfl, rfl⟩ := exists_lebNumber_of_readLeb? read
  rw [List.append_assoc]
  exact isNumber.readLeb? (rest ++ more)

namespace Cursor

def extend (c : Cursor) (more : Array UInt8) : Cursor :=
  { c with bytes := c.bytes ++ more }

@[simp] theorem position_extend (c : Cursor) (more : Array UInt8) :
    (c.extend more).position = c.position := rfl

@[simp] theorem size_extend (c : Cursor) (more : Array UInt8) :
    (c.extend more).bytes.size = c.bytes.size + more.size :=
  Array.size_append

theorem seek_extend (c : Cursor) (more : Array UInt8) (position : Nat) :
    (c.seek position).extend more = (c.extend more).seek position := rfl

theorem extend_mk (bytes more : Array UInt8) (position : Nat) :
    (Cursor.mk bytes position).extend more = ⟨bytes ++ more, position⟩ := rfl

/-- A success of the reader does not depend on what stands behind the end of the buffer. -/
def Stable {ε α : Type} (read : Cursor → Except ε (α × Cursor)) : Prop :=
  ∀ c value next, read c = .ok (value, next) →
    ∀ more, read (c.extend more) = .ok (value, next.extend more)

variable {ε δ α β : Type}

theorem stable_ok (value : α) : Stable (ε := ε) fun c => .ok (value, c) := by
  intro c found next read more
  cases read
  rfl

theorem stable_error (failure : ε) : Stable (α := α) fun _ => .error failure :=
  fun _ _ _ read => nomatch read

theorem Stable.bind {read : Cursor → Except ε (α × Cursor)}
    {after : α × Cursor → Except ε (β × Cursor)} (first : Stable read)
    (second : ∀ value, Stable fun c => after (value, c)) :
    Stable fun c => read c >>= after := by
  intro c value next done more
  cases step : read c with
  | error failure =>
      simp only [step] at done
      cases done
  | ok result =>
      simp only [step] at done
      simp only [first c result.1 result.2 step more]
      exact second result.1 result.2 value next done more

theorem Stable.map {read : Cursor → Except ε (α × Cursor)} {change : α × Cursor → β × Cursor}
    {result : α → β} (stable : Stable read)
    (same : ∀ value c, change (value, c) = (result value, c)) :
    Stable fun c => (read c).map change := by
  intro c value next done more
  cases step : read c with
  | error failure =>
      simp only [step] at done
      cases done
  | ok found =>
      simp only [step, Except.map, same found.1 found.2, Except.ok.injEq, Prod.mk.injEq] at done
      obtain ⟨rfl, rfl⟩ := done
      simp only [stable c found.1 found.2 step more, Except.map, same]

theorem Stable.mapError {read : Cursor → Except ε (α × Cursor)} (stable : Stable read)
    (reword : ε → δ) : Stable fun c => (read c).mapError reword := by
  intro c value next done more
  cases step : read c with
  | error failure =>
      simp only [step] at done
      cases done
  | ok result =>
      simp only [step] at done
      cases done
      simp only [stable c value next step more]
      rfl

theorem Stable.aside {read : Cursor → Except ε (α × Cursor)} (stable : Stable read)
    (position : Nat) (result : α → β) :
    Stable fun c => read (c.seek position) >>= fun found => .ok (result found.1, c) := by
  intro c value next done more
  cases step : read (c.seek position) with
  | error failure =>
      simp only [step] at done
      cases done
  | ok found =>
      simp only [step] at done
      cases done
      have longer := stable (c.seek position) found.1 found.2 step more
      rw [seek_extend] at longer
      simp only [longer]
      rfl

theorem peek?_extend {c : Cursor} {count : Nat} {found : List UInt8}
    (read : c.peek? count = some found) (more : Array UInt8) :
    (c.extend more).peek? count = some found := by
  rw [peek?] at read
  split at read
  · rename_i inside
    have longer : c.position + count ≤ (c.extend more).bytes.size := by
      rw [size_extend]
      omega
    rw [peek?, position_extend, if_pos longer, ← read]
    simp only [extend, Array.extract_append, Array.toList_append]
    have none : more.extract (c.position - c.bytes.size)
        (c.position + count - c.bytes.size) = #[] := by
      rw [Array.extract_eq_empty_iff]
      omega
    rw [none, Array.toList_empty, List.append_nil]
  · cases read

theorem stable_word (unit : ReadUnit) (width : Nat) : Stable (word unit width) := by
  intro c value next read more
  rw [word] at read
  rw [word, position_extend]
  split at read
  · cases read
  · rename_i numbered
    rw [if_neg numbered]
    cases found : c.peek? width with
    | none =>
        rw [found] at read
        cases read
    | some bytes =>
        rw [found] at read
        cases read
        rw [peek?_extend found]
        rfl

theorem stable_u2 : Stable u2 := stable_word .u2 2

theorem stable_u4 : Stable u4 := stable_word .u4 4

theorem stable_uleb128 : Stable uleb128 := by
  intro c value next read more
  rw [uleb128] at read
  cases found : readLeb? (c.bytes.extract c.position (c.position + maxLebBytes)).toList with
  | none =>
      rw [found] at read
      cases read
  | some result =>
      rw [found] at read
      cases read
      have longer := readLeb?_append found
        (more.extract (c.position - c.bytes.size) (c.position + maxLebBytes - c.bytes.size)).toList
      rw [← Array.toList_append, ← Array.extract_append] at longer
      simp only [uleb128, extend, longer]
      rfl

theorem rest_prefix_extend (c : Cursor) (more : Array UInt8) : c.rest <+: (c.extend more).rest := by
  rw [rest, rest, extend, Array.toList_append, List.drop_append]
  exact List.prefix_append _ _

theorem EndsAtZero.extend {c : Cursor} {content : List UInt8} (ends : c.EndsAtZero content)
    (more : Array UInt8) : (c.extend more).EndsAtZero content :=
  { nonzero := ends.nonzero
    stands := ends.stands.trans (rest_prefix_extend c more)
    numbered := ends.numbered }

theorem stable_untilZero : Stable untilZero := by
  intro c value next read more
  rw [untilZero_eq_ok_iff] at read ⊢
  obtain ⟨ends, rfl⟩ := read
  exact ⟨ends.extend more, rfl⟩

theorem stable_manyOnto {read : Nat → Cursor → Except ε (α × Cursor)}
    (each : ∀ index, Stable (read index)) (count : Nat) (before : Array α) :
    Stable (manyOnto read count before) := by
  induction count generalizing before with
  | zero => exact stable_ok before
  | succ count ih =>
      rw [funext (manyOnto_succ read count before)]
      exact (each before.size).bind fun value => ih (before.push value)

theorem stable_many {read : Nat → Cursor → Except ε (α × Cursor)}
    (each : ∀ index, Stable (read index)) (count : Nat) : Stable (many read count) :=
  stable_manyOnto each count #[]

end Cursor

end DexMembers.Binary
