import DexMembers.Proofs.Outcome
import Mathlib.Algebra.Group.Nat.Defs

/-!
# Guarded runs

A machine stops dead when an index, a slice or a sum is out of range.  A guarded run computes what
a plain one does and checks the operands of each such operation on the way; a fault says which one
was out of range.  A plain failure, on the other hand, is one of the outcomes of a run.  How deep a
run recurs and how much memory it takes are not counted.
-/

set_option autoImplicit false

namespace DexMembers

inductive Fault where
  | sum (first second : Nat)
  | difference (first second : Nat)
  | index (index size : Nat)
  | slice (start stop size : Nat)
  /-- A value is kept between bounds of which the lower is above the upper. -/
  | bounds (low high : Nat)
  /-- Bytes are copied into a place that has not their size. -/
  | copy (room size : Nat)
  /-- Text is cut inside of a character, or behind its end. -/
  | character (offset : Nat)
  /-- A read that its caller relies on finds too few bytes. -/
  | missing (start length : Nat)
  /-- A loop takes more rounds than there are bytes. -/
  | endless
deriving DecidableEq, Repr

/-- A run that a fault stops, and that otherwise ends in a value or in a failure. -/
abbrev Guarded (ε : Type) := ExceptT ε (Except Fault)

namespace Guarded

variable {ε δ α β : Type}

def stop (fault : Fault) : Guarded ε α := ExceptT.mk (.error fault)

def of (outcome : Except ε α) : Guarded ε α := ExceptT.mk (.ok outcome)

@[simp] theorem of_ok (value : α) : (of (.ok value) : Guarded ε α) = pure value := rfl

/-- Steps without a fault, one after the other.  The second need have none for those values only
that the first can give. -/
theorem of_bind {outcome : Except ε α} {next : α → Guarded ε β} {plain : α → Except ε β}
    (each : ∀ value, outcome = .ok value → next value = of (plain value)) :
    of outcome >>= next = of (outcome >>= plain) := by
  cases outcome with
  | error failure => rfl
  | ok value => exact each value rfl

@[simp] theorem adapt_of (reword : δ → ε) (outcome : Except δ α) :
    (of outcome).adapt reword = of (outcome.mapError reword) := rfl

theorem map_of (change : α → β) (outcome : Except ε α) :
    change <$> (of outcome : Guarded ε α) = of (outcome.map change) := by
  cases outcome <;> rfl

theorem mapM_pure {step : α → Guarded ε β} {plain : α → β} {items : List α}
    (each : ∀ item ∈ items, step item = pure (plain item)) :
    items.mapM step = pure (items.map plain) := by
  induction items with
  | nil => rfl
  | cons item items ih =>
      rw [List.forall_mem_cons] at each
      rw [List.mapM_cons, each.1, ih each.2]
      rfl

/-! ### Checked operations -/

def sum (first second : Nat) : Guarded ε Nat :=
  if first + second < 2 ^ 64 then pure (first + second)
  else stop (.sum first second)

def difference (first second : Nat) : Guarded ε Nat :=
  if second ≤ first then pure (first - second) else stop (.difference first second)

def element (items : Array α) (index : Nat) : Guarded ε α :=
  match items[index]? with
  | some item => pure item
  | none => stop (.index index items.size)

def store (items : Array α) (index : Nat) (value : α) : Guarded ε (Array α) :=
  if index < items.size then pure (items.setIfInBounds index value)
  else stop (.index index items.size)

def slice (items : Array α) (start stop : Nat) : Guarded ε (Array α) :=
  if start ≤ stop ∧ stop ≤ items.size then pure (items.extract start stop)
  else Guarded.stop (.slice start stop items.size)

def clamp (value low high : Nat) : Guarded ε Nat :=
  if low ≤ high then pure (max low (min value high)) else stop (.bounds low high)

def copy (room : Nat) (items : Array α) : Guarded ε (Vector α room) :=
  if same : items.size = room then pure ⟨items, same⟩ else stop (.copy room items.size)

theorem sum_of_lt {first second : Nat} (small : first + second < 2 ^ 64) :
    (sum first second : Guarded ε Nat) = pure (first + second) :=
  if_pos small

theorem difference_of_le {first second : Nat} (ordered : second ≤ first) :
    (difference first second : Guarded ε Nat) = pure (first - second) :=
  if_pos ordered

theorem element_of_getElem? {items : Array α} {index : Nat} {item : α}
    (there : items[index]? = some item) : (element items index : Guarded ε α) = pure item := by
  rw [element, there]

theorem store_of_lt {items : Array α} {index : Nat} (inside : index < items.size) (value : α) :
    (store items index value : Guarded ε (Array α)) = pure (items.setIfInBounds index value) :=
  if_pos inside

theorem slice_of_le {items : Array α} {start stop : Nat} (ordered : start ≤ stop)
    (inside : stop ≤ items.size) :
    (slice items start stop : Guarded ε (Array α)) = pure (items.extract start stop) :=
  if_pos ⟨ordered, inside⟩

theorem clamp_of_le {low high : Nat} (ordered : low ≤ high) (value : Nat) :
    (clamp value low high : Guarded ε Nat) = pure (max low (min value high)) :=
  if_pos ordered

theorem copy_of_eq {items : Array α} {room : Nat} (same : items.size = room) :
    (copy room items : Guarded ε (Vector α room)) = pure ⟨items, same⟩ :=
  dif_pos same

end Guarded

end DexMembers
