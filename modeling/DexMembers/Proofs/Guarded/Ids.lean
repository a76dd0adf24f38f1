import DexMembers.Proofs.Guarded.Tables

/-!
# Ids read at any position

A reader of ids can be started at any 64-bit number.  Its first guard adds two to the position and
compares the sum with the length, so at the last two positions that sum is a fault.  From every
other position no read meets a fault, however many are made in a row: where a read stops, failed or
not, is no position of those two.
-/

set_option autoImplicit false

namespace DexMembers

open Binary (Cursor ReadFailure ReadUnit)

namespace Guarded

variable {α : Type} {c : Cursor}

def readsFrom (read : Cursor → Guarded ReadFailure (α × Cursor)) :
    (count : Nat) → Cursor → Except Fault (List (Except ReadFailure α × Nat))
  | 0, _ => .ok []
  | count + 1, c => do
      match ← (read c).run with
      | .ok (item, next) =>
          let others ← readsFrom read count next
          return (.ok item, next.position) :: others
      | .error failure =>
          let others ← readsFrom read count (c.seek failure.position)
          return (.error failure, failure.position) :: others

/-- From any position but the last two the reader has no fault and fails for want of bytes only.  At
those it stops at its first sum. -/
structure FaultsAtTop (read : Cursor → Guarded ReadFailure (α × Cursor))
    (plain : Cursor → Except ReadFailure (α × Cursor)) (c : Cursor) : Prop where
  single : c.position + 2 < 2 ^ 64 → (read c).run = .ok (plain c)
  ended : c.position + 2 < 2 ^ 64 → ∀ failure, plain c = .error failure →
    ∃ unit position, failure = .endOfBytes unit position
  inRow : c.position + 2 < 2 ^ 64 → ∀ count,
    readsFrom read count c = .ok (DexMembers.readsFrom plain count c)
  top : 2 ^ 64 ≤ c.position + 2 → (read c).run = .error (.sum c.position 2)

/-! ### Where a failed read stops -/

theorem failure_of_word {unit : ReadUnit} {width : Nat} {failure : ReadFailure}
    (numbered : c.position + width < 2 ^ 64) (failed : c.word unit width = .error failure) :
    failure = .endOfBytes unit c.position := by
  have below : ¬ Cursor.positionLimit ≤ c.position + width := Nat.not_le_of_lt numbered
  rw [Cursor.word, if_neg below] at failed
  split at failed
  · cases failed
  · cases failed
    rfl

/-- One of the three parts of an id has failed, at the position where it began. -/
theorem failure_of_readIdTriple (below : c.BelowTop) {failure : ReadFailure}
    (failed : readIdTriple c = .error failure) :
    ∃ unit position, failure = .endOfBytes unit position ∧ position + 2 < 2 ^ 64 := by
  rcases eq_error_of_bind_eq_error failed with bad | ⟨⟨first, next⟩, read, failed⟩
  · exact ⟨.u2, c.position, failure_of_word below.position bad, below.position⟩
  · have inRange := (word_follows_of_lt below.size .u2 below.position).inRange first next read
    have near := inRange.position
    rcases eq_error_of_bind_eq_error failed with bad | ⟨⟨second, later⟩, read, failed⟩
    · exact ⟨.u2, next.position, failure_of_word (by omega) bad, by omega⟩
    · have near := ((u2_follows inRange).inRange second later read).position
      rcases eq_error_of_bind_eq_error failed with bad | ⟨third, _, done⟩
      · exact ⟨.u4, later.position, failure_of_word (by omega) bad, by omega⟩
      · cases done

/-! ### Reads in a row -/

section Readers

variable {read : Cursor → Guarded ReadFailure (α × Cursor)}
  {plain : Cursor → Except ReadFailure (α × Cursor)}

theorem readsFrom_eq (each : ∀ c, c.BelowTop → Follows (read c) (plain c))
    (stays : ∀ c failure, c.BelowTop → plain c = .error failure → failure.position + 2 < 2 ^ 64)
    (count : Nat) (below : c.BelowTop) :
    readsFrom read count c = .ok (DexMembers.readsFrom plain count c) := by
  induction count generalizing c with
  | zero => rfl
  | succ count ih =>
      have run : (read c).run = .ok (plain c) := congrArg ExceptT.run (each c below).same
      rw [readsFrom, DexMembers.readsFrom, run, Except.ok_bind]
      -- a read leaves a position below the last two behind, also one that fails
      cases outcome : plain c with
      | error failure =>
          have next : (c.seek failure.position).BelowTop :=
            ⟨below.size, stays c failure below outcome⟩
          dsimp only
          rw [ih next]
          rfl
      | ok found =>
          have next : found.2.BelowTop := ((each c below).inRange found.1 found.2 outcome).belowTop
          dsimp only
          rw [ih next]
          rfl

theorem idTriple_of_overflow (beyond : 2 ^ 64 ≤ c.position + 2) :
    idTriple c = stop (.sum c.position 2) := by
  rw [idTriple, u2, word_of_overflow .u2 beyond]
  rfl

/-- Whatever else a reader does, it is enough that it fails and stops where the reading of the
three numbers does. -/
theorem faultsAtTop (short : c.bytes.size < 2 ^ 63)
    (follows : ∀ c, c.BelowTop → Follows (read c) (plain c))
    (fails : ∀ c failure, plain c = .error failure → readIdTriple c = .error failure)
    (stops : idTriple c = stop (.sum c.position 2) → read c = stop (.sum c.position 2)) :
    FaultsAtTop read plain c where
  single below := congrArg ExceptT.run (follows c ⟨short, below⟩).same
  ended below failure failed := by
    obtain ⟨unit, position, ended, _⟩ :=
      failure_of_readIdTriple ⟨short, below⟩ (fails c failure failed)
    exact ⟨unit, position, ended⟩
  inRow below count := by
    have stays : ∀ c failure, c.BelowTop → plain c = .error failure →
        failure.position + 2 < 2 ^ 64 := by
      intro c failure below failed
      obtain ⟨unit, position, rfl, near⟩ := failure_of_readIdTriple below (fails c failure failed)
      exact near
    exact readsFrom_eq follows stays count ⟨short, below⟩
  top beyond := congrArg ExceptT.run (stops (idTriple_of_overflow beyond))

end Readers

/-- Field and method ids are read without a fault from every position but the last two 64-bit
numbers, once or several times in a row, and a read that fails lacks bytes.  At those two the reader
stops at the sum of the position and two, whatever the bytes. -/
theorem idReaders_fault_at_top (short : c.bytes.size < 2 ^ 63) :
    FaultsAtTop fieldId FieldId.read c ∧ FaultsAtTop methodId MethodId.read c := by
  constructor
  · apply faultsAtTop short (fun c => fieldId_follows) fun c failure => eq_error_of_map_eq_error
    intro stopped
    rw [fieldId, stopped]
    rfl
  · apply faultsAtTop short (fun c => methodId_follows) fun c failure => eq_error_of_map_eq_error
    intro stopped
    rw [methodId, stopped]
    rfl

/-- The highest position without a fault, at which reads fail and stay, and the one above it. -/
theorem idReaders_fault_at_top_last_three :
    let bytes : Array UInt8 := #[1, 2, 3, 4, 5, 6, 7, 8, 9]
    let high : Nat := 0xFFFFFFFFFFFFFFFD
    (methodId ⟨bytes, 1⟩).run =
        .ok (.ok ({ declaringType := 0x0302, prototype := 0x0504, name := 0x09080706 },
          ⟨bytes, 9⟩)) ∧
      readsFrom fieldId 2 ⟨bytes, high⟩ =
        .ok [(.error (.endOfBytes .u2 high), high), (.error (.endOfBytes .u2 high), high)] ∧
      (methodId ⟨bytes, high + 1⟩).run = .error (.sum (high + 1) 2) := by
  intro bytes high
  have short : bytes.size < 2 ^ 63 := by decide
  refine ⟨?_, ?_, ?_⟩
  · rw [(@idReaders_fault_at_top ⟨bytes, 1⟩ short).2.single (by decide)]
    decide
  · rw [(@idReaders_fault_at_top ⟨bytes, high⟩ short).1.inRow (by decide)]
    decide
  · exact (@idReaders_fault_at_top ⟨bytes, high + 1⟩ short).2.top (by decide)

/-- At the last position neither reader comes to an outcome. -/
theorem no_id_read_at_last_position :
    let last : Cursor := ⟨#[1, 2, 3, 4, 5, 6, 7], 0xFFFFFFFFFFFFFFFF⟩
    last.position < 2 ^ 64 ∧ (¬ ∃ outcome, (methodId last).run = .ok outcome) ∧
      ¬ ∃ outcome, (fieldId last).run = .ok outcome := by
  intro last
  have method : (methodId last).run = .error (.sum last.position 2) := rfl
  have field : (fieldId last).run = .error (.sum last.position 2) := rfl
  refine ⟨by decide, ?_, ?_⟩
  · rintro ⟨outcome, done⟩
    cases method.symm.trans done
  · rintro ⟨outcome, done⟩
    cases field.symm.trans done

end Guarded

end DexMembers
