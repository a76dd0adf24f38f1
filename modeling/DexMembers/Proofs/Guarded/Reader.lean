import DexMembers.Proofs.Binary.Cursor
import DexMembers.Proofs.Binary.LebNumber
import DexMembers.Proofs.Guarded.Basic

/-!
# Readers without faults

The readers of a cursor with their guards as the only thing between the bytes and a fault: a length
is compared with a sum of positions, and then the bytes are picked one by one.  In a buffer shorter
than 2^63 no guard lets a fault through.
-/

set_option autoImplicit false

namespace DexMembers

open Binary (Cursor ReadFailure ReadUnit lebPrefix? wordValue)

/-- The buffer is as short as memory allows, and the position is one that a word can state or that
lies in such a buffer. -/
structure Binary.Cursor.InRange (c : Cursor) : Prop where
  size : c.bytes.size < 2 ^ 63
  position : c.position < 2 ^ 63

theorem Binary.Cursor.inRange_mk {bytes : Array UInt8} {position : Nat}
    (short : bytes.size < 2 ^ 63) (near : position < 2 ^ 63) : (Cursor.mk bytes position).InRange :=
  ⟨short, near⟩

/-- The buffer is as short as memory allows, and two bytes from the position on end at a 64-bit
number.  The position itself may be any but the last two. -/
structure Binary.Cursor.BelowTop (c : Cursor) : Prop where
  size : c.bytes.size < 2 ^ 63
  position : c.position + 2 < 2 ^ 64

theorem Binary.Cursor.InRange.belowTop {c : Cursor} (inRange : c.InRange) : c.BelowTop :=
  ⟨inRange.size, by have near := inRange.position; omega⟩

theorem Binary.Cursor.InRange.seek {c : Cursor} (inRange : c.InRange) {position : Nat}
    (small : position < 2 ^ 63) : (c.seek position).InRange :=
  ⟨inRange.size, small⟩

namespace Guarded

variable {ε δ α β : Type}

/-- The run reads what the plain reader does, and leaves the cursor in range. -/
structure Follows (run : Guarded ε (α × Cursor)) (plain : Except ε (α × Cursor)) : Prop where
  same : run = of plain
  inRange : ∀ value next, plain = .ok (value, next) → next.InRange

theorem Follows.pure {c : Cursor} (inRange : c.InRange) (value : α) :
    Follows (ε := ε) (Pure.pure (value, c)) (.ok (value, c)) := by
  refine ⟨rfl, ?_⟩
  intro value next read
  cases read
  exact inRange

theorem Follows.throw (failure : ε) :
    Follows (α := α) (MonadExcept.throw failure) (.error failure) :=
  ⟨rfl, fun _ _ read => nomatch read⟩

theorem Follows.bind {run : Guarded ε (α × Cursor)} {plain : Except ε (α × Cursor)}
    {next : α × Cursor → Guarded ε (β × Cursor)} {plainNext : α × Cursor → Except ε (β × Cursor)}
    (first : Follows run plain)
    (second : ∀ value c, plain = .ok (value, c) → c.InRange →
      Follows (next (value, c)) (plainNext (value, c))) :
    Follows (run >>= next) (plain >>= plainNext) := by
  constructor
  · rw [first.same]
    exact of_bind fun found read =>
      (second found.1 found.2 read (first.inRange found.1 found.2 read)).same
  · intro value c done
    obtain ⟨found, read, done⟩ := eq_ok_of_bind_eq_ok done
    exact (second found.1 found.2 read (first.inRange found.1 found.2 read)).inRange value c done

theorem Follows.adapt {run : Guarded δ (α × Cursor)} {plain : Except δ (α × Cursor)}
    (follows : Follows run plain) (reword : δ → ε) :
    Follows (run.adapt reword) (plain.mapError reword) := by
  constructor
  · rw [follows.same, adapt_of]
  · intro value next read
    cases plain with
    | error failure => cases read
    | ok found =>
        cases read
        exact follows.inRange value next rfl

/-! ### Words -/

def word (unit : ReadUnit) (width : Nat) (c : Cursor) : Guarded ReadFailure (Nat × Cursor) := do
  let stop ← sum c.position width
  if c.bytes.size < stop then throw (.endOfBytes unit c.position)
  else
    let bytes ← (List.range width).mapM fun offset => do
      let index ← sum c.position offset
      element c.bytes index
    let next ← sum c.position width
    return (wordValue bytes, c.seek next)

def u2 : Cursor → Guarded ReadFailure (Nat × Cursor) := word .u2 2

def u4 : Cursor → Guarded ReadFailure (Nat × Cursor) := word .u4 4

variable {c : Cursor}

theorem mapM_element {position count : Nat} {bytes : Array UInt8}
    (inside : position + count ≤ bytes.size) (short : bytes.size < 2 ^ 63) :
    ((List.range count).mapM fun offset => do
      let index ← sum position offset
      element bytes index) =
      (pure (bytes.extract position (position + count)).toList : Guarded ε (List UInt8)) := by
  have each : ∀ offset ∈ List.range count,
      (do let index ← sum position offset; element bytes index : Guarded ε UInt8) =
        pure (bytes.getD (position + offset) 0) := by
    intro offset member
    have before := List.mem_range.mp member
    have there : position + offset < bytes.size := by omega
    rw [sum_of_lt (by omega), pure_bind,
      element_of_getElem? (Array.getElem?_eq_getElem there), Array.getD_eq_getD_getElem?,
      Array.getElem?_eq_getElem there, Option.getD_some]
  rw [mapM_pure each]
  congr 1
  apply List.ext_getElem
  · simp only [List.length_map, List.length_range, Array.length_toList, Array.size_extract]
    omega
  · intro offset before _
    simp only [List.length_map, List.length_range] at before
    have there : position + offset < bytes.size := by omega
    simp [there]

theorem not_positionLimit_le (inRange : c.InRange) {width : Nat} (narrow : width ≤ 4) :
    ¬ Cursor.positionLimit ≤ c.position + width := by
  have near := inRange.position
  rw [Cursor.positionLimit]
  omega

/-- A word can be read without a fault from wherever its end is a 64-bit number. -/
theorem word_follows_of_lt (short : c.bytes.size < 2 ^ 63) (unit : ReadUnit) {width : Nat}
    (numbered : c.position + width < 2 ^ 64) : Follows (word unit width c) (c.word unit width) := by
  have below : ¬ Cursor.positionLimit ≤ c.position + width := Nat.not_le_of_lt numbered
  rw [word, Cursor.word, sum_of_lt numbered, if_neg below, pure_bind, Cursor.peek?]
  by_cases inside : c.position + width ≤ c.bytes.size
  · rw [if_neg (Nat.not_lt_of_le inside), if_pos inside, mapM_element inside short, pure_bind,
      pure_bind]
    have next : (c.seek (c.position + width)).InRange :=
      ⟨short, Nat.lt_of_le_of_lt inside short⟩
    exact Follows.pure next _
  · rw [if_pos (Nat.lt_of_not_le inside), if_neg inside]
    exact Follows.throw _

/-- From elsewhere the sum that the guard compares with the length is a fault already. -/
theorem word_of_overflow (unit : ReadUnit) {width : Nat} (beyond : 2 ^ 64 ≤ c.position + width) :
    word unit width c = stop (.sum c.position width) := by
  rw [word, sum, if_neg (Nat.not_lt_of_le beyond)]
  rfl

theorem word_follows (inRange : c.InRange) (unit : ReadUnit) {width : Nat} (narrow : width ≤ 4) :
    Follows (word unit width c) (c.word unit width) := by
  have near := inRange.position
  exact word_follows_of_lt inRange.size unit (by omega)

theorem u2_follows (inRange : c.InRange) : Follows (u2 c) c.u2 :=
  word_follows inRange .u2 (by decide)

theorem u4_follows (inRange : c.InRange) : Follows (u4 c) c.u4 :=
  word_follows inRange .u4 (by decide)

theorem u4_lt {value : Nat} {next : Cursor} (read : c.u4 = .ok (value, next)) :
    value < 2 ^ 32 := by
  rw [Cursor.u4, Cursor.word] at read
  split at read
  · cases read
  · rw [Cursor.peek?] at read
    by_cases inside : c.position + 4 ≤ c.bytes.size
    · rw [if_pos inside] at read
      cases read
      have length : (c.bytes.extract c.position (c.position + 4)).toList.length = 4 := by
        rw [Array.length_toList, Array.size_extract]
        omega
      exact Binary.wordValue_lt_of_length length
    · rw [if_neg inside] at read
      cases read

/-! ### Variable-length numbers -/

/-- The number that the bytes start with and how many bytes it takes, `count` bytes before these
included. -/
def lebPrefix (count : Nat) : List UInt8 → Guarded ε (Option (Nat × Nat))
  | [] => pure none
  | byte :: rest =>
      if byte.toNat < 128 ∨ count = 4 then do
        let used ← sum count 1
        return some (byte.toNat % 128, used)
      else do
        let found ← lebPrefix (count + 1) rest
        return found.map fun (high, used) => (byte.toNat % 128 + 128 * high, used)

def uleb128 (c : Cursor) : Guarded ReadFailure (Nat × Cursor) := do
  let found ← lebPrefix 0 c.rest
  match found with
  | some (value, used) => do
      let next ← sum c.position used
      return (value % Binary.wordLimit, c.seek next)
  | none => throw (.endOfBytes .uleb128 c.position)

theorem lebPrefix_eq (count : Nat) (bytes : List UInt8) (few : count ≤ 4) :
    (lebPrefix count bytes : Guarded ε (Option (Nat × Nat))) =
      pure ((lebPrefix? (5 - count) bytes).map fun (value, used) => (value, count + used)) := by
  induction bytes generalizing count with
  | nil => rw [lebPrefix, lebPrefix?, Option.map_none]
  | cons byte bytes ih =>
      obtain ⟨room, left⟩ : ∃ room, 5 - count = room + 1 := ⟨4 - count, by omega⟩
      rw [lebPrefix, left, lebPrefix?]
      by_cases last : byte.toNat < 128 ∨ room = 0
      · have counted : byte.toNat < 128 ∨ count = 4 := last.imp_right fun _ => by omega
        rw [if_pos last, if_pos counted, sum_of_lt (by omega)]
        rfl
      · have counted : ¬ (byte.toNat < 128 ∨ count = 4) := by omega
        have less : 5 - (count + 1) = room := by omega
        rw [if_neg last, if_neg counted, ih (count + 1) (by omega), less, pure_bind]
        cases lebPrefix? room bytes with
        | none => rfl
        | some found => simp [Nat.add_comm, Nat.add_left_comm]

theorem lebPrefix?_take (room : Nat) (bytes : List UInt8) :
    lebPrefix? room (bytes.take room) = lebPrefix? room bytes := by
  induction room generalizing bytes with
  | zero => cases bytes <;> simp only [List.take_zero, lebPrefix?]
  | succ room ih =>
      cases bytes with
      | nil => rfl
      | cons byte bytes => rw [List.take_succ_cons, lebPrefix?, lebPrefix?, ih]

theorem lebPrefix?_used_le {room : Nat} {bytes : List UInt8} {value used : Nat}
    (read : lebPrefix? room bytes = some (value, used)) : used ≤ bytes.length := by
  obtain ⟨number, rest, rfl, _, rfl, _⟩ := Binary.exists_lebNumber_of_lebPrefix? read
  rw [List.length_append]
  exact Nat.le_add_right _ _

theorem uleb128_follows (inRange : c.InRange) : Follows (uleb128 c) c.uleb128 := by
  have short := inRange.size
  have near := inRange.position
  rw [uleb128, Cursor.uleb128, lebPrefix_eq 0 _ (by decide), pure_bind, Binary.readLeb?,
    Cursor.toList_extract, Binary.maxLebBytes, lebPrefix?_take, Nat.sub_zero]
  cases found : lebPrefix? 5 c.rest with
  | none => exact Follows.throw _
  | some result =>
      obtain ⟨value, used⟩ := result
      have inside := lebPrefix?_used_le found
      rw [Cursor.rest, List.length_drop, Array.length_toList] at inside
      simp only [Option.map_some, Nat.zero_add]
      rw [sum_of_lt (by omega), pure_bind]
      exact Follows.pure (inRange.seek (by omega)) _

/-! ### Loops -/

def untilZero (c : Cursor) : Guarded ReadFailure (List UInt8 × Cursor) :=
  go (c.bytes.size - c.position + 1) [] c
where
  /-- Takes bytes one by one; `taken` holds those before, the last one first. -/
  go : (rounds : Nat) → (taken : List UInt8) → Cursor →
      Guarded ReadFailure (List UInt8 × Cursor)
    | 0, _, _ => stop .endless
    | rounds + 1, taken, c => do
        let (byte, c) ← word .u1 1 c
        if byte = 0 then return (taken.reverse, c)
        else go rounds (Binary.lowByte byte :: taken) c

theorem word_one (inRange : c.InRange) :
    c.word .u1 1 = match c.bytes[c.position]? with
      | some byte => .ok (byte.toNat, c.advance 1)
      | none => .error (.endOfBytes .u1 c.position) := by
  rw [Cursor.word, if_neg (not_positionLimit_le inRange (by decide)), Cursor.peek?]
  by_cases inside : c.position + 1 ≤ c.bytes.size
  · have there : c.position < c.bytes.toList.length := inside
    have one : (c.bytes.extract c.position (c.position + 1)).toList = [c.bytes[c.position]] := by
      rw [Cursor.toList_extract, Cursor.rest, List.drop_eq_getElem_cons there]
      rfl
    rw [if_pos inside, one, Array.getElem?_eq_getElem inside]
    rfl
  · rw [if_neg inside, Array.getElem?_eq_none (Nat.le_of_not_lt inside)]

theorem untilZero_go_follows (left : Nat) (taken : List UInt8) (c : Cursor) (inRange : c.InRange)
    (all : left = c.bytes.size - c.position) :
    Follows (untilZero.go (left + 1) taken c) (Cursor.untilZero.go left taken c) := by
  -- on the bytes left, of which every round but the last takes one
  induction left generalizing taken c with
  | zero =>
      have behind : c.bytes[c.position]? = none := Array.getElem?_eq_none (by omega)
      have read := word_follows inRange .u1 (by decide : 1 ≤ 4)
      rw [word_one inRange, behind] at read
      unfold untilZero.go Cursor.untilZero.go
      rw [read.same, if_neg (not_positionLimit_le inRange (by decide))]
      exact Follows.throw _
  | succ left ih =>
      have there : c.position < c.bytes.size := by omega
      have read := word_follows inRange .u1 (by decide : 1 ≤ 4)
      rw [word_one inRange, Array.getElem?_eq_getElem there] at read
      have next : (c.advance 1).InRange := read.inRange _ _ rfl
      have fewer : left = (c.advance 1).bytes.size - (c.advance 1).position := by
        change left = c.bytes.size - (c.position + 1)
        omega
      unfold untilZero.go Cursor.untilZero.go
      rw [read.same, if_neg (not_positionLimit_le inRange (by decide)),
        Array.getElem?_eq_getElem there]
      simp only [of_ok, pure_bind, ← UInt8.toNat_inj, UInt8.toNat_zero, Binary.lowByte_toNat]
      by_cases zero : c.bytes[c.position].toNat = 0
      · rw [if_pos zero, if_pos zero]
        exact Follows.pure next _
      · rw [if_neg zero, if_neg zero]
        exact ih _ _ next fewer

theorem untilZero_follows (inRange : c.InRange) : Follows (untilZero c) c.untilZero :=
  untilZero_go_follows _ [] c inRange rfl

section Many

variable {step : Nat → Cursor → Guarded ε (α × Cursor)}
  {plain : Nat → Cursor → Except ε (α × Cursor)}

def manyOnto (next : Nat → Cursor → Guarded ε (α × Cursor)) :
    (count : Nat) → (read : Array α) → Cursor → Guarded ε (Array α × Cursor)
  | 0, read, c => pure (read, c)
  | count + 1, read, c => do
      let (value, c) ← next read.size c
      manyOnto next count (read.push value) c

theorem manyOnto_follows
    (each : ∀ index c, c.InRange → Follows (step index c) (plain index c)) (count : Nat)
    (read : Array α) (inRange : c.InRange) :
    Follows (manyOnto step count read c) (Cursor.manyOnto plain count read c) := by
  induction count generalizing read c with
  | zero => exact Follows.pure inRange read
  | succ count ih =>
      rw [manyOnto, Cursor.manyOnto_succ]
      exact (each read.size c inRange).bind fun value next _ nextInRange =>
        ih (read.push value) nextInRange

end Many

end Guarded

end DexMembers
