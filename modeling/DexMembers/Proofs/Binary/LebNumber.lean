import DexMembers.Proofs.Binary.Leb128
import Mathlib.Data.Nat.Digits.Defs

/-!
# Which bytes are a variable-length number

A number ends at its first byte without the high bit, or at its fifth byte whatever that one says.
The reader takes exactly the bytes up to there, so it fails only where the bytes end too early.
Several forms may stand for one number; the written one is a shortest of them.
-/

set_option autoImplicit false

namespace DexMembers.Binary

/-- The bytes of one number, of which there may be as many as stated. -/
inductive LebNumber : (room : Nat) → List UInt8 → Prop
  | last {room : Nat} {byte : UInt8} (ends : byte.toNat < 128 ∨ room = 0) :
      LebNumber (room + 1) [byte]
  | more {room : Nat} {byte : UInt8} {rest : List UInt8} (continued : 128 ≤ byte.toNat)
      (others : LebNumber room rest) : LebNumber (room + 1) (byte :: rest)

def lebValue (bytes : List UInt8) : Nat :=
  Nat.ofDigits 128 (bytes.map fun byte => byte.toNat % 128)

theorem lebValue_cons (byte : UInt8) (rest : List UInt8) :
    lebValue (byte :: rest) = byte.toNat % 128 + 128 * lebValue rest := by
  rw [lebValue, List.map_cons, Nat.ofDigits_cons, lebValue]

theorem lebValue_lt (bytes : List UInt8) : lebValue bytes < 128 ^ bytes.length := by
  have digits : ∀ digit ∈ bytes.map fun byte => byte.toNat % 128, digit < 128 := by
    intro digit member
    obtain ⟨byte, _, rfl⟩ := List.mem_map.mp member
    exact Nat.mod_lt _ (by decide)
  have bound := Nat.ofDigits_lt_base_pow_length (by decide) digits
  rwa [List.length_map] at bound

namespace LebNumber

variable {room : Nat} {bytes : List UInt8}

theorem ne_nil (number : LebNumber room bytes) : bytes ≠ [] := by
  cases number with
  | last ends => exact List.cons_ne_nil _ _
  | more continued others => exact List.cons_ne_nil _ _

theorem length_le (number : LebNumber room bytes) : bytes.length ≤ room := by
  induction number with
  | last ends => exact Nat.succ_le_succ (Nat.zero_le _)
  | more continued others ih => exact Nat.succ_le_succ ih

theorem read (number : LebNumber room bytes) (rest : List UInt8) :
    lebPrefix? room (bytes ++ rest) = some (lebValue bytes, bytes.length) := by
  induction number with
  | last ends =>
      rw [List.singleton_append, lebPrefix?, if_pos ends]
      rfl
  | @more room byte bytes continued others ih =>
      have goesOn : ¬ (byte.toNat < 128 ∨ room = 0) := by
        have positive := List.length_pos_iff.mpr others.ne_nil
        have room := others.length_le
        omega
      rw [List.cons_append, lebPrefix?, if_neg goesOn, ih, lebValue_cons]
      rfl

end LebNumber

theorem exists_lebNumber_of_lebPrefix? {room : Nat} {bytes : List UInt8} {value used : Nat}
    (read : lebPrefix? room bytes = some (value, used)) :
    ∃ number rest, bytes = number ++ rest ∧ LebNumber room number ∧ number.length = used ∧
      lebValue number = value := by
  induction bytes generalizing room value used with
  | nil => simp [lebPrefix?] at read
  | cons byte bytes ih =>
      cases room with
      | zero => simp [lebPrefix?] at read
      | succ room =>
          rw [lebPrefix?] at read
          split at read
          · rename_i ends
            cases read
            exact ⟨[byte], bytes, rfl, .last ends, rfl, rfl⟩
          · rename_i goesOn
            obtain ⟨⟨high, count⟩, later, pair⟩ := Option.map_eq_some_iff.mp read
            obtain ⟨number, rest, split, others, length, sum⟩ := ih later
            cases pair
            refine ⟨byte :: number, rest, by rw [split, List.cons_append],
              .more (by omega) others, by rw [List.length_cons, length], ?_⟩
            rw [lebValue_cons, sum]

/-- Nothing is read from bytes that all say that there is one more, unless there are enough of
them. -/
theorem lebPrefix?_eq_none_iff (room : Nat) (bytes : List UInt8) :
    lebPrefix? (room + 1) bytes = none ↔
      bytes.length < room + 1 ∧ ∀ byte ∈ bytes, 128 ≤ byte.toNat := by
  induction bytes generalizing room with
  | nil => simp [lebPrefix?]
  | cons byte bytes ih =>
      rw [lebPrefix?, List.forall_mem_cons, List.length_cons]
      split
      · rename_i ends
        simp only [reduceCtorEq, false_iff]
        omega
      · rename_i goesOn
        obtain ⟨less, rfl⟩ : ∃ less, room = less + 1 := ⟨room - 1, by omega⟩
        have high : 128 ≤ byte.toNat := by omega
        rw [Option.map_eq_none_iff, ih]
        simp only [high, true_and, Nat.add_lt_add_iff_right]

/-! ### The written form -/

theorem lebBytes_ne_nil (n : Nat) : lebBytes n ≠ [] := by
  rw [lebBytes]
  split
  · exact List.cons_ne_nil _ _
  · exact List.cons_ne_nil _ _

/-- No form of a number has fewer bytes than the written one, also if bits of the form are dropped
by the cut to thirty-two. -/
theorem LebNumber.length_lebBytes_le {room : Nat} {bytes : List UInt8}
    (number : LebNumber room bytes) :
    (lebBytes (lebValue bytes % wordLimit)).length ≤ bytes.length := by
  obtain ⟨less, length⟩ : ∃ less, bytes.length = less + 1 :=
    ⟨bytes.length - 1, by have := List.length_pos_iff.mpr number.ne_nil; omega⟩
  have bound := lebValue_lt bytes
  rw [length] at bound ⊢
  exact Binary.length_lebBytes_le less _ (Nat.lt_of_le_of_lt (Nat.mod_le _ _) bound)

theorem exists_lebNumber_of_readLeb? {bytes : List UInt8} {value used : Nat}
    (read : readLeb? bytes = some (value, used)) :
    ∃ number rest, bytes = number ++ rest ∧ LebNumber maxLebBytes number ∧ number.length = used ∧
      lebValue number % wordLimit = value := by
  obtain ⟨⟨sum, count⟩, found, pair⟩ := Option.map_eq_some_iff.mp read
  obtain ⟨number, rest, split, isNumber, length, total⟩ := exists_lebNumber_of_lebPrefix? found
  cases pair
  exact ⟨number, rest, split, isNumber, length, by rw [total]⟩

theorem LebNumber.readLeb? {bytes : List UInt8} (number : LebNumber maxLebBytes bytes)
    (rest : List UInt8) :
    readLeb? (bytes ++ rest) = some (lebValue bytes % wordLimit, bytes.length) := by
  rw [Binary.readLeb?, number.read]
  rfl

/-- The written form of a number has at most as many bytes as any form it is read from. -/
theorem length_lebBytes_le_of_readLeb? {bytes : List UInt8} {value used : Nat}
    (read : readLeb? bytes = some (value, used)) : (lebBytes value).length ≤ used := by
  obtain ⟨number, _, _, isNumber, rfl, rfl⟩ := exists_lebNumber_of_readLeb? read
  exact isNumber.length_lebBytes_le

/-- The number is read from these bytes, whatever follows them, and from no fewer. -/
structure ShortestLeb (n : Nat) (form : List UInt8) : Prop where
  read : ∀ rest, readLeb? (form ++ rest) = some (n, form.length)
  shortest : ∀ bytes used, readLeb? bytes = some (n, used) → form.length ≤ used

theorem shortestLeb_lebBytes {n : Nat} (small : n < wordLimit) : ShortestLeb n (lebBytes n) :=
  ⟨readLeb?_lebBytes small, fun _ _ => length_lebBytes_le_of_readLeb?⟩

/-- Every word is written in a shortest form, of one to five bytes.  Of any bytes, no number is read
if and only if there are fewer than five and all of them have the high bit.  Otherwise one is read
from the first one to five of them, whatever follows: the word that their low seven bits add up to,
and the written form of that word has no more bytes. -/
theorem lebBytes_shortest_and_readLeb?_total :
    (∀ word < wordLimit, ShortestLeb word (lebBytes word) ∧
      1 ≤ (lebBytes word).length ∧ (lebBytes word).length ≤ 5) ∧
    ∀ bytes,
      (readLeb? bytes = none ↔ bytes.length < 5 ∧ ∀ byte ∈ bytes, 128 ≤ byte.toNat) ∧
      ∀ value used, readLeb? bytes = some (value, used) →
        1 ≤ used ∧ used ≤ 5 ∧ used ≤ bytes.length ∧
        (∀ others, readLeb? (bytes.take used ++ others) = some (value, used)) ∧
        value = Nat.ofDigits 128 ((bytes.take used).map fun byte => byte.toNat % 128) %
          wordLimit ∧
        (lebBytes value).length ≤ used := by
  constructor
  · intro word small
    exact ⟨shortestLeb_lebBytes small, List.length_pos_iff.mpr (lebBytes_ne_nil word),
      length_lebBytes_le 4 word (Nat.lt_of_lt_of_le small (by decide))⟩
  · intro bytes
    constructor
    · rw [readLeb?, Option.map_eq_none_iff]
      exact lebPrefix?_eq_none_iff 4 bytes
    · intro value used read
      have written := length_lebBytes_le_of_readLeb? read
      obtain ⟨number, rest, rfl, isNumber, rfl, rfl⟩ := exists_lebNumber_of_readLeb? read
      refine ⟨List.length_pos_iff.mpr isNumber.ne_nil, isNumber.length_le, ?_, ?_, ?_, written⟩
      · rw [List.length_append]
        exact Nat.le_add_right _ _
      · intro others
        rw [List.take_left]
        exact isNumber.readLeb? others
      · rw [List.take_left]
        rfl

/-- The fifth byte ends a number with its high bit set, and all but four of its bits are dropped;
the word that is left takes five bytes.  Zero can be read from two bytes and is written in one. -/
theorem lebBytes_shortest_and_readLeb?_total_dropped_bits :
    ShortestLeb 0xF0000000 (lebBytes 0xF0000000) ∧ (lebBytes 0xF0000000).length = 5 ∧
    readLeb? [0x80, 0x80, 0x80, 0x80, 0xFF, 0x01] = some (0xF0000000, 5) ∧
    readLeb? ([0x80, 0x80, 0x80, 0x80, 0xFF] ++ [0xAA]) = some (0xF0000000, 5) ∧
    readLeb? [0x80, 0x00] = some (0, 2) ∧ (lebBytes 0).length ≤ 2 ∧
    readLeb? [0x80, 0x80, 0x80, 0x80] = none := by
  have dropped : readLeb? [0x80, 0x80, 0x80, 0x80, 0xFF, 0x01] = some (0xF0000000, 5) := by decide
  have padded : readLeb? [0x80, 0x00] = some (0, 2) := by decide
  obtain ⟨words, forms⟩ := lebBytes_shortest_and_readLeb?_total
  have ⟨shortest, _, most⟩ := words 0xF0000000 (by decide)
  have ⟨_, _, _, others, _, _⟩ := (forms _).2 _ _ dropped
  have ⟨_, _, _, _, _, zero⟩ := (forms _).2 _ _ padded
  refine ⟨shortest, by simp [lebBytes], dropped, others [0xAA], padded, zero, ?_⟩
  exact (forms _).1.mpr ⟨by decide, by simp⟩

end DexMembers.Binary
