import DexMembers.Binary.Numbers
import Mathlib.Algebra.Group.Nat.Defs

/-!
# Variable-length numbers are read back

A thirty-two-bit number takes at most five bytes, and the reader gets it from them whatever follows.
-/

set_option autoImplicit false

namespace DexMembers.Binary

/-- Each byte but the last has its high bit set, and the last has not. -/
theorem lebPrefix?_lebBytes (room n : Nat) (fits : n < 128 ^ (room + 1)) (rest : List UInt8) :
    lebPrefix? (room + 1) (lebBytes n ++ rest) = some (n, (lebBytes n).length) := by
  -- on the bytes that the reader may still take; each takes seven bits off the number
  induction room generalizing n with
  | zero =>
      have small : n < 128 := by simpa using fits
      have value : (lowByte n).toNat = n := by
        rw [toNat_lowByte]
        omega
      rw [lebBytes, if_pos small]
      simp only [List.cons_append, List.nil_append, lebPrefix?, value, small, true_or, if_true,
        Nat.mod_eq_of_lt small, List.length_cons, List.length_nil]
  | succ room ih =>
      rw [lebBytes]
      split
      · rename_i small
        have value : (lowByte n).toNat = n := by
          rw [toNat_lowByte]
          omega
        simp only [List.cons_append, List.nil_append, lebPrefix?, value, small, true_or, if_true,
          Nat.mod_eq_of_lt small, List.length_cons, List.length_nil]
      · rename_i large
        have value : (lowByte (n % 128 + 128)).toNat = n % 128 + 128 := by
          rw [toNat_lowByte]
          omega
        have continued : ¬ (n % 128 + 128 < 128 ∨ room + 1 = 0) := by omega
        have high : n / 128 < 128 ^ (room + 1) := by
          rw [Nat.div_lt_iff_lt_mul (by decide), ← Nat.pow_succ]
          exact fits
        have sum : (n % 128 + 128) % 128 + 128 * (n / 128) = n := by omega
        rw [List.cons_append, lebPrefix?, value, if_neg continued, ih _ high]
        simp only [Option.map_some, sum, List.length_cons]

theorem length_lebBytes_le (room n : Nat) (fits : n < 128 ^ (room + 1)) :
    (lebBytes n).length ≤ room + 1 := by
  induction room generalizing n with
  | zero =>
      rw [lebBytes, if_pos (by simpa using fits)]
      exact Nat.le_refl 1
  | succ room ih =>
      rw [lebBytes]
      split
      · rw [List.length_singleton]
        omega
      · have high : n / 128 < 128 ^ (room + 1) := by
          rw [Nat.div_lt_iff_lt_mul (by decide), ← Nat.pow_succ]
          exact fits
        have shorter := ih _ high
        rw [List.length_cons]
        omega

theorem readLeb?_lebBytes {n : Nat} (small : n < wordLimit) (rest : List UInt8) :
    readLeb? (lebBytes n ++ rest) = some (n, (lebBytes n).length) := by
  have fits : n < 128 ^ (4 + 1) := Nat.lt_of_lt_of_le small (by decide)
  rw [readLeb?, maxLebBytes, lebPrefix?_lebBytes 4 n fits]
  simp only [Option.map_some, Nat.mod_eq_of_lt small]

/-- The reader never looks at more than five bytes, so the others do not matter. -/
theorem readLeb?_take_lebBytes {n : Nat} (small : n < wordLimit) (rest : List UInt8) :
    readLeb? ((lebBytes n ++ rest).take maxLebBytes) = some (n, (lebBytes n).length) := by
  have short : (lebBytes n).length ≤ maxLebBytes :=
    length_lebBytes_le 4 n (Nat.lt_of_lt_of_le small (by decide))
  rw [List.take_append, List.take_of_length_le short]
  exact readLeb?_lebBytes small _

end DexMembers.Binary
