import DexMembers.Text.Encoding
import Mathlib.Data.String.Basic

/-!
# Lengths in UTF-8

How many bytes text takes, and that text decoded from bytes takes no more than these.
-/

set_option autoImplicit false

namespace DexMembers.Text

open String (utf8Len)

theorem length_flatMap_utf8EncodeChar (text : List Char) :
    (text.flatMap String.utf8EncodeChar).length = utf8Len text := by
  induction text with
  | nil => rfl
  | cons c text ih =>
      rw [List.flatMap_cons, List.length_append, ih, String.length_utf8EncodeChar,
        String.utf8Len_cons, Nat.add_comm]

theorem utf8Len_eq_length {text : List Char} (single : ∀ c ∈ text, c.utf8Size = 1) :
    utf8Len text = text.length := by
  induction text with
  | nil => rfl
  | cons c text ih =>
      rw [List.forall_mem_cons] at single
      rw [String.utf8Len_cons, ih single.2, single.1, List.length_cons]

theorem utf8Size_of_lt {c : Char} (ascii : c.toNat < 0x80) : c.utf8Size = 1 := by
  rw [Char.utf8Size_eq_one_iff, UInt32.le_iff_toNat_le]
  exact Nat.le_of_lt_succ ascii

theorem utf8Size_le_two {c : Char} (small : c.toNat < 0x800) : c.utf8Size ≤ 2 := by
  have below : ¬ 2047 < c.val := by
    rw [UInt32.lt_iff_toNat_lt]
    exact Nat.not_lt_of_le (Nat.le_of_lt_succ small)
  have notThree : c.utf8Size ≠ 3 := fun three => below (Char.utf8Size_eq_three_iff.mp three).1
  have notFour : c.utf8Size ≠ 4 := by
    intro four
    have large := Char.utf8Size_eq_four_iff.mp four
    rw [UInt32.lt_iff_toNat_lt] at large below
    exact below (Nat.lt_trans (by decide) large)
  have few := c.utf8Size_le_four
  omega

theorem utf8Size_le_three {c : Char} (small : c.toNat < 0x10000) : c.utf8Size ≤ 3 := by
  have notFour : c.utf8Size ≠ 4 := by
    intro four
    have large := Char.utf8Size_eq_four_iff.mp four
    rw [UInt32.lt_iff_toNat_lt] at large
    exact absurd small (Nat.not_lt_of_le large)
  have few := c.utf8Size_le_four
  omega

theorem toNat_ofNat_le (n : Nat) : (Char.ofNat n).toNat ≤ n := by
  by_cases valid : n.isValidChar
  · rw [Char.ofNat, dif_pos valid]
    exact Nat.le_refl n
  · rw [Char.ofNat, dif_neg valid]
    exact Nat.zero_le n

theorem continuationBits_lt (b : UInt8) : continuationBits b < 64 :=
  Nat.mod_lt _ (by decide)

theorem utf8Size_charOfTwo_le (a b : UInt8) : (charOfTwo a b).utf8Size ≤ 2 := by
  have low := continuationBits_lt b
  exact utf8Size_le_two (Nat.lt_of_le_of_lt (toNat_ofNat_le _) (by omega))

theorem utf8Size_charOfThree_le (a b c : UInt8) : (charOfThree a b c).utf8Size ≤ 3 := by
  have middle := continuationBits_lt b
  have low := continuationBits_lt c
  exact utf8Size_le_three (Nat.lt_of_le_of_lt (toNat_ofNat_le _) (by omega))

/-- A character takes no more bytes in plain than in modified UTF-8. -/
theorem utf8Size_le_of_modifiedStep? {a : UInt8} {rest : List UInt8} {c : Char} {length : Nat}
    (step : modifiedStep? a rest = some (c, length)) :
    c.utf8Size ≤ length ∧ length ≤ rest.length + 1 := by
  unfold modifiedStep? at step
  split at step
  · cases step
  · split at step
    · rename_i ascii
      cases step
      rw [UInt8.lt_iff_toNat_lt] at ascii
      have single := utf8Size_of_lt (Nat.lt_of_le_of_lt (toNat_ofNat_le a.toNat) ascii)
      omega
    · split at step
      · cases step
        exact ⟨by decide, by simp⟩
      · split at step
        · split at step
          · cases step
            exact ⟨utf8Size_charOfThree_le .., by simp⟩
          · split at step
            · split at step
              · split at step
                · cases step
                  exact ⟨Nat.le_trans (Char.utf8Size_le_four _) (by decide), by simp⟩
                · cases step
              · cases step
            · cases step
        · cases step
      · split at step
        · split at step
          · cases step
            exact ⟨utf8Size_charOfTwo_le .., by simp⟩
          · cases step
        · split at step
          · split at step
            · split at step
              · cases step
                exact ⟨utf8Size_charOfThree_le .., by simp⟩
              · cases step
            · cases step
          · cases step
      · cases step

theorem utf8Len_le_of_modifiedCharsFrom? {skip : Nat} {bytes : List UInt8} {chars : List Char}
    (read : modifiedCharsFrom? skip bytes = some chars) : utf8Len chars ≤ bytes.length - skip := by
  induction bytes generalizing skip chars with
  | nil =>
      cases skip <;> cases read <;> exact Nat.zero_le _
  | cons a rest ih =>
      cases skip with
      | succ skip =>
          have shorter := ih read
          rw [List.length_cons]
          omega
      | zero =>
          rw [modifiedCharsFrom?] at read
          split at read
          · rename_i c length step
            obtain ⟨others, later, rfl⟩ := Option.map_eq_some_iff.mp read
            have shorter := ih later
            have positive := c.utf8Size_pos
            obtain ⟨fits, inside⟩ := utf8Size_le_of_modifiedStep? step
            rw [String.utf8Len_cons, List.length_cons]
            omega
          · cases read

theorem utf8ByteSize_le_of_ofModifiedUtf8? {bytes : List UInt8} {text : String}
    (read : ofModifiedUtf8? bytes = some text) : text.utf8ByteSize ≤ bytes.length := by
  rw [ofModifiedUtf8?] at read
  split at read
  · rename_i plain
    cases read
    rw [ofUtf8?, String.fromUTF8?] at plain
    split at plain
    · cases plain
      exact Nat.le_of_eq List.size_toByteArray
    · cases plain
  · obtain ⟨chars, decoded, rfl⟩ := Option.map_eq_some_iff.mp read
    rw [String.utf8ByteSize_ofList]
    exact utf8Len_le_of_modifiedCharsFrom? decoded

end DexMembers.Text
