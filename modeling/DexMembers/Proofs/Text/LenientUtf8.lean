import DexMembers.Proofs.Text.ModifiedUtf8

/-!
# The lenient reader of UTF-8 reads a text back

Where the bytes are well formed the lenient reader has nothing to replace: it takes exactly the
bytes of each character for that character.
-/

set_option autoImplicit false

namespace DexMembers.Text

theorem utf8Step_of_lead_two {a b : UInt8} (low : 0xC2 ≤ a) (high : a ≤ 0xDF)
    (next : isContinuation b = true) (rest : List UInt8) :
    utf8Step a (b :: rest) = .char (charOfTwo a b) 2 := by
  have beyond : ¬ a < 0x80 := by grind
  simp [utf8Step, beyond, low, high, next]

theorem utf8Step_of_lead_three {a b c : UInt8} (low : 0xE0 ≤ a) (high : a ≤ 0xEF)
    (second : isSecondOfThree a b = true) (third : isContinuation c = true) (rest : List UInt8) :
    utf8Step a (b :: c :: rest) = .char (charOfThree a b c) 3 := by
  have beyond : ¬ a < 0x80 := by grind
  have longer : ¬ a ≤ 0xDF := by grind
  simp [utf8Step, beyond, longer, low, high, second, third]

theorem utf8Step_of_lead_four {a b c d : UInt8} (low : 0xF0 ≤ a) (high : a ≤ 0xF4)
    (second : isSecondOfFour a b = true) (third : isContinuation c = true)
    (fourth : isContinuation d = true) (rest : List UInt8) :
    utf8Step a (b :: c :: d :: rest) = .char (charOfFour a b c d) 4 := by
  have beyond : ¬ a < 0x80 := by grind
  have longer : ¬ a ≤ 0xDF := by grind
  have longest : ¬ a ≤ 0xEF := by grind
  simp [utf8Step, beyond, longer, longest, low, high, second, third, fourth]

theorem isSecondOfFour_lowBytes {code : Nat} (large : 0x10000 ≤ code) (small : code < 0x110000) :
    isSecondOfFour (Binary.lowByte (0xF0 + code / 262144))
      (Binary.lowByte (0x80 + code / 4096 % 64)) = true := by
  rw [isSecondOfFour]
  split
  · rename_i lead
    have value := congrArg UInt8.toNat lead
    rw [toNat_lowByte_of_lt (by omega)] at value
    change _ = 0xF0 at value
    have low : 0x90 ≤ Binary.lowByte (0x80 + code / 4096 % 64) :=
      le_lowByte (by change 0x90 ≤ _; omega) (by omega)
    have high : Binary.lowByte (0x80 + code / 4096 % 64) ≤ 0xBF :=
      lowByte_le (by change _ ≤ 0xBF; omega)
    simp [low, high]
  · split
    · rename_i lead
      have value := congrArg UInt8.toNat lead
      rw [toNat_lowByte_of_lt (by omega)] at value
      change _ = 0xF4 at value
      have low : 0x80 ≤ Binary.lowByte (0x80 + code / 4096 % 64) :=
        le_lowByte (by change 0x80 ≤ _; omega) (by omega)
      have high : Binary.lowByte (0x80 + code / 4096 % 64) ≤ 0x8F :=
        lowByte_le (by change _ ≤ 0x8F; omega)
      simp [low, high]
    · exact isContinuation_lowByte (by omega)

theorem charOfFour_lowBytes (c : Char) :
    charOfFour (Binary.lowByte (0xF0 + c.toNat / 262144))
      (Binary.lowByte (0x80 + c.toNat / 4096 % 64)) (Binary.lowByte (0x80 + c.toNat / 64 % 64))
      (Binary.lowByte (0x80 + c.toNat % 64)) = c := by
  have bounds := toNat_char_bounds c
  have code : (((0xF0 + c.toNat / 262144) % 8 * 64 + c.toNat / 4096 % 64) * 64 +
      c.toNat / 64 % 64) * 64 + c.toNat % 64 = c.toNat := by omega
  rw [charOfFour, toNat_lowByte_of_lt (by omega), continuationBits_lowByte (by omega),
    continuationBits_lowByte (by omega), continuationBits_lowByte (by omega), code,
    Char.ofNat_toNat]

theorem utf8Step_utf8EncodeChar (c : Char) (rest : List UInt8) :
    ∃ lead tail, String.utf8EncodeChar c = lead :: tail ∧
      utf8Step lead (tail ++ rest) = .char c (tail.length + 1) := by
  have bounds := toNat_char_bounds c
  by_cases one : c.toNat < 0x80
  · refine ⟨_, [], utf8EncodeChar_one one, ?_⟩
    have ascii : Binary.lowByte c.toNat < 0x80 := by
      rw [UInt8.lt_iff_toNat_lt, toNat_lowByte_of_lt (by omega)]
      exact one
    unfold utf8Step
    rw [if_pos ascii, toNat_lowByte_of_lt (by omega), Char.ofNat_toNat]
    rfl
  by_cases two : c.toNat < 0x800
  · refine ⟨_, _, utf8EncodeChar_two (Nat.le_of_not_lt one) two, ?_⟩
    have step := utf8Step_of_lead_two (a := Binary.lowByte (0xC0 + c.toNat / 64))
      (le_lowByte (by change 0xC2 ≤ _; omega) (by omega)) (lowByte_le (by change _ ≤ 0xDF; omega))
      (isContinuation_lowByte (by omega : c.toNat % 64 < 64)) rest
    rw [charOfTwo_lowBytes two] at step
    exact step
  by_cases three : c.toNat < 0x10000
  · refine ⟨_, _, utf8EncodeChar_three (Nat.le_of_not_lt two) three, ?_⟩
    have step := utf8Step_of_lead_three (a := Binary.lowByte (0xE0 + c.toNat / 4096))
      (le_lowByte (by change 0xE0 ≤ _; omega) (by omega)) (lowByte_le (by change _ ≤ 0xEF; omega))
      (isSecondOfThree_threeBytes (Nat.le_of_not_lt two) three (by omega))
      (isContinuation_lowByte (by omega : c.toNat % 64 < 64)) rest
    rw [charOfThree_lowBytes three] at step
    exact step
  · refine ⟨_, _, utf8EncodeChar_four (Nat.le_of_not_lt three), ?_⟩
    have step := utf8Step_of_lead_four (a := Binary.lowByte (0xF0 + c.toNat / 262144))
      (le_lowByte (by change 0xF0 ≤ _; omega) (by omega)) (lowByte_le (by change _ ≤ 0xF4; omega))
      (isSecondOfFour_lowBytes (Nat.le_of_not_lt three) (by omega))
      (isContinuation_lowByte (by omega : c.toNat / 64 % 64 < 64))
      (isContinuation_lowByte (by omega : c.toNat % 64 < 64)) rest
    rw [charOfFour_lowBytes] at step
    exact step

theorem utf8CharsLenientFrom_skip (skipped rest : List UInt8) :
    utf8CharsLenientFrom skipped.length (skipped ++ rest) = utf8CharsLenientFrom 0 rest := by
  induction skipped with
  | nil => rfl
  | cons byte skipped ih =>
      rw [List.cons_append, List.length_cons, utf8CharsLenientFrom]
      exact ih

theorem utf8CharsLenientFrom_flatMap (chars : List Char) :
    utf8CharsLenientFrom 0 (chars.flatMap String.utf8EncodeChar) = chars := by
  induction chars with
  | nil => rfl
  | cons c chars ih =>
      obtain ⟨lead, tail, form, step⟩ :=
        utf8Step_utf8EncodeChar c (chars.flatMap String.utf8EncodeChar)
      rw [List.flatMap_cons, form, List.cons_append, utf8CharsLenientFrom, step]
      simp only [Nat.add_sub_cancel]
      rw [utf8CharsLenientFrom_skip, ih]

@[simp] theorem ofUtf8Lenient_utf8Bytes (text : String) :
    ofUtf8Lenient (utf8Bytes text) = text := by
  rw [ofUtf8Lenient, utf8Bytes, utf8CharsLenientFrom_flatMap, String.ofList_toList]

end DexMembers.Text
