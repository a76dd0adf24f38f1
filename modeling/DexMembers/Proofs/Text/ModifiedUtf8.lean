import DexMembers.Text.Encoding

/-!
# Modified UTF-8 is read back

The reader tries plain UTF-8 first.  Bytes in the modified form are plain UTF-8 only when both forms
of the text are the same, so the reader gets the text either way.  No byte of the form is zero.
-/

set_option autoImplicit false

namespace DexMembers.Text

/-! ### The forms of a character -/

theorem toNat_char_bounds (c : Char) :
    c.toNat < 0xD800 ∨ (0xDFFF < c.toNat ∧ c.toNat < 0x110000) :=
  c.valid

theorem modifiedChar_one {c : Char} (positive : 0 < c.toNat) (small : c.toNat < 0x80) :
    modifiedChar c = [Binary.lowByte c.toNat] := by
  rw [modifiedChar]
  simp only [Nat.ne_of_gt positive, small, if_true, if_false]

theorem modifiedChar_two {c : Char} (large : 0x80 ≤ c.toNat) (small : c.toNat < 0x800) :
    modifiedChar c =
      [Binary.lowByte (0xC0 + c.toNat / 64), Binary.lowByte (0x80 + c.toNat % 64)] := by
  have positive : c.toNat ≠ 0 := by omega
  have beyond : ¬ c.toNat < 0x80 := by omega
  rw [modifiedChar]
  simp only [positive, beyond, small, if_true, if_false]

theorem modifiedChar_three {c : Char} (large : 0x800 ≤ c.toNat) (small : c.toNat < 0x10000) :
    modifiedChar c = threeBytes c.toNat := by
  have positive : c.toNat ≠ 0 := by omega
  have beyond : ¬ c.toNat < 0x80 := by omega
  have further : ¬ c.toNat < 0x800 := by omega
  rw [modifiedChar]
  simp only [positive, beyond, further, small, if_true, if_false]

theorem modifiedChar_six {c : Char} (large : 0x10000 ≤ c.toNat) :
    modifiedChar c =
      threeBytes (0xD800 + (c.toNat - 0x10000) / 1024) ++
        threeBytes (0xDC00 + (c.toNat - 0x10000) % 1024) := by
  have positive : c.toNat ≠ 0 := by omega
  have beyond : ¬ c.toNat < 0x80 := by omega
  have further : ¬ c.toNat < 0x800 := by omega
  have last : ¬ c.toNat < 0x10000 := by omega
  rw [modifiedChar]
  simp only [positive, beyond, further, last, if_false]

theorem utf8EncodeChar_one {c : Char} (small : c.toNat < 0x80) :
    String.utf8EncodeChar c = [Binary.lowByte c.toNat] := by
  change c.val.toNat < 0x80 at small
  have within : c.val.toNat ≤ 0x7F := by omega
  simp only [String.utf8EncodeChar, within, if_true]
  rfl

theorem utf8EncodeChar_two {c : Char} (large : 0x80 ≤ c.toNat) (small : c.toNat < 0x800) :
    String.utf8EncodeChar c =
      [Binary.lowByte (0xC0 + c.toNat / 64), Binary.lowByte (0x80 + c.toNat % 64)] := by
  change 0x80 ≤ c.val.toNat at large
  change c.val.toNat < 0x800 at small
  have beyond : ¬ c.val.toNat ≤ 0x7F := by omega
  have within : c.val.toNat ≤ 0x7FF := by omega
  have lead : c.val.toNat / 64 % 0x20 + 0xC0 = 0xC0 + c.val.toNat / 64 := by omega
  have next : c.val.toNat % 0x40 + 0x80 = 0x80 + c.val.toNat % 64 := by omega
  simp only [String.utf8EncodeChar, beyond, within, if_true, if_false, lead, next]
  rfl

theorem utf8EncodeChar_three {c : Char} (large : 0x800 ≤ c.toNat) (small : c.toNat < 0x10000) :
    String.utf8EncodeChar c = threeBytes c.toNat := by
  change 0x800 ≤ c.val.toNat at large
  change c.val.toNat < 0x10000 at small
  have beyond : ¬ c.val.toNat ≤ 0x7F := by omega
  have further : ¬ c.val.toNat ≤ 0x7FF := by omega
  have within : c.val.toNat ≤ 0xFFFF := by omega
  have lead : c.val.toNat / 4096 % 0x10 + 0xE0 = 0xE0 + c.val.toNat / 4096 := by omega
  have next : c.val.toNat / 64 % 0x40 + 0x80 = 0x80 + c.val.toNat / 64 % 64 := by omega
  have last : c.val.toNat % 0x40 + 0x80 = 0x80 + c.val.toNat % 64 := by omega
  simp only [String.utf8EncodeChar, beyond, further, within, if_true, if_false, lead, next, last]
  rfl

theorem utf8EncodeChar_four {c : Char} (large : 0x10000 ≤ c.toNat) :
    String.utf8EncodeChar c =
      [Binary.lowByte (0xF0 + c.toNat / 262144), Binary.lowByte (0x80 + c.toNat / 4096 % 64),
        Binary.lowByte (0x80 + c.toNat / 64 % 64), Binary.lowByte (0x80 + c.toNat % 64)] := by
  have bounds := toNat_char_bounds c
  change c.val.toNat < 0xD800 ∨ (0xDFFF < c.val.toNat ∧ c.val.toNat < 0x110000) at bounds
  change 0x10000 ≤ c.val.toNat at large
  have beyond : ¬ c.val.toNat ≤ 0x7F := by omega
  have further : ¬ c.val.toNat ≤ 0x7FF := by omega
  have last : ¬ c.val.toNat ≤ 0xFFFF := by omega
  have lead : c.val.toNat / 262144 % 0x08 + 0xF0 = 0xF0 + c.val.toNat / 262144 := by omega
  have second : c.val.toNat / 4096 % 0x40 + 0x80 = 0x80 + c.val.toNat / 4096 % 64 := by omega
  have third : c.val.toNat / 64 % 0x40 + 0x80 = 0x80 + c.val.toNat / 64 % 64 := by omega
  have fourth : c.val.toNat % 0x40 + 0x80 = 0x80 + c.val.toNat % 64 := by omega
  simp only [String.utf8EncodeChar, beyond, further, last, if_false, lead, second, third, fourth]
  rfl

theorem modifiedChar_ne_nil (c : Char) : modifiedChar c ≠ [] := by
  by_cases zero : c.toNat = 0
  · simp [modifiedChar, zero]
  · by_cases one : c.toNat < 0x80
    · simp [modifiedChar_one (Nat.pos_of_ne_zero zero) one]
    · by_cases two : c.toNat < 0x800
      · simp [modifiedChar_two (Nat.le_of_not_lt one) two]
      · by_cases three : c.toNat < 0x10000
        · simp [modifiedChar_three (Nat.le_of_not_lt two) three, threeBytes]
        · simp [modifiedChar_six (Nat.le_of_not_lt three), threeBytes]

/-! ### Where the two forms agree -/

theorem utf8EncodeChar_append_inj {c d : Char} {rest others : List UInt8}
    (same : String.utf8EncodeChar c ++ rest = String.utf8EncodeChar d ++ others) : c = d := by
  have bytes := congrArg (fun bytes => bytes.toByteArray.utf8DecodeChar? 0) same
  simpa [List.toByteArray_append, ByteArray.utf8DecodeChar?_utf8EncodeChar_append] using bytes

theorem flatMap_utf8EncodeChar_injective :
    Function.Injective (List.flatMap String.utf8EncodeChar) := by
  intro first second same
  induction first generalizing second with
  | nil =>
      cases second with
      | nil => rfl
      | cons d second =>
          rw [List.flatMap_nil, List.flatMap_cons] at same
          exact absurd (List.append_eq_nil_iff.mp same.symm).1 String.utf8EncodeChar_ne_nil
  | cons c first ih =>
      cases second with
      | nil =>
          rw [List.flatMap_nil, List.flatMap_cons] at same
          exact absurd (List.append_eq_nil_iff.mp same).1 String.utf8EncodeChar_ne_nil
      | cons d second =>
          rw [List.flatMap_cons, List.flatMap_cons] at same
          obtain rfl := utf8EncodeChar_append_inj same
          rw [ih (List.append_cancel_left same)]

theorem utf8Bytes_injective : Function.Injective utf8Bytes := by
  intro first second same
  exact String.toList_injective (flatMap_utf8EncodeChar_injective same)

def HasModifiedForm (c : Char) : Prop :=
  c.toNat = 0 ∨ 0x10000 ≤ c.toNat

theorem modifiedChar_eq_utf8EncodeChar {c : Char} (ordinary : ¬ HasModifiedForm c) :
    modifiedChar c = String.utf8EncodeChar c := by
  simp only [HasModifiedForm, not_or] at ordinary
  by_cases one : c.toNat < 0x80
  · rw [modifiedChar_one (by omega) one, utf8EncodeChar_one one]
  · by_cases two : c.toNat < 0x800
    · rw [modifiedChar_two (by omega) two, utf8EncodeChar_two (by omega) two]
    · rw [modifiedChar_three (by omega) (by omega), utf8EncodeChar_three (by omega) (by omega)]

/-- The first byte of a character's UTF-8 is never `C0`, and behind `ED` no byte from `A0` on
follows. -/
theorem modifiedChar_append_ne {c : Char} (modified : HasModifiedForm c) (d : Char)
    (rest others : List UInt8) :
    modifiedChar c ++ rest ≠ String.utf8EncodeChar d ++ others := by
  intro same
  have bounds := toNat_char_bounds d
  have limits := toNat_char_bounds c
  -- the lead bytes, and for three bytes the ones behind them, as numbers
  have leads := congrArg (fun bytes => bytes.head?.map UInt8.toNat) same
  have seconds := congrArg (fun bytes => bytes.tail.head?.map UInt8.toNat) same
  have form : modifiedChar c = [0xC0, 0x80] ∨ ∃ high < 1024, ∃ tail,
      modifiedChar c = threeBytes (0xD800 + high) ++ tail := by
    rcases modified with zero | large
    · left
      simp [modifiedChar, zero]
    · exact Or.inr ⟨(c.toNat - 0x10000) / 1024, by omega, _, modifiedChar_six large⟩
  by_cases one : d.toNat < 0x80
  · rw [utf8EncodeChar_one one] at leads seconds
    rcases form with pair | ⟨high, small, tail, three⟩
    · simp [pair, Binary.toNat_lowByte] at leads
      omega
    · simp [three, threeBytes, Binary.toNat_lowByte] at leads
      omega
  · by_cases two : d.toNat < 0x800
    · rw [utf8EncodeChar_two (by omega) two] at leads seconds
      rcases form with pair | ⟨high, small, tail, three⟩
      · simp [pair, Binary.toNat_lowByte] at leads
        omega
      · simp [three, threeBytes, Binary.toNat_lowByte] at leads
        omega
    · by_cases three : d.toNat < 0x10000
      · rw [utf8EncodeChar_three (by omega) three] at leads seconds
        rcases form with pair | ⟨high, small, tail, three⟩
        · simp [pair, threeBytes, Binary.toNat_lowByte] at leads
          omega
        · simp [three, threeBytes, Binary.toNat_lowByte] at leads seconds
          omega
      · rw [utf8EncodeChar_four (Nat.le_of_not_lt three)] at leads seconds
        rcases form with pair | ⟨high, small, tail, three⟩
        · simp [pair, Binary.toNat_lowByte] at leads
          omega
        · simp [three, threeBytes, Binary.toNat_lowByte] at leads
          omega

/-- Characters whose modified form is some characters' UTF-8 are those characters. -/
theorem eq_of_flatMap_modifiedChar_eq {written plain : List Char}
    (same : written.flatMap modifiedChar = plain.flatMap String.utf8EncodeChar) :
    written = plain := by
  induction written generalizing plain with
  | nil =>
      cases plain with
      | nil => rfl
      | cons d plain =>
          have size := congrArg List.length same
          have positive := d.utf8Size_pos
          simp only [List.flatMap_nil, List.length_nil, List.flatMap_cons, List.length_append,
            String.length_utf8EncodeChar] at size
          omega
  | cons c written ih =>
      cases plain with
      | nil =>
          have nonempty : modifiedChar c ≠ [] := modifiedChar_ne_nil c
          rw [List.flatMap_cons, List.flatMap_nil] at same
          exact absurd (List.append_eq_nil_iff.mp same).1 nonempty
      | cons d plain =>
          rw [List.flatMap_cons, List.flatMap_cons] at same
          by_cases modified : HasModifiedForm c
          · exact absurd same (modifiedChar_append_ne modified d _ _)
          · rw [modifiedChar_eq_utf8EncodeChar modified] at same
            have first := utf8EncodeChar_append_inj same
            rw [first] at same ⊢
            rw [ih (List.append_cancel_left same)]

/-- The plain reader takes the modified form of a text for that text, if for any. -/
theorem ofUtf8?_modifiedUtf8Bytes (text : String) :
    ofUtf8? (modifiedUtf8Bytes text) = none ∨ ofUtf8? (modifiedUtf8Bytes text) = some text := by
  rw [ofUtf8?, String.fromUTF8?]
  split
  · rename_i valid
    right
    obtain ⟨plain, form⟩ := id valid
    have bytes : modifiedUtf8Bytes text = plain.flatMap String.utf8EncodeChar := by
      have data := congrArg (fun bytes => bytes.data.toList) form
      simpa [List.utf8Encode] using data
    have same : text.toList = plain := eq_of_flatMap_modifiedChar_eq bytes
    rw [Option.some.injEq, ← String.toByteArray_inj, ← String.utf8Encode_toList (b := text), same]
    exact form
  · exact Or.inl rfl

theorem isContinuation_lowByte {bits : Nat} (small : bits < 64) :
    isContinuation (Binary.lowByte (0x80 + bits)) = true := by
  simp only [isContinuation, Bool.and_eq_true, decide_eq_true_eq, UInt8.le_iff_toNat_le,
    Binary.toNat_lowByte]
  change 0x80 ≤ _ ∧ _ ≤ 0xBF
  omega

theorem continuationBits_lowByte {bits : Nat} (small : bits < 64) :
    continuationBits (Binary.lowByte (0x80 + bits)) = bits := by
  rw [continuationBits, Binary.toNat_lowByte]
  omega

theorem modifiedStep?_of_lead_two {a b : UInt8} (low : 0xC2 ≤ a) (high : a ≤ 0xDF)
    (next : isContinuation b = true) (rest : List UInt8) :
    modifiedStep? a (b :: rest) = some (charOfTwo a b, 2) := by
  have nonzero : a ≠ 0 := by grind
  have beyond : ¬ a < 0x80 := by grind
  unfold modifiedStep?
  rw [if_neg nonzero, if_neg beyond]
  split
  · grind
  · grind
  · rename_i head tail unpaired unled same
    cases same
    simp [low, high, next]
  · grind

theorem modifiedStep?_of_lead_three {a b c : UInt8} (low : 0xE0 ≤ a) (high : a ≤ 0xEF)
    (second : isSecondOfThree a b = true) (third : isContinuation c = true) (rest : List UInt8) :
    modifiedStep? a (b :: c :: rest) = some (charOfThree a b c, 3) := by
  by_cases led : a = 0xED
  · subst led
    have range : (0x80 ≤ b && b ≤ 0x9F) = true := by simpa [isSecondOfThree] using second
    simp [modifiedStep?, third, range]
  · have nonzero : a ≠ 0 := by grind
    have beyond : ¬ a < 0x80 := by grind
    have longer : ¬ a ≤ 0xDF := by grind
    unfold modifiedStep?
    rw [if_neg nonzero, if_neg beyond]
    split
    · grind
    · grind
    · rename_i head tail unpaired unled same
      cases same
      simp [low, high, longer, third, second, led]
    · grind

theorem modifiedStep?_of_surrogates {b c e f : UInt8} (high : 0xA0 ≤ b ∧ b ≤ 0xAF)
    (third : isContinuation c = true) (low : 0xB0 ≤ e ∧ e ≤ 0xBF) (last : isContinuation f = true)
    (rest : List UInt8) :
    modifiedStep? 0xED (b :: c :: 0xED :: e :: f :: rest) = some (charOfSurrogates b c e f, 6) := by
  have unpaired : (0x80 ≤ b && b ≤ 0x9F) = false := by grind
  simp [modifiedStep?, third, unpaired, high, low, last]

theorem toNat_lowByte_of_lt {n : Nat} (small : n < 256) : (Binary.lowByte n).toNat = n := by
  rw [Binary.toNat_lowByte]
  omega

theorem le_lowByte {bound : UInt8} {n : Nat} (large : bound.toNat ≤ n) (small : n < 256) :
    bound ≤ Binary.lowByte n := by
  rw [UInt8.le_iff_toNat_le, toNat_lowByte_of_lt small]
  exact large

theorem lowByte_le {bound : UInt8} {n : Nat} (small : n ≤ bound.toNat) :
    Binary.lowByte n ≤ bound := by
  have limit := bound.toNat_lt
  rw [UInt8.le_iff_toNat_le, toNat_lowByte_of_lt (by omega)]
  exact small

theorem lowByte_ne {other : UInt8} {n : Nat} (small : n < 256) (unequal : n ≠ other.toNat) :
    Binary.lowByte n ≠ other := by
  intro same
  have value := congrArg UInt8.toNat same
  rw [toNat_lowByte_of_lt small] at value
  exact unequal value

theorem isSecondOfThree_threeBytes {unit : Nat} (large : 0x800 ≤ unit) (small : unit < 0x10000)
    (plain : unit < 0xD800 ∨ 0xDFFF < unit) :
    isSecondOfThree (Binary.lowByte (0xE0 + unit / 4096))
      (Binary.lowByte (0x80 + unit / 64 % 64)) = true := by
  rw [isSecondOfThree]
  split
  · rename_i lead
    have value := congrArg UInt8.toNat lead
    rw [toNat_lowByte_of_lt (by omega)] at value
    change _ = 0xE0 at value
    have low : 0xA0 ≤ Binary.lowByte (0x80 + unit / 64 % 64) :=
      le_lowByte (by change 0xA0 ≤ _; omega) (by omega)
    have high : Binary.lowByte (0x80 + unit / 64 % 64) ≤ 0xBF :=
      lowByte_le (by change _ ≤ 0xBF; omega)
    simp [low, high]
  · split
    · rename_i lead
      have value := congrArg UInt8.toNat lead
      rw [toNat_lowByte_of_lt (by omega)] at value
      change _ = 0xED at value
      have low : 0x80 ≤ Binary.lowByte (0x80 + unit / 64 % 64) :=
        le_lowByte (by change 0x80 ≤ _; omega) (by omega)
      have high : Binary.lowByte (0x80 + unit / 64 % 64) ≤ 0x9F :=
        lowByte_le (by change _ ≤ 0x9F; omega)
      simp [low, high]
    · exact isContinuation_lowByte (by omega)

theorem lowByte_surrogate {unit : Nat} (large : 0xD800 ≤ unit) (small : unit < 0xE000) :
    Binary.lowByte (0xE0 + unit / 4096) = 0xED := by
  have lead : 0xE0 + unit / 4096 = 0xED := by omega
  rw [lead]
  rfl

theorem charOfSurrogates_halves {high low : Nat} (highSmall : high < 1024) (lowSmall : low < 1024) :
    charOfSurrogates (Binary.lowByte (0x80 + (0xD800 + high) / 64 % 64))
      (Binary.lowByte (0x80 + (0xD800 + high) % 64))
      (Binary.lowByte (0x80 + (0xDC00 + low) / 64 % 64))
      (Binary.lowByte (0x80 + (0xDC00 + low) % 64)) =
    Char.ofNat (0x10000 + high * 1024 + low) := by
  have upper : (0x80 + (0xD800 + high) / 64 % 64) % 16 * 64 + (0xD800 + high) % 64 = high := by
    omega
  have lower : (0x80 + (0xDC00 + low) / 64 % 64) % 16 * 64 + (0xDC00 + low) % 64 = low := by omega
  rw [charOfSurrogates, toNat_lowByte_of_lt (by omega), toNat_lowByte_of_lt (by omega),
    continuationBits_lowByte (by omega), continuationBits_lowByte (by omega), upper, lower]

theorem charOfTwo_lowBytes {c : Char} (small : c.toNat < 0x800) :
    charOfTwo (Binary.lowByte (0xC0 + c.toNat / 64)) (Binary.lowByte (0x80 + c.toNat % 64)) =
      c := by
  have code : (0xC0 + c.toNat / 64) % 32 * 64 + c.toNat % 64 = c.toNat := by omega
  rw [charOfTwo, toNat_lowByte_of_lt (by omega), continuationBits_lowByte (by omega), code,
    Char.ofNat_toNat]

theorem charOfThree_lowBytes {c : Char} (small : c.toNat < 0x10000) :
    charOfThree (Binary.lowByte (0xE0 + c.toNat / 4096)) (Binary.lowByte (0x80 + c.toNat / 64 % 64))
      (Binary.lowByte (0x80 + c.toNat % 64)) = c := by
  have code : ((0xE0 + c.toNat / 4096) % 16 * 64 + c.toNat / 64 % 64) * 64 + c.toNat % 64 =
      c.toNat := by omega
  rw [charOfThree, toNat_lowByte_of_lt (by omega), continuationBits_lowByte (by omega),
    continuationBits_lowByte (by omega), code, Char.ofNat_toNat]

theorem modifiedStep?_modifiedChar (c : Char) (rest : List UInt8) :
    ∃ lead tail, modifiedChar c = lead :: tail ∧
      modifiedStep? lead (tail ++ rest) = some (c, tail.length + 1) := by
  have bounds := toNat_char_bounds c
  by_cases zero : c.toNat = 0
  · refine ⟨0xC0, [0x80], by simp [modifiedChar, zero], ?_⟩
    have same : Char.ofNat 0 = c := by rw [← zero, Char.ofNat_toNat]
    rw [← same]
    rfl
  by_cases one : c.toNat < 0x80
  · refine ⟨_, [], modifiedChar_one (Nat.pos_of_ne_zero zero) one, ?_⟩
    have nonzero : Binary.lowByte c.toNat ≠ 0 := lowByte_ne (by omega) zero
    have ascii : Binary.lowByte c.toNat < 0x80 := by
      rw [UInt8.lt_iff_toNat_lt, toNat_lowByte_of_lt (by omega)]
      exact one
    unfold modifiedStep?
    rw [if_neg nonzero, if_pos ascii, toNat_lowByte_of_lt (by omega), Char.ofNat_toNat]
    rfl
  by_cases two : c.toNat < 0x800
  · refine ⟨_, _, modifiedChar_two (Nat.le_of_not_lt one) two, ?_⟩
    have step := modifiedStep?_of_lead_two (a := Binary.lowByte (0xC0 + c.toNat / 64))
      (le_lowByte (by change 0xC2 ≤ _; omega) (by omega)) (lowByte_le (by change _ ≤ 0xDF; omega))
      (isContinuation_lowByte (by omega : c.toNat % 64 < 64)) rest
    rw [charOfTwo_lowBytes two] at step
    exact step
  by_cases three : c.toNat < 0x10000
  · refine ⟨_, _, modifiedChar_three (Nat.le_of_not_lt two) three, ?_⟩
    have step := modifiedStep?_of_lead_three (a := Binary.lowByte (0xE0 + c.toNat / 4096))
      (le_lowByte (by change 0xE0 ≤ _; omega) (by omega)) (lowByte_le (by change _ ≤ 0xEF; omega))
      (isSecondOfThree_threeBytes (Nat.le_of_not_lt two) three (by omega))
      (isContinuation_lowByte (by omega : c.toNat % 64 < 64)) rest
    rw [charOfThree_lowBytes three] at step
    exact step
  · have large : 0x10000 ≤ c.toNat := Nat.le_of_not_lt three
    obtain ⟨high, low, highSmall, lowSmall, code, form⟩ : ∃ high low, high < 1024 ∧ low < 1024 ∧
        0x10000 + high * 1024 + low = c.toNat ∧
        modifiedChar c = threeBytes (0xD800 + high) ++ threeBytes (0xDC00 + low) :=
      ⟨_, _, by omega, by omega, by omega, modifiedChar_six large⟩
    refine ⟨_, _, form, ?_⟩
    have step := modifiedStep?_of_surrogates
      (b := Binary.lowByte (0x80 + (0xD800 + high) / 64 % 64))
      (e := Binary.lowByte (0x80 + (0xDC00 + low) / 64 % 64))
      ⟨le_lowByte (by change 0xA0 ≤ _; omega) (by omega), lowByte_le (by change _ ≤ 0xAF; omega)⟩
      (isContinuation_lowByte (by omega : (0xD800 + high) % 64 < 64))
      ⟨le_lowByte (by change 0xB0 ≤ _; omega) (by omega), lowByte_le (by change _ ≤ 0xBF; omega)⟩
      (isContinuation_lowByte (by omega : (0xDC00 + low) % 64 < 64)) rest
    rw [charOfSurrogates_halves highSmall lowSmall, code, Char.ofNat_toNat] at step
    simp only [threeBytes, lowByte_surrogate (by omega : 0xD800 ≤ 0xD800 + high) (by omega),
      lowByte_surrogate (by omega : 0xD800 ≤ 0xDC00 + low) (by omega)]
    exact step

theorem modifiedCharsFrom?_skip (skipped rest : List UInt8) :
    modifiedCharsFrom? skipped.length (skipped ++ rest) = modifiedCharsFrom? 0 rest := by
  induction skipped with
  | nil => rfl
  | cons byte skipped ih =>
      rw [List.cons_append, List.length_cons, modifiedCharsFrom?]
      exact ih

theorem modifiedCharsFrom?_flatMap (chars : List Char) :
    modifiedCharsFrom? 0 (chars.flatMap modifiedChar) = some chars := by
  induction chars with
  | nil => rfl
  | cons c chars ih =>
      obtain ⟨lead, tail, form, step⟩ := modifiedStep?_modifiedChar c (chars.flatMap modifiedChar)
      rw [List.flatMap_cons, form, List.cons_append, modifiedCharsFrom?, step]
      simp only [Nat.add_sub_cancel]
      rw [modifiedCharsFrom?_skip, ih]
      rfl

/-! ### The form of a text -/

/-- The reader inverts the writer on every text. -/
theorem ofModifiedUtf8?_modifiedUtf8Bytes (text : String) :
    ofModifiedUtf8? (modifiedUtf8Bytes text) = some text := by
  rw [ofModifiedUtf8?]
  rcases ofUtf8?_modifiedUtf8Bytes text with refused | taken
  · rw [refused, modifiedUtf8Bytes, modifiedCharsFrom?_flatMap]
    simp only [Option.map_some, String.ofList_toList]
  · rw [taken]

theorem zero_ne_lowByte {n : Nat} (positive : 0 < n) (small : n < 256) : 0 ≠ Binary.lowByte n :=
  (@lowByte_ne 0 n small (Nat.pos_iff_ne_zero.mp positive)).symm

theorem zero_not_mem_threeBytes {unit : Nat} (small : unit < 0x10000) : 0 ∉ threeBytes unit := by
  rw [threeBytes]
  simp only [List.mem_cons, List.not_mem_nil, or_false, not_or]
  refine ⟨?_, ?_, ?_⟩
  · exact zero_ne_lowByte (by omega) (by omega)
  · exact zero_ne_lowByte (by omega) (by omega)
  · exact zero_ne_lowByte (by omega) (by omega)

theorem zero_not_mem_modifiedChar (c : Char) : 0 ∉ modifiedChar c := by
  have bounds := toNat_char_bounds c
  by_cases zero : c.toNat = 0
  · simp [modifiedChar, zero]
  by_cases one : c.toNat < 0x80
  · rw [modifiedChar_one (Nat.pos_of_ne_zero zero) one, List.mem_singleton]
    exact zero_ne_lowByte (Nat.pos_of_ne_zero zero) (by omega)
  by_cases two : c.toNat < 0x800
  · rw [modifiedChar_two (Nat.le_of_not_lt one) two]
    simp only [List.mem_cons, List.not_mem_nil, or_false, not_or]
    exact ⟨zero_ne_lowByte (by omega) (by omega), zero_ne_lowByte (by omega) (by omega)⟩
  by_cases three : c.toNat < 0x10000
  · rw [modifiedChar_three (Nat.le_of_not_lt two) three]
    exact zero_not_mem_threeBytes three
  · rw [modifiedChar_six (Nat.le_of_not_lt three), List.mem_append, not_or]
    exact ⟨zero_not_mem_threeBytes (by omega), zero_not_mem_threeBytes (by omega)⟩

theorem zero_not_mem_modifiedUtf8Bytes (text : String) : 0 ∉ modifiedUtf8Bytes text := by
  rw [modifiedUtf8Bytes, List.mem_flatMap]
  rintro ⟨c, _, zero⟩
  exact zero_not_mem_modifiedChar c zero

end DexMembers.Text
