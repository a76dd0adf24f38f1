import DexMembers.Proofs.Text.ModifiedUtf8
import DexMembers.Proofs.Text.Utf8Length

/-!
# ASCII characters within UTF-8

A byte below 0x80 stands for the ASCII character of that code, and for nothing else.  So a search
for such a character, or for a run of them, may as well be made in the bytes.
-/

set_option autoImplicit false

namespace DexMembers.Text

theorem le_of_mem_utf8EncodeChar {c : Char} (large : 0x80 ≤ c.toNat) {byte : UInt8}
    (member : byte ∈ String.utf8EncodeChar c) : 0x80 ≤ byte.toNat := by
  have high : ∀ n, 0x80 ≤ n → n < 256 → 0x80 ≤ (UInt8.ofNat n).toNat := fun n large small =>
    large.trans_eq (toNat_lowByte_of_lt small).symm
  change 0x80 ≤ c.val.toNat at large
  have beyond : ¬ c.val.toNat ≤ 0x7F := by omega
  simp only [String.utf8EncodeChar, beyond, if_false] at member
  split at member
  · simp only [List.mem_cons, List.not_mem_nil, or_false] at member
    rcases member with rfl | rfl <;> exact high _ (by omega) (by omega)
  · split at member
    · simp only [List.mem_cons, List.not_mem_nil, or_false] at member
      rcases member with rfl | rfl | rfl <;> exact high _ (by omega) (by omega)
    · simp only [List.mem_cons, List.not_mem_nil, or_false] at member
      rcases member with rfl | rfl | rfl | rfl <;> exact high _ (by omega) (by omega)

theorem exists_utf8EncodeChar_of_le {c : Char} (large : 0x80 ≤ c.toNat) :
    ∃ first others, String.utf8EncodeChar c = first :: others ∧ 0x80 ≤ first.toNat := by
  cases bytes : String.utf8EncodeChar c with
  | nil =>
      have length := String.length_utf8EncodeChar c
      rw [bytes] at length
      exact absurd length (Nat.ne_of_lt c.utf8Size_pos)
  | cons first others =>
      have member : first ∈ String.utf8EncodeChar c := bytes ▸ List.mem_cons_self
      exact ⟨first, others, rfl, le_of_mem_utf8EncodeChar large member⟩

theorem lowByte_eq_lowByte_iff {c ascii : Char} (small : c.toNat < 0x80)
    (asciiSmall : ascii.toNat < 0x80) :
    Binary.lowByte c.toNat = Binary.lowByte ascii.toNat ↔ c = ascii := by
  rw [← UInt8.toNat_inj, toNat_lowByte_of_lt (by omega), toNat_lowByte_of_lt (by omega),
    Char.toNat_inj]

theorem lowByte_mem_utf8EncodeChar_iff {ascii : Char} (small : ascii.toNat < 0x80) (c : Char) :
    Binary.lowByte ascii.toNat ∈ String.utf8EncodeChar c ↔ c = ascii := by
  by_cases inAscii : c.toNat < 0x80
  · rw [utf8EncodeChar_one inAscii, List.mem_singleton, eq_comm, lowByte_eq_lowByte_iff inAscii small]
  · constructor
    · intro member
      have large := le_of_mem_utf8EncodeChar (Nat.le_of_not_lt inAscii) member
      rw [toNat_lowByte_of_lt (by omega)] at large
      exact absurd small (Nat.not_lt_of_le large)
    · rintro rfl
      exact absurd small inAscii

theorem lowByte_mem_utf8Bytes_iff {ascii : Char} (small : ascii.toNat < 0x80) (text : String) :
    Binary.lowByte ascii.toNat ∈ utf8Bytes text ↔ ascii ∈ text.toList := by
  rw [utf8Bytes, List.mem_flatMap]
  simp only [lowByte_mem_utf8EncodeChar_iff small, exists_eq_right]

/-! ### Dollar signs -/

def dollarByte : UInt8 := 0x24

theorem lowByte_eq_dollarByte_iff {c : Char} (small : c.toNat < 0x80) :
    Binary.lowByte c.toNat = dollarByte ↔ c = '$' :=
  @lowByte_eq_lowByte_iff c '$' small (by decide)

theorem ne_dollarByte_of_mem {c : Char} (other : c ≠ '$') {byte : UInt8}
    (member : byte ∈ String.utf8EncodeChar c) : byte ≠ dollarByte := by
  rintro rfl
  exact other ((lowByte_mem_utf8EncodeChar_iff (by decide) c).mp member)

theorem head?_eq_dollarByte_iff (text : List Char) :
    (text.flatMap String.utf8EncodeChar).head? = some dollarByte ↔ text.head? = some '$' := by
  cases text with
  | nil => simp
  | cons c text =>
      rw [List.flatMap_cons, List.head?_cons, Option.some_inj]
      by_cases small : c.toNat < 0x80
      · rw [utf8EncodeChar_one small, List.cons_append, List.head?_cons, Option.some_inj,
          lowByte_eq_dollarByte_iff small]
      · obtain ⟨first, others, bytes, large⟩ := exists_utf8EncodeChar_of_le (Nat.le_of_not_lt small)
        rw [bytes, List.cons_append, List.head?_cons, Option.some_inj]
        constructor
        · rintro rfl
          exact absurd large (by decide)
        · rintro rfl
          exact absurd (by decide) small

/-! ### Runs of digits -/

def isDigitByte (byte : UInt8) : Bool :=
  0x30 ≤ byte && byte ≤ 0x39

theorem isDigitByte_lowByte {c : Char} (small : c.toNat < 0x80) :
    isDigitByte (Binary.lowByte c.toNat) = c.isDigit := by
  rw [Bool.eq_iff_iff, isDigitByte, Bool.and_eq_true, decide_eq_true_eq, decide_eq_true_eq,
    UInt8.le_iff_toNat_le, UInt8.le_iff_toNat_le, toNat_lowByte_of_lt (by omega), Char.isDigit]
  simp only [Bool.and_eq_true, decide_eq_true_eq, UInt32.le_iff_toNat_le]
  exact Iff.rfl

theorem toNat_lt_of_isDigit {c : Char} (digit : c.isDigit = true) : c.toNat < 0x80 := by
  simp only [Char.isDigit, Bool.and_eq_true, decide_eq_true_eq, UInt32.le_iff_toNat_le] at digit
  exact Nat.lt_of_le_of_lt digit.2 (by decide)

theorem length_takeWhile_isDigitByte (text : List Char) :
    ((text.flatMap String.utf8EncodeChar).takeWhile isDigitByte).length =
      (text.takeWhile Char.isDigit).length := by
  induction text with
  | nil => rfl
  | cons c text ih =>
      rw [List.flatMap_cons]
      by_cases small : c.toNat < 0x80
      · rw [utf8EncodeChar_one small, List.cons_append, List.nil_append, List.takeWhile_cons,
          List.takeWhile_cons, isDigitByte_lowByte small]
        cases c.isDigit with
        | false => rfl
        | true => exact congrArg (· + 1) ih
      · obtain ⟨first, others, bytes, large⟩ := exists_utf8EncodeChar_of_le (Nat.le_of_not_lt small)
        have noDigit : isDigitByte first = false := by
          rw [isDigitByte, Bool.and_eq_false_iff]
          right
          rw [decide_eq_false_iff_not, UInt8.le_iff_toNat_le]
          exact Nat.not_le_of_lt (Nat.lt_of_lt_of_le (by decide) large)
        have noDigitChar : ¬ c.isDigit = true := fun digit => small (toNat_lt_of_isDigit digit)
        rw [bytes, List.cons_append, List.takeWhile_cons_of_neg (by simp [noDigit]),
          List.takeWhile_cons_of_neg noDigitChar]
        rfl

end DexMembers.Text
