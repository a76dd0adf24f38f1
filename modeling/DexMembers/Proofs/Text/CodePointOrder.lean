import DexMembers.Proofs.Text.ModifiedUtf8
import Mathlib.Algebra.Group.Nat.Defs
import Mathlib.Data.List.Lex

/-!
# The order of UTF-8 is that of code points

Of two characters, the one with the smaller number has the smaller bytes: its lead byte is smaller,
or the two have one lead byte and the first continuation byte that differs is smaller.  So texts
compare by their bytes as they do by the numbers of their characters, those beyond U+FFFF included.
-/

set_option autoImplicit false

namespace DexMembers.Text

def codePoints (text : String) : List Nat :=
  text.toList.map Char.toNat

/-! ### Sequences of bytes -/

/-- The first bytes come before the second ones, whatever follows either. -/
def Precedes (first second : List UInt8) : Prop :=
  ∀ rest others, first ++ rest < second ++ others

theorem precedes_cons {a b : Nat} (before : a < b) (small : b < 256) (first second : List UInt8) :
    Precedes (Binary.lowByte a :: first) (Binary.lowByte b :: second) := by
  intro rest others
  have lead : Binary.lowByte a < Binary.lowByte b := by
    rw [UInt8.lt_iff_toNat_lt, Binary.toNat_lowByte, Binary.toNat_lowByte]
    omega
  exact List.cons_lt_cons_iff.mpr (Or.inl lead)

/-- A lead byte with its mark, and `extra` bytes behind it of six bits each. -/
def sequence (mark : Nat) : (extra : Nat) → (code : Nat) → List UInt8
  | 0, code => [Binary.lowByte (mark + code)]
  | extra + 1, code => sequence mark extra (code / 64) ++ [Binary.lowByte (0x80 + code % 64)]

theorem sequence_eq_cons (mark extra code : Nat) :
    ∃ others, sequence mark extra code = Binary.lowByte (mark + code / 64 ^ extra) :: others := by
  induction extra generalizing code with
  | zero => exact ⟨[], by rw [sequence, Nat.pow_zero, Nat.div_one]⟩
  | succ extra ih =>
      obtain ⟨others, lead⟩ := ih (code / 64)
      refine ⟨others ++ [Binary.lowByte (0x80 + code % 64)], ?_⟩
      rw [sequence, lead, Nat.div_div_eq_div_mul, Nat.pow_succ, Nat.mul_comm 64, List.cons_append]

/-- The last byte decides between two numbers when those before it do not. -/
theorem precedes_sequence {mark extra a b : Nat} (before : a < b)
    (small : mark + b / 64 ^ extra < 256) :
    Precedes (sequence mark extra a) (sequence mark extra b) := by
  induction extra generalizing a b with
  | zero =>
      rw [Nat.pow_zero, Nat.div_one] at small
      exact precedes_cons (Nat.add_lt_add_left before mark) small [] []
  | succ extra ih =>
      intro rest others
      rw [sequence, sequence, List.append_assoc, List.append_assoc]
      by_cases higher : a / 64 < b / 64
      · rw [Nat.pow_succ, Nat.mul_comm, ← Nat.div_div_eq_div_mul] at small
        exact ih higher small _ _
      · have same : a / 64 = b / 64 := by omega
        rw [same]
        exact List.append_left_lt (precedes_cons (by omega) (by omega) [] [] rest others)

/-! ### Characters -/

def sequenceForm (code : Nat) : Nat × Nat :=
  if code < 0x80 then (0, 0)
  else if code < 0x800 then (0xC0, 1)
  else if code < 0x10000 then (0xE0, 2)
  else (0xF0, 3)

theorem utf8EncodeChar_eq_sequence (c : Char) :
    String.utf8EncodeChar c =
      sequence (sequenceForm c.toNat).1 (sequenceForm c.toNat).2 c.toNat := by
  by_cases one : c.toNat < 0x80
  · simp [sequenceForm, sequence, one, utf8EncodeChar_one one]
  · by_cases two : c.toNat < 0x800
    · simp [sequenceForm, sequence, one, two, utf8EncodeChar_two (Nat.le_of_not_lt one) two]
    · by_cases three : c.toNat < 0x10000
      · simp [sequenceForm, sequence, one, two, three, threeBytes, Nat.div_div_eq_div_mul,
          utf8EncodeChar_three (Nat.le_of_not_lt two) three]
      · simp [sequenceForm, sequence, one, two, three, Nat.div_div_eq_div_mul,
          utf8EncodeChar_four (Nat.le_of_not_lt three)]

def leadNumber (code : Nat) : Nat :=
  (sequenceForm code).1 + code / 64 ^ (sequenceForm code).2

theorem leadNumber_lt {code : Nat} (valid : code < 0x110000) : leadNumber code < 256 := by
  simp only [leadNumber, sequenceForm]
  split_ifs <;> dsimp only <;> omega

theorem leadNumber_lt_of_form_ne {a b : Nat} (before : a < b)
    (other : sequenceForm a ≠ sequenceForm b) : leadNumber a < leadNumber b := by
  simp only [leadNumber, sequenceForm] at *
  split_ifs at * <;> simp at other ⊢ <;> omega

theorem precedes_utf8EncodeChar {c d : Char} (before : c.toNat < d.toNat) :
    Precedes (String.utf8EncodeChar c) (String.utf8EncodeChar d) := by
  have valid : d.toNat < 0x110000 := by
    have bounds := toNat_char_bounds d
    omega
  rw [utf8EncodeChar_eq_sequence, utf8EncodeChar_eq_sequence]
  by_cases same : sequenceForm c.toNat = sequenceForm d.toNat
  · rw [same]
    exact precedes_sequence before (leadNumber_lt valid)
  · obtain ⟨others, first⟩ := sequence_eq_cons (sequenceForm c.toNat).1 (sequenceForm c.toNat).2
      c.toNat
    obtain ⟨more, second⟩ := sequence_eq_cons (sequenceForm d.toNat).1 (sequenceForm d.toNat).2
      d.toNat
    rw [first, second]
    exact precedes_cons (leadNumber_lt_of_form_ne before same) (leadNumber_lt valid) others more

/-! ### Texts -/

theorem flatMap_utf8EncodeChar_lt {first second : List Char}
    (before : first.map Char.toNat < second.map Char.toNat) :
    first.flatMap String.utf8EncodeChar < second.flatMap String.utf8EncodeChar := by
  induction first generalizing second with
  | nil =>
      cases second with
      | nil => exact absurd before (List.not_lt_nil _)
      | cons d second =>
          obtain ⟨lead, others⟩ := sequence_eq_cons (sequenceForm d.toNat).1
            (sequenceForm d.toNat).2 d.toNat
          rw [List.flatMap_nil, List.flatMap_cons, utf8EncodeChar_eq_sequence, others]
          exact List.nil_lt_cons _ _
  | cons c first ih =>
      cases second with
      | nil => exact absurd before (List.not_lt_nil _)
      | cons d second =>
          rw [List.map_cons, List.map_cons, List.cons_lt_cons_iff] at before
          rw [List.flatMap_cons, List.flatMap_cons]
          rcases before with earlier | ⟨same, behind⟩
          · exact precedes_utf8EncodeChar earlier _ _
          · obtain rfl := Char.toNat_inj.mp same
            exact List.append_left_lt (ih behind)

theorem codePoints_injective : Function.Injective codePoints := by
  intro first second same
  have each : Function.Injective Char.toNat := fun _ _ => Char.toNat_inj.mp
  exact String.toList_injective (each.list_map same)

/-- Texts compare by their bytes as by the numbers of their characters. -/
theorem utf8Bytes_le_iff (first second : String) :
    utf8Bytes first ≤ utf8Bytes second ↔ codePoints first ≤ codePoints second := by
  constructor
  · intro before
    by_contra after
    exact before (flatMap_utf8EncodeChar_lt (not_le.mp after))
  · intro before
    rcases before.lt_or_eq with earlier | same
    · exact List.le_of_lt (flatMap_utf8EncodeChar_lt earlier)
    · rw [codePoints_injective same]
      exact List.le_refl _

end DexMembers.Text
