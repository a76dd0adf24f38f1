import DexMembers.Member.SyntheticNumber
import DexMembers.Proofs.Guarded.Basic
import DexMembers.Proofs.Text.AsciiByte

/-!
# Counters left out without faults

The counter in the name of a lambda body is searched for in the bytes of the name, and the name is
cut at the positions found.  They lie between characters, for a dollar sign and a digit are a byte
each.
-/

set_option autoImplicit false

namespace DexMembers

open String (utf8Len)
open Text (dollarByte isDigitByte)

namespace Guarded

variable {ε : Type}

def cut : (length : Nat) → List Char → Guarded ε (List Char × List Char)
  | 0, text => pure ([], text)
  | length + 1, [] => stop (.character (length + 1))
  | length + 1, c :: rest =>
      if c.utf8Size ≤ length + 1 then do
        let (before, after) ← cut (length + 1 - c.utf8Size) rest
        return (c :: before, after)
      else stop (.character (length + 1))

/-- Where the first counter starts that another dollar sign follows, and where it ends; `rest` are
the bytes from `start` on. -/
def numberSegment (bytes : Array UInt8) :
    (start : Nat) → (rest : List UInt8) → Guarded ε (Option (Nat × Nat))
  | _, [] => pure none
  | start, byte :: rest =>
      if byte = dollarByte then do
        let behind ← sum start 1
        let tail ← slice bytes behind bytes.size
        let digits := (tail.toList.takeWhile isDigitByte).length
        let stop ← sum behind digits
        if 0 < digits ∧ bytes[stop]? = some dollarByte then return some (start, stop)
        else numberSegment bytes (start + 1) rest
      else numberSegment bytes (start + 1) rest

def withoutNumber (name : String) : Guarded ε String :=
  if SyntheticNumber.lambdaMark.isPrefixOf name.toList then do
    let bytes := Text.utf8Bytes name
    let found ← numberSegment bytes.toArray 0 bytes
    match found with
    | some (start, stop) => do
        let (before, _) ← cut start name.toList
        let (_, after) ← cut stop name.toList
        return String.ofList (before ++ after)
    | none => return name
  else return String.ofList (SyntheticNumber.dropLast name.toList)

theorem cut_append (before after : List Char) :
    (cut (utf8Len before) (before ++ after) : Guarded ε (List Char × List Char)) =
      pure (before, after) := by
  induction before with
  | nil => rw [String.utf8Len_nil, List.nil_append, cut.eq_def]
  | cons c before ih =>
      have positive := c.utf8Size_pos
      obtain ⟨length, total⟩ : ∃ length, utf8Len (c :: before) = length + 1 :=
        ⟨utf8Len (c :: before) - 1, by rw [String.utf8Len_cons]; omega⟩
      have inside : c.utf8Size ≤ length + 1 := by
        rw [← total, String.utf8Len_cons]
        omega
      have left : length + 1 - c.utf8Size = utf8Len before := by
        rw [← total, String.utf8Len_cons, Nat.add_sub_cancel]
      rw [total, List.cons_append, cut, if_pos inside, left, ih, pure_bind]

section Search

variable {before rest : List Char}

theorem numberSegment_pass (all : Array UInt8) (start : Nat) {bytes : List UInt8}
    (plain : ∀ byte ∈ bytes, byte ≠ dollarByte) (more : List UInt8) :
    (numberSegment all start (bytes ++ more) : Guarded ε (Option (Nat × Nat))) =
      numberSegment all (start + bytes.length) more := by
  induction bytes generalizing start with
  | nil => rfl
  | cons byte bytes ih =>
      rw [List.forall_mem_cons] at plain
      rw [List.cons_append, numberSegment, if_neg plain.1, ih (start + 1) plain.2, List.length_cons,
        Nat.add_assoc, Nat.add_comm 1]

theorem numberSegment_dollarByte (first second : List UInt8)
    (short : (first ++ dollarByte :: second).length < 2 ^ 63) :
    (numberSegment (first ++ dollarByte :: second).toArray first.length (dollarByte :: second) :
      Guarded ε (Option (Nat × Nat))) =
      if 0 < (second.takeWhile isDigitByte).length ∧
          second[(second.takeWhile isDigitByte).length]? = some dollarByte then
        pure (some (first.length, first.length + 1 + (second.takeWhile isDigitByte).length))
      else numberSegment (first ++ dollarByte :: second).toArray (first.length + 1) second := by
  rw [List.length_append, List.length_cons] at short
  have digits := (List.takeWhile_prefix (l := second) isDigitByte).length_le
  have size : (first ++ dollarByte :: second).toArray.size = first.length + 1 + second.length := by
    rw [List.size_toArray, List.length_append, List.length_cons]
    omega
  have tail : ((first ++ dollarByte :: second).toArray.extract (first.length + 1)).toList =
      second := by
    have front : (first ++ dollarByte :: second).drop (first.length + 1) = second := by
      rw [List.append_cons]
      exact List.drop_left' List.length_append
    rw [size, Array.toList_extract, List.extract_eq_take_drop, front,
      List.take_of_length_le (by omega)]
  have behind : (first ++ dollarByte :: second).toArray[first.length + 1 +
      (second.takeWhile isDigitByte).length]? = second[(second.takeWhile isDigitByte).length]? := by
    rw [List.getElem?_toArray, List.getElem?_append_right (by omega), Nat.add_assoc,
      Nat.add_sub_cancel_left, Nat.add_comm 1, List.getElem?_cons_succ]
  rw [numberSegment, if_pos rfl, sum_of_lt (by omega), pure_bind,
    slice_of_le (by omega) (Nat.le_refl _), pure_bind]
  dsimp only
  rw [tail, sum_of_lt (by omega), pure_bind, behind]

/-! ### From bytes to characters -/

/-- Whether the text behind a dollar sign makes a counter of it that another one follows. -/
def EndsNumber (text : List Char) : Prop :=
  text.takeWhile Char.isDigit ≠ [] ∧ (text.dropWhile Char.isDigit).head? = some '$'

instance (text : List Char) : Decidable (EndsNumber text) :=
  inferInstanceAs (Decidable (_ ∧ _))

theorem utf8Len_takeWhile_isDigit (text : List Char) :
    utf8Len (text.takeWhile Char.isDigit) = (text.takeWhile Char.isDigit).length := by
  apply Text.utf8Len_eq_length
  intro c member
  have digit := List.all_eq_true.mp List.all_takeWhile c member
  exact Text.utf8Size_of_lt (Text.toNat_lt_of_isDigit digit)

theorem getElem?_behind_digits (text : List Char) :
    (text.flatMap String.utf8EncodeChar)[(text.takeWhile Char.isDigit).length]? = some dollarByte ↔
      (text.dropWhile Char.isDigit).head? = some '$' := by
  have length : ((text.takeWhile Char.isDigit).flatMap String.utf8EncodeChar).length =
      (text.takeWhile Char.isDigit).length := by
    rw [Text.length_flatMap_utf8EncodeChar, utf8Len_takeWhile_isDigit]
  have parts : text.flatMap String.utf8EncodeChar =
      (text.takeWhile Char.isDigit).flatMap String.utf8EncodeChar ++
        (text.dropWhile Char.isDigit).flatMap String.utf8EncodeChar := by
    rw [← List.flatMap_append, List.takeWhile_append_dropWhile]
  rw [parts, List.getElem?_append_right (Nat.le_of_eq length), length, Nat.sub_self,
    ← List.head?_eq_getElem?, Text.head?_eq_dollarByte_iff]

theorem numberSegment_cons (before : List Char) (c : Char) (rest : List Char)
    (short : utf8Len (before ++ c :: rest) < 2 ^ 63) :
    (numberSegment ((before ++ c :: rest).flatMap String.utf8EncodeChar).toArray (utf8Len before)
        ((c :: rest).flatMap String.utf8EncodeChar) : Guarded ε (Option (Nat × Nat))) =
      if c = '$' ∧ EndsNumber rest then
        pure (some (utf8Len before, utf8Len (before ++ c :: rest.takeWhile Char.isDigit)))
      else numberSegment ((before ++ c :: rest).flatMap String.utf8EncodeChar).toArray
        (utf8Len (before ++ [c])) (rest.flatMap String.utf8EncodeChar) := by
  have next : utf8Len (before ++ [c]) = utf8Len before + (String.utf8EncodeChar c).length := by
    rw [String.utf8Len_append, String.length_utf8EncodeChar, String.utf8Len_cons,
      String.utf8Len_nil, Nat.zero_add]
  by_cases dollar : c = '$'
  · subst dollar
    have bytes : ('$' :: rest).flatMap String.utf8EncodeChar =
        dollarByte :: rest.flatMap String.utf8EncodeChar := rfl
    have start : (before.flatMap String.utf8EncodeChar).length = utf8Len before :=
      Text.length_flatMap_utf8EncodeChar before
    have length : (before.flatMap String.utf8EncodeChar ++
        dollarByte :: rest.flatMap String.utf8EncodeChar).length < 2 ^ 63 := by
      rw [← bytes, ← List.flatMap_append, Text.length_flatMap_utf8EncodeChar]
      exact short
    have counted : 0 < (rest.takeWhile Char.isDigit).length ∧
        (rest.flatMap String.utf8EncodeChar)[(rest.takeWhile Char.isDigit).length]? =
          some dollarByte ↔ '$' = '$' ∧ EndsNumber rest := by
      rw [getElem?_behind_digits, List.length_pos_iff, EndsNumber]
      exact (and_iff_right rfl).symm
    have stop : utf8Len (before ++ '$' :: rest.takeWhile Char.isDigit) =
        utf8Len before + 1 + (rest.takeWhile Char.isDigit).length := by
      rw [String.utf8Len_append, String.utf8Len_cons, utf8Len_takeWhile_isDigit, Nat.add_assoc,
        Nat.add_comm 1]
      rfl
    have found := numberSegment_dollarByte (ε := ε) _ _ length
    rw [start, Text.length_takeWhile_isDigitByte] at found
    rw [List.flatMap_append, bytes, found, stop, next]
    simp only [counted]
    rfl
  · have passed := numberSegment_pass (ε := ε)
      ((before ++ c :: rest).flatMap String.utf8EncodeChar).toArray (utf8Len before)
      (fun byte => Text.ne_dollarByte_of_mem dollar) (rest.flatMap String.utf8EncodeChar)
    rw [if_neg fun found => dollar found.1, List.flatMap_cons, passed, next]

/-- The search finds the counter that is left out, and nothing if none is. -/
theorem numberSegment_finds (before rest : List Char) (short : utf8Len (before ++ rest) < 2 ^ 63) :
    ((numberSegment ((before ++ rest).flatMap String.utf8EncodeChar).toArray (utf8Len before)
        (rest.flatMap String.utf8EncodeChar) : Guarded ε (Option (Nat × Nat))) = pure none ∧
      SyntheticNumber.dropInner rest = rest) ∨
    ∃ kept number after, rest = kept ++ number ++ after ∧
      (numberSegment ((before ++ rest).flatMap String.utf8EncodeChar).toArray (utf8Len before)
        (rest.flatMap String.utf8EncodeChar) : Guarded ε (Option (Nat × Nat))) =
          pure (some (utf8Len (before ++ kept), utf8Len (before ++ (kept ++ number)))) ∧
      SyntheticNumber.dropInner rest = kept ++ after := by
  induction rest generalizing before with
  | nil => exact Or.inl ⟨rfl, rfl⟩
  | cons c rest ih =>
      rw [numberSegment_cons before c rest short, SyntheticNumber.dropInner]
      by_cases counted : c = '$' ∧ EndsNumber rest
      · right
        refine ⟨[], c :: rest.takeWhile Char.isDigit, rest.dropWhile Char.isDigit, ?_, ?_, ?_⟩
        · rw [List.nil_append, List.cons_append, List.takeWhile_append_dropWhile]
        · rw [if_pos counted, List.append_nil, List.nil_append]
        · exact if_pos counted
      · have shifted : before ++ c :: rest = (before ++ [c]) ++ rest := List.append_cons ..
        have further := ih (before ++ [c]) (shifted ▸ short)
        have kept : SyntheticNumber.dropInner (c :: rest) = c :: SyntheticNumber.dropInner rest :=
          if_neg counted
        rw [SyntheticNumber.dropInner] at kept
        rw [if_neg counted, shifted]
        rcases further with ⟨nowhere, same⟩ | ⟨front, number, after, parts, found, dropped⟩
        · left
          exact ⟨nowhere, kept.trans (congrArg (c :: ·) same)⟩
        · right
          refine ⟨c :: front, number, after, ?_, ?_, ?_⟩
          · rw [parts, List.cons_append, List.cons_append]
          · rw [found, List.cons_append, ← List.append_cons, ← List.append_cons]
          · exact kept.trans (congrArg (c :: ·) dropped)

end Search

theorem withoutNumber_eq {name : String} (short : name.utf8ByteSize < 2 ^ 63) :
    (withoutNumber name : Guarded ε String) =
      pure (String.ofList (SyntheticNumber.dropFromMethod name.toList)) := by
  rw [withoutNumber, SyntheticNumber.dropFromMethod]
  split
  · rw [← String.utf8Len_toList] at short
    rcases numberSegment_finds (ε := ε) [] name.toList short with
      ⟨nowhere, same⟩ | ⟨kept, number, after, parts, found, dropped⟩
    · rw [List.nil_append, String.utf8Len_nil] at nowhere
      dsimp only
      rw [Text.utf8Bytes, nowhere, same, String.ofList_toList, pure_bind]
    · rw [List.nil_append, List.nil_append, List.nil_append, String.utf8Len_nil] at found
      have before := cut_append (ε := ε) kept (number ++ after)
      have behind := cut_append (ε := ε) (kept ++ number) after
      rw [← List.append_assoc, ← parts] at before
      rw [← parts] at behind
      dsimp only
      rw [Text.utf8Bytes, found, dropped, pure_bind]
      dsimp only
      rw [before, pure_bind]
      dsimp only
      rw [behind]
      rfl
  · rfl

end Guarded

end DexMembers
