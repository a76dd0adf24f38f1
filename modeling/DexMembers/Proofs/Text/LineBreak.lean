import DexMembers.Proofs.Member.LineFeed
import DexMembers.Text.Quoted

/-!
# Texts on one line

A character that starts a new line has no shape of its own, so a quoted text writes it by a letter
or a number and stays on one line, whatever it quotes.  Numbers stay on one line as well.
-/

set_option autoImplicit false

namespace DexMembers.Text

/-- Whether the character starts a new line: line feed, vertical tab, form feed, carriage return,
next line, line separator or paragraph separator. -/
def isLineBreak (c : Char) : Bool :=
  [0x0A, 0x0B, 0x0C, 0x0D, 0x85, 0x2028, 0x2029].contains c.toNat

def OneLine (text : String) : Prop :=
  ∀ c ∈ text.toList, isLineBreak c = false

theorem forall_mem_of_all {chars : List Char} (all : (chars.all fun c => !isLineBreak c) = true) :
    ∀ c ∈ chars, isLineBreak c = false := by
  simpa only [List.all_eq_true, Bool.not_eq_true'] using all

-- the text is gone through, for a statement on every character may be decided by trying them all
instance (text : String) : Decidable (OneLine text) :=
  decidable_of_iff ((text.toList.all fun c => !isLineBreak c) = true) <| by
    simp only [OneLine, List.all_eq_true, Bool.not_eq_true']

variable {c : Char}

theorem OneLine.not_mem {text : String} (oneLine : OneLine text)
    (breaks : isLineBreak c = true) : c ∉ text.toList := by
  intro member
  rw [oneLine c member] at breaks
  cases breaks

theorem oneLine_append_iff {first second : String} :
    OneLine (first ++ second) ↔ OneLine first ∧ OneLine second := by
  simp only [OneLine, String.toList_append, List.mem_append, or_imp, forall_and]

theorem OneLine.append {first second : String} (front : OneLine first) (back : OneLine second) :
    OneLine (first ++ second) :=
  oneLine_append_iff.mpr ⟨front, back⟩

theorem OneLine.intercalate {separator : String} {pieces : List String}
    (between : OneLine separator) (each : ∀ piece ∈ pieces, OneLine piece) :
    OneLine (separator.intercalate pieces) := by
  intro c member
  cases breaks : isLineBreak c with
  | false => rfl
  | true =>
      rw [String.toList_intercalate, mem_intercalate_iff (between.not_mem breaks)] at member
      obtain ⟨piece, among, member⟩ := member
      obtain ⟨text, given, rfl⟩ := List.mem_map.mp among
      exact absurd member ((each text given).not_mem breaks)

/-! ### Numbers -/

theorem isLineBreak_digitChar {digit : Nat} (small : digit < 16) :
    isLineBreak (Nat.digitChar digit) = false := by
  have each : ∀ digit < 16, isLineBreak (Nat.digitChar digit) = false := by decide
  exact each digit small

theorem isLineBreak_of_mem_toDigits {base n : Nat} (more : 1 < base) (few : base ≤ 16)
    (member : c ∈ Nat.toDigits base n) : isLineBreak c = false := by
  induction n using Nat.strongRecOn with
  | ind n ih =>
      rw [Nat.toDigits_eq_if more] at member
      split at member
      · rename_i small
        rw [List.mem_singleton.mp member]
        exact isLineBreak_digitChar (Nat.lt_of_lt_of_le small few)
      · rename_i large
        rcases List.mem_append.mp member with high | low
        · exact ih (n / base) (Nat.div_lt_self (by omega) more) high
        · rw [List.mem_singleton.mp low]
          exact isLineBreak_digitChar (Nat.lt_of_lt_of_le (Nat.mod_lt n (by omega)) few)

theorem oneLine_repr (n : Nat) : OneLine n.repr := by
  intro c member
  rw [Nat.repr_eq_ofList_toDigits, String.toList_ofList] at member
  exact isLineBreak_of_mem_toDigits (by decide) (by decide) member

/-! ### Quoted texts -/

theorem isNonprinting_of_isLineBreak (breaks : isLineBreak c = true) :
    isNonprinting c = true := by
  have each : ∀ code ∈ [0x0A, 0x0B, 0x0C, 0x0D, 0x85, 0x2028, 0x2029],
      (nonprintingRanges.any fun range => range.1 ≤ code && code ≤ range.2) = true := by
    decide +kernel
  exact each c.toNat (List.contains_iff_mem.mp breaks)

/-- A character is escaped by a letter or a number, or is one that shows. -/
theorem isLineBreak_of_mem_quoteChar {shown : Char} (member : shown ∈ quoteChar c) :
    isLineBreak shown = false := by
  have escaped : ∀ letter, isLineBreak letter = false → shown ∈ ['\\', letter] →
      isLineBreak shown = false := by
    intro letter shows member
    rcases List.mem_cons.mp member with rfl | last
    · decide
    · rwa [List.mem_singleton.mp last]
  rw [quoteChar] at member
  split at member
  · exact escaped _ (by decide) member
  split at member
  · exact escaped _ (by decide) member
  split at member
  · exact escaped _ (by decide) member
  split at member
  · exact escaped _ (by decide) member
  split at member
  · exact escaped _ (by decide) member
  split at member
  · exact escaped _ (by decide) member
  split at member
  · have brackets : ∀ shown ∈ ['\\', 'u', Char.ofNat 0x7B, Char.ofNat 0x7D],
        isLineBreak shown = false :=
      forall_mem_of_all (by decide)
    rcases List.mem_append.mp member with opened | close
    · rcases List.mem_append.mp opened with front | digits
      · exact brackets shown (List.mem_append_left _ front)
      · exact isLineBreak_of_mem_toDigits (by decide) (by decide) digits
    · exact brackets shown (List.mem_append_right [_, _, _] close)
  · rename_i shows
    rw [List.mem_singleton.mp member]
    cases breaks : isLineBreak c with
    | false => rfl
    | true => exact absurd (by rw [isNonprinting_of_isLineBreak breaks, Bool.true_or]) shows

theorem oneLine_quoted (text : String) : OneLine (quoted text) := by
  intro c member
  rw [quoted, String.toList_ofList, List.cons_append, List.mem_cons, List.mem_append,
    List.mem_flatMap, List.mem_singleton] at member
  rcases member with rfl | ⟨quotedChar, _, member⟩ | rfl
  · decide
  · exact isLineBreak_of_mem_quoteChar member
  · decide

end DexMembers.Text
