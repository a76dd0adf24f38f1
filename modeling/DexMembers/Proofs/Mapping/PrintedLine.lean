import DexMembers.Mapping.Reader
import DexMembers.Proofs.Mapping.MemberGrammar
import DexMembers.Proofs.Mapping.PlainName

/-!
# Lines of a mapping file and their parts

A class line and a member line, written from plain names, are read back part by part.  The marks of
the format cannot occur in the parts, so each reader stops where its part ends.
-/

set_option autoImplicit false

namespace DexMembers

/-! ### Class lines -/

def ClassBlock.head (block : ClassBlock) : List Char :=
  (Descriptor.dotted block.original).toList ++ arrow ++
    (Descriptor.dotted block.renamed).toList ++ [':']

theorem LineRole.of_written {written : List Char} (nonempty : written ≠ [])
    (chars : ∀ c ∈ written, isTypeChar c = true) (rest : List Char) :
    LineRole.of (written ++ rest) = .typeLine := by
  cases written with
  | nil => exact absurd rfl nonempty
  | cons c written =>
      have inType := chars c (List.mem_cons_self ..)
      have unblank := isBlank_of_isTypeChar inType
      have noComment : c ≠ '#' := ne_mark_of_isTypeChar inType (by simp)
      simp [LineRole.of, unblank, noComment]

theorem TypeLine.read?_head {block : ClassBlock} (plain : block.Plain) :
    TypeLine.read? block.head = some
      { original := (Descriptor.dotted block.original).toList
        renamed := (Descriptor.dotted block.renamed).toList } := by
  have blankless : ' ' ∉ (Descriptor.dotted block.original).toList := by
    intro member
    exact ne_of_not_isBlank (isBlank_of_isTypeChar (plain.original.dotted_chars ' ' member))
      (by decide) rfl
  have cut : Text.splitFirst? arrow ((Descriptor.dotted block.original).toList ++ arrow ++
      (Descriptor.dotted block.renamed).toList) =
        some ((Descriptor.dotted block.original).toList,
          (Descriptor.dotted block.renamed).toList) :=
    Text.splitFirst?_append blankless _
  simp only [TypeLine.read?, ClassBlock.head, List.getLast?_append, List.getLast?_singleton,
    Option.some_or, List.dropLast_concat, cut]
  rw [if_pos ⟨plain.original.dotted_ne_nil, plain.renamed.dotted_ne_nil⟩]

/-! ### Pieces of member lines -/

namespace MemberLine

theorem isNumber_toDigits (n : Nat) : Text.IsNumber (Nat.toDigits 10 n) :=
  ⟨Nat.toDigits_ne_nil,
    fun _ member => Nat.isDigit_of_mem_toDigits (by decide) (by decide) member⟩

theorem isRange_newLinesText (lines : Option (Nat × Nat)) :
    (MemberRenaming.newLinesText lines).toList = [] ∨
      IsRange (MemberRenaming.newLinesText lines).toList := by
  cases lines with
  | none => exact Or.inl rfl
  | some range =>
      obtain ⟨first, last⟩ := range
      have text : (MemberRenaming.newLinesText (some (first, last))).toList =
          Nat.toDigits 10 first ++ ':' :: (Nat.toDigits 10 last ++ [':']) := by
        simp [MemberRenaming.newLinesText]
      rw [text]
      exact Or.inr (.mk (isNumber_toDigits first) (isNumber_toDigits last))

theorem isOldLines_oldLinesText (lines : Option (Nat × Option Nat)) :
    (MemberRenaming.oldLinesText lines).toList = [] ∨
      IsOldLines (MemberRenaming.oldLinesText lines).toList := by
  cases lines with
  | none => exact Or.inl rfl
  | some range =>
      obtain ⟨first, last⟩ := range
      cases last with
      | none =>
          have text : (MemberRenaming.oldLinesText (some (first, none))).toList =
              ':' :: Nat.toDigits 10 first := by
            simp [MemberRenaming.oldLinesText]
          rw [text]
          exact Or.inr (.one (isNumber_toDigits first))
      | some last =>
          have text : (MemberRenaming.oldLinesText (some (first, some last))).toList =
              ':' :: (Nat.toDigits 10 first ++ ':' :: Nat.toDigits 10 last) := by
            simp [MemberRenaming.oldLinesText]
          rw [text]
          exact Or.inr (.two (isNumber_toDigits first) (isNumber_toDigits last))

theorem exists_first (lines : Option (Nat × Nat)) {written : List Char} (nonempty : written ≠ [])
    (chars : ∀ c ∈ written, isTypeChar c = true) (rest : List Char) :
    ∃ c tail, (MemberRenaming.newLinesText lines).toList ++ (written ++ rest) = c :: tail ∧
      isTypeChar c = true := by
  cases lines with
  | none =>
      cases written with
      | nil => exact absurd rfl nonempty
      | cons c written => exact ⟨c, written ++ rest, rfl, chars c (List.mem_cons_self ..)⟩
  | some range =>
      obtain ⟨first, last⟩ := range
      cases digits : Nat.toDigits 10 first with
      | nil => exact absurd digits Nat.toDigits_ne_nil
      | cons c others =>
          have inType : isTypeChar c = true :=
            isTypeChar_toDigits first c (by rw [digits]; exact List.mem_cons_self ..)
          simp only [MemberRenaming.newLinesText, String.toList_append, Nat.toList_repr, digits,
            List.cons_append]
          exact ⟨c, _, rfl, inType⟩

theorem isIndent_of_isTypeChar {c : Char} (inType : isTypeChar c = true) :
    isIndent c = false := by
  have noSpace : c ≠ ' ' := ne_of_not_isBlank (isBlank_of_isTypeChar inType) (by decide)
  have noTab : c ≠ '\t' := ne_of_not_isBlank (isBlank_of_isTypeChar inType) (by decide)
  simp [isIndent, noSpace, noTab]

theorem isNameChar_of_isTypeChar {c : Char} (inType : isTypeChar c = true) :
    isNameChar c = true := by
  have noSpace : c ≠ ' ' := ne_of_not_isBlank (isBlank_of_isTypeChar inType) (by decide)
  have noOpen : c ≠ '(' := ne_mark_of_isTypeChar inType (by simp)
  have noColon : c ≠ ':' := ne_mark_of_isTypeChar inType (by simp)
  simp [isNameChar, noSpace, noOpen, noColon]

theorem Pieces.leftmost_of_isTypeChar {pieces : Pieces}
    (chars : ∀ c ∈ pieces.type, isTypeChar c = true) : pieces.Leftmost := by
  apply Pieces.Leftmost.of_unmarked
  · intro c first
    exact isIndent_of_isTypeChar (chars c (List.mem_of_head? first))
  · exact fun member => ne_mark_of_isTypeChar (chars ':' member) (by simp) rfl

theorem read?_printed (newLines : Option (Nat × Nat)) (oldLines : Option (Nat × Option Nat))
    {type original renamed : List Char} {parameters : Option (List Char)}
    (typed : type ≠ []) (typeChars : ∀ c ∈ type, isTypeChar c = true)
    (named : original ≠ []) (nameChars : ∀ c ∈ original, isTypeChar c = true)
    (closed : ∀ list, parameters = some list → ')' ∉ list)
    (given : renamed ≠ []) (renamedChars : ∀ c ∈ renamed, isTypeChar c = true) :
    read? ("    ".toList ++ ((MemberRenaming.newLinesText newLines).toList ++
      (type ++ ' ' :: (original ++ (parametersText parameters ++
        ((MemberRenaming.oldLinesText oldLines).toList ++ (arrow ++ renamed))))))) =
          some { type, original, parameters, renamed } := by
  have unspaced : ' ' ∉ type :=
    fun member => absurd (isBlank_of_isTypeChar (typeChars ' ' member)) (by decide)
  let pieces : Pieces :=
    { indent := "    ".toList
      newLines := (MemberRenaming.newLinesText newLines).toList
      type
      original
      parameters
      oldLines := (MemberRenaming.oldLinesText oldLines).toList
      renamed
      indented := ⟨by decide, List.all_eq_true.mp (by decide)⟩
      ranged := isRange_newLinesText newLines
      typed := ⟨typed, unspaced⟩
      named := ⟨named, fun c member => isNameChar_of_isTypeChar (nameChars c member)⟩
      closed
      numbered := isOldLines_oldLinesText oldLines
      given := ⟨given, fun c member => isBlank_of_isTypeChar (renamedChars c member)⟩ }
  have begins : pieces.Begins pieces.text [] :=
    { line_eq := (List.append_nil _).symm
      leftmost := Pieces.leftmost_of_isTypeChar typeChars
      ended := Text.stopsAt_nil }
  exact begins.read?_eq

end MemberLine

end DexMembers
