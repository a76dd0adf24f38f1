import DexMembers.Proofs.Mapping.MemberGrammar
import DexMembers.Proofs.Mapping.Run
import Mathlib.Data.String.Basic

/-!
# The names of a mapping are short

An original name that a mapping holds was cut from a line of its file, so it takes no more bytes
than the file.
-/

set_option autoImplicit false

namespace DexMembers

open String (utf8Len)

namespace Text

theorem sublist_of_mem_splitAll {separator : Char} {text piece : List Char}
    (member : piece ∈ splitAll separator text) : piece.Sublist text := by
  induction text generalizing piece with
  | nil =>
      obtain rfl := List.mem_singleton.mp member
      exact List.Sublist.refl []
  | cons c rest ih =>
      rcases of_mem_splitAll_cons member with rfl | later | ⟨first, among, _, rfl⟩
      · exact List.nil_sublist _
      · exact (ih later).cons c
      · exact (ih among).cons_cons c

end Text

namespace MemberLine

theorem original_sublist {line : List Char} {member : MemberLine}
    (read : read? line = some member) : member.original.Sublist line := by
  obtain ⟨pieces, rest, begins, rfl⟩ := exists_begins_of_read? read
  have whole : line = (pieces.indent ++ (pieces.newLines ++ (pieces.type ++ [' ']))) ++
      (pieces.original ++ (pieces.tail ++ rest)) := by
    simp [begins.line_eq, Pieces.text, Pieces.body]
  rw [whole]
  exact (List.sublist_append_left _ _).trans (List.sublist_append_right _ _)

theorem renamed_unblank {line : List Char} {member : MemberLine}
    (read : read? line = some member) : ∀ c ∈ member.renamed, Text.isBlank c = false := by
  obtain ⟨pieces, rest, _, rfl⟩ := exists_begins_of_read? read
  exact pieces.given.2

end MemberLine

def ClassEntry.NamesFit (limit : Nat) (entry : ClassEntry) : Prop :=
  ∀ signature original, entry.methods.find? signature = some original →
    original.utf8ByteSize ≤ limit

theorem ClassEntry.NamesFit.insert {limit : Nat} {entry : ClassEntry} (fit : entry.NamesFit limit)
    {line : MemberLine} (short : utf8Len line.original ≤ limit) :
    (entry.insert line).NamesFit limit := by
  intro signature original found
  rw [ClassEntry.insert] at found
  split at found
  · exact fit signature original found
  · dsimp only at found
    rw [Dictionary.find?_insert] at found
    split at found
    · cases found
      rw [String.utf8ByteSize_ofList]
      exact short
    · exact fit signature original found

namespace Mapping

def EntriesFit (limit : Nat) (classes : Dictionary Descriptor ClassEntry) : Prop :=
  ∀ type entry, classes.find? type = some entry → entry.NamesFit limit

theorem length_le_of_mem_lines {text : String} {line : List Char}
    (member : line ∈ lines text.toList) : utf8Len line ≤ text.utf8ByteSize := by
  obtain ⟨piece, among, rfl⟩ := List.mem_map.mp member
  rw [← String.utf8Len_toList]
  exact String.utf8Len_le_of_sublist <|
    (Text.trimEnd_sublist _ piece).trans (Text.sublist_of_mem_splitAll among)

theorem entriesFit_of_read {text : String} {mapping : Mapping}
    (read : Mapping.read text = .ok mapping) : EntriesFit text.utf8ByteSize mapping.classes := by
  have kept : ∀ line ∈ lines text.toList,
      KeptBy (fun _ entry => entry.NamesFit text.utf8ByteSize) line := by
    intro line member
    constructor
    · intro parts _ signature original found
      cases found
    · intro parts found _ entry fit
      have inLine := String.utf8Len_le_of_sublist (MemberLine.original_sublist found)
      exact fit.insert (inLine.trans (length_le_of_mem_lines member))
  exact everyEntry_of_read kept read

end Mapping

end DexMembers
