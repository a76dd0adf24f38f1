import DexMembers.Proofs.Mapping.NameLength
import DexMembers.Proofs.Member.LineFeed

/-!
# A mapping adds no line feeds

The names of a mapping stand on the lines of its file, so none of them has a line feed.  A name
with a line feed is therefore never found in a mapping, and stays; and what a mapping puts in the
place of another name has none.
-/

set_option autoImplicit false

namespace DexMembers

theorem TypeLine.subset_of_read? {line : List Char} {parts : TypeLine}
    (read : TypeLine.read? line = some parts) : parts.original ⊆ line ∧ parts.renamed ⊆ line := by
  rw [TypeLine.read?] at read
  split at read
  · split at read
    · rename_i original renamed cut
      split at read
      · cases read
        have inLine : line.dropLast ⊆ line := List.dropLast_subset line
        rw [Text.eq_append_of_splitFirst? cut, List.append_subset, List.append_subset] at inLine
        exact ⟨inLine.1.1, inLine.2⟩
      · cases read
    · cases read
  · cases read

theorem Descriptor.feed_not_mem_ofWritten {written : List Char} (unbroken : '\n' ∉ written) :
    '\n' ∉ (ofWritten written).qualifiedName.toList := by
  rw [ofWritten, feed_mem_qualifiedName_nested_iff]
  split
  · exact feed_not_mem_keyword _
  · rw [qualifiedName, feed_mem_dotted_iff, String.toList_ofList]
    intro member
    obtain ⟨c, inBase, same⟩ := List.mem_map.mp member
    split at same
    · cases same
    · rw [same] at inBase
      exact unbroken ((Text.trimEnd_sublist _ written).subset inBase)

structure ClassEntry.Unbroken (renamed : Descriptor) (entry : ClassEntry) : Prop where
  renamed : '\n' ∉ renamed.qualifiedName.toList
  original : '\n' ∉ entry.original.qualifiedName.toList
  methods : ∀ signature original, entry.methods.find? signature = some original →
    '\n' ∉ signature.name.toList ∧ '\n' ∉ original.toList
  fields : ∀ renamed original, entry.fields.find? renamed = some original →
    '\n' ∉ renamed.toList ∧ '\n' ∉ original.toList

theorem ClassEntry.Unbroken.insert {renamed : Descriptor} {entry : ClassEntry}
    (unbroken : ClassEntry.Unbroken renamed entry) {line : MemberLine}
    (original : '\n' ∉ line.original) (name : '\n' ∉ line.renamed) :
    ClassEntry.Unbroken renamed (entry.insert line) := by
  have names : '\n' ∉ (String.ofList line.renamed).toList ∧
      '\n' ∉ (String.ofList line.original).toList := by
    rw [String.toList_ofList, String.toList_ofList]
    exact ⟨name, original⟩
  rw [ClassEntry.insert]
  dsimp only
  split
  · refine { unbroken with fields := ?_ }
    intro other found same
    rw [Dictionary.find?_insert] at same
    split at same
    · rename_i here
      cases same
      rw [here]
      exact names
    · exact unbroken.fields other found same
  · refine { unbroken with methods := ?_ }
    intro signature found same
    rw [Dictionary.find?_insert] at same
    split at same
    · rename_i here
      cases same
      rw [here]
      exact names
    · exact unbroken.methods signature found same

namespace Mapping

theorem feed_not_mem_of_mem_lines {text line : List Char} (member : line ∈ lines text) :
    '\n' ∉ line := by
  obtain ⟨piece, among, rfl⟩ := List.mem_map.mp member
  exact fun feed => Text.not_mem_of_mem_splitAll among ((Text.trimEnd_sublist _ piece).subset feed)

theorem unbroken_of_read {text : String} {mapping : Mapping} (readable : read text = .ok mapping) :
    EveryEntry ClassEntry.Unbroken mapping.classes := by
  have kept : ∀ line ∈ lines text.toList, KeptBy ClassEntry.Unbroken line := by
    intro line member
    have unbroken := feed_not_mem_of_mem_lines member
    constructor
    · intro parts found
      obtain ⟨original, renamed⟩ := TypeLine.subset_of_read? found
      constructor
      · exact Descriptor.feed_not_mem_ofWritten fun feed => unbroken (renamed feed)
      · exact Descriptor.feed_not_mem_ofWritten fun feed => unbroken (original feed)
      · intro signature found none
        cases none
      · intro renamed found none
        cases none
    · intro parts found renamed entry before
      apply before.insert
      · exact fun feed => unbroken ((MemberLine.original_sublist found).subset feed)
      · exact fun feed => absurd (MemberLine.renamed_unblank found _ feed) (by decide)
  exact everyEntry_of_read kept readable

/-- What is looked up in the place of a name, if anything is found there. -/
theorem feed_mem_getD_iff {name : String} {found : Option String}
    (names : ∀ original, found = some original → '\n' ∉ name.toList ∧ '\n' ∉ original.toList) :
    '\n' ∈ (found.getD name).toList ↔ '\n' ∈ name.toList := by
  cases found with
  | none => exact Iff.rfl
  | some original => exact iff_of_false (names original rfl).2 (names original rfl).1

section Restored

variable {mapping : Mapping} (unbroken : EveryEntry ClassEntry.Unbroken mapping.classes)

include unbroken

/-- A type with a line feed is in no mapping, and one without gets none. -/
theorem restoreType_eq_or_unbroken (type : Descriptor) :
    mapping.restoreType type = type ∨ ('\n' ∉ type.qualifiedName.toList ∧
      '\n' ∉ (mapping.restoreType type).qualifiedName.toList) := by
  cases found : mapping.entryOf? type with
  | none =>
      left
      simp only [restoreType, found]
  | some entry =>
      right
      have names := unbroken _ entry found
      constructor
      · rw [← type.nested_component, Descriptor.feed_mem_qualifiedName_nested_iff]
        exact names.renamed
      · simp only [restoreType, found]
        rw [Descriptor.feed_mem_qualifiedName_nested_iff]
        exact names.original

theorem feed_mem_qualifiedName_restoreType_iff (type : Descriptor) :
    '\n' ∈ (mapping.restoreType type).qualifiedName.toList ↔
      '\n' ∈ type.qualifiedName.toList := by
  rcases restoreType_eq_or_unbroken unbroken type with same | ⟨before, after⟩
  · rw [same]
  · exact iff_of_false after before

theorem feed_mem_simpleName_restoreType_iff (type : Descriptor) :
    '\n' ∈ (mapping.restoreType type).simpleName.toList ↔ '\n' ∈ type.simpleName.toList := by
  rcases restoreType_eq_or_unbroken unbroken type with same | ⟨before, after⟩
  · rw [same]
  · exact iff_of_false (mt Descriptor.feed_mem_qualifiedName_of_simpleName after)
      (mt Descriptor.feed_mem_qualifiedName_of_simpleName before)

theorem showsLineFeed_restoreMethod_iff (method : MethodRef) :
    (mapping.restoreMethod method).ShowsLineFeed ↔ method.ShowsLineFeed := by
  cases found : mapping.entryOf? method.declaringType with
  | none => simp only [restoreMethod, found]
  | some entry =>
      have declaring := feed_mem_qualifiedName_restoreType_iff unbroken method.declaringType
      simp only [restoreType, found] at declaring
      have name := feed_mem_getD_iff ((unbroken _ entry found).methods
        ⟨mapping.restoreType method.returnType, method.name,
          method.parameterTypes.map mapping.restoreType⟩)
      simp only [restoreMethod, found, MethodRef.ShowsLineFeed, declaring, name, List.mem_map,
        exists_exists_and_eq_and, feed_mem_simpleName_restoreType_iff unbroken]

theorem showsLineFeed_restoreField_iff (field : FieldRef) :
    (mapping.restoreField field).ShowsLineFeed ↔ field.ShowsLineFeed := by
  cases found : mapping.entryOf? field.declaringType with
  | none => simp only [restoreField, found]
  | some entry =>
      have declaring := feed_mem_qualifiedName_restoreType_iff unbroken field.declaringType
      simp only [restoreType, found] at declaring
      have name := feed_mem_getD_iff ((unbroken _ entry found).fields field.name)
      simp only [restoreField, found, FieldRef.ShowsLineFeed, declaring, name,
        feed_mem_simpleName_restoreType_iff unbroken]

end Restored

end Mapping

end DexMembers
