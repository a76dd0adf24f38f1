import DexMembers.Member.Basic
import DexMembers.Proofs.Member.Counter

/-!
# Line feeds in the lines of members

A line takes names as they are, apart from counters, dots and packages.  So it has a line feed
inside if and only if one of the names that it shows has one, whether counters are hidden or not.
-/

set_option autoImplicit false

namespace DexMembers

namespace SyntheticNumber

variable {c : Char}

theorem mem_dropFromClass_iff (other : c ≠ '$') (noDigit : c.isDigit = false) (name : List Char) :
    c ∈ dropFromClass name ↔ c ∈ name :=
  (losesCounter_dropEnd name).mem_iff other noDigit

theorem mem_dropFromMethod_iff (other : c ≠ '$') (noDigit : c.isDigit = false) (name : List Char) :
    c ∈ dropFromMethod name ↔ c ∈ name :=
  (losesCounter_dropFromMethod name).mem_iff other noDigit

end SyntheticNumber

theorem mem_intercalate_iff {α : Type} {a : α} {separator : List α} (other : a ∉ separator)
    (pieces : List (List α)) :
    a ∈ separator.intercalate pieces ↔ ∃ piece ∈ pieces, a ∈ piece := by
  induction pieces with
  | nil => simp [List.intercalate]
  | cons piece pieces ih =>
      cases pieces with
      | nil => simp [List.intercalate]
      | cons next pieces =>
          rw [List.intercalate_cons_cons, List.mem_append, List.mem_append, ih]
          simp [other]

namespace Descriptor

theorem feed_mem_dotted_iff (name : String) : '\n' ∈ (dotted name).toList ↔ '\n' ∈ name.toList := by
  rw [dotted, String.toList_ofList, List.mem_map]
  constructor
  · rintro ⟨c, member, same⟩
    split at same
    · cases same
    · rwa [← same]
  · intro member
    exact ⟨'\n', member, rfl⟩

theorem feed_not_mem_keyword (kind : Primitive) : '\n' ∉ kind.keyword.toList := by
  cases kind <;> decide

/-- Neither dimensions nor packages bring a line feed with them. -/
theorem feed_mem_qualifiedName_nested_iff (type : Descriptor) (dimensions : Nat) :
    '\n' ∈ (type.nested dimensions).qualifiedName.toList ↔ '\n' ∈ type.qualifiedName.toList := by
  induction dimensions with
  | zero => exact Iff.rfl
  | succ dimensions ih => simp [nested, qualifiedName, ih]

theorem feed_mem_qualifiedName_withoutLambdaNumber_iff (type : Descriptor) :
    '\n' ∈ type.withoutLambdaNumber.qualifiedName.toList ↔ '\n' ∈ type.qualifiedName.toList := by
  induction type with
  | primitive kind => exact Iff.rfl
  | object name =>
      rw [withoutLambdaNumber, qualifiedName, qualifiedName, feed_mem_dotted_iff,
        feed_mem_dotted_iff, String.toList_ofList,
        SyntheticNumber.mem_dropFromClass_iff (by decide) (by decide)]
  | array element ih => simp [withoutLambdaNumber, qualifiedName, ih]

theorem feed_mem_of_mem_lastSegment {name : String} (member : '\n' ∈ (lastSegment name).toList) :
    '\n' ∈ name.toList := by
  rw [lastSegment] at member
  split at member
  · rename_i before segment split
    rw [String.toList_ofList] at member
    rw [(Text.eq_append_of_splitLast? split).1]
    simp [member]
  · exact member

theorem feed_mem_qualifiedName_of_simpleName {type : Descriptor}
    (member : '\n' ∈ type.simpleName.toList) : '\n' ∈ type.qualifiedName.toList := by
  induction type with
  | primitive kind => exact member
  | object name =>
      rw [qualifiedName, feed_mem_dotted_iff]
      exact feed_mem_of_mem_lastSegment member
  | array element ih =>
      simp only [simpleName, qualifiedName, String.toList_append, List.mem_append] at member ⊢
      exact member.imp_left ih

end Descriptor

theorem feed_mem_declaringName_iff (hideNumbers : Bool) (declaring : Descriptor) :
    '\n' ∈ (declaringName hideNumbers declaring).toList ↔
      '\n' ∈ declaring.qualifiedName.toList := by
  rw [declaringName]
  cases hideNumbers with
  | false => exact Iff.rfl
  | true => exact declaring.feed_mem_qualifiedName_withoutLambdaNumber_iff

def MethodRef.ShowsLineFeed (method : MethodRef) : Prop :=
  '\n' ∈ method.declaringType.qualifiedName.toList ∨ '\n' ∈ method.name.toList ∨
    ∃ type ∈ method.parameterTypes, '\n' ∈ type.simpleName.toList

def FieldRef.ShowsLineFeed (field : FieldRef) : Prop :=
  '\n' ∈ field.declaringType.qualifiedName.toList ∨ '\n' ∈ field.name.toList ∨
    '\n' ∈ field.fieldType.simpleName.toList

instance (method : MethodRef) : Decidable method.ShowsLineFeed :=
  inferInstanceAs (Decidable (_ ∨ _ ∨ _))

instance (field : FieldRef) : Decidable field.ShowsLineFeed :=
  inferInstanceAs (Decidable (_ ∨ _ ∨ _))

theorem MethodRef.feed_mem_line_iff (hideNumbers : Bool) (method : MethodRef) :
    '\n' ∈ (method.line hideNumbers).toList ↔ method.ShowsLineFeed := by
  have name : '\n' ∈ (if hideNumbers = true then
      String.ofList (SyntheticNumber.dropFromMethod method.name.toList) else method.name).toList ↔
      '\n' ∈ method.name.toList := by
    cases hideNumbers with
    | false => exact Iff.rfl
    | true =>
        rw [if_pos rfl, String.toList_ofList,
          SyntheticNumber.mem_dropFromMethod_iff (by decide) (by decide)]
  have parameters : '\n' ∈
      (", ".intercalate (method.parameterTypes.map Descriptor.simpleName)).toList ↔
      ∃ type ∈ method.parameterTypes, '\n' ∈ type.simpleName.toList := by
    rw [String.toList_intercalate, mem_intercalate_iff (by decide), List.map_map]
    constructor
    · rintro ⟨piece, among, member⟩
      obtain ⟨type, parameter, rfl⟩ := List.mem_map.mp among
      exact ⟨type, parameter, member⟩
    · rintro ⟨type, parameter, member⟩
      exact ⟨_, List.mem_map_of_mem parameter, member⟩
  simp only [MethodRef.line, String.toList_append, List.mem_append, feed_mem_declaringName_iff,
    name, parameters]
  simp [MethodRef.ShowsLineFeed, or_assoc]

theorem FieldRef.feed_mem_line_iff (hideNumbers : Bool) (field : FieldRef) :
    '\n' ∈ (field.line hideNumbers).toList ↔ field.ShowsLineFeed := by
  simp only [FieldRef.line, String.toList_append, List.mem_append, feed_mem_declaringName_iff]
  simp [FieldRef.ShowsLineFeed, or_assoc]

end DexMembers
