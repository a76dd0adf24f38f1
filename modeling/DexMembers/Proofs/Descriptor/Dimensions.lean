import DexMembers.Mapping.Basic

/-!
# Array dimensions

A type is a number of dimensions over a component that is no array, in one way only.  Restoring a
type looks at nothing but its component, so dimensions may be added before a type is restored or
after.
-/

set_option autoImplicit false

namespace DexMembers

namespace Descriptor

theorem arity_eq_zero_iff {type : Descriptor} :
    type.arity = 0 ↔ ∀ element, type ≠ array element := by
  cases type with
  | primitive kind => simp [arity]
  | object name => simp [arity]
  | array element => simp [arity]

theorem nested_nested (type : Descriptor) (inner outer : Nat) :
    (type.nested inner).nested outer = type.nested (outer + inner) := by
  induction outer with
  | zero => rw [nested, Nat.zero_add]
  | succ outer ih => rw [nested, ih, Nat.add_right_comm, nested]

/-- A type falls into a component that is no array and a number of dimensions in one way only. -/
theorem eq_nested_iff {type scalar : Descriptor} {dimensions : Nat} :
    type = scalar.nested dimensions ∧ (∀ element, scalar ≠ array element) ↔
      scalar = type.component ∧ dimensions = type.arity := by
  rw [← arity_eq_zero_iff]
  constructor
  · rintro ⟨rfl, none⟩
    rw [component_nested, arity_nested, component_of_arity_eq_zero none, none]
    exact ⟨rfl, rfl⟩
  · rintro ⟨rfl, rfl⟩
    exact ⟨type.nested_component.symm, type.arity_component⟩

end Descriptor

namespace Mapping

theorem restoreType_nested (mapping : Mapping) (type : Descriptor) (dimensions : Nat) :
    mapping.restoreType (type.nested dimensions) =
      (mapping.restoreType type).nested dimensions := by
  have entry : mapping.entryOf? (type.nested dimensions) = mapping.entryOf? type := by
    rw [entryOf?, entryOf?, Descriptor.component_nested]
  rw [restoreType, restoreType, entry, Descriptor.arity_nested]
  cases mapping.entryOf? type with
  | none => rfl
  | some found => exact (found.original.nested_nested type.arity dimensions).symm

/-- A type is its component under as many dimensions as it has, and no other type that is no array
has it as an array of any dimensions.  Further dimensions are added to those there are and leave
the component, so that every mapping restores the type under them as it restores the type alone,
also one that restores classes to arrays or has entries for arrays. -/
theorem restoreType_acts_on_component (type : Descriptor) :
    (∀ scalar dimensions, type = scalar.nested dimensions ∧ (∀ element, scalar ≠ .array element) ↔
      scalar = type.component ∧ dimensions = type.arity) ∧
    ∀ further : Nat,
      (type.nested further).component = type.component ∧
      (type.nested further).arity = type.arity + further ∧
      ∀ mapping : Mapping,
        mapping.restoreType (type.nested further) = (mapping.restoreType type).nested further := by
  refine ⟨fun scalar dimensions => Descriptor.eq_nested_iff, fun further => ⟨?_, ?_, ?_⟩⟩
  · exact type.component_nested further
  · rw [Descriptor.arity_nested, Nat.add_comm]
  · exact fun mapping => mapping.restoreType_nested type further

/-- A class that is restored to an array: its dimensions come on top of those of the type. -/
example :
    let classes : Dictionary Descriptor ClassEntry :=
      Dictionary.insert {} (.object "a") { original := .array (.primitive .int) }
    Mapping.restoreType { classes } (.array (.array (.object "a"))) =
      .array (.array (.array (.primitive .int))) := by
  decide

end Mapping

end DexMembers
