import DexMembers.Proofs.Mapping.Run
import Mathlib.Data.List.Forall2

/-!
# Which types keep their shape

Restoring a type looks at nothing but the class lines, and the last that renames to the type
counts.  Both names of such a line are read as any written type is, so it may speak of a primitive
or of an array.  Types keep their dimensions, and primitives stay what they are, if and only if no
line that counts does so.
-/

set_option autoImplicit false

namespace DexMembers

namespace Descriptor

def isObject : Descriptor → Bool
  | object _ => true
  | _ => false

theorem eq_object_of_isObject {type : Descriptor} (object : type.isObject = true) :
    ∃ name, type = .object name := by
  cases type with
  | primitive kind => cases object
  | object name => exact ⟨name, rfl⟩
  | array element => cases object

/-- The second type has the dimensions of the first, and is the first if that is a primitive or an
array of one. -/
structure KeepsShape (before after : Descriptor) : Prop where
  arity : after.arity = before.arity
  primitive : ∀ kind, before.component = .primitive kind → after = before

theorem KeepsShape.refl (type : Descriptor) : type.KeepsShape type :=
  ⟨rfl, fun _ _ => rfl⟩

theorem KeepsShape.nested {type original : Descriptor}
    (shape : type.component.KeepsShape original) :
    type.KeepsShape (original.nested type.arity) := by
  constructor
  · rw [arity_nested, shape.arity, arity_component, Nat.add_zero]
  · intro kind primitive
    have same : original = type.component := by
      apply shape.primitive kind
      rw [primitive]
      rfl
    rw [same, nested_component]

end Descriptor

structure MethodRef.KeepsShape (before after : MethodRef) : Prop where
  declaringType : before.declaringType.KeepsShape after.declaringType
  parameterTypes : List.Forall₂ Descriptor.KeepsShape before.parameterTypes after.parameterTypes
  returnType : before.returnType.KeepsShape after.returnType

structure FieldRef.KeepsShape (before after : FieldRef) : Prop where
  declaringType : before.declaringType.KeepsShape after.declaringType
  fieldType : before.fieldType.KeepsShape after.fieldType

@[simp] theorem ClassEntry.original_insert (entry : ClassEntry) (line : MemberLine) :
    (entry.insert line).original = entry.original := by
  rw [ClassEntry.insert]
  cases line.parameters <;> rfl

def TypeLine.original? (renamed : Descriptor) (line : List Char) : Option Descriptor :=
  match LineRole.of line, TypeLine.read? line with
  | .typeLine, some parts =>
      if Descriptor.ofWritten parts.renamed = renamed then some (.ofWritten parts.original)
      else none
  | _, _ => none

theorem TypeLine.of_original?_eq_some {renamed original : Descriptor} {line : List Char}
    (said : TypeLine.original? renamed line = some original) :
    LineRole.of line = .typeLine ∧ ∃ parts, TypeLine.read? line = some parts ∧
      Descriptor.ofWritten parts.renamed = renamed ∧
      Descriptor.ofWritten parts.original = original := by
  rw [TypeLine.original?] at said
  split at said
  · rename_i parts role found
    split at said
    · rename_i same
      exact ⟨role, parts, found, same, Option.some.inj said⟩
    · cases said
  · cases said

namespace Mapping

def KeepsShapes (mapping : Mapping) : Prop :=
  ∀ type : Descriptor, type.KeepsShape (mapping.restoreType type)

/-- The original of a class by the last line that renames to it. -/
def lastOriginal? (text : String) (renamed : Descriptor) : Option Descriptor :=
  (lines text.toList).reverse.findSome? (TypeLine.original? renamed)

def RenamesObjects (text : String) : Prop :=
  ∀ line ∈ lines text.toList, LineRole.of line = .typeLine → ∀ parts ∈ TypeLine.read? line,
    (Descriptor.ofWritten parts.renamed).isObject ∧ (Descriptor.ofWritten parts.original).isObject

instance (text : String) : Decidable (RenamesObjects text) :=
  inferInstanceAs (Decidable (∀ line ∈ lines text.toList, _ → ∀ parts ∈ TypeLine.read? line, _ ∧ _))

/-! ### Class lines decide -/

namespace Progress

variable {progress next : Progress} {number : Nat}

def original? (progress : Progress) (renamed : Descriptor) : Option Descriptor :=
  (progress.classes.find? renamed).map ClassEntry.original

theorem original?_of_current {finished : Dictionary Descriptor ClassEntry} {last : Descriptor}
    {entry : ClassEntry} (renamed : Descriptor) :
    original? { finished, current := some (last, entry) } renamed =
      if last = renamed then some entry.original
      else (finished.find? renamed).map ClassEntry.original := by
  simp only [original?, classes, Dictionary.find?_insert]
  by_cases same : last = renamed
  · simp [same]
  · simp [same, Ne.symm same]

theorem original?_readLine {line : List Char} (read : progress.readLine number line = .ok next)
    (renamed : Descriptor) :
    next.original? renamed = (TypeLine.original? renamed line).or (progress.original? renamed) := by
  rw [Progress.readLine] at read
  rw [TypeLine.original?]
  cases role : LineRole.of line with
  | nothing =>
      simp only [role, Except.ok.injEq] at read
      rw [read]
      rfl
  | typeLine =>
      cases found : TypeLine.read? line with
      | none => simp [role, found] at read
      | some parts =>
          simp only [role, found, Except.ok.injEq] at read
          rw [← read, original?_of_current]
          by_cases same : Descriptor.ofWritten parts.renamed = renamed
          · simp [same]
          · simp [same, original?]
  | memberLine =>
      cases found : MemberLine.read? line with
      | none => simp [role, found] at read
      | some member =>
          cases current : progress.current with
          | none => simp [role, found, current] at read
          | some last =>
              simp only [role, found, current, Except.ok.injEq] at read
              have same : progress = { finished := progress.finished, current := some last } := by
                rw [← current]
              rw [← read, same, original?_of_current, original?_of_current,
                ClassEntry.original_insert]
              rfl

theorem original?_readLines {rest : List (List Char)}
    (read : progress.readLines number rest = .ok next) (renamed : Descriptor) :
    next.original? renamed =
      (rest.reverse.findSome? (TypeLine.original? renamed)).or (progress.original? renamed) := by
  induction rest generalizing progress number with
  | nil =>
      cases read
      rfl
  | cons line rest ih =>
      rw [readLines_cons] at read
      obtain ⟨after, first, others⟩ := eq_ok_of_bind_eq_ok read
      rw [ih others, original?_readLine first, List.reverse_cons, List.findSome?_append,
        List.findSome?_singleton, Option.or_assoc]

end Progress

variable {text : String} {mapping : Mapping}

theorem original?_of_read (readable : read text = .ok mapping) (renamed : Descriptor) :
    (mapping.classes.find? renamed).map ClassEntry.original = lastOriginal? text renamed := by
  rw [read_eq_map] at readable
  obtain ⟨progress, run, rfl⟩ := eq_ok_of_map_eq_ok readable
  exact (Progress.original?_readLines run renamed).trans Option.or_none

theorem restoreType_of_read (readable : read text = .ok mapping) (type : Descriptor) :
    mapping.restoreType type =
      match lastOriginal? text type.component with
      | some original => original.nested type.arity
      | none => type := by
  rw [← original?_of_read readable, restoreType, entryOf?]
  cases mapping.classes.find? type.component <;> rfl

/-! ### What is kept -/

theorem declaringType_restoreMethod (mapping : Mapping) (method : MethodRef) :
    (mapping.restoreMethod method).declaringType = mapping.restoreType method.declaringType := by
  cases found : mapping.entryOf? method.declaringType <;>
    simp only [restoreMethod, restoreType, found]

theorem declaringType_restoreField (mapping : Mapping) (field : FieldRef) :
    (mapping.restoreField field).declaringType = mapping.restoreType field.declaringType := by
  cases found : mapping.entryOf? field.declaringType <;>
    simp only [restoreField, restoreType, found]

theorem KeepsShapes.restoreMethod (kept : mapping.KeepsShapes) (method : MethodRef) :
    method.KeepsShape (mapping.restoreMethod method) := by
  have declaring : method.declaringType.KeepsShape (mapping.restoreMethod method).declaringType := by
    rw [declaringType_restoreMethod]
    exact kept method.declaringType
  refine ⟨declaring, ?_, ?_⟩
  · cases found : mapping.entryOf? method.declaringType with
    | none =>
        simp only [Mapping.restoreMethod, found]
        exact List.forall₂_same.mpr fun type _ => .refl type
    | some entry =>
        simp only [Mapping.restoreMethod, found]
        exact List.forall₂_map_right_iff.mpr (List.forall₂_same.mpr fun type _ => kept type)
  · cases found : mapping.entryOf? method.declaringType with
    | none =>
        simp only [Mapping.restoreMethod, found]
        exact .refl method.returnType
    | some entry =>
        simp only [Mapping.restoreMethod, found]
        exact kept method.returnType

theorem KeepsShapes.restoreField (kept : mapping.KeepsShapes) (field : FieldRef) :
    field.KeepsShape (mapping.restoreField field) := by
  have declaring : field.declaringType.KeepsShape (mapping.restoreField field).declaringType := by
    rw [declaringType_restoreField]
    exact kept field.declaringType
  refine ⟨declaring, ?_⟩
  cases found : mapping.entryOf? field.declaringType with
  | none =>
      simp only [Mapping.restoreField, found]
      exact .refl field.fieldType
  | some entry =>
      simp only [Mapping.restoreField, found]
      exact kept field.fieldType

theorem keepsShapes_iff (readable : read text = .ok mapping) :
    mapping.KeepsShapes ↔
      ∀ renamed original, renamed.arity = 0 → lastOriginal? text renamed = some original →
        renamed.KeepsShape original := by
  constructor
  · intro kept renamed original scalar found
    have shape := kept renamed
    rw [restoreType_of_read readable, Descriptor.component_of_arity_eq_zero scalar, found,
      scalar] at shape
    exact shape
  · intro lines type
    rw [restoreType_of_read readable]
    cases found : lastOriginal? text type.component with
    | none => exact .refl type
    | some original => exact (lines _ _ type.arity_component found).nested

theorem keepsShape_of_renamesObjects (objects : RenamesObjects text) {renamed original : Descriptor}
    (found : lastOriginal? text renamed = some original) : renamed.KeepsShape original := by
  obtain ⟨line, member, said⟩ := List.exists_of_findSome?_eq_some found
  obtain ⟨role, parts, read, rfl, rfl⟩ := TypeLine.of_original?_eq_some said
  obtain ⟨renamedObject, originalObject⟩ := objects line (List.mem_reverse.mp member) role parts read
  obtain ⟨name, renamed⟩ := Descriptor.eq_object_of_isObject renamedObject
  obtain ⟨other, original⟩ := Descriptor.eq_object_of_isObject originalObject
  rw [renamed, original]
  exact ⟨rfl, fun kind primitive => nomatch primitive⟩

/-- Restoring keeps the shape of every type, and then of the types of every method and field, if
and only if every class line that counts does; so it does if class lines are about objects only. -/
theorem restored_shape_iff (readable : read text = .ok mapping) :
    (mapping.KeepsShapes ↔
      ∀ renamed original, renamed.arity = 0 → lastOriginal? text renamed = some original →
        renamed.KeepsShape original) ∧
    (mapping.KeepsShapes →
      (∀ method : MethodRef, method.KeepsShape (mapping.restoreMethod method)) ∧
      ∀ field : FieldRef, field.KeepsShape (mapping.restoreField field)) ∧
    (RenamesObjects text → mapping.KeepsShapes) := by
  refine ⟨keepsShapes_iff readable, ?_, ?_⟩
  · intro kept
    exact ⟨KeepsShapes.restoreMethod kept, KeepsShapes.restoreField kept⟩
  · intro objects
    apply (keepsShapes_iff readable).mpr
    intro renamed original _ found
    exact keepsShape_of_renamesObjects objects found

/-- Primitives and arrays in the lines of members do no harm. -/
theorem restored_shape_iff_member_types :
    let text := "geo.Point -> a:\n    int[] xs -> c\n    void move(int) -> d"
    ∃ mapping, read text = .ok mapping ∧ RenamesObjects text ∧
      ∀ method : MethodRef, method.KeepsShape (mapping.restoreMethod method) := by
  intro text
  let point : ClassEntry :=
    { original := .object "geo/Point"
      fields := ({} : Dictionary String String).insert "c" "xs"
      methods := ({} : Dictionary Signature String).insert
        { returnType := .primitive .void, name := "d", parameterTypes := [.primitive .int] }
        "move" }
  let mapping : Mapping :=
    { classes := ({} : Dictionary Descriptor ClassEntry).insert (.object "a") point }
  have readable : read text = .ok mapping := by decide +kernel
  have objects : RenamesObjects text := by decide +kernel
  obtain ⟨_, members, types⟩ := restored_shape_iff readable
  exact ⟨mapping, readable, objects, (members (types objects)).1⟩

/-- A class that is renamed to a keyword takes the place of that primitive, and an array in the
place of an original name adds its dimensions. -/
theorem restored_shape_differs :
    (∃ mapping, read "geo.Point -> int:" = .ok mapping ∧
      mapping.restoreType (.primitive .int) = .object "geo/Point") ∧
    (∃ mapping, read "int[] -> a:" = .ok mapping ∧
      mapping.restoreType (.object "a") = .array (.primitive .int)) ∧
    ¬ ∀ text mapping, read text = .ok mapping → mapping.KeepsShapes := by
  let mapping : Mapping :=
    { classes := ({} : Dictionary Descriptor ClassEntry).insert (.primitive .int)
        { original := .object "geo/Point" } }
  let other : Mapping :=
    { classes := ({} : Dictionary Descriptor ClassEntry).insert (.object "a")
        { original := .array (.primitive .int) } }
  have readable : read "geo.Point -> int:" = .ok mapping := by decide +kernel
  have changed : mapping.restoreType (.primitive .int) = .object "geo/Point" := by decide
  refine ⟨⟨mapping, readable, changed⟩, ⟨other, by decide +kernel, by decide⟩, ?_⟩
  intro kept
  have same := (kept _ mapping readable (.primitive .int)).primitive .int rfl
  rw [changed] at same
  cases same

end Mapping

end DexMembers
