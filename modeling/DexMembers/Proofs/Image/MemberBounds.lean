import DexMembers.Proofs.Descriptor.Grammar
import DexMembers.Proofs.Image.TextLength
import DexMembers.Proofs.Image.TypeCache

/-!
# How large members can be

The types of a resolved member have at most 255 dimensions each, and its name takes no more bytes
than the image.
-/

set_option autoImplicit false

namespace DexMembers

theorem Descriptor.arity_le_of_read {token : String} {type : Descriptor}
    (accepted : Descriptor.read token = .ok type) : type.arity ≤ 255 := by
  obtain ⟨dimensions, few, form, scalar, scalarForm, _, rfl⟩ := written_of_read_eq_ok accepted
  have flat : scalar.arity = 0 := by cases scalarForm <;> rfl
  rw [arity_nested, flat]
  exact few

structure MethodRef.Bounded (limit : Nat) (method : MethodRef) : Prop where
  declaringType : method.declaringType.arity ≤ 255
  name : method.name.utf8ByteSize ≤ limit
  parameterTypes : ∀ type ∈ method.parameterTypes, type.arity ≤ 255
  returnType : method.returnType.arity ≤ 255

structure FieldRef.Bounded (field : FieldRef) : Prop where
  declaringType : field.declaringType.arity ≤ 255
  fieldType : field.fieldType.arity ≤ 255

structure MemberTable.Bounded (limit : Nat) (table : MemberTable) : Prop where
  methods : ∀ method ∈ table.methods, method.Bounded limit
  fields : ∀ field ∈ table.fields, field.Bounded

namespace Image

variable {image : Image}

theorem arity_le_of_typeAt {index : Nat} {type : Descriptor}
    (found : image.typeAt index = .ok type) : type.arity ≤ 255 := by
  obtain ⟨token, _, decoded⟩ := eq_ok_of_bind_eq_ok found
  exact Descriptor.arity_le_of_read (eq_ok_of_mapError_eq_ok decoded)

theorem bounded_of_methodPlain {limit : Nat}
    (texts : ∀ index text, image.string index = .ok text → text.utf8ByteSize ≤ limit)
    {id : MethodId} {method : MethodRef} (resolved : image.methodPlain id = .ok method) :
    method.Bounded limit := by
  obtain ⟨declaringType, declaring, resolved⟩ := eq_ok_of_bind_eq_ok resolved
  obtain ⟨name, named, resolved⟩ := eq_ok_of_bind_eq_ok resolved
  obtain ⟨parameters, _, resolved⟩ := eq_ok_of_bind_eq_ok resolved
  obtain ⟨parameterTypes, taken, resolved⟩ := eq_ok_of_bind_eq_ok resolved
  obtain ⟨returned, _, resolved⟩ := eq_ok_of_bind_eq_ok resolved
  obtain ⟨returnType, given, resolved⟩ := eq_ok_of_bind_eq_ok resolved
  cases resolved
  refine ⟨arity_le_of_typeAt declaring, texts _ _ (eq_ok_of_mapError_eq_ok named), ?_,
    arity_le_of_typeAt given⟩
  intro type member
  obtain ⟨parameter, _, found⟩ := exists_mem_of_mapM_eq_ok taken member
  exact arity_le_of_typeAt found

theorem bounded_of_fieldPlain {id : FieldId} {field : FieldRef}
    (resolved : image.fieldPlain id = .ok field) : field.Bounded := by
  obtain ⟨declaringType, declaring, resolved⟩ := eq_ok_of_bind_eq_ok resolved
  obtain ⟨name, _, resolved⟩ := eq_ok_of_bind_eq_ok resolved
  obtain ⟨fieldType, typed, resolved⟩ := eq_ok_of_bind_eq_ok resolved
  cases resolved
  exact ⟨arity_le_of_typeAt declaring, arity_le_of_typeAt typed⟩

theorem exists_of_ifAsked {ε ι β : Type} {asked : Bool} {step : ι → Except ε β} {items : List ι}
    {values : List β} (done : (if asked then items.mapM step else pure []) = .ok values) {value : β}
    (member : value ∈ values) : ∃ item, step item = .ok value := by
  cases asked with
  | false =>
      cases done
      cases member
  | true =>
      obtain ⟨item, _, found⟩ := exists_mem_of_mapM_eq_ok done member
      exact ⟨item, found⟩

theorem bounded_of_members {content : List UInt8} (read : Image.read content = .ok image)
    {name : String} {selection : Selection} {table : MemberTable}
    (resolved : image.members name selection = .ok table) : table.Bounded content.length := by
  rw [members_eq_membersPlain, membersPlain_eq_bind] at resolved
  obtain ⟨methods, methodsDone, resolved⟩ := eq_ok_of_bind_eq_ok resolved
  obtain ⟨fields, fieldsDone, resolved⟩ := eq_ok_of_bind_eq_ok resolved
  cases resolved
  constructor
  · intro method member
    obtain ⟨id, found⟩ := exists_of_ifAsked methodsDone member
    exact bounded_of_methodPlain (fun _ _ => utf8ByteSize_string_le read) found
  · intro field member
    obtain ⟨id, found⟩ := exists_of_ifAsked fieldsDone member
    exact bounded_of_fieldPlain found

end Image

end DexMembers
