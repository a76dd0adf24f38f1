import DexMembers.Proofs.Image.Consistency
import DexMembers.Proofs.Image.ReadBack
import DexMembers.Proofs.Image.TypeCache
import DexMembers.Proofs.Outcome

/-!
# The members of a built image

The image of declarations is read back, and following its ids gives the members that were declared,
each type decoded from the descriptor it was declared with.
-/

set_option autoImplicit false

namespace DexMembers

def RawMethod.read (method : RawMethod) : Except DescriptorError MethodRef :=
  MethodRef.ofTokens method.declaringType method.name method.parameters method.returnType

def RawField.read (field : RawField) : Except DescriptorError FieldRef :=
  FieldRef.ofTokens field.declaringType field.name field.fieldType

namespace Draft

variable {tokens : List String} {shapes : List (List String × String)} {draft : Draft}
  {declarations : List Declaration}

theorem fits (interned : draft.Interned tokens shapes) (declares : draft.Declares declarations)
    (types : draft.types.entries.size ≤ 65536) (prototypes : draft.prototypes.entries.size ≤ 65536)
    (small : draft.bytes.length < 4294967296) : draft.Fits := by
  have room := draft.tables_le
  have ranges := interned.inRange
  refine ⟨small, ranges.types, ?_, ?_, ?_⟩
  · intro prototype member
    have short := ranges.shorties prototype member
    have returned := ranges.returnTypes prototype member
    refine ⟨by omega, by omega, ?_⟩
    intro parameter taken
    exact Nat.lt_of_lt_of_le (ranges.parameters prototype member parameter taken) types
  · intro field member
    obtain ⟨raw, _, means⟩ := exists_of_mem_left declares.fields (Array.mem_toList_iff.mpr member)
    have declaring := typeText?_lt means.declaring
    have own := typeText?_lt means.own
    have named := getElem?_lt means.named
    exact ⟨by omega, by omega, by omega⟩
  · intro method member
    obtain ⟨raw, _, means⟩ := exists_of_mem_left declares.methods (Array.mem_toList_iff.mpr member)
    have declaring := typeText?_lt means.declaring
    obtain ⟨prototype, entry, _⟩ := means.shaped
    have shaped := getElem?_lt entry
    have named := getElem?_lt means.named
    exact ⟨by omega, by omega, by omega⟩

theorem read_ofDeclarations (types : (declaredTypes declarations).toFinset.card ≤ 65536)
    (prototypes : (declaredPrototypes declarations).toFinset.card ≤ 65536)
    (small : (ofDeclarations declarations).bytes.length < 4294967296) :
    Image.read (ofDeclarations declarations).bytes = .ok (ofDeclarations declarations).image := by
  obtain ⟨interned, declares⟩ := ofDeclarations_spec declarations
  exact read_bytes (fits interned declares (interned.size_types_le.trans types)
    (interned.size_prototypes_le.trans prototypes) small)

/-! ### Following ids -/

theorem string_image {number : Nat} {value : String}
    (known : draft.strings.entries[number]? = some value) :
    draft.image.string number = .ok value := by
  have entry : draft.image.strings[number]? = some (.decoded value) := by
    rw [image, Array.getElem?_map, known]
    rfl
  rw [Image.string, entry]

theorem typeAt_image {number : Nat} {token : String} (known : draft.typeText? number = some token) :
    draft.image.typeAt number = (Descriptor.read token).mapError .descriptor := by
  obtain ⟨text, entry, string⟩ := Option.bind_eq_some_iff.mp known
  have name : draft.image.typeName number = .ok token := by
    have found : draft.image.types[number]? = some text := entry
    rw [Image.typeName, found]
    simp only [string_image string]
    rfl
  rw [Image.typeAt, name]
  rfl

theorem mapM_typeAt_image {numbers : List Nat} {parameters : List String}
    (known : numbers.map draft.typeText? = parameters.map some) :
    numbers.mapM draft.image.typeAt =
      (parameters.mapM Descriptor.read).mapError MembersError.descriptor := by
  rw [← List.forall₂_eq_eq_eq, List.forall₂_map_left_iff, List.forall₂_map_right_iff] at known
  exact mapM_eq_of_forall₂ (known.imp fun _ _ text => typeAt_image text)

theorem methodPlain_image {id : MethodId} {method : RawMethod}
    (means : draft.MeansMethod id method) :
    draft.image.methodPlain id = method.read.mapError .descriptor := by
  obtain ⟨prototype, entry, spelt⟩ := means.shaped
  have found : draft.image.prototypes[id.prototype]? = some prototype := entry
  have parameters : draft.image.parameterTypes id.prototype = .ok prototype.parameters := by
    rw [Image.parameterTypes, found]
  have returnType : draft.image.returnType id.prototype = .ok prototype.returnType := by
    rw [Image.returnType, found]
  simp only [Image.methodPlain, typeAt_image means.declaring, string_image means.named, parameters,
    mapM_typeAt_image spelt.taken, returnType, typeAt_image spelt.returned, RawMethod.read,
    MethodRef.ofTokens, Except.mapError_ok, Except.ok_bind]
  cases Descriptor.read method.declaringType with
  | error failure => rfl
  | ok declaring =>
      cases method.parameters.mapM Descriptor.read with
      | error failure => rfl
      | ok taken =>
          cases Descriptor.read method.returnType with
          | error failure => rfl
          | ok returned => rfl

theorem fieldPlain_image {id : FieldId} {field : RawField} (means : draft.MeansField id field) :
    draft.image.fieldPlain id = field.read.mapError .descriptor := by
  simp only [Image.fieldPlain, typeAt_image means.declaring, string_image means.named,
    typeAt_image means.own, RawField.read, FieldRef.ofTokens]
  cases Descriptor.read field.declaringType with
  | error failure => rfl
  | ok declaring =>
      cases Descriptor.read field.fieldType with
      | error failure => rfl
      | ok own => rfl

def declaredMembers (name : String) (selection : Selection) (declarations : List Declaration) :
    Except DescriptorError MemberTable :=
  (if selection.hasMethods then (declarations.filterMap Declaration.rawMethod?).mapM RawMethod.read
    else .ok []) >>= fun methods =>
  (if selection.hasFields then (declarations.filterMap Declaration.rawField?).mapM RawField.read
    else .ok []) >>= fun fields =>
  .ok { name, methods, fields }

/-- The image's members are those that were declared. -/
theorem members_image (declares : draft.Declares declarations) (name : String)
    (selection : Selection) :
    draft.image.members name selection =
      (declaredMembers name selection declarations).mapError .descriptor := by
  have methods : draft.image.methods.toList.mapM draft.image.methodPlain =
      ((declarations.filterMap Declaration.rawMethod?).mapM RawMethod.read).mapError .descriptor :=
    mapM_eq_of_forall₂ (declares.methods.imp fun _ _ => methodPlain_image)
  have fields : draft.image.fields.toList.mapM draft.image.fieldPlain =
      ((declarations.filterMap Declaration.rawField?).mapM RawField.read).mapError .descriptor :=
    mapM_eq_of_forall₂ (declares.fields.imp fun _ _ => fieldPlain_image)
  have plain : draft.image.members name selection = draft.image.membersPlain name selection :=
    (Image.Agrees.cachedMembers draft.image name selection).run' _
  rw [plain, Image.membersPlain, methods, fields, declaredMembers]
  cases selection.hasMethods with
  | false =>
      cases selection.hasFields with
      | false => rfl
      | true =>
          cases (declarations.filterMap Declaration.rawField?).mapM RawField.read with
          | error failure => rfl
          | ok read => rfl
  | true =>
      cases (declarations.filterMap Declaration.rawMethod?).mapM RawMethod.read with
      | error failure => rfl
      | ok read =>
          cases selection.hasFields with
          | false => rfl
          | true =>
              cases (declarations.filterMap Declaration.rawField?).mapM RawField.read with
              | error failure => rfl
              | ok others => rfl

end Draft

end DexMembers
