import DexMembers.Proofs.Image.TypeCache
import DexMembers.Proofs.Outcome

/-!
# References that are followed

Ids, prototypes and types point into other tables by number.  Which numbers a listing follows is
settled by the members it asks for.  A number without an entry is met when it is followed, so a
listing fails over one if and only if a member it asks for leads there.
-/

set_option autoImplicit false

namespace DexMembers

inductive Reference where
  | string (index : Nat)
  | type (index : Nat)
  | prototype (index : Nat)
deriving DecidableEq, Repr

namespace Reference

def InRange (image : Image) : Reference → Prop
  | string index => index < image.strings.size
  | type index => index < image.types.size
  | prototype index => index < image.prototypes.size

instance (image : Image) (reference : Reference) : Decidable (reference.InRange image) :=
  match reference with
  | string index => inferInstanceAs (Decidable (index < image.strings.size))
  | type index => inferInstanceAs (Decidable (index < image.types.size))
  | prototype index => inferInstanceAs (Decidable (index < image.prototypes.size))

/-- What following the number comes to if there is no such entry. -/
def missing : Reference → ImageFault
  | string index => .noString index
  | type index => .noType index
  | prototype index => .noPrototype index

end Reference

namespace Image

/-- What is followed to decode a type: its number, and that of the string that describes it. -/
inductive TypeFollows (image : Image) (index : Nat) : Reference → Prop
  | entry : TypeFollows image index (.type index)
  | text {text : Nat} (found : image.types[index]? = some text) :
      TypeFollows image index (.string text)

inductive MethodFollows (image : Image) (id : MethodId) : Reference → Prop
  | declaringType {reference : Reference}
      (followed : image.TypeFollows id.declaringType reference) : MethodFollows image id reference
  | name : MethodFollows image id (.string id.name)
  | prototype : MethodFollows image id (.prototype id.prototype)
  | parameter {reference : Reference} {prototype : Prototype} {index : Nat}
      (found : image.prototypes[id.prototype]? = some prototype)
      (taken : index ∈ prototype.parameters) (followed : image.TypeFollows index reference) :
      MethodFollows image id reference
  | returnType {reference : Reference} {prototype : Prototype}
      (found : image.prototypes[id.prototype]? = some prototype)
      (followed : image.TypeFollows prototype.returnType reference) :
      MethodFollows image id reference

inductive FieldFollows (image : Image) (id : FieldId) : Reference → Prop
  | declaringType {reference : Reference}
      (followed : image.TypeFollows id.declaringType reference) : FieldFollows image id reference
  | name : FieldFollows image id (.string id.name)
  | fieldType {reference : Reference}
      (followed : image.TypeFollows id.fieldType reference) : FieldFollows image id reference

inductive Follows (image : Image) (selection : Selection) (reference : Reference) : Prop
  | method {id : MethodId} (asked : selection.hasMethods = true) (member : id ∈ image.methods)
      (followed : image.MethodFollows id reference)
  | field {id : FieldId} (asked : selection.hasFields = true) (member : id ∈ image.fields)
      (followed : image.FieldFollows id reference)

/-- The ways to fail for a run that follows some references: one of them has no entry, leads to a
string in no known encoding, or to a type whose token is no descriptor. -/
inductive Fails (image : Image) (followed : Reference → Prop) : MembersError → Prop
  | missing {reference : Reference} {places : List ImagePlace} (met : followed reference)
      (absent : ¬ reference.InRange image) :
      Fails image followed (.image { fault := reference.missing, places })
  | undecodable {index units : Nat} {content : List UInt8} {places : List ImagePlace}
      (met : followed (.string index)) (raw : image.strings[index]? = some (.raw units content)) :
      Fails image followed (.image { fault := .undecodableString index, places })
  | token {index : Nat} {token : String} {error : DescriptorError} (met : followed (.type index))
      (named : image.typeName index = .ok token) (rejected : Descriptor.read token = .error error) :
      Fails image followed (.descriptor error)

variable {image : Image} {followed : Reference → Prop} {index : Nat} {error : MembersError}

/-! ### How a look-up fails -/

theorem not_inRange_string (absent : image.strings[index]? = none) :
    ¬ (Reference.string index).InRange image :=
  Nat.not_lt_of_le (Array.getElem?_eq_none_iff.mp absent)

theorem not_inRange_type (absent : image.types[index]? = none) :
    ¬ (Reference.type index).InRange image :=
  Nat.not_lt_of_le (Array.getElem?_eq_none_iff.mp absent)

theorem not_inRange_prototype (absent : image.prototypes[index]? = none) :
    ¬ (Reference.prototype index).InRange image :=
  Nat.not_lt_of_le (Array.getElem?_eq_none_iff.mp absent)

theorem fails_of_string (met : followed (.string index)) (places : List ImagePlace)
    {failure : ImageError} (failed : image.string index = .error failure) :
    image.Fails followed
      (.image { fault := failure.fault, places := failure.places ++ places }) := by
  rw [string] at failed
  split at failed
  · cases failed
  · rename_i raw
    cases failed
    exact .undecodable met raw
  · rename_i absent
    cases failed
    exact .missing met (not_inRange_string absent)

theorem fails_of_typeAt (met : ∀ reference, image.TypeFollows index reference → followed reference)
    (failed : image.typeAt index = .error error) : image.Fails followed error := by
  rcases eq_error_of_bind_eq_error failed with unnamed | ⟨token, named, failed⟩
  · obtain ⟨failure, absent, rfl⟩ := eq_error_of_mapError_eq_error unnamed
    rw [typeName] at absent
    split at absent
    · rename_i text found
      obtain ⟨inner, unread, rfl⟩ := eq_error_of_mapError_eq_error absent
      exact fails_of_string (met _ (.text found)) [.typeId index] unread
    · rename_i nothing
      cases absent
      exact .missing (met _ .entry) (not_inRange_type nothing)
  · obtain ⟨failure, rejected, rfl⟩ := eq_error_of_mapError_eq_error failed
    exact .token (met _ .entry) (eq_ok_of_mapError_eq_ok named) rejected

def prototypeAt (image : Image) (index : Nat) : Except ImageError Prototype :=
  match image.prototypes[index]? with
  | some prototype => .ok prototype
  | none => .error { fault := .noPrototype index }

theorem parameterTypes_eq_map (image : Image) (index : Nat) :
    image.parameterTypes index = (image.prototypeAt index).map Prototype.parameters := by
  rw [parameterTypes, prototypeAt]
  cases image.prototypes[index]? <;> rfl

theorem returnType_eq_map (image : Image) (index : Nat) :
    image.returnType index = (image.prototypeAt index).map Prototype.returnType := by
  rw [returnType, prototypeAt]
  cases image.prototypes[index]? <;> rfl

section Part

variable {α : Type} {part : Prototype → α}

theorem prototype_of_part {value : α} (found : (image.prototypeAt index).map part = .ok value) :
    ∃ prototype, image.prototypes[index]? = some prototype ∧ part prototype = value := by
  rw [prototypeAt] at found
  split at found
  · rename_i prototype stands
    cases found
    exact ⟨prototype, stands, rfl⟩
  · cases found

theorem fails_of_part (met : followed (.prototype index))
    (failed : ((image.prototypeAt index).map part).mapError MembersError.image = .error error) :
    image.Fails followed error := by
  rw [prototypeAt] at failed
  split at failed
  · cases failed
  · rename_i absent
    cases failed
    exact .missing met (not_inRange_prototype absent)

end Part

/-! ### How a member fails -/

theorem fails_of_name (met : followed (.string index))
    (failed : (image.string index).mapError MembersError.image = .error error) :
    image.Fails followed error := by
  obtain ⟨failure, unread, rfl⟩ := eq_error_of_mapError_eq_error failed
  have fails := fails_of_string met [] unread
  rwa [List.append_nil] at fails

theorem fails_of_methodPlain {id : MethodId}
    (met : ∀ reference, image.MethodFollows id reference → followed reference)
    (failed : image.methodPlain id = .error error) : image.Fails followed error := by
  rcases eq_error_of_bind_eq_error failed with declaring | ⟨_, _, failed⟩
  · exact fails_of_typeAt (fun _ type => met _ (.declaringType type)) declaring
  rcases eq_error_of_bind_eq_error failed with name | ⟨_, _, failed⟩
  · exact fails_of_name (met _ .name) name
  rw [parameterTypes_eq_map, returnType_eq_map] at failed
  rcases eq_error_of_bind_eq_error failed with shape | ⟨parameters, shape, failed⟩
  · exact fails_of_part (met _ .prototype) shape
  obtain ⟨prototype, found, rfl⟩ := prototype_of_part (eq_ok_of_mapError_eq_ok shape)
  rcases eq_error_of_bind_eq_error failed with taken | ⟨_, _, failed⟩
  · obtain ⟨parameter, member, taken⟩ := exists_mem_of_mapM_eq_error taken
    exact fails_of_typeAt (fun _ type => met _ (.parameter found member type)) taken
  rcases eq_error_of_bind_eq_error failed with shape | ⟨returned, shape, failed⟩
  · exact fails_of_part (met _ .prototype) shape
  obtain ⟨prototype, found, rfl⟩ := prototype_of_part (eq_ok_of_mapError_eq_ok shape)
  rcases eq_error_of_bind_eq_error failed with given | ⟨_, _, failed⟩
  · exact fails_of_typeAt (fun _ type => met _ (.returnType found type)) given
  · cases failed

theorem fails_of_fieldPlain {id : FieldId}
    (met : ∀ reference, image.FieldFollows id reference → followed reference)
    (failed : image.fieldPlain id = .error error) : image.Fails followed error := by
  rcases eq_error_of_bind_eq_error failed with declaring | ⟨_, _, failed⟩
  · exact fails_of_typeAt (fun _ type => met _ (.declaringType type)) declaring
  rcases eq_error_of_bind_eq_error failed with name | ⟨_, _, failed⟩
  · exact fails_of_name (met _ .name) name
  rcases eq_error_of_bind_eq_error failed with typed | ⟨_, _, failed⟩
  · exact fails_of_typeAt (fun _ type => met _ (.fieldType type)) typed
  · cases failed

theorem exists_mem_of_ifAsked_eq_error {ε ι β : Type} {asked : Bool} {step : ι → Except ε β}
    {ids : Array ι} {failure : ε}
    (failed : (if asked then ids.toList.mapM step else pure []) = .error failure) :
    asked = true ∧ ∃ id ∈ ids, step id = .error failure := by
  cases asked with
  | false => cases failed
  | true =>
      obtain ⟨id, member, failed⟩ := exists_mem_of_mapM_eq_error failed
      exact ⟨rfl, id, Array.mem_toList_iff.mp member, failed⟩

/-- A listing fails over something that a member it asks for leads to. -/
theorem fails_of_members {name : String} {selection : Selection}
    (failed : image.members name selection = .error error) :
    image.Fails (image.Follows selection) error := by
  rw [members_eq_membersPlain, membersPlain_eq_bind] at failed
  rcases eq_error_of_bind_eq_error failed with methods | ⟨_, _, failed⟩
  · obtain ⟨asked, id, member, failed⟩ := exists_mem_of_ifAsked_eq_error methods
    exact fails_of_methodPlain (fun _ => .method asked member) failed
  rcases eq_error_of_bind_eq_error failed with fields | ⟨_, _, failed⟩
  · obtain ⟨asked, id, member, failed⟩ := exists_mem_of_ifAsked_eq_error fields
    exact fails_of_fieldPlain (fun _ => .field asked member) failed
  · cases failed

/-! ### What success says of the references -/

theorem inRange_of_string {text : String} (read : image.string index = .ok text) :
    (Reference.string index).InRange image := by
  rw [string] at read
  split at read
  · rename_i decoded
    exact (Array.getElem?_eq_some_iff.mp decoded).1
  · cases read
  · cases read

theorem inRange_of_typeAt {type : Descriptor} (found : image.typeAt index = .ok type)
    {reference : Reference} (followed : image.TypeFollows index reference) :
    reference.InRange image := by
  obtain ⟨token, named, _⟩ := eq_ok_of_bind_eq_ok found
  have named := eq_ok_of_mapError_eq_ok named
  rw [typeName] at named
  split at named
  · rename_i text stands
    cases followed with
    | entry => exact (Array.getElem?_eq_some_iff.mp stands).1
    | text found =>
        obtain rfl : text = _ := Option.some.inj (stands.symm.trans found)
        exact inRange_of_string (eq_ok_of_mapError_eq_ok named)
  · cases named

theorem inRange_of_methodPlain {id : MethodId} {method : MethodRef}
    (resolved : image.methodPlain id = .ok method) {reference : Reference}
    (followed : image.MethodFollows id reference) : reference.InRange image := by
  obtain ⟨_, declaring, resolved⟩ := eq_ok_of_bind_eq_ok resolved
  obtain ⟨_, named, resolved⟩ := eq_ok_of_bind_eq_ok resolved
  obtain ⟨_, shape, resolved⟩ := eq_ok_of_bind_eq_ok resolved
  obtain ⟨_, taken, resolved⟩ := eq_ok_of_bind_eq_ok resolved
  obtain ⟨_, returned, resolved⟩ := eq_ok_of_bind_eq_ok resolved
  obtain ⟨_, given, _⟩ := eq_ok_of_bind_eq_ok resolved
  rw [parameterTypes_eq_map] at shape
  rw [returnType_eq_map] at returned
  obtain ⟨prototype, stands, rfl⟩ := prototype_of_part (eq_ok_of_mapError_eq_ok shape)
  obtain ⟨_, again, rfl⟩ := prototype_of_part (eq_ok_of_mapError_eq_ok returned)
  obtain rfl := Option.some.inj (stands.symm.trans again)
  cases followed with
  | declaringType followed => exact inRange_of_typeAt declaring followed
  | name => exact inRange_of_string (eq_ok_of_mapError_eq_ok named)
  | prototype => exact (Array.getElem?_eq_some_iff.mp stands).1
  | parameter found member followed =>
      obtain rfl := Option.some.inj (stands.symm.trans found)
      obtain ⟨type, decoded⟩ := exists_mapM_eq_ok_iff.mp ⟨_, taken⟩ _ member
      exact inRange_of_typeAt decoded followed
  | returnType found followed =>
      obtain rfl := Option.some.inj (stands.symm.trans found)
      exact inRange_of_typeAt given followed

theorem inRange_of_fieldPlain {id : FieldId} {field : FieldRef}
    (resolved : image.fieldPlain id = .ok field) {reference : Reference}
    (followed : image.FieldFollows id reference) : reference.InRange image := by
  obtain ⟨_, declaring, resolved⟩ := eq_ok_of_bind_eq_ok resolved
  obtain ⟨_, named, resolved⟩ := eq_ok_of_bind_eq_ok resolved
  obtain ⟨_, typed, _⟩ := eq_ok_of_bind_eq_ok resolved
  cases followed with
  | declaringType followed => exact inRange_of_typeAt declaring followed
  | name => exact inRange_of_string (eq_ok_of_mapError_eq_ok named)
  | fieldType followed => exact inRange_of_typeAt typed followed

theorem eq_ok_of_ifAsked_eq_ok {ε ι β : Type} {asked : Bool} {step : ι → Except ε β}
    {ids : Array ι} {values : List β}
    (done : (if asked then ids.toList.mapM step else pure []) = .ok values) (isAsked : asked = true)
    {id : ι} (member : id ∈ ids) : ∃ value, step id = .ok value := by
  rw [isAsked] at done
  exact exists_mapM_eq_ok_iff.mp ⟨values, done⟩ id (Array.mem_toList_iff.mpr member)

/-- A listing follows every number that a member it asks for leads to. -/
theorem inRange_of_members {name : String} {selection : Selection} {table : MemberTable}
    (resolved : image.members name selection = .ok table) {reference : Reference}
    (followed : image.Follows selection reference) : reference.InRange image := by
  rw [members_eq_membersPlain, membersPlain_eq_bind] at resolved
  obtain ⟨_, methods, resolved⟩ := eq_ok_of_bind_eq_ok resolved
  obtain ⟨_, fields, _⟩ := eq_ok_of_bind_eq_ok resolved
  cases followed with
  | method asked member followed =>
      obtain ⟨method, resolved⟩ := eq_ok_of_ifAsked_eq_ok methods asked member
      exact inRange_of_methodPlain resolved followed
  | field asked member followed =>
      obtain ⟨field, resolved⟩ := eq_ok_of_ifAsked_eq_ok fields asked member
      exact inRange_of_fieldPlain resolved followed

end Image

end DexMembers
