import DexMembers.Image.Basic
import DexMembers.Member.Basic

/-!
# The members of an image

Following the ids of an image to the methods and fields they stand for.  `Image.members` decodes
each type once and keeps it; `Image.membersPlain` decodes every type where it is met.
-/

set_option autoImplicit false

namespace DexMembers

inductive Selection where
  | methods
  | fields
  | all
deriving DecidableEq, Repr

def Selection.hasMethods (selection : Selection) : Bool :=
  selection ≠ .fields

def Selection.hasFields (selection : Selection) : Bool :=
  selection ≠ .methods

inductive MembersError where
  | image (error : ImageError)
  | descriptor (error : DescriptorError)
deriving DecidableEq, Repr

structure MemberTable where
  name : String
  methods : List MethodRef
  fields : List FieldRef
deriving DecidableEq, Repr

namespace Image

def typeAt (image : Image) (index : Nat) : Except MembersError Descriptor := do
  let token ← (image.typeName index).mapError .image
  (Descriptor.read token).mapError .descriptor

/-! ### Decoding each type where it is met -/

def methodPlain (image : Image) (id : MethodId) : Except MembersError MethodRef := do
  let declaringType ← image.typeAt id.declaringType
  let name ← (image.string id.name).mapError .image
  let parameters ← (image.parameterTypes id.prototype).mapError .image
  let parameterTypes ← parameters.mapM image.typeAt
  let returned ← (image.returnType id.prototype).mapError .image
  let returnType ← image.typeAt returned
  return { declaringType, name, parameterTypes, returnType }

def fieldPlain (image : Image) (id : FieldId) : Except MembersError FieldRef := do
  let declaringType ← image.typeAt id.declaringType
  let name ← (image.string id.name).mapError .image
  let fieldType ← image.typeAt id.fieldType
  return { declaringType, name, fieldType }

/-- The members asked for, methods before fields and in table order; the first that cannot be
resolved is the failure. -/
def membersPlain (image : Image) (name : String) (selection : Selection) :
    Except MembersError MemberTable := do
  let methods ←
    if selection.hasMethods then image.methods.toList.mapM image.methodPlain else pure []
  let fields ←
    if selection.hasFields then image.fields.toList.mapM image.fieldPlain else pure []
  return { name, methods, fields }

/-! ### Decoding each type once -/

abbrev TypeCache := Array (Option Descriptor)

/-- A step that may use and fill the cache, and may fail. -/
abbrev Resolver := StateT TypeCache (Except MembersError)

def cachedType (image : Image) (index : Nat) : Resolver Descriptor := fun cache =>
  match cache[index]? with
  | some (some descriptor) => .ok (descriptor, cache)
  | _ =>
      match image.typeAt index with
      | .ok descriptor => .ok (descriptor, cache.setIfInBounds index (some descriptor))
      | .error error => .error error

def uncached {α : Type} (result : Except ImageError α) : Resolver α :=
  StateT.lift (result.mapError .image)

def cachedMethod (image : Image) (id : MethodId) : Resolver MethodRef := do
  let declaringType ← image.cachedType id.declaringType
  let name ← uncached (image.string id.name)
  let parameters ← uncached (image.parameterTypes id.prototype)
  let parameterTypes ← parameters.mapM image.cachedType
  let returned ← uncached (image.returnType id.prototype)
  let returnType ← image.cachedType returned
  return { declaringType, name, parameterTypes, returnType }

def cachedField (image : Image) (id : FieldId) : Resolver FieldRef := do
  let declaringType ← image.cachedType id.declaringType
  let name ← uncached (image.string id.name)
  let fieldType ← image.cachedType id.fieldType
  return { declaringType, name, fieldType }

def cachedMembers (image : Image) (name : String) (selection : Selection) :
    Resolver MemberTable := do
  let methods ←
    if selection.hasMethods then image.methods.toList.mapM image.cachedMethod else pure []
  let fields ←
    if selection.hasFields then image.fields.toList.mapM image.cachedField else pure []
  return { name, methods, fields }

def members (image : Image) (name : String) (selection : Selection) :
    Except MembersError MemberTable :=
  (image.cachedMembers name selection).run' (Array.replicate image.types.size none)

end Image

end DexMembers
