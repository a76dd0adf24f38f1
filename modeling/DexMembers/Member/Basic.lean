import DexMembers.Descriptor.Reader
import DexMembers.Member.SyntheticNumber

/-!
# Members

A method or a field as an image refers to it, and its line in a listing.  A line names the
declaring type with its package and every other type without; a method's return type is left out.
-/

set_option autoImplicit false

namespace DexMembers

structure MethodRef where
  declaringType : Descriptor
  name : String
  parameterTypes : List Descriptor
  returnType : Descriptor
deriving DecidableEq, Repr

structure FieldRef where
  declaringType : Descriptor
  name : String
  fieldType : Descriptor
deriving DecidableEq, Repr

def declaringName (hideNumbers : Bool) (declaring : Descriptor) : String :=
  (if hideNumbers then declaring.withoutLambdaNumber else declaring).qualifiedName

namespace MethodRef

/-- The method whose types are given by descriptors, read in the order declaring type, parameters,
return type; the first token that is no descriptor is the failure. -/
def ofTokens (declaringType name : String) (parameterTypes : List String) (returnType : String) :
    Except DescriptorError MethodRef := do
  let declaringType ← Descriptor.read declaringType
  let parameterTypes ← parameterTypes.mapM Descriptor.read
  let returnType ← Descriptor.read returnType
  return { declaringType, name, parameterTypes, returnType }

/-- The line of the method, such as `java.lang.Object equals(Object)`; with `hideNumbers` the
counters of synthetic names are left out. -/
def line (hideNumbers : Bool) (method : MethodRef) : String :=
  let name :=
    if hideNumbers then String.ofList (SyntheticNumber.dropFromMethod method.name.toList)
    else method.name
  declaringName hideNumbers method.declaringType ++ " " ++ name ++
    "(" ++ ", ".intercalate (method.parameterTypes.map Descriptor.simpleName) ++ ")"

end MethodRef

namespace FieldRef

def ofTokens (declaringType name fieldType : String) : Except DescriptorError FieldRef := do
  let declaringType ← Descriptor.read declaringType
  let fieldType ← Descriptor.read fieldType
  return { declaringType, name, fieldType }

/-- The line of the field, such as `com.example.Point x: int`.  A field's own name keeps its
numbers. -/
def line (hideNumbers : Bool) (field : FieldRef) : String :=
  declaringName hideNumbers field.declaringType ++ " " ++ field.name ++ ": " ++
    field.fieldType.simpleName

end FieldRef

end DexMembers
