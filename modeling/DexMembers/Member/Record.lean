import DexMembers.Member.Basic

/-!
# Members as structured records

The form in which descriptors and members travel between programs: nested records with fixed keys.
A type is a record of one key, `Primitive`, `Object` or `Array`; a member is a record of its
parts.  Keys that a member does not have are ignored, and a record may also be given as the list
of its parts in order.
-/

set_option autoImplicit false

namespace DexMembers

inductive Datum where
  | null
  | text (value : String)
  | list (items : List Datum)
  | record (fields : List (String × Datum))
  /-- A truth value or a number: no member holds one. -/
  | other
deriving Inhabited

/-- The items, if the value is a list of exactly the fields named, or a record that has them all. -/
def Datum.parts? (keys : List String) : Datum → Option (List Datum)
  | list items => if items.length = keys.length then some items else none
  | record fields => keys.mapM fun key => fields.lookup key
  | _ => none

def Datum.text? : Datum → Option String
  | text value => some value
  | _ => none

def Datum.list? : Datum → Option (List Datum)
  | list items => some items
  | _ => none

def Primitive.tag : Primitive → String
  | byte => "Byte"
  | char => "Char"
  | double => "Double"
  | float => "Float"
  | int => "Int"
  | long => "Long"
  | short => "Short"
  | void => "Void"
  | boolean => "Boolean"

/-- The primitive named by a tag, which may also be the one key of a record of nothing. -/
def Primitive.ofDatum? : Datum → Option Primitive
  | .text tag | .record [(tag, .null)] => all.find? fun p => p.tag = tag
  | _ => none

def Descriptor.toDatum : Descriptor → Datum
  | primitive kind => .record [("Primitive", .text kind.tag)]
  | object name => .record [("Object", .text name)]
  | array element => .record [("Array", element.toDatum)]

def Descriptor.ofDatum? : Datum → Option Descriptor
  | .record [(key, value)] =>
      if key = "Primitive" then (Primitive.ofDatum? value).map primitive
      else if key = "Object" then value.text?.map object
      else if key = "Array" then (ofDatum? value).map array
      else none
  | _ => none

def MethodRef.toDatum (method : MethodRef) : Datum :=
  .record [
    ("declaring_type", method.declaringType.toDatum),
    ("name", .text method.name),
    ("parameter_types", .list (method.parameterTypes.map Descriptor.toDatum)),
    ("return_type", method.returnType.toDatum)]

def MethodRef.ofDatum? (datum : Datum) : Option MethodRef := do
  match ← datum.parts? ["declaring_type", "name", "parameter_types", "return_type"] with
  | [declaringType, name, parameterTypes, returnType] =>
      let declaringType ← Descriptor.ofDatum? declaringType
      let name ← name.text?
      let parameterTypes ← (← parameterTypes.list?).mapM Descriptor.ofDatum?
      let returnType ← Descriptor.ofDatum? returnType
      return { declaringType, name, parameterTypes, returnType }
  | _ => none

def FieldRef.toDatum (field : FieldRef) : Datum :=
  .record [
    ("declaring_type", field.declaringType.toDatum),
    ("name", .text field.name),
    ("field_type", field.fieldType.toDatum)]

def FieldRef.ofDatum? (datum : Datum) : Option FieldRef := do
  match ← datum.parts? ["declaring_type", "name", "field_type"] with
  | [declaringType, name, fieldType] =>
      let declaringType ← Descriptor.ofDatum? declaringType
      let name ← name.text?
      let fieldType ← Descriptor.ofDatum? fieldType
      return { declaringType, name, fieldType }
  | _ => none

end DexMembers
