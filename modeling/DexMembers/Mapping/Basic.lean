import DexMembers.Mapping.Dictionary
import DexMembers.Member.Basic

/-!
# Name mappings

A shrinker renames classes and members and writes down what it did.  A mapping holds that record,
from the new names to the original ones, and restores the names of types, methods and fields.
Methods are told apart by their types as they were before, so a method's own types are restored
before it is looked up.
-/

set_option autoImplicit false

namespace DexMembers

/-- What tells one method of a class from another: the new name and the original types. -/
structure Signature where
  returnType : Descriptor
  name : String
  parameterTypes : List Descriptor
deriving DecidableEq, Repr

structure ClassEntry where
  original : Descriptor
  /-- Original field names by new name. -/
  fields : Dictionary String String := {}
  /-- Original method names by new signature. -/
  methods : Dictionary Signature String := {}
deriving DecidableEq, Repr

structure Mapping where
  classes : Dictionary Descriptor ClassEntry := {}
deriving DecidableEq, Repr

namespace Mapping

def isEmpty (mapping : Mapping) : Bool :=
  mapping.classes.pairs.isEmpty

def entryOf? (mapping : Mapping) (type : Descriptor) : Option ClassEntry :=
  mapping.classes.find? type.component

def restoreType (mapping : Mapping) (type : Descriptor) : Descriptor :=
  match mapping.entryOf? type with
  | some entry => entry.original.nested type.arity
  | none => type

def restoreMethod (mapping : Mapping) (method : MethodRef) : MethodRef :=
  match mapping.entryOf? method.declaringType with
  | none => method
  | some entry =>
      let returnType := mapping.restoreType method.returnType
      let parameterTypes := method.parameterTypes.map mapping.restoreType
      { declaringType := entry.original.nested method.declaringType.arity
        name := (entry.methods.find? ⟨returnType, method.name, parameterTypes⟩).getD method.name
        parameterTypes
        returnType }

def restoreField (mapping : Mapping) (field : FieldRef) : FieldRef :=
  match mapping.entryOf? field.declaringType with
  | none => field
  | some entry =>
      { declaringType := entry.original.nested field.declaringType.arity
        name := (entry.fields.find? field.name).getD field.name
        fieldType := mapping.restoreType field.fieldType }

def methodCount (mapping : Mapping) : Nat :=
  mapping.classes.values.foldl (fun count entry => count + entry.methods.size) 0

def fieldCount (mapping : Mapping) : Nat :=
  mapping.classes.values.foldl (fun count entry => count + entry.fields.size) 0

end Mapping

end DexMembers
