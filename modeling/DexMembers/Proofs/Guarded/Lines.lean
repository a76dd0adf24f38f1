import DexMembers.Listing.Build
import DexMembers.Proofs.Guarded.Names
import DexMembers.Proofs.Image.MemberBounds
import DexMembers.Proofs.Mapping.NameLength

/-!
# Lines made without faults

The dimensions of a type are counted one by one, and a name is cut where its counter stands.  Both
stay far from any limit, for the types were decoded from descriptors and the names stand in an
image or in a mapping.
-/

set_option autoImplicit false

namespace DexMembers

namespace Guarded

variable {ε : Type}

def component : Descriptor → Guarded ε (Descriptor × Nat)
  | .array element => do
      let (inner, arity) ← component element
      let arity ← sum arity 1
      return (inner, arity)
  | scalar => pure (scalar, 0)

def restoreType (mapping : Mapping) (type : Descriptor) : Guarded ε Descriptor := do
  let (inner, arity) ← component type
  match mapping.classes.find? inner with
  | some entry => return entry.original.nested arity
  | none => return type

def restoreMethod (mapping : Mapping) (method : MethodRef) : Guarded ε MethodRef := do
  let (inner, arity) ← component method.declaringType
  match mapping.classes.find? inner with
  | none => return method
  | some entry => do
      let returnType ← restoreType mapping method.returnType
      let parameterTypes ← method.parameterTypes.mapM (restoreType mapping)
      return {
        declaringType := entry.original.nested arity
        name := (entry.methods.find? ⟨returnType, method.name, parameterTypes⟩).getD method.name
        parameterTypes
        returnType }

def restoreField (mapping : Mapping) (field : FieldRef) : Guarded ε FieldRef := do
  let (inner, arity) ← component field.declaringType
  match mapping.classes.find? inner with
  | none => return field
  | some entry => do
      let fieldType ← restoreType mapping field.fieldType
      return {
        declaringType := entry.original.nested arity
        name := (entry.fields.find? field.name).getD field.name
        fieldType }

def methodLine (options : ListingOptions) (method : MethodRef) : Guarded ε String := do
  let method ←
    match options.mapping with
    | some mapping => restoreMethod mapping method
    | none => pure method
  let name ← if options.hideNumbers then withoutNumber method.name else pure method.name
  return declaringName options.hideNumbers method.declaringType ++ " " ++ name ++
    "(" ++ ", ".intercalate (method.parameterTypes.map Descriptor.simpleName) ++ ")"

def fieldLine (options : ListingOptions) (field : FieldRef) : Guarded ε String := do
  let field ←
    match options.mapping with
    | some mapping => restoreField mapping field
    | none => pure field
  return field.line options.hideNumbers

def lines (options : ListingOptions) (table : MemberTable) : Guarded ε (List String) := do
  let methods ←
    if options.selection.hasMethods then table.methods.mapM (methodLine options) else pure []
  let fields ←
    if options.selection.hasFields then table.fields.mapM (fieldLine options) else pure []
  return (methods ++ fields).mergeSort lineLE

theorem component_eq {type : Descriptor} (few : type.arity ≤ 255) :
    (component type : Guarded ε (Descriptor × Nat)) = pure (type.component, type.arity) := by
  induction type with
  | primitive kind => rfl
  | object name => rfl
  | array element ih =>
      rw [Descriptor.arity] at few
      rw [component, ih (by omega), pure_bind]
      dsimp only
      rw [sum_of_lt (by omega), pure_bind]
      rfl

theorem restoreType_eq (mapping : Mapping) {type : Descriptor} (few : type.arity ≤ 255) :
    (restoreType mapping type : Guarded ε Descriptor) = pure (mapping.restoreType type) := by
  rw [restoreType, component_eq few, pure_bind, Mapping.restoreType,
    Mapping.entryOf?]
  dsimp only
  cases mapping.classes.find? type.component <;> rfl

variable {limit : Nat}

theorem restoreMethod_eq (mapping : Mapping) {method : MethodRef} (bounded : method.Bounded limit) :
    (restoreMethod mapping method : Guarded ε MethodRef) = pure (mapping.restoreMethod method) := by
  rw [restoreMethod, component_eq bounded.declaringType, pure_bind,
    Mapping.restoreMethod, Mapping.entryOf?]
  dsimp only
  cases mapping.classes.find? method.declaringType.component with
  | none => rfl
  | some entry =>
      dsimp only
      rw [restoreType_eq mapping bounded.returnType, pure_bind,
        mapM_pure fun type member => restoreType_eq mapping (bounded.parameterTypes type member)]
      rfl

theorem restoreField_eq (mapping : Mapping) {field : FieldRef} (bounded : field.Bounded) :
    (restoreField mapping field : Guarded ε FieldRef) = pure (mapping.restoreField field) := by
  rw [restoreField, component_eq bounded.declaringType, pure_bind,
    Mapping.restoreField, Mapping.entryOf?]
  dsimp only
  cases mapping.classes.find? field.declaringType.component with
  | none => rfl
  | some entry =>
      dsimp only
      rw [restoreType_eq mapping bounded.fieldType]
      rfl

theorem utf8ByteSize_restoreMethod_lt {mapping : Mapping} {names : Nat}
    (fit : Mapping.EntriesFit names mapping.classes) (namesShort : names < 2 ^ 63)
    {method : MethodRef} (short : method.name.utf8ByteSize < 2 ^ 63) :
    (mapping.restoreMethod method).name.utf8ByteSize < 2 ^ 63 := by
  rw [Mapping.restoreMethod, Mapping.entryOf?]
  cases found : mapping.classes.find? method.declaringType.component with
  | none => exact short
  | some entry =>
      dsimp only
      cases original : entry.methods.find? ⟨mapping.restoreType method.returnType, method.name,
          method.parameterTypes.map mapping.restoreType⟩ with
      | none => exact short
      | some name => exact Nat.lt_of_le_of_lt (fit _ entry found _ name original) namesShort

/-- The options restore names, if they do, from a file that fits into memory. -/
def FileFits (options : ListingOptions) : Prop :=
  ∀ mapping, options.mapping = some mapping →
    ∃ text : String, text.utf8ByteSize < 2 ^ 63 ∧ Mapping.read text = .ok mapping

section

variable {options : ListingOptions}

theorem methodLine_eq (mapped : FileFits options) (short : limit < 2 ^ 63) {method : MethodRef}
    (bounded : method.Bounded limit) :
    (methodLine options method : Guarded ε String) =
      pure (MemberTable.methodLine options method) := by
  have rendered : ∀ method : MethodRef, method.name.utf8ByteSize < 2 ^ 63 →
      (do
        let name ← if options.hideNumbers then withoutNumber method.name else pure method.name
        return declaringName options.hideNumbers method.declaringType ++ " " ++ name ++
          "(" ++ ", ".intercalate (method.parameterTypes.map Descriptor.simpleName) ++ ")" :
        Guarded ε String) = pure (method.line options.hideNumbers) := by
    intro method short
    rw [withoutNumber_eq short, MethodRef.line]
    cases options.hideNumbers <;> rfl
  have name := Nat.lt_of_le_of_lt bounded.name short
  rw [methodLine, MemberTable.methodLine]
  cases given : options.mapping with
  | none => exact rendered method name
  | some mapping =>
      obtain ⟨text, textShort, read⟩ := mapped mapping given
      dsimp only
      rw [restoreMethod_eq mapping bounded, pure_bind]
      exact rendered _
        (utf8ByteSize_restoreMethod_lt (Mapping.entriesFit_of_read read) textShort name)

theorem fieldLine_eq {field : FieldRef} (bounded : field.Bounded) :
    (fieldLine options field : Guarded ε String) = pure (MemberTable.fieldLine options field) := by
  rw [fieldLine, MemberTable.fieldLine]
  cases options.mapping with
  | none => rfl
  | some mapping =>
      dsimp only
      rw [restoreField_eq mapping bounded, pure_bind]

theorem lines_eq (mapped : FileFits options) (short : limit < 2 ^ 63) {table : MemberTable}
    (bounded : table.Bounded limit) :
    (lines options table : Guarded ε (List String)) = pure (table.lines options) := by
  rw [lines, MemberTable.lines, MemberTable.unsortedLines,
    mapM_pure fun method member => methodLine_eq mapped short (bounded.methods method member),
    mapM_pure fun field member => fieldLine_eq (bounded.fields field member)]
  cases options.selection.hasMethods <;> cases options.selection.hasFields <;> rfl

end

end Guarded

end DexMembers
