import DexMembers.Image.Item
import Std.Data.HashMap

/-!
# Images under construction

A draft collects references to members.  Strings, types and prototypes are shared: each is entered
once, when it is first needed, and entries are only ever appended, so a number once given out keeps
its meaning.  Methods and fields keep the order of their declarations, and nothing about a
descriptor is checked.
-/

set_option autoImplicit false

namespace DexMembers

structure Interner (κ ε : Type) [BEq κ] [Hashable κ] where
  entries : Array ε := #[]
  index : Std.HashMap κ Nat := {}

namespace Interner

variable {κ ε : Type} [BEq κ] [Hashable κ]

def find? (table : Interner κ ε) (key : κ) : Option Nat :=
  table.index[key]?

def add (table : Interner κ ε) (key : κ) (entry : ε) : Interner κ ε :=
  { entries := table.entries.push entry
    index := table.index.insert key table.entries.size }

end Interner

structure Draft where
  strings : Interner String String := {}
  /-- Types by descriptor; an entry is the number of the descriptor's string. -/
  types : Interner String Nat := {}
  /-- Prototypes by return type and parameter types. -/
  prototypes : Interner (Nat × List Nat) Prototype := {}
  fields : Array FieldId := #[]
  methods : Array MethodId := #[]

inductive Declaration where
  | method (declaringType name : String) (parameters : List String) (returnType : String)
  | field (declaringType name fieldType : String)
deriving DecidableEq, Repr

namespace Draft

/-- The letter that stands for a type in a shorty: `L` for whatever is no primitive, and `V` for
the empty descriptor. -/
def shortyLetter (descriptor : String) : Char :=
  match descriptor.toList with
  | [] => 'V'
  | c :: _ => if c = '[' then 'L' else c

/-- The short form of a method's types: a letter for the return type, then one per parameter. -/
def shorty (parameters : List String) (returnType : String) : String :=
  String.ofList ((returnType :: parameters).map shortyLetter)

def internString (draft : Draft) (value : String) : Nat × Draft :=
  match draft.strings.find? value with
  | some number => (number, draft)
  | none =>
      (draft.strings.entries.size, { draft with strings := draft.strings.add value value })

def internType (draft : Draft) (descriptor : String) : Nat × Draft :=
  match draft.types.find? descriptor with
  | some number => (number, draft)
  | none =>
      let (text, draft) := draft.internString descriptor
      (draft.types.entries.size, { draft with types := draft.types.add descriptor text })

def internTypes (draft : Draft) : List String → List Nat × Draft
  | [] => ([], draft)
  | descriptor :: rest =>
      let (number, draft) := draft.internType descriptor
      let (numbers, draft) := draft.internTypes rest
      (number :: numbers, draft)

def internPrototype (draft : Draft) (parameters : List String) (returnType : String) :
    Nat × Draft :=
  let (returned, draft) := draft.internType returnType
  let (taken, draft) := draft.internTypes parameters
  match draft.prototypes.find? (returned, taken) with
  | some number => (number, draft)
  | none =>
      let (short, draft) := draft.internString (shorty parameters returnType)
      let entry := { shorty := short, returnType := returned, parameters := taken : Prototype }
      (draft.prototypes.entries.size,
        { draft with prototypes := draft.prototypes.add (returned, taken) entry })

def method (draft : Draft) (declaringType name : String) (parameters : List String)
    (returnType : String) : Draft :=
  let (declaring, draft) := draft.internType declaringType
  let (text, draft) := draft.internString name
  let (prototype, draft) := draft.internPrototype parameters returnType
  { draft with
    methods := draft.methods.push { declaringType := declaring, prototype, name := text } }

def field (draft : Draft) (declaringType name fieldType : String) : Draft :=
  let (declaring, draft) := draft.internType declaringType
  let (own, draft) := draft.internType fieldType
  let (text, draft) := draft.internString name
  { draft with
    fields := draft.fields.push { declaringType := declaring, fieldType := own, name := text } }

def declare (draft : Draft) : Declaration → Draft
  | .method declaringType name parameters returnType =>
      draft.method declaringType name parameters returnType
  | .field declaringType name fieldType => draft.field declaringType name fieldType

def ofDeclarations (declarations : List Declaration) : Draft :=
  declarations.foldl declare {}

end Draft

end DexMembers
