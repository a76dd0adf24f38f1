import DexMembers.Proofs.Image.Interning
import Mathlib.Data.List.Forall2
import Mathlib.Combinatorics.Enumerative.DoubleCounting

/-!
# The ids of a draft stand for what was declared

Each declaration adds one id that stands for it, and leaves the meaning of those before it as it
was.  The tables hold one entry for each type and each prototype that occurs in a declaration.
-/

set_option autoImplicit false

namespace DexMembers

/-! ### Lists related one by one -/

theorem exists_of_mem_left {α β : Type} {relates : α → β → Prop} {first : List α}
    {second : List β} (all : List.Forall₂ relates first second) {a : α} (member : a ∈ first) :
    ∃ b ∈ second, relates a b := by
  induction all with
  | nil => cases member
  | cons related _ ih =>
      rcases List.mem_cons.mp member with rfl | later
      · exact ⟨_, List.mem_cons_self .., related⟩
      · obtain ⟨b, inside, relation⟩ := ih later
        exact ⟨b, List.mem_cons_of_mem _ inside, relation⟩

theorem exists_of_mem_right {α β : Type} {relates : α → β → Prop} {first : List α}
    {second : List β} (all : List.Forall₂ relates first second) {b : β} (member : b ∈ second) :
    ∃ a ∈ first, relates a b :=
  exists_of_mem_left (List.Forall₂.flip (R := flip relates) all) member

/-! ### Declarations by kind -/

structure RawMethod where
  declaringType : String
  name : String
  parameters : List String
  returnType : String
deriving DecidableEq, Repr

structure RawField where
  declaringType : String
  name : String
  fieldType : String
deriving DecidableEq, Repr

namespace Declaration

def rawMethod? : Declaration → Option RawMethod
  | method declaringType name parameters returnType =>
      some { declaringType, name, parameters, returnType }
  | field .. => none

def rawField? : Declaration → Option RawField
  | method .. => none
  | field declaringType name fieldType => some { declaringType, name, fieldType }

def types : Declaration → List String
  | method declaringType _ parameters returnType => declaringType :: parameters ++ [returnType]
  | field declaringType _ fieldType => [declaringType, fieldType]

def prototype? : Declaration → Option (List String × String)
  | method _ _ parameters returnType => some (parameters, returnType)
  | field .. => none

end Declaration

namespace Draft

variable {tokens : List String} {shapes : List (List String × String)} {draft later : Draft}

structure MeansMethod (draft : Draft) (id : MethodId) (method : RawMethod) : Prop where
  declaring : draft.typeText? id.declaringType = some method.declaringType
  named : draft.strings.entries[id.name]? = some method.name
  shaped : ∃ prototype, draft.prototypes.entries[id.prototype]? = some prototype ∧
    draft.Spells prototype method.parameters method.returnType

structure MeansField (draft : Draft) (id : FieldId) (field : RawField) : Prop where
  declaring : draft.typeText? id.declaringType = some field.declaringType
  own : draft.typeText? id.fieldType = some field.fieldType
  named : draft.strings.entries[id.name]? = some field.name

theorem KeptIn.meansMethod (kept : draft.KeptIn later) {id : MethodId}
    {method : RawMethod} (means : draft.MeansMethod id method) : later.MeansMethod id method := by
  obtain ⟨prototype, entry, spelt⟩ := means.shaped
  exact ⟨kept.typeText? means.declaring, kept.strings _ _ means.named,
    prototype, kept.prototypes _ _ entry, kept.spells spelt⟩

theorem KeptIn.meansField (kept : draft.KeptIn later) {id : FieldId}
    {field : RawField} (means : draft.MeansField id field) : later.MeansField id field :=
  ⟨kept.typeText? means.declaring, kept.typeText? means.own, kept.strings _ _ means.named⟩

/-- The ids of the draft stand for the declarations, in their order. -/
structure Declares (draft : Draft) (declarations : List Declaration) : Prop where
  methods : List.Forall₂ draft.MeansMethod draft.methods.toList
    (declarations.filterMap Declaration.rawMethod?)
  fields : List.Forall₂ draft.MeansField draft.fields.toList
    (declarations.filterMap Declaration.rawField?)

theorem Declares.of_growsTo {declarations : List Declaration}
    (declares : draft.Declares declarations) (grows : draft.GrowsTo later) :
    later.Declares declarations := by
  constructor
  · rw [grows.methods]
    exact declares.methods.imp fun _ _ => grows.meansMethod
  · rw [grows.fields]
    exact declares.fields.imp fun _ _ => grows.meansField

structure Listed (tokens : List String) (shapes : List (List String × String))
    (declaration : Declaration) : Prop where
  types : ∀ token ∈ declaration.types, token ∈ tokens
  prototype : ∀ shape, declaration.prototype? = some shape → shape ∈ shapes

def addMethod (draft : Draft) (id : MethodId) : Draft :=
  { draft with methods := draft.methods.push id }

def addField (draft : Draft) (id : FieldId) : Draft :=
  { draft with fields := draft.fields.push id }

theorem keptIn_addMethod (draft : Draft) (id : MethodId) : draft.KeptIn (draft.addMethod id) :=
  ⟨fun _ _ found => found, fun _ _ found => found, fun _ _ found => found⟩

theorem keptIn_addField (draft : Draft) (id : FieldId) : draft.KeptIn (draft.addField id) :=
  ⟨fun _ _ found => found, fun _ _ found => found, fun _ _ found => found⟩

theorem Interned.addMethod (interned : draft.Interned tokens shapes) (id : MethodId) :
    (draft.addMethod id).Interned tokens shapes := by
  refine ⟨interned.strings, interned.types, interned.prototypes, interned.typed, ?_⟩
  intro number prototype entry
  obtain ⟨shape, listed, spelt⟩ := interned.shaped number prototype entry
  exact ⟨shape, listed, (draft.keptIn_addMethod id).spells spelt⟩

theorem Interned.addField (interned : draft.Interned tokens shapes) (id : FieldId) :
    (draft.addField id).Interned tokens shapes := by
  refine ⟨interned.strings, interned.types, interned.prototypes, interned.typed, ?_⟩
  intro number prototype entry
  obtain ⟨shape, listed, spelt⟩ := interned.shaped number prototype entry
  exact ⟨shape, listed, (draft.keptIn_addField id).spells spelt⟩

theorem Declares.addMethod {declarations : List Declaration} (declares : draft.Declares declarations)
    {id : MethodId} {method : RawMethod} (means : draft.MeansMethod id method)
    {declaration : Declaration} (isMethod : declaration.rawMethod? = some method)
    (noField : declaration.rawField? = none) :
    (draft.addMethod id).Declares (declarations ++ [declaration]) := by
  have kept := draft.keptIn_addMethod id
  have methods := declares.methods.imp fun _ _ => kept.meansMethod
  have fields := declares.fields.imp fun _ _ => kept.meansField
  constructor
  · rw [List.filterMap_append, List.filterMap_cons_some isMethod, Draft.addMethod,
      Array.toList_push]
    exact List.rel_append methods (.cons (kept.meansMethod means) .nil)
  · rw [List.filterMap_append, List.filterMap_cons_none noField, List.filterMap_nil,
      List.append_nil]
    exact fields

theorem Declares.addField {declarations : List Declaration} (declares : draft.Declares declarations)
    {id : FieldId} {field : RawField} (means : draft.MeansField id field)
    {declaration : Declaration} (isField : declaration.rawField? = some field)
    (noMethod : declaration.rawMethod? = none) :
    (draft.addField id).Declares (declarations ++ [declaration]) := by
  have kept := draft.keptIn_addField id
  have methods := declares.methods.imp fun _ _ => kept.meansMethod
  have fields := declares.fields.imp fun _ _ => kept.meansField
  constructor
  · rw [List.filterMap_append, List.filterMap_cons_none noMethod, List.filterMap_nil,
      List.append_nil]
    exact methods
  · rw [List.filterMap_append, List.filterMap_cons_some isField, Draft.addField,
      Array.toList_push]
    exact List.rel_append fields (.cons (kept.meansField means) .nil)

section Steps

variable {typed owned named last : Draft} {declaringType name fieldType returnType : String}
  {parameters : List String} {declaring own text prototype : Nat}

theorem declare_method (typeStep : draft.internType declaringType = (declaring, typed))
    (nameStep : typed.internString name = (text, named))
    (prototypeStep : named.internPrototype parameters returnType = (prototype, last)) :
    draft.declare (.method declaringType name parameters returnType) =
      last.addMethod { declaringType := declaring, prototype, name := text } := by
  simp only [declare, method, typeStep, nameStep, prototypeStep, addMethod]

theorem declare_field (typeStep : draft.internType declaringType = (declaring, typed))
    (ownStep : typed.internType fieldType = (own, owned))
    (nameStep : owned.internString name = (text, last)) :
    draft.declare (.field declaringType name fieldType) =
      last.addField { declaringType := declaring, fieldType := own, name := text } := by
  simp only [declare, field, typeStep, ownStep, nameStep, addField]

end Steps

theorem declare_step (interned : draft.Interned tokens shapes) {declarations : List Declaration}
    (declares : draft.Declares declarations) (declaration : Declaration)
    (listed : Listed tokens shapes declaration) :
    (draft.declare declaration).Interned tokens shapes ∧
      (draft.declare declaration).Declares (declarations ++ [declaration]) := by
  obtain ⟨types, shape⟩ := listed
  cases declaration with
  | method declaringType name parameters returnType =>
      -- three entries one after the other; the numbers of the earlier ones outlast the later
      simp only [Declaration.types, List.cons_append, List.mem_cons, List.mem_append,
        List.not_mem_nil, or_false] at types
      have taken : ∀ token ∈ parameters, token ∈ tokens :=
        fun token member => types token (Or.inr (Or.inl member))
      rcases typeStep : draft.internType declaringType with ⟨declaring, typed⟩
      rcases nameStep : typed.internString name with ⟨text, named⟩
      rcases prototypeStep : named.internPrototype parameters returnType with ⟨prototype, last⟩
      obtain ⟨first, declaringMeans⟩ :=
        enters_internType interned (types _ (Or.inl rfl)) typeStep
      obtain ⟨second, nameMeans⟩ := enters_internString first.interned nameStep
      obtain ⟨third, prototypeMeans⟩ := enters_internPrototype second.interned (shape _ rfl)
        (types _ (Or.inr (Or.inr rfl))) taken prototypeStep
      have means : last.MeansMethod { declaringType := declaring, prototype, name := text }
          { declaringType, name, parameters, returnType } :=
        ⟨(second.grows.trans third.grows).typeText? declaringMeans,
          third.grows.strings _ _ nameMeans, prototypeMeans⟩
      have old := declares.of_growsTo (first.grows.trans (second.grows.trans third.grows))
      rw [declare_method typeStep nameStep prototypeStep]
      exact ⟨third.interned.addMethod _, old.addMethod means rfl rfl⟩
  | field declaringType name fieldType =>
      simp only [Declaration.types, List.mem_cons, List.not_mem_nil, or_false] at types
      rcases typeStep : draft.internType declaringType with ⟨declaring, typed⟩
      rcases ownStep : typed.internType fieldType with ⟨own, owned⟩
      rcases nameStep : owned.internString name with ⟨text, last⟩
      obtain ⟨first, declaringMeans⟩ :=
        enters_internType interned (types _ (Or.inl rfl)) typeStep
      obtain ⟨second, ownMeans⟩ :=
        enters_internType first.interned (types _ (Or.inr rfl)) ownStep
      obtain ⟨third, nameMeans⟩ := enters_internString second.interned nameStep
      have means : last.MeansField { declaringType := declaring, fieldType := own, name := text }
          { declaringType, name, fieldType } :=
        ⟨(second.grows.trans third.grows).typeText? declaringMeans,
          third.grows.typeText? ownMeans, nameMeans⟩
      have old := declares.of_growsTo (first.grows.trans (second.grows.trans third.grows))
      rw [declare_field typeStep ownStep nameStep]
      exact ⟨third.interned.addField _, old.addField means rfl rfl⟩

theorem interned_empty : ({} : Draft).Interned tokens shapes where
  strings := Interner.Indexes.empty
  types := Interner.Indexes.empty
  prototypes := Interner.Indexes.empty
  typed number inside := absurd inside (Nat.not_lt_zero number)
  shaped number prototype found := by cases found

theorem foldl_declare (declarations : List Declaration)
    (listed : ∀ declaration ∈ declarations, Listed tokens shapes declaration)
    {earlier : List Declaration} (interned : draft.Interned tokens shapes)
    (declares : draft.Declares earlier) :
    (declarations.foldl declare draft).Interned tokens shapes ∧
      (declarations.foldl declare draft).Declares (earlier ++ declarations) := by
  induction declarations generalizing draft earlier with
  | nil =>
      rw [List.append_nil]
      exact ⟨interned, declares⟩
  | cons declaration rest ih =>
      simp only [List.mem_cons, forall_eq_or_imp] at listed
      obtain ⟨entered, declared⟩ := declare_step interned declares declaration listed.1
      have later := ih listed.2 entered declared
      rw [List.append_assoc, List.singleton_append] at later
      exact later

def declaredTypes (declarations : List Declaration) : List String :=
  declarations.flatMap Declaration.types

def declaredPrototypes (declarations : List Declaration) : List (List String × String) :=
  declarations.filterMap Declaration.prototype?

theorem listed_declared {declarations : List Declaration} {declaration : Declaration}
    (member : declaration ∈ declarations) :
    Listed (declaredTypes declarations) (declaredPrototypes declarations) declaration where
  types _ inside := List.mem_flatMap.mpr ⟨declaration, member, inside⟩
  prototype _ isShape := List.mem_filterMap.mpr ⟨declaration, member, isShape⟩

/-- The draft of any declarations keeps the invariant and enters them all. -/
theorem ofDeclarations_spec (declarations : List Declaration) :
    (ofDeclarations declarations).Interned (declaredTypes declarations)
        (declaredPrototypes declarations) ∧
      (ofDeclarations declarations).Declares declarations := by
  have nothing : ({} : Draft).Declares [] := ⟨.nil, .nil⟩
  exact foldl_declare declarations (fun _ member => listed_declared member) interned_empty nothing

/-! ### Sizes -/

theorem typeText?_lt {number : Nat} {token : String} (known : draft.typeText? number = some token) :
    number < draft.types.entries.size := by
  obtain ⟨text, entry, _⟩ := Option.bind_eq_some_iff.mp known
  exact (Array.getElem?_eq_some_iff.mp entry).1

theorem lt_of_mem_map_typeText? {numbers : List Nat} {parameters : List String}
    (known : numbers.map draft.typeText? = parameters.map some) {number : Nat}
    (member : number ∈ numbers) : number < draft.types.entries.size := by
  have mapped : draft.typeText? number ∈ parameters.map some := by
    rw [← known]
    exact List.mem_map_of_mem member
  obtain ⟨token, _, text⟩ := List.mem_map.mp mapped
  exact typeText?_lt text.symm

theorem Interned.typeText?_inj (interned : draft.Interned tokens shapes) {first second : Nat}
    {token : String} (firstKnown : draft.typeText? first = some token)
    (secondKnown : draft.typeText? second = some token) : first = second := by
  have firstFound := (interned.types token first).mpr firstKnown
  rw [(interned.types token second).mpr secondKnown] at firstFound
  exact (Option.some.inj firstFound).symm

theorem Interned.map_typeText?_inj (interned : draft.Interned tokens shapes)
    {first second : List Nat} {parameters : List String}
    (firstKnown : first.map draft.typeText? = parameters.map some)
    (secondKnown : second.map draft.typeText? = parameters.map some) : first = second := by
  induction parameters generalizing first second with
  | nil =>
      rw [List.map_nil, List.map_eq_nil_iff] at firstKnown secondKnown
      rw [firstKnown, secondKnown]
  | cons token rest ih =>
      obtain ⟨firstHead, firstTail, rfl, headKnown, tailKnown⟩ := List.map_eq_cons_iff.mp firstKnown
      obtain ⟨secondHead, secondTail, rfl, otherHead, otherTail⟩ :=
        List.map_eq_cons_iff.mp secondKnown
      rw [interned.typeText?_inj headKnown otherHead, ih tailKnown otherTail]

theorem Interned.size_types_le (interned : draft.Interned tokens shapes) :
    draft.types.entries.size ≤ tokens.toFinset.card := by
  have card := Finset.card_le_card_of_forall_subsingleton
    (fun number token => draft.typeText? number = some token) (s := .range draft.types.entries.size)
    (t := tokens.toFinset)
  rw [Finset.card_range] at card
  apply card
  · intro number inside
    obtain ⟨token, listed, known⟩ := interned.typed number (Finset.mem_range.mp inside)
    exact ⟨token, List.mem_toFinset.mpr listed, known⟩
  · intro token _ first firstKnown second secondKnown
    exact interned.typeText?_inj firstKnown.2 secondKnown.2

theorem Interned.size_prototypes_le (interned : draft.Interned tokens shapes) :
    draft.prototypes.entries.size ≤ shapes.toFinset.card := by
  have card := Finset.card_le_card_of_forall_subsingleton
    (fun number shape => ∃ prototype, draft.prototypes.entries[number]? = some prototype ∧
      draft.Spells prototype shape.1 shape.2)
    (s := .range draft.prototypes.entries.size) (t := shapes.toFinset)
  rw [Finset.card_range] at card
  apply card
  · intro number inside
    have entry := Array.getElem?_eq_getElem (Finset.mem_range.mp inside)
    obtain ⟨shape, listed, spelt⟩ := interned.shaped number _ entry
    exact ⟨shape, List.mem_toFinset.mpr listed, _, entry, spelt⟩
  · intro shape _ first firstKnown second secondKnown
    obtain ⟨_, firstPrototype, firstEntry, firstSpelt⟩ := firstKnown
    obtain ⟨_, secondPrototype, secondEntry, secondSpelt⟩ := secondKnown
    -- prototypes of one shape have the same numbers, and those have one entry
    have returned := interned.typeText?_inj firstSpelt.returned secondSpelt.returned
    have taken := interned.map_typeText?_inj firstSpelt.taken secondSpelt.taken
    have firstKey : draft.prototypeKey? first =
        some (firstPrototype.returnType, firstPrototype.parameters) := by
      rw [prototypeKey?, firstEntry]
      rfl
    have secondKey : draft.prototypeKey? second =
        some (firstPrototype.returnType, firstPrototype.parameters) := by
      rw [prototypeKey?, secondEntry, returned, taken]
      rfl
    have found := (interned.prototypes _ first).mpr firstKey
    rw [(interned.prototypes _ second).mpr secondKey] at found
    exact (Option.some.inj found).symm

end Draft

end DexMembers
