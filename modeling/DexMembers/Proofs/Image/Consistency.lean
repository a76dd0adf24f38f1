import DexMembers.Proofs.Image.Declared
import Mathlib.Data.List.Nodup

/-!
# Tables without repetition

After any declarations the tables of a draft hold each string, type and prototype once, their
indices find each by what it stands for, and the ids stand for the declarations.  Declarations only
append to the tables.
-/

set_option autoImplicit false

namespace DexMembers

theorem getElem?_lt {α : Type} {entries : Array α} {number : Nat} {entry : α}
    (found : entries[number]? = some entry) : number < entries.size :=
  (Array.getElem?_eq_some_iff.mp found).1

theorem Interner.Indexes.nodup {κ ε : Type} [BEq κ] [Hashable κ] {table : Interner κ ε}
    {keys : List κ} (indexes : table.Indexes fun number => keys[number]?) : keys.Nodup := by
  rw [List.nodup_iff_getElem?_ne_getElem?]
  intro first second before inside same
  have key := List.getElem?_eq_getElem inside
  have secondFound := (indexes keys[second] second).mpr key
  rw [(indexes keys[second] first).mpr (same.trans key)] at secondFound
  exact Nat.ne_of_lt before (Option.some.inj secondFound)

namespace Draft

variable {tokens : List String} {shapes : List (List String × String)} {draft later last : Draft}
  {declarations : List Declaration}

/-! ### Numbers in range, and no entry twice -/

/-- Every number in the tables of types and prototypes is that of an entry. -/
structure InRange (draft : Draft) : Prop where
  types : ∀ text ∈ draft.types.entries, text < draft.strings.entries.size
  shorties : ∀ prototype ∈ draft.prototypes.entries,
    prototype.shorty < draft.strings.entries.size
  returnTypes : ∀ prototype ∈ draft.prototypes.entries,
    prototype.returnType < draft.types.entries.size
  parameters : ∀ prototype ∈ draft.prototypes.entries,
    ∀ parameter ∈ prototype.parameters, parameter < draft.types.entries.size

/-- No string, type or prototype is entered twice; prototypes differ in their types. -/
structure Distinct (draft : Draft) : Prop where
  strings : draft.strings.entries.toList.Nodup
  types : draft.types.entries.toList.Nodup
  prototypes :
    (draft.prototypes.entries.toList.map fun prototype =>
      (prototype.returnType, prototype.parameters)).Nodup

theorem Interned.spells_of_mem (interned : draft.Interned tokens shapes) {prototype : Prototype}
    (member : prototype ∈ draft.prototypes.entries) :
    ∃ shape ∈ shapes, draft.Spells prototype shape.1 shape.2 := by
  obtain ⟨number, entry⟩ := Array.mem_iff_getElem?.mp member
  exact interned.shaped number prototype entry

theorem Interned.inRange (interned : draft.Interned tokens shapes) : draft.InRange := by
  refine ⟨?_, ?_, ?_, ?_⟩
  · intro text member
    obtain ⟨number, entry⟩ := Array.mem_iff_getElem?.mp member
    obtain ⟨token, _, known⟩ := interned.typed number (getElem?_lt entry)
    obtain ⟨other, otherEntry, string⟩ := Option.bind_eq_some_iff.mp known
    rw [entry, Option.some.injEq] at otherEntry
    rw [otherEntry]
    exact getElem?_lt string
  · intro prototype member
    obtain ⟨shape, _, spelt⟩ := interned.spells_of_mem member
    obtain ⟨text, entry, _⟩ := spelt.short
    exact getElem?_lt entry
  · intro prototype member
    obtain ⟨shape, _, spelt⟩ := interned.spells_of_mem member
    exact typeText?_lt spelt.returned
  · intro prototype member parameter taken
    obtain ⟨shape, _, spelt⟩ := interned.spells_of_mem member
    exact lt_of_mem_map_typeText? spelt.taken taken

theorem Interned.distinct (interned : draft.Interned tokens shapes) : draft.Distinct := by
  refine ⟨?_, ?_, ?_⟩
  · have indexes : draft.strings.Indexes fun number => draft.strings.entries.toList[number]? := by
      intro value number
      dsimp only
      rw [Array.getElem?_toList]
      exact interned.strings value number
    exact indexes.nodup
  · rw [List.nodup_iff_getElem?_ne_getElem?]
    intro first second before inside same
    rw [Array.getElem?_toList, Array.getElem?_toList] at same
    obtain ⟨token, _, known⟩ := interned.typed second inside
    have firstKnown : draft.typeText? first = some token := by
      rw [← known, typeText?, typeText?, same]
    exact Nat.ne_of_lt before (interned.typeText?_inj firstKnown known)
  · have indexes : draft.prototypes.Indexes fun number =>
        (draft.prototypes.entries.toList.map fun prototype =>
          (prototype.returnType, prototype.parameters))[number]? := by
      intro key number
      dsimp only
      rw [List.getElem?_map, Array.getElem?_toList]
      exact interned.prototypes key number
    exact indexes.nodup

/-! ### Which types are entered -/

theorem Declares.exists_typeText? (declares : draft.Declares declarations) {token : String}
    (listed : token ∈ declaredTypes declarations) :
    ∃ number, draft.typeText? number = some token := by
  obtain ⟨declaration, member, occurs⟩ := List.mem_flatMap.mp listed
  cases declaration with
  | method declaringType name parameters returnType =>
      obtain ⟨id, _, means⟩ := exists_of_mem_right declares.methods
        (List.mem_filterMap.mpr ⟨_, member, rfl⟩)
      obtain ⟨prototype, _, spelt⟩ := means.shaped
      simp only [Declaration.types, List.cons_append, List.mem_cons, List.mem_append,
        List.not_mem_nil, or_false] at occurs
      rcases occurs with rfl | taken | rfl
      · exact ⟨_, means.declaring⟩
      · have among : some token ∈ prototype.parameters.map draft.typeText? := by
          rw [spelt.taken]
          exact List.mem_map_of_mem taken
        obtain ⟨number, _, known⟩ := List.mem_map.mp among
        exact ⟨number, known⟩
      · exact ⟨_, spelt.returned⟩
  | field declaringType name fieldType =>
      obtain ⟨id, _, means⟩ := exists_of_mem_right declares.fields
        (List.mem_filterMap.mpr ⟨_, member, rfl⟩)
      simp only [Declaration.types, List.mem_cons, List.not_mem_nil, or_false] at occurs
      rcases occurs with rfl | rfl
      · exact ⟨_, means.declaring⟩
      · exact ⟨_, means.own⟩

theorem Interned.mem_of_typeText? (interned : draft.Interned tokens shapes) {number : Nat}
    {token : String} (known : draft.typeText? number = some token) : token ∈ tokens := by
  obtain ⟨other, listed, otherKnown⟩ := interned.typed number (typeText?_lt known)
  rw [known, Option.some.injEq] at otherKnown
  rwa [otherKnown]

/-! ### Declarations append -/

structure AppendedTo (draft later : Draft) : Prop where
  strings : draft.strings.entries.toList <+: later.strings.entries.toList
  types : draft.types.entries.toList <+: later.types.entries.toList
  prototypes : draft.prototypes.entries.toList <+: later.prototypes.entries.toList
  fields : draft.fields.toList <+: later.fields.toList
  methods : draft.methods.toList <+: later.methods.toList

theorem appended_of_kept {α : Type} {entries others : Array α}
    (kept : ∀ (number : Nat) entry, entries[number]? = some entry → others[number]? = some entry) :
    entries.toList <+: others.toList := by
  rw [List.prefix_iff_getElem?]
  intro number inside
  rw [Array.getElem?_toList, Array.getElem_toList]
  exact kept number _ (Array.getElem?_eq_getElem inside)

theorem kept_of_appended {α : Type} {entries others : Array α}
    (appended : entries.toList <+: others.toList) (number : Nat) (entry : α)
    (found : entries[number]? = some entry) : others[number]? = some entry := by
  obtain ⟨inside, rfl⟩ := Array.getElem?_eq_some_iff.mp found
  rw [← Array.getElem?_toList]
  exact List.prefix_iff_getElem?.mp appended number inside

namespace AppendedTo

theorem refl (draft : Draft) : draft.AppendedTo draft :=
  ⟨List.prefix_refl _, List.prefix_refl _, List.prefix_refl _, List.prefix_refl _,
    List.prefix_refl _⟩

theorem trans (first : draft.AppendedTo later) (second : later.AppendedTo last) :
    draft.AppendedTo last :=
  ⟨first.strings.trans second.strings, first.types.trans second.types,
    first.prototypes.trans second.prototypes, first.fields.trans second.fields,
    first.methods.trans second.methods⟩

theorem keptIn (appended : draft.AppendedTo later) : draft.KeptIn later :=
  ⟨kept_of_appended appended.strings, kept_of_appended appended.types,
    kept_of_appended appended.prototypes⟩

end AppendedTo

theorem GrowsTo.appendedTo (grows : draft.GrowsTo later) : draft.AppendedTo later where
  strings := appended_of_kept grows.strings
  types := appended_of_kept grows.types
  prototypes := appended_of_kept grows.prototypes
  fields := grows.fields ▸ List.prefix_refl _
  methods := grows.methods ▸ List.prefix_refl _

theorem appendedTo_addMethod (draft : Draft) (id : MethodId) :
    draft.AppendedTo (draft.addMethod id) := by
  have methods : draft.methods.toList <+: (draft.addMethod id).methods.toList := by
    rw [addMethod, Array.toList_push]
    exact List.prefix_append _ _
  exact { AppendedTo.refl draft with methods }

theorem appendedTo_addField (draft : Draft) (id : FieldId) :
    draft.AppendedTo (draft.addField id) := by
  have fields : draft.fields.toList <+: (draft.addField id).fields.toList := by
    rw [addField, Array.toList_push]
    exact List.prefix_append _ _
  exact { AppendedTo.refl draft with fields }

theorem appendedTo_declare (draft : Draft) (declaration : Declaration) :
    draft.AppendedTo (draft.declare declaration) := by
  cases declaration with
  | method declaringType name parameters returnType =>
      have grows := (draft.growsTo_internType declaringType).trans
        ((growsTo_internString _ name).trans (growsTo_internPrototype _ parameters returnType))
      rw [declare_method (Prod.eta _).symm (Prod.eta _).symm (Prod.eta _).symm]
      exact grows.appendedTo.trans (appendedTo_addMethod _ _)
  | field declaringType name fieldType =>
      have grows := (draft.growsTo_internType declaringType).trans
        ((growsTo_internType _ fieldType).trans (growsTo_internString _ name))
      rw [declare_field (Prod.eta _).symm (Prod.eta _).symm (Prod.eta _).symm]
      exact grows.appendedTo.trans (appendedTo_addField _ _)

theorem appendedTo_foldl_declare (draft : Draft) (more : List Declaration) :
    draft.AppendedTo (more.foldl declare draft) := by
  induction more generalizing draft with
  | nil => exact AppendedTo.refl draft
  | cons declaration more ih => exact (draft.appendedTo_declare declaration).trans (ih _)

theorem appendedTo_ofDeclarations_append (declarations more : List Declaration) :
    (ofDeclarations declarations).AppendedTo (ofDeclarations (declarations ++ more)) := by
  rw [ofDeclarations, ofDeclarations, List.foldl_append]
  exact appendedTo_foldl_declare _ more

/-- What the indices of a draft find, those of the other find under the same numbers. -/
structure FoundIn (draft later : Draft) : Prop where
  strings : ∀ value number, draft.strings.find? value = some number →
    later.strings.find? value = some number
  types : ∀ token number, draft.types.find? token = some number →
    later.types.find? token = some number
  prototypes : ∀ key number, draft.prototypes.find? key = some number →
    later.prototypes.find? key = some number

theorem Interned.foundIn {others : List String} {otherShapes : List (List String × String)}
    (interned : draft.Interned tokens shapes) (entered : later.Interned others otherShapes)
    (kept : draft.KeptIn later) : draft.FoundIn later := by
  refine ⟨?_, ?_, ?_⟩
  · intro value number found
    exact (entered.strings value number).mpr
      (kept.strings _ _ ((interned.strings value number).mp found))
  · intro token number found
    exact (entered.types token number).mpr (kept.typeText? ((interned.types token number).mp found))
  · intro key number found
    obtain ⟨prototype, entry, same⟩ :=
      Option.map_eq_some_iff.mp ((interned.prototypes key number).mp found)
    exact (entered.prototypes key number).mpr
      (Option.map_eq_some_iff.mpr ⟨prototype, kept.prototypes _ _ entry, same⟩)

/-- The draft of any declarations holds each string, type and prototype once, with all numbers in
range; its indices find exactly the entries, each by its text or its types; every prototype has the
short form of its types; the types are those that were declared; the ids stand for the declarations,
in their order.  Further declarations append to the tables and leave every number its meaning. -/
theorem ofDeclarations_consistent (declarations : List Declaration) :
    let draft := ofDeclarations declarations
    draft.Distinct ∧ draft.InRange ∧
    (∀ value number, draft.strings.find? value = some number ↔
      draft.strings.entries[number]? = some value) ∧
    (∀ token number, draft.types.find? token = some number ↔
      draft.typeText? number = some token) ∧
    (∀ key number, draft.prototypes.find? key = some number ↔
      ∃ prototype, draft.prototypes.entries[number]? = some prototype ∧
        (prototype.returnType, prototype.parameters) = key) ∧
    (∀ prototype ∈ draft.prototypes.entries, ∃ shape ∈ declaredPrototypes declarations,
      draft.Spells prototype shape.1 shape.2) ∧
    (∀ token, (∃ number, draft.types.find? token = some number) ↔
      token ∈ declaredTypes declarations) ∧
    draft.Declares declarations ∧
    (∀ more, draft.AppendedTo (ofDeclarations (declarations ++ more)) ∧
      draft.FoundIn (ofDeclarations (declarations ++ more))) := by
  intro draft
  obtain ⟨interned, declares⟩ := ofDeclarations_spec declarations
  refine ⟨interned.distinct, interned.inRange, interned.strings, interned.types, ?prototypes,
    fun _ => interned.spells_of_mem, ?declared, declares, ?later⟩
  case prototypes =>
    intro key number
    rw [interned.prototypes key number]
    exact Option.map_eq_some_iff
  case declared =>
    intro token
    constructor
    · rintro ⟨number, found⟩
      exact interned.mem_of_typeText? ((interned.types token number).mp found)
    · intro listed
      obtain ⟨number, known⟩ := declares.exists_typeText? listed
      exact ⟨number, (interned.types token number).mpr known⟩
  case later =>
    intro more
    have appended := appendedTo_ofDeclarations_append declarations more
    exact ⟨appended, interned.foundIn (ofDeclarations_spec _).1 appended.keptIn⟩

/-- A method that takes an array and a number and returns nothing. -/
theorem ofDeclarations_consistent_array_parameter :
    let draft := ofDeclarations [.method "LA;" "m" ["[I", "J"] "V"]
    ∃ id prototype, draft.methods.toList = [id] ∧
      draft.prototypes.entries[id.prototype]? = some prototype ∧
      draft.strings.entries[prototype.shorty]? = some "VLJ" := by
  intro draft
  obtain ⟨_, _, _, _, _, _, _, declares, _⟩ :=
    ofDeclarations_consistent [.method "LA;" "m" ["[I", "J"] "V"]
  obtain ⟨id, ids, means, none, only⟩ := List.forall₂_cons_right_iff.mp declares.methods
  obtain rfl := List.forall₂_nil_right_iff.mp none
  obtain ⟨prototype, entry, spelt⟩ := means.shaped
  obtain ⟨text, short, letters⟩ := spelt.short
  have spelling : text = "VLJ" := (letters_iff.mp letters).trans (by decide)
  exact ⟨id, prototype, only, entry, spelling ▸ short⟩

end Draft

end DexMembers
