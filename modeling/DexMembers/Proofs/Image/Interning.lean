import DexMembers.Image.Draft
import Mathlib.Data.List.Forall2

/-!
# What the numbers of a draft stand for

A table and its index are inverse to each other, and tables only grow, so a number once given out
keeps its meaning.  Hence the ids of a draft stand for the references that were declared, in their
order.
-/

set_option autoImplicit false

namespace DexMembers

/-! ### Tables and their indices -/

namespace Interner

variable {κ ε : Type} [BEq κ] [Hashable κ]

/-- The index finds exactly the keys that the entries have, by their numbers. -/
def Indexes (table : Interner κ ε) (keyAt? : Nat → Option κ) : Prop :=
  ∀ key number, table.find? key = some number ↔ keyAt? number = some key

theorem getElem?_entries_add (table : Interner κ ε) (key : κ) (entry : ε) (number : Nat) :
    (table.add key entry).entries[number]? =
      if number = table.entries.size then some entry else table.entries[number]? :=
  Array.getElem?_push

theorem getElem?_add_of_old {table : Interner κ ε} {number : Nat} {old : ε}
    (found : table.entries[number]? = some old) (key : κ) (entry : ε) :
    (table.add key entry).entries[number]? = some old := by
  have inside : number ≠ table.entries.size := by
    rintro rfl
    simp at found
  rw [getElem?_entries_add, if_neg inside, found]

theorem Indexes.empty [EquivBEq κ] [LawfulHashable κ] :
    ({} : Interner κ ε).Indexes fun _ => none := by
  intro key number
  simp [find?]

variable [LawfulBEq κ] [LawfulHashable κ]

theorem find?_add (table : Interner κ ε) (key other : κ) (entry : ε) :
    (table.add key entry).find? other =
      if key == other then some table.entries.size else table.find? other :=
  Std.HashMap.getElem?_insert

theorem Indexes.add {table : Interner κ ε} {keyAt? later? : Nat → Option κ}
    (indexes : table.Indexes keyAt?) {key : κ} (new : table.find? key = none)
    (fresh : keyAt? table.entries.size = none)
    (added : ∀ number, later? number =
      if number = table.entries.size then some key else keyAt? number) (entry : ε) :
    (table.add key entry).Indexes later? := by
  intro other number
  rw [find?_add, added]
  by_cases same : key = other
  · subst same
    rw [if_pos (beq_self_eq_true key), Option.some.injEq]
    constructor
    · intro last
      rw [if_pos last.symm]
    · intro found
      split at found
      · rename_i last
        exact last.symm
      · rw [← indexes key number, new] at found
        cases found
  · rw [if_neg (by simpa using same), indexes other number]
    constructor
    · intro found
      have old : number ≠ table.entries.size := by
        rintro rfl
        rw [fresh] at found
        cases found
      rw [if_neg old, found]
    · intro found
      split at found
      · exact absurd (Option.some.inj found) same
      · exact found

end Interner

namespace Draft

/-! ### The meaning of numbers -/

def typeText? (draft : Draft) (number : Nat) : Option String :=
  draft.types.entries[number]?.bind fun text => draft.strings.entries[text]?

def prototypeKey? (draft : Draft) (number : Nat) : Option (Nat × List Nat) :=
  draft.prototypes.entries[number]?.map fun prototype =>
    (prototype.returnType, prototype.parameters)

/-- The letter for a descriptor in a short form: `L` for an array, `V` for nothing at all, and else
the character it starts with. -/
inductive ShortFor : String → Char → Prop
  | empty : ShortFor "" 'V'
  | array {descriptor : String} {rest : List Char} (starts : descriptor.toList = '[' :: rest) :
      ShortFor descriptor 'L'
  | other {descriptor : String} {first : Char} {rest : List Char}
      (starts : descriptor.toList = first :: rest) (single : first ≠ '[') :
      ShortFor descriptor first

/-- The prototype stands for the given types, and its short form has a letter for the return type
and then one for each parameter. -/
structure Spells (draft : Draft) (prototype : Prototype) (parameters : List String)
    (returnType : String) : Prop where
  returned : draft.typeText? prototype.returnType = some returnType
  taken : prototype.parameters.map draft.typeText? = parameters.map some
  short : ∃ text, draft.strings.entries[prototype.shorty]? = some text ∧
    List.Forall₂ ShortFor (returnType :: parameters) text.toList

/-- Each table and its index are inverse to each other.  All types are among the given `tokens`, and
all prototypes stand for one of the given `shapes`. -/
structure Interned (tokens : List String) (shapes : List (List String × String))
    (draft : Draft) : Prop where
  strings : draft.strings.Indexes fun number => draft.strings.entries[number]?
  types : draft.types.Indexes draft.typeText?
  prototypes : draft.prototypes.Indexes draft.prototypeKey?
  typed : ∀ number < draft.types.entries.size, ∃ token ∈ tokens,
    draft.typeText? number = some token
  shaped : ∀ (number : Nat) prototype, draft.prototypes.entries[number]? = some prototype →
    ∃ shape ∈ shapes, draft.Spells prototype shape.1 shape.2

structure KeptIn (draft later : Draft) : Prop where
  strings : ∀ (number : Nat) value, draft.strings.entries[number]? = some value →
    later.strings.entries[number]? = some value
  types : ∀ (number : Nat) text, draft.types.entries[number]? = some text →
    later.types.entries[number]? = some text
  prototypes : ∀ (number : Nat) prototype, draft.prototypes.entries[number]? = some prototype →
    later.prototypes.entries[number]? = some prototype

/-- Entries may be added to the tables, but no reference. -/
structure GrowsTo (draft later : Draft) : Prop extends draft.KeptIn later where
  fields : later.fields = draft.fields
  methods : later.methods = draft.methods

variable {later last : Draft} {tokens : List String} {shapes : List (List String × String)}
  {draft : Draft}

namespace GrowsTo

theorem refl (draft : Draft) : draft.GrowsTo draft :=
  ⟨⟨fun _ _ found => found, fun _ _ found => found, fun _ _ found => found⟩, rfl, rfl⟩

theorem trans (first : draft.GrowsTo later) (second : later.GrowsTo last) : draft.GrowsTo last where
  strings number value found := second.strings number value (first.strings number value found)
  types number text found := second.types number text (first.types number text found)
  prototypes number prototype found :=
    second.prototypes number prototype (first.prototypes number prototype found)
  fields := second.fields.trans first.fields
  methods := second.methods.trans first.methods

end GrowsTo

namespace KeptIn

theorem typeText? (kept : draft.KeptIn later) {number : Nat} {token : String}
    (known : draft.typeText? number = some token) : later.typeText? number = some token := by
  obtain ⟨text, entry, string⟩ := Option.bind_eq_some_iff.mp known
  exact Option.bind_eq_some_iff.mpr
    ⟨text, kept.types number text entry, kept.strings text token string⟩

theorem map_typeText? (kept : draft.KeptIn later) {numbers : List Nat} {tokens : List String}
    (known : numbers.map draft.typeText? = tokens.map some) :
    numbers.map later.typeText? = tokens.map some := by
  induction numbers generalizing tokens with
  | nil => exact known
  | cons number numbers ih =>
      cases tokens with
      | nil => cases known
      | cons token tokens =>
          simp only [List.map_cons, List.cons.injEq] at known ⊢
          exact ⟨kept.typeText? known.1, ih known.2⟩

theorem spells (kept : draft.KeptIn later) {prototype : Prototype} {parameters : List String}
    {returnType : String} (spelt : draft.Spells prototype parameters returnType) :
    later.Spells prototype parameters returnType where
  returned := kept.typeText? spelt.returned
  taken := kept.map_typeText? spelt.taken
  short :=
    let ⟨text, entry, letters⟩ := spelt.short
    ⟨text, kept.strings _ _ entry, letters⟩

end KeptIn

/-! ### Entering strings and types -/

@[simp] theorem types_internString (draft : Draft) (value : String) :
    (draft.internString value).2.types = draft.types := by
  rw [internString]
  split <;> rfl

@[simp] theorem prototypes_internString (draft : Draft) (value : String) :
    (draft.internString value).2.prototypes = draft.prototypes := by
  rw [internString]
  split <;> rfl

theorem growsTo_internString (draft : Draft) (value : String) :
    draft.GrowsTo (draft.internString value).2 where
  strings number text found := by
    rw [internString]
    split
    · exact found
    · exact Interner.getElem?_add_of_old found value value
  types number text found := by rw [types_internString, found]
  prototypes number prototype found := by rw [prototypes_internString, found]
  fields := by
    rw [internString]
    split <;> rfl
  methods := by
    rw [internString]
    split <;> rfl

theorem typeText?_eq_of_growsTo (interned : draft.Interned tokens shapes)
    (grows : draft.GrowsTo later) (same : later.types = draft.types) :
    later.typeText? = draft.typeText? := by
  funext number
  by_cases inside : number < draft.types.entries.size
  · obtain ⟨token, _, known⟩ := interned.typed number inside
    rw [known, grows.typeText? known]
  · have none : draft.types.entries[number]? = none :=
      Array.getElem?_eq_none (Nat.le_of_not_lt inside)
    rw [typeText?, typeText?, same, none]
    rfl

theorem Interned.internString (interned : draft.Interned tokens shapes) (value : String) :
    (draft.internString value).2.Interned tokens shapes := by
  have grows := draft.growsTo_internString value
  have texts := typeText?_eq_of_growsTo interned grows (types_internString draft value)
  refine ⟨?_, ?_, ?_, ?_, ?_⟩
  · rw [Draft.internString]
    split
    · exact interned.strings
    · rename_i new
      exact interned.strings.add new (by simp)
        (Interner.getElem?_entries_add draft.strings value value) value
  · rw [texts, types_internString]
    exact interned.types
  · intro key number
    rw [prototypes_internString, prototypeKey?, prototypes_internString]
    exact interned.prototypes key number
  · intro number inside
    rw [types_internString] at inside
    rw [texts]
    exact interned.typed number inside
  · intro number prototype found
    rw [prototypes_internString] at found
    obtain ⟨shape, member, spelt⟩ := interned.shaped number prototype found
    exact ⟨shape, member, grows.spells spelt⟩

theorem getElem?_internString (interned : draft.Interned tokens shapes) (value : String) :
    (draft.internString value).2.strings.entries[(draft.internString value).1]? = some value := by
  rw [Draft.internString]
  split
  · rename_i number found
    exact (interned.strings value number).mp found
  · rw [Interner.getElem?_entries_add, if_pos rfl]

theorem internType_of_new {token : String} (new : draft.types.find? token = none) :
    draft.internType token =
      (draft.types.entries.size,
        { (draft.internString token).2 with
          types := draft.types.add token (draft.internString token).1 }) := by
  simp only [internType, new, types_internString]

theorem growsTo_internType (draft : Draft) (token : String) :
    draft.GrowsTo (draft.internType token).2 := by
  cases found : draft.types.find? token with
  | some number =>
      simp only [internType, found]
      exact GrowsTo.refl draft
  | none =>
      have grows := draft.growsTo_internString token
      rw [internType_of_new found]
      refine ⟨⟨grows.strings, ?_, grows.prototypes⟩, grows.fields, grows.methods⟩
      exact fun number text found => Interner.getElem?_add_of_old found token _

theorem typeText?_internType_of_new (interned : draft.Interned tokens shapes) {token : String}
    (new : draft.types.find? token = none) (number : Nat) :
    (draft.internType token).2.typeText? number =
      if number = draft.types.entries.size then some token else draft.typeText? number := by
  have string := getElem?_internString interned token
  have texts := typeText?_eq_of_growsTo interned (draft.growsTo_internString token)
    (types_internString draft token)
  rw [internType_of_new new, typeText?, Interner.getElem?_entries_add]
  split
  · exact string
  · rw [← texts, typeText?, types_internString]

theorem Interned.internType (interned : draft.Interned tokens shapes) {token : String}
    (listed : token ∈ tokens) : (draft.internType token).2.Interned tokens shapes := by
  cases found : draft.types.find? token with
  | some number =>
      simp only [Draft.internType, found]
      exact interned
  | none =>
      have entered := interned.internString token
      have texts := typeText?_internType_of_new interned found
      have grows := draft.growsTo_internType token
      have fresh : draft.typeText? draft.types.entries.size = none := by simp [typeText?]
      have shape := internType_of_new found
      refine ⟨?_, ?_, ?_, ?_, ?_⟩
      · rw [shape]
        exact entered.strings
      · have indexed := interned.types.add found fresh texts (draft.internString token).1
        rw [shape]
        rw [shape] at indexed
        exact indexed
      · rw [shape]
        exact entered.prototypes
      · intro number inside
        rw [texts]
        split
        · exact ⟨token, listed, rfl⟩
        · rename_i old
          rw [shape] at inside
          simp only [Interner.add, Array.size_push] at inside
          exact interned.typed number (by omega)
      · intro number prototype entry
        rw [shape] at entry
        simp only [prototypes_internString] at entry
        obtain ⟨shape, member, spelt⟩ := interned.shaped number prototype entry
        exact ⟨shape, member, grows.spells spelt⟩

theorem typeText?_internType (interned : draft.Interned tokens shapes) (token : String) :
    (draft.internType token).2.typeText? (draft.internType token).1 = some token := by
  cases found : draft.types.find? token with
  | some number =>
      simp only [internType, found]
      exact (interned.types token number).mp found
  | none =>
      rw [typeText?_internType_of_new interned found, internType_of_new found, if_pos rfl]

theorem growsTo_internTypes (draft : Draft) (parameters : List String) :
    draft.GrowsTo (draft.internTypes parameters).2 := by
  induction parameters generalizing draft with
  | nil => exact GrowsTo.refl draft
  | cons token rest ih => exact (draft.growsTo_internType token).trans (ih _)

theorem Interned.internTypes (interned : draft.Interned tokens shapes) {parameters : List String}
    (listed : ∀ token ∈ parameters, token ∈ tokens) :
    (draft.internTypes parameters).2.Interned tokens shapes := by
  induction parameters generalizing draft with
  | nil => exact interned
  | cons token rest ih =>
      simp only [List.mem_cons, forall_eq_or_imp] at listed
      exact ih (interned.internType listed.1) listed.2

theorem map_typeText?_internTypes (interned : draft.Interned tokens shapes)
    {parameters : List String} (listed : ∀ token ∈ parameters, token ∈ tokens) :
    (draft.internTypes parameters).1.map (draft.internTypes parameters).2.typeText? =
      parameters.map some := by
  induction parameters generalizing draft with
  | nil => rfl
  | cons token rest ih =>
      simp only [List.mem_cons, forall_eq_or_imp] at listed
      have first := typeText?_internType interned token
      have others := ih (interned.internType listed.1) listed.2
      have kept := (growsTo_internTypes (draft.internType token).2 rest).typeText? first
      simp only [internTypes, List.map_cons, List.cons.injEq]
      exact ⟨kept, others⟩

/-! ### Entering prototypes -/

theorem Spells.unique {prototype : Prototype} {parameters others : List String}
    {returnType other : String} (spelt : draft.Spells prototype parameters returnType)
    (returned : draft.typeText? prototype.returnType = some other)
    (taken : prototype.parameters.map draft.typeText? = others.map some) :
    parameters = others ∧ returnType = other := by
  have sameTaken : parameters.map some = others.map some := spelt.taken.symm.trans taken
  have sameReturned : some returnType = some other := spelt.returned.symm.trans returned
  exact ⟨List.map_inj_right (fun _ _ => Option.some.inj) |>.mp sameTaken,
    Option.some.inj sameReturned⟩

def withTypes (draft : Draft) (parameters : List String) (returnType : String) : Draft :=
  ((draft.internType returnType).2.internTypes parameters).2

def typeNumbers (draft : Draft) (parameters : List String) (returnType : String) : Nat × List Nat :=
  ((draft.internType returnType).1, ((draft.internType returnType).2.internTypes parameters).1)

def addPrototype (draft : Draft) (key : Nat × List Nat) (short : String) : Draft :=
  { (draft.internString short).2 with
    prototypes := draft.prototypes.add key
      { shorty := (draft.internString short).1, returnType := key.1, parameters := key.2 } }

theorem internPrototype_of_found {parameters : List String} {returnType : String} {number : Nat}
    (found : (draft.withTypes parameters returnType).prototypes.find?
      (draft.typeNumbers parameters returnType) = some number) :
    draft.internPrototype parameters returnType =
      (number, draft.withTypes parameters returnType) := by
  simp only [withTypes, typeNumbers] at found
  simp only [internPrototype, found, withTypes]

theorem internPrototype_of_new {parameters : List String} {returnType : String}
    (new : (draft.withTypes parameters returnType).prototypes.find?
      (draft.typeNumbers parameters returnType) = none) :
    draft.internPrototype parameters returnType =
      ((draft.withTypes parameters returnType).prototypes.entries.size,
        (draft.withTypes parameters returnType).addPrototype
          (draft.typeNumbers parameters returnType) (shorty parameters returnType)) := by
  simp only [withTypes, typeNumbers] at new
  simp only [internPrototype, new, withTypes, typeNumbers, addPrototype, prototypes_internString]

theorem growsTo_withTypes (draft : Draft) (parameters : List String) (returnType : String) :
    draft.GrowsTo (draft.withTypes parameters returnType) :=
  (draft.growsTo_internType returnType).trans (growsTo_internTypes _ parameters)

theorem Interned.withTypes (interned : draft.Interned tokens shapes) {parameters : List String}
    {returnType : String} (returned : returnType ∈ tokens)
    (taken : ∀ token ∈ parameters, token ∈ tokens) :
    (draft.withTypes parameters returnType).Interned tokens shapes :=
  (interned.internType returned).internTypes taken

theorem typeText?_typeNumbers (interned : draft.Interned tokens shapes) (parameters : List String)
    (returnType : String) :
    (draft.withTypes parameters returnType).typeText?
      (draft.typeNumbers parameters returnType).1 = some returnType :=
  (growsTo_internTypes _ parameters).typeText? (typeText?_internType interned returnType)

theorem map_typeText?_typeNumbers (interned : draft.Interned tokens shapes)
    {parameters : List String} {returnType : String} (returned : returnType ∈ tokens)
    (taken : ∀ token ∈ parameters, token ∈ tokens) :
    (draft.typeNumbers parameters returnType).2.map
      (draft.withTypes parameters returnType).typeText? = parameters.map some :=
  map_typeText?_internTypes (interned.internType returned) taken

theorem growsTo_addPrototype (draft : Draft) (key : Nat × List Nat) (short : String) :
    draft.GrowsTo (draft.addPrototype key short) := by
  have grows := draft.growsTo_internString short
  refine ⟨⟨grows.strings, grows.types, ?_⟩, grows.fields, grows.methods⟩
  exact fun number prototype found => Interner.getElem?_add_of_old found key _

theorem shortFor_iff {descriptor : String} {letter : Char} :
    ShortFor descriptor letter ↔ letter = shortyLetter descriptor := by
  constructor
  · intro short
    cases short with
    | empty => rfl
    | array starts => rw [shortyLetter, starts]; rfl
    | other starts single => rw [shortyLetter, starts]; exact (if_neg single).symm
  · rintro rfl
    rw [shortyLetter]
    split
    · rename_i nothing
      rw [String.toList_eq_nil_iff.mp nothing]
      exact .empty
    · rename_i first rest starts
      by_cases array : first = '['
      · rw [if_pos array]
        exact .array (array ▸ starts)
      · rw [if_neg array]
        exact .other starts array

theorem letters_iff {parameters : List String} {returnType text : String} :
    List.Forall₂ ShortFor (returnType :: parameters) text.toList ↔
      text = shorty parameters returnType := by
  have same : ShortFor = fun descriptor letter => shortyLetter descriptor = letter := by
    funext descriptor letter
    exact propext (shortFor_iff.trans eq_comm)
  rw [same, ← List.forall₂_map_left_iff, List.forall₂_eq_eq_eq, shorty, ← String.toList_inj,
    String.toList_ofList, eq_comm]

theorem spells_addPrototype (interned : draft.Interned tokens shapes) {key : Nat × List Nat}
    {parameters : List String} {returnType : String}
    (returned : draft.typeText? key.1 = some returnType)
    (taken : key.2.map draft.typeText? = parameters.map some) :
    (draft.addPrototype key (shorty parameters returnType)).Spells
      { shorty := (draft.internString (shorty parameters returnType)).1
        returnType := key.1
        parameters := key.2 } parameters returnType := by
  have grows := draft.growsTo_addPrototype key (shorty parameters returnType)
  exact ⟨grows.typeText? returned, grows.map_typeText? taken, _,
    getElem?_internString interned (shorty parameters returnType),
    letters_iff.mpr rfl⟩

theorem Interned.addPrototype (interned : draft.Interned tokens shapes) {key : Nat × List Nat}
    (new : draft.prototypes.find? key = none) {parameters : List String} {returnType : String}
    (listed : (parameters, returnType) ∈ shapes)
    (returned : draft.typeText? key.1 = some returnType)
    (taken : key.2.map draft.typeText? = parameters.map some) :
    (draft.addPrototype key (shorty parameters returnType)).Interned tokens shapes := by
  have entered := interned.internString (shorty parameters returnType)
  have grows := draft.growsTo_addPrototype key (shorty parameters returnType)
  have spelt := spells_addPrototype interned returned taken
  refine ⟨entered.strings, entered.types, ?_, entered.typed, ?_⟩
  · have fresh : draft.prototypeKey? draft.prototypes.entries.size = none := by simp [prototypeKey?]
    refine interned.prototypes.add new fresh ?_ _
    intro number
    rw [prototypeKey?, Draft.addPrototype, Interner.getElem?_entries_add]
    split
    · rfl
    · rfl
  · intro number prototype entry
    rw [Draft.addPrototype, Interner.getElem?_entries_add] at entry
    split at entry
    · cases entry
      exact ⟨_, listed, spelt⟩
    · obtain ⟨shape, member, old⟩ := interned.shaped number prototype entry
      exact ⟨shape, member, grows.spells old⟩

theorem growsTo_internPrototype (draft : Draft) (parameters : List String) (returnType : String) :
    draft.GrowsTo (draft.internPrototype parameters returnType).2 := by
  have grows := draft.growsTo_withTypes parameters returnType
  cases entered : (draft.withTypes parameters returnType).prototypes.find?
      (draft.typeNumbers parameters returnType) with
  | some number =>
      rw [internPrototype_of_found entered]
      exact grows
  | none =>
      rw [internPrototype_of_new entered]
      exact grows.trans (growsTo_addPrototype _ _ _)

theorem Interned.internPrototype (interned : draft.Interned tokens shapes)
    {parameters : List String} {returnType : String} (listed : (parameters, returnType) ∈ shapes)
    (returned : returnType ∈ tokens) (taken : ∀ token ∈ parameters, token ∈ tokens) :
    (draft.internPrototype parameters returnType).2.Interned tokens shapes := by
  have typed := interned.withTypes returned taken
  cases entered : (draft.withTypes parameters returnType).prototypes.find?
      (draft.typeNumbers parameters returnType) with
  | some number =>
      rw [internPrototype_of_found entered]
      exact typed
  | none =>
      rw [internPrototype_of_new entered]
      exact typed.addPrototype entered listed
        (typeText?_typeNumbers interned parameters returnType)
        (map_typeText?_typeNumbers interned returned taken)

theorem spells_internPrototype (interned : draft.Interned tokens shapes) {parameters : List String}
    {returnType : String} (returned : returnType ∈ tokens)
    (taken : ∀ token ∈ parameters, token ∈ tokens) :
    ∃ prototype,
      (draft.internPrototype parameters returnType).2.prototypes.entries[
        (draft.internPrototype parameters returnType).1]? = some prototype ∧
      (draft.internPrototype parameters returnType).2.Spells prototype parameters returnType := by
  have typed := interned.withTypes returned taken
  have returnedText := typeText?_typeNumbers interned parameters returnType
  have takenTexts := map_typeText?_typeNumbers interned returned taken
  cases entered : (draft.withTypes parameters returnType).prototypes.find?
      (draft.typeNumbers parameters returnType) with
  | some number =>
      -- an entry for the same numbers stands for the same types
      obtain ⟨prototype, entry, key⟩ :=
        Option.map_eq_some_iff.mp ((typed.prototypes _ number).mp entered)
      obtain ⟨shape, _, spelt⟩ := typed.shaped number prototype entry
      rw [← key] at returnedText takenTexts
      obtain ⟨rfl, rfl⟩ := spelt.unique returnedText takenTexts
      rw [internPrototype_of_found entered]
      exact ⟨prototype, entry, spelt⟩
  | none =>
      rw [internPrototype_of_new entered]
      refine ⟨_, ?_, spells_addPrototype typed returnedText takenTexts⟩
      rw [addPrototype, Interner.getElem?_entries_add, if_pos rfl]

/-! ### What entering does -/

structure Enters (tokens : List String) (shapes : List (List String × String))
    (draft later : Draft) : Prop where
  interned : later.Interned tokens shapes
  grows : draft.GrowsTo later

theorem enters_internString (interned : draft.Interned tokens shapes) {value : String}
    {number : Nat} {later : Draft} (result : draft.internString value = (number, later)) :
    draft.Enters tokens shapes later ∧ later.strings.entries[number]? = some value := by
  have entered := interned.internString value
  have grows := draft.growsTo_internString value
  have means := getElem?_internString interned value
  rw [result] at entered grows means
  exact ⟨⟨entered, grows⟩, means⟩

theorem enters_internType (interned : draft.Interned tokens shapes) {token : String}
    (listed : token ∈ tokens) {number : Nat} {later : Draft}
    (result : draft.internType token = (number, later)) :
    draft.Enters tokens shapes later ∧ later.typeText? number = some token := by
  have entered := interned.internType listed
  have grows := draft.growsTo_internType token
  have means := typeText?_internType interned token
  rw [result] at entered grows means
  exact ⟨⟨entered, grows⟩, means⟩

theorem enters_internPrototype (interned : draft.Interned tokens shapes) {parameters : List String}
    {returnType : String} (listed : (parameters, returnType) ∈ shapes)
    (returned : returnType ∈ tokens) (taken : ∀ token ∈ parameters, token ∈ tokens) {number : Nat}
    {later : Draft} (result : draft.internPrototype parameters returnType = (number, later)) :
    draft.Enters tokens shapes later ∧ ∃ prototype,
      later.prototypes.entries[number]? = some prototype ∧
        later.Spells prototype parameters returnType := by
  have entered := interned.internPrototype listed returned taken
  have grows := draft.growsTo_internPrototype parameters returnType
  have means := spells_internPrototype interned returned taken
  rw [result] at entered grows means
  exact ⟨⟨entered, grows⟩, means⟩

end Draft

end DexMembers
