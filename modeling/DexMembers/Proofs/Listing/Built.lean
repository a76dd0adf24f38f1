import DexMembers.Proofs.Descriptor.Tokens
import DexMembers.Proofs.Image.Built
import DexMembers.Proofs.Listing.ImageLines

/-!
# Listing a built image

The image built from declarations, taken as a source, gives the members that were declared, or the
failure of the first token that is no descriptor.
-/

set_option autoImplicit false

namespace DexMembers

/-! ### Tokens of declarations -/

def RawMethod.tokens (method : RawMethod) : List String :=
  method.declaringType :: (method.parameters ++ [method.returnType])

def RawField.tokens (field : RawField) : List String :=
  [field.declaringType, field.fieldType]

def askedTokens (selection : Selection) (declarations : List Declaration) : List String :=
  (if selection.hasMethods then
    (declarations.filterMap Declaration.rawMethod?).flatMap RawMethod.tokens else []) ++
  (if selection.hasFields then
    (declarations.filterMap Declaration.rawField?).flatMap RawField.tokens else [])

open Descriptor (Needs firstFailure?)

theorem RawMethod.needs (method : RawMethod) : Needs method.tokens method.read := by
  have declaring := Needs.read method.declaringType
  apply declaring.bind
  intro declaringType
  apply (Needs.readAll method.parameters).bind
  intro parameterTypes
  rw [← List.append_nil [method.returnType]]
  apply (Needs.read method.returnType).bind
  intro returnType
  exact Needs.pure _

theorem RawField.needs (field : RawField) : Needs field.tokens field.read := by
  have declaring := Needs.read field.declaringType
  apply declaring.bind
  intro declaringType
  rw [← List.append_nil [field.fieldType]]
  apply (Needs.read field.fieldType).bind
  intro fieldType
  exact Needs.pure _

theorem needs_declaredMembers (name : String) (selection : Selection)
    (declarations : List Declaration) :
    Needs (askedTokens selection declarations)
      (Draft.declaredMembers name selection declarations) := by
  have methods : Needs
      (if selection.hasMethods then
        (declarations.filterMap Declaration.rawMethod?).flatMap RawMethod.tokens else [])
      (if selection.hasMethods then
        (declarations.filterMap Declaration.rawMethod?).mapM RawMethod.read else .ok []) := by
    cases selection.hasMethods with
    | false => exact Needs.pure []
    | true => exact Needs.mapM RawMethod.needs _
  have fields : Needs
      (if selection.hasFields then
        (declarations.filterMap Declaration.rawField?).flatMap RawField.tokens else [])
      (if selection.hasFields then
        (declarations.filterMap Declaration.rawField?).mapM RawField.read else .ok []) := by
    cases selection.hasFields with
    | false => exact Needs.pure []
    | true => exact Needs.mapM RawField.needs _
  apply methods.bind
  intro read
  rw [← List.append_nil (ite _ _ _)]
  apply fields.bind
  intro others
  exact Needs.pure _

/-! ### The source of a built image -/

theorem isDex_bytes (draft : Draft) : isDex draft.bytes = true :=
  Header.isDex_bytes_append draft.header _

theorem outcome_members_bytes (inputs : Inputs) (name : String) (selection : Selection)
    {content : List UInt8} (dex : isDex content = true) {image : Image}
    (readable : Image.read content = .ok image) :
    ((Source.bytes name content).members inputs selection).outcome =
      ((image.members name selection).mapError (MembersError.inListing name name)).map
        fun table => [table] := by
  rw [outcome_members_of_bare rfl dex, Image.membersOf, readable]
  rfl

theorem read_of_ifAsked {α β ε : Type} {step : α → Except ε β} {items : List α} {asked : Bool}
    {values : List β} (done : (if asked then items.mapM step else .ok []) = .ok values) :
    if asked then items.map step = values.map .ok else values = [] := by
  cases asked with
  | false =>
      cases done
      rfl
  | true => exact map_eq_of_mapM_eq_ok done

theorem eq_of_declaredMembers_eq_ok {name : String} {selection : Selection}
    {declarations : List Declaration} {table : MemberTable}
    (read : Draft.declaredMembers name selection declarations = .ok table) :
    ∃ methods fields, table = { name, methods, fields } ∧
      (if selection.hasMethods then
        (declarations.filterMap Declaration.rawMethod?).map RawMethod.read = methods.map .ok
        else methods = []) ∧
      (if selection.hasFields then
        (declarations.filterMap Declaration.rawField?).map RawField.read = fields.map .ok
        else fields = []) := by
  rw [Draft.declaredMembers] at read
  cases methods : (if selection.hasMethods then
      (declarations.filterMap Declaration.rawMethod?).mapM RawMethod.read else .ok []) with
  | error failure =>
      rw [methods] at read
      cases read
  | ok methodsRead =>
      rw [methods, Except.ok_bind] at read
      cases fields : (if selection.hasFields then
          (declarations.filterMap Declaration.rawField?).mapM RawField.read else .ok []) with
      | error failure =>
          rw [fields] at read
          cases read
      | ok fieldsRead =>
          rw [fields] at read
          cases read
          exact ⟨methodsRead, fieldsRead, rfl, read_of_ifAsked methods, read_of_ifAsked fields⟩

/-- The image built from declarations of at most 65536 types and as many prototypes, taken as a
source, gives one table of the members that are asked for, each as its declaration reads; or it
fails with the first token among them that is no descriptor. -/
theorem members_ofDeclarations (inputs : Inputs) (name : String) (selection : Selection)
    (declarations : List Declaration)
    (types : (Draft.declaredTypes declarations).toFinset.card ≤ 65536)
    (prototypes : (Draft.declaredPrototypes declarations).toFinset.card ≤ 65536)
    (small : (Draft.ofDeclarations declarations).bytes.length < 4294967296) :
    let outcome :=
      ((Source.bytes name (Draft.ofDeclarations declarations).bytes).members inputs selection).outcome
    ((∀ token ∈ askedTokens selection declarations, ∃ type, Descriptor.read token = .ok type) →
      ∃ methods fields, outcome = .ok [{ name, methods, fields }] ∧
        (if selection.hasMethods then
          (declarations.filterMap Declaration.rawMethod?).map RawMethod.read = methods.map .ok
          else methods = []) ∧
        (if selection.hasFields then
          (declarations.filterMap Declaration.rawField?).map RawField.read = fields.map .ok
          else fields = [])) ∧
    (∀ before token after failure,
      askedTokens selection declarations = before ++ token :: after →
      (∀ earlier ∈ before, ∃ type, Descriptor.read earlier = .ok type) →
      Descriptor.read token = .error failure →
      outcome = .error (.decode name name failure)) := by
  intro outcome
  obtain ⟨interned, declares⟩ := Draft.ofDeclarations_spec declarations
  have readable := Draft.read_ofDeclarations types prototypes small
  have members := Draft.members_image declares name selection
  have found : outcome = _ :=
    outcome_members_bytes inputs name selection (isDex_bytes _) readable
  rw [members] at found
  have needs := needs_declaredMembers name selection declarations
  constructor
  · intro all
    rw [Needs, Descriptor.firstFailure?_eq_none all] at needs
    obtain ⟨table, read⟩ := needs
    obtain ⟨methods, fields, rfl, methodsRead, fieldsRead⟩ := eq_of_declaredMembers_eq_ok read
    refine ⟨methods, fields, ?_, methodsRead, fieldsRead⟩
    rw [found, read]
    rfl
  · intro before token after failure split good bad
    rw [Needs, split, Descriptor.firstFailure?_eq_some good bad] at needs
    rw [found, needs]
    rfl

/-- A method's types are decoded before a field's, so the field fails although it is declared
first. -/
theorem members_ofDeclarations_unknown_primitive :
    let inputs : Inputs := { openFile := fun _ => .error .notFound, standardInput := .ok [] }
    let declarations : List Declaration :=
      [.field "LA;" "n" "Q", .method "LA;" "run" ["[I"] "V"]
    (Draft.declaredTypes declarations).toFinset.card ≤ 65536 ∧
      (Draft.declaredPrototypes declarations).toFinset.card ≤ 65536 ∧
      (Draft.ofDeclarations declarations).bytes.length < 4294967296 ∧
      ((Source.bytes "a.dex" (Draft.ofDeclarations declarations).bytes).members inputs
        .all).outcome = .error (.decode "a.dex" "a.dex" (.unknownPrimitive 'Q')) := by
  intro inputs declarations
  have types : (Draft.declaredTypes declarations).toFinset.card ≤ 65536 := by decide
  have prototypes : (Draft.declaredPrototypes declarations).toFinset.card ≤ 65536 := by decide
  have small : (Draft.ofDeclarations declarations).bytes.length < 4294967296 := by
    let plain : Draft :=
      { strings := { entries := #["LA;", "Q", "n", "run", "V", "[I", "VL"] }
        types := { entries := #[0, 1, 4, 5] }
        prototypes := { entries := #[{ shorty := 6, returnType := 2, parameters := [3] }] }
        fields := #[{ declaringType := 0, fieldType := 1, name := 2 }]
        methods := #[{ declaringType := 0, prototype := 0, name := 3 }] }
    have short : Draft.shorty ["[I"] "V" = "VL" := by decide
    have same : (Draft.ofDeclarations declarations).bytes = plain.bytes := by
      apply Draft.bytes_congr <;>
        simp [declarations, plain, Draft.ofDeclarations, Draft.declare, Draft.field, Draft.method,
          Draft.internType, Draft.internTypes, Draft.internPrototype, Draft.internString,
          Interner.find?, Interner.add, short, Std.HashMap.getElem_insert]
    rw [same, Draft.length_bytes]
    decide +kernel
  have good : ∀ earlier ∈ ["LA;", "[I", "V", "LA;"], ∃ type, Descriptor.read earlier = .ok type := by
    simp only [List.mem_cons, List.not_mem_nil, or_false, forall_eq_or_imp, forall_eq]
    exact ⟨⟨.object "A", by decide⟩, ⟨.array (.primitive .int), by decide⟩,
      ⟨.primitive .void, by decide⟩, ⟨.object "A", by decide⟩⟩
  have outcome := (members_ofDeclarations inputs "a.dex" .all declarations types prototypes
    small).2 ["LA;", "[I", "V", "LA;"] "Q" [] (.unknownPrimitive 'Q') (by decide) good (by decide)
  exact ⟨types, prototypes, small, outcome⟩

end DexMembers
