import DexMembers.Proofs.Listing.LineOrder
import DexMembers.Proofs.Listing.Resolution

/-!
# Methods, fields, and all members

Asking for all members is asking for the methods and then for the fields: the first failure of the
two is the failure, and the lines of both are merged.  The methods have no use for the field ids.
-/

set_option autoImplicit false

namespace DexMembers

def MemberTable.join (ofMethods ofFields : MemberTable) : MemberTable :=
  { ofMethods with fields := ofFields.fields }

namespace Image

theorem membersPlain_all (image : Image) (name : String) :
    image.membersPlain name .all =
      image.membersPlain name .methods >>= fun ofMethods =>
        (image.membersPlain name .fields).map ofMethods.join := by
  simp only [membersPlain_eq_bind, Selection.hasMethods, Selection.hasFields]
  cases image.methods.toList.mapM image.methodPlain with
  | error failure => rfl
  | ok methods =>
      cases image.fields.toList.mapM image.fieldPlain with
      | error failure => rfl
      | ok fields => rfl

variable {image other : Image}

theorem agreeOnType_of_eq (strings : image.strings = other.strings)
    (types : image.types = other.types) (index : Nat) : image.AgreeOnType other index := by
  refine ⟨by rw [types], ?_⟩
  intro text _
  rw [AgreeOnString, strings]

/-- Images that differ in nothing but their headers and field ids agree on the methods. -/
theorem agreeOnAsked_methods (strings : image.strings = other.strings)
    (types : image.types = other.types) (prototypes : image.prototypes = other.prototypes)
    (methods : image.methods = other.methods) : image.AgreeOnAsked other .methods := by
  have type := agreeOnType_of_eq strings types
  have prototype : ∀ index, image.AgreeOnPrototype other index := by
    intro index
    rw [AgreeOnPrototype, prototypes]
    cases other.prototypes[index]? with
    | none => exact .none
    | some prototype => exact .some ⟨rfl, rfl, fun parameter _ => type parameter, type _⟩
  refine ⟨fun _ => ⟨methods, ?_⟩, fun asked => absurd asked (by decide)⟩
  intro id _
  exact ⟨type _, by rw [AgreeOnString, strings], prototype _⟩

theorem membersOf_all (content : List UInt8) (name : String) :
    membersOf content name .all =
      membersOf content name .methods >>= fun ofMethods =>
        (membersOf content name .fields).map ofMethods.join := by
  simp only [membersOf, members_eq_membersPlain]
  cases Image.read content with
  | error failure => rfl
  | ok image => exact image.membersPlain_all name

end Image

theorem outcome_imageMembers_all (source name : String) (content : List UInt8) :
    (Source.imageMembers source name content .all).outcome =
      (Source.imageMembers source name content .methods).outcome >>= fun ofMethods =>
        (Source.imageMembers source name content .fields).outcome.map ofMethods.join := by
  rw [outcome_imageMembers, outcome_imageMembers, outcome_imageMembers, Image.membersOf_all]
  cases Image.membersOf content name .methods with
  | error failure => rfl
  | ok ofMethods => exact map_mapError _ _ _

/-- Resolving all members of an image gives the methods and the fields that asking for one kind
gives, or the failure of the methods, or else that of the fields; the lines are those of both
kinds, merged.  The methods, or their failure, are the same in every other image with the same
strings, types, prototypes, and method ids. -/
theorem imageMembers_selections_compose (source name : String) {content : List UInt8}
    {image : Image} (read : Image.read content = .ok image) :
    let resolved (content : List UInt8) (selection : Selection) :=
      (Source.imageMembers source name content selection).outcome
    (∀ failure, resolved content .methods = .error failure →
      resolved content .all = .error failure) ∧
    (∀ ofMethods failure, resolved content .methods = .ok ofMethods →
      resolved content .fields = .error failure → resolved content .all = .error failure) ∧
    (∀ ofMethods ofFields, resolved content .methods = .ok ofMethods →
      resolved content .fields = .ok ofFields →
      ∃ all, resolved content .all = .ok all ∧
        all.methods = ofMethods.methods ∧ all.fields = ofFields.fields ∧
        ∀ hideNumbers mapping,
          let lines (selection : Selection) := MemberTable.lines { hideNumbers, selection, mapping }
          LinesSorted (lines .all all) ∧
          (lines .all all).Perm (lines .methods ofMethods ++ lines .fields ofFields) ∧
          lines .all all = (lines .methods ofMethods).merge (lines .fields ofFields) lineLE) ∧
    (∀ otherContent other, Image.read otherContent = .ok other →
      image.strings = other.strings → image.types = other.types →
      image.prototypes = other.prototypes → image.methods = other.methods →
      resolved otherContent .methods = resolved content .methods) := by
  intro resolved
  have both : resolved content .all = resolved content .methods >>= fun ofMethods =>
      (resolved content .fields).map ofMethods.join := outcome_imageMembers_all source name content
  refine ⟨?methodsFail, ?fieldsFail, ?bothResolve, ?methodsAlone⟩
  case methodsFail =>
    intro failure methods
    rw [both, methods]
    rfl
  case fieldsFail =>
    intro ofMethods failure methods fields
    rw [both, methods, fields]
    rfl
  case bothResolve =>
    intro ofMethods ofFields methods fields
    refine ⟨ofMethods.join ofFields, ?_, rfl, rfl, ?_⟩
    · rw [both, methods, fields]
      rfl
    · intro hideNumbers mapping lines
      have merged : lines .all (ofMethods.join ofFields) =
          (lines .methods ofMethods).merge (lines .fields ofFields) lineLE :=
        MemberTable.lines_all hideNumbers mapping rfl rfl
      refine ⟨MemberTable.linesSorted_lines _ _, ?_, merged⟩
      rw [merged]
      exact List.merge_perm_append lineLE
  case methodsAlone =>
    intro otherContent other otherRead strings types prototypes methods
    have agree := Image.agreeOnAsked_methods strings types prototypes methods
    simp only [resolved, outcome_imageMembers, Image.membersOf, read, otherRead, Except.mapError_ok,
      Except.ok_bind, Image.members_eq_membersPlain, agree.membersPlain_eq]

/-- An image of one method and one field, and the same image but for the field, whose type is
missing. -/
theorem imageMembers_selections_compose_bad_field :
    let front : List UInt8 := dexMagic ++ [0x30, 0x33, 0x35, 0x00] ++ List.replicate 24 0 ++
      [167, 112, 0x12345678, 0, 0, 0, 3, 112, 1, 124, 1, 128, 1, 140, 1, 148, 0, 0, 11, 156].flatMap
        Header.wordBytes ++
      [156, 161, 164, 0, 0, 0, 0].flatMap Binary.u32Bytes
    let back : List UInt8 := idTripleBytes 0 0 2 ++
      [0x03, 0x4C, 0x41, 0x3B, 0x00, 0x01, 0x6D, 0x00, 0x01, 0x6E, 0x00]
    let content := front ++ idTripleBytes 0 0 1 ++ back
    let otherContent := front ++ idTripleBytes 0 7 1 ++ back
    let resolved (content : List UInt8) (selection : Selection) :=
      (Source.imageMembers "a.apk" "a.dex" content selection).outcome
    ∃ all ofMethods,
      resolved content .all = .ok all ∧
      all.lines { selection := .all } = ["A m: A", "A n()"] ∧
      resolved otherContent .methods = .ok ofMethods ∧
      ofMethods.lines {} = ["A n()"] ∧
      resolved otherContent .all =
        .error (.read "a.apk" (some "a.dex") (.image { fault := .noType 7 })) := by
  intro front back content otherContent resolved
  let image : Image :=
    { header := Header.ofBytes content (by decide +kernel)
      strings := #[.decoded "LA;", .decoded "m", .decoded "n"]
      types := #[0]
      prototypes := #[{ shorty := 0, returnType := 0, parameters := [] }]
      fields := #[{ declaringType := 0, fieldType := 0, name := 1 }]
      methods := #[{ declaringType := 0, prototype := 0, name := 2 }] }
  let other : Image :=
    { image with
      header := Header.ofBytes otherContent (by decide +kernel)
      fields := #[{ declaringType := 0, fieldType := 7, name := 1 }] }
  have read : Image.read content = .ok image := by decide +kernel
  have otherRead : Image.read otherContent = .ok other := by decide +kernel
  let ofMethods : MemberTable :=
    { name := "a.dex"
      methods := [
        { declaringType := .object "A", name := "n", parameterTypes := [],
          returnType := .object "A" }]
      fields := [] }
  let ofFields : MemberTable :=
    { name := "a.dex"
      methods := []
      fields := [{ declaringType := .object "A", name := "m", fieldType := .object "A" }] }
  have methods : resolved content .methods = .ok ofMethods := by decide +kernel
  have fields : resolved content .fields = .ok ofFields := by decide +kernel
  obtain ⟨_, _, bothResolve, methodsAlone⟩ :=
    imageMembers_selections_compose "a.apk" "a.dex" read
  obtain ⟨all, resolvedAll, _, _, lines⟩ := bothResolve ofMethods ofFields methods fields
  have otherMethods := methodsAlone otherContent other otherRead rfl rfl rfl rfl
  obtain ⟨_, fieldsFail, _, _⟩ := imageMembers_selections_compose "a.apk" "a.dex" otherRead
  refine ⟨all, ofMethods, resolvedAll, ?_, otherMethods.trans methods, by decide +kernel, ?_⟩
  · have methodLines : ofMethods.lines {} = ["A n()"] := by decide +kernel
    have fieldLines : ofFields.lines { selection := .fields } = ["A m: A"] := by decide +kernel
    have later : lineLE "A n()" "A m: A" = false := by decide +kernel
    have merged := (lines false none).2.2
    change all.lines { selection := .all } =
      (ofMethods.lines {}).merge (ofFields.lines { selection := .fields }) lineLE at merged
    rw [merged, methodLines, fieldLines, List.cons_merge_cons, later, List.merge_right]
    rfl
  · exact fieldsFail ofMethods _ (otherMethods.trans methods) (by decide +kernel)

end DexMembers
