import DexMembers.Proofs.Image.TypeCache
import DexMembers.Proofs.Listing.ImageLines

/-!
# Which entries of an image matter

Keeping decoded types makes no difference to a listing: it gives the members, or the failure, that
decoding every type where it is met gives.  So the result depends on nothing but the entries that
the asked ids refer to.
-/

set_option autoImplicit false

namespace DexMembers

namespace Image

def AgreeOnString (image other : Image) (index : Nat) : Prop :=
  image.strings[index]? = other.strings[index]?

def AgreeOnType (image other : Image) (index : Nat) : Prop :=
  image.types[index]? = other.types[index]? ∧
    ∀ text ∈ image.types[index]?, image.AgreeOnString other text

/-- The prototypes take and return the same types, and the images agree on these.  A prototype's
shorty is not looked at. -/
structure AgreeOnShape (image other : Image) (first second : Prototype) : Prop where
  parameters : first.parameters = second.parameters
  returnType : first.returnType = second.returnType
  taken : ∀ parameter ∈ first.parameters, image.AgreeOnType other parameter
  given : image.AgreeOnType other first.returnType

def AgreeOnPrototype (image other : Image) (index : Nat) : Prop :=
  Option.Rel (image.AgreeOnShape other) image.prototypes[index]? other.prototypes[index]?

structure AgreeOnMethod (image other : Image) (id : MethodId) : Prop where
  declaringType : image.AgreeOnType other id.declaringType
  name : image.AgreeOnString other id.name
  prototype : image.AgreeOnPrototype other id.prototype

structure AgreeOnField (image other : Image) (id : FieldId) : Prop where
  declaringType : image.AgreeOnType other id.declaringType
  name : image.AgreeOnString other id.name
  fieldType : image.AgreeOnType other id.fieldType

/-- The images have the same ids of each kind that is asked for, and agree on what these refer
to. -/
structure AgreeOnAsked (image other : Image) (selection : Selection) : Prop where
  methods : selection.hasMethods = true → image.methods = other.methods ∧
    ∀ id ∈ image.methods, image.AgreeOnMethod other id
  fields : selection.hasFields = true → image.fields = other.fields ∧
    ∀ id ∈ image.fields, image.AgreeOnField other id

variable {image other : Image}

theorem AgreeOnString.string_eq {index : Nat} (agree : image.AgreeOnString other index) :
    image.string index = other.string index := by
  rw [string, string, agree]

theorem AgreeOnType.typeAt_eq {index : Nat} (agree : image.AgreeOnType other index) :
    image.typeAt index = other.typeAt index := by
  have name : image.typeName index = other.typeName index := by
    rw [typeName, typeName, ← agree.1]
    cases found : image.types[index]? with
    | none => rfl
    | some text =>
        have string := (agree.2 text found).string_eq
        simp only [string]
  rw [typeAt, typeAt, name]

theorem AgreeOnMethod.methodPlain_eq {id : MethodId} (agree : image.AgreeOnMethod other id) :
    image.methodPlain id = other.methodPlain id := by
  have shape := agree.prototype
  rw [AgreeOnPrototype] at shape
  simp only [methodPlain, agree.declaringType.typeAt_eq, agree.name.string_eq, parameterTypes,
    returnType]
  generalize image.prototypes[id.prototype]? = found at shape ⊢
  generalize other.prototypes[id.prototype]? = otherFound at shape ⊢
  cases shape with
  | none => rfl
  | @some first second same =>
      have parameters : first.parameters.mapM image.typeAt = first.parameters.mapM other.typeAt :=
        mapM_congr fun parameter member => (same.taken parameter member).typeAt_eq
      simp only [Except.mapError_ok, Except.ok_bind, parameters, same.given.typeAt_eq,
        ← same.parameters, ← same.returnType]

theorem AgreeOnField.fieldPlain_eq {id : FieldId} (agree : image.AgreeOnField other id) :
    image.fieldPlain id = other.fieldPlain id := by
  simp only [fieldPlain, agree.declaringType.typeAt_eq, agree.name.string_eq,
    agree.fieldType.typeAt_eq]

theorem ifAsked_eq {ι β : Type} {asked : Bool} {ids others : Array ι}
    (step otherStep : ι → Except MembersError β)
    (agree : asked = true → ids = others ∧ ∀ id ∈ ids, step id = otherStep id) :
    (if asked then ids.toList.mapM step else pure []) =
      (if asked then others.toList.mapM otherStep else pure []) := by
  cases asked with
  | false => rfl
  | true =>
      obtain ⟨rfl, each⟩ := agree rfl
      exact mapM_congr fun id member => each id (Array.mem_toList_iff.mp member)

theorem AgreeOnAsked.membersPlain_eq {selection : Selection}
    (agree : image.AgreeOnAsked other selection) (name : String) :
    image.membersPlain name selection = other.membersPlain name selection := by
  have methods := ifAsked_eq image.methodPlain other.methodPlain
    fun asked => (agree.methods asked).imp_right fun each id member =>
      (each id member).methodPlain_eq
  have fields := ifAsked_eq image.fieldPlain other.fieldPlain
    fun asked => (agree.fields asked).imp_right fun each id member =>
      (each id member).fieldPlain_eq
  rw [membersPlain_eq_bind, membersPlain_eq_bind, methods, fields]

end Image

/-- Resolving the ids of an image with a cache gives what decoding each type where it is met gives:
the same table, or the failure of the first look-up or token that fails, named after the source and
the image.  Another image that agrees on what the asked ids refer to, and may differ in every other
string, type, prototype and member, gives the same. -/
theorem imageMembers_eq_plain (source name : String) (selection : Selection) {content : List UInt8}
    {image : Image} (read : Image.read content = .ok image) :
    (Source.imageMembers source name content selection).outcome =
      ((image.membersPlain name selection).mapError fun
        | .image error => .read source (some name) (.image error)
        | .descriptor error => .decode source name error) ∧
    ∀ otherContent other, Image.read otherContent = .ok other → image.AgreeOnAsked other selection →
      (Source.imageMembers source name otherContent selection).outcome =
        (Source.imageMembers source name content selection).outcome := by
  have plain : ∀ {content : List UInt8} {image : Image}, Image.read content = .ok image →
      (Source.imageMembers source name content selection).outcome =
        (image.membersPlain name selection).mapError (MembersError.inListing source name) := by
    intro content image read
    rw [outcome_imageMembers, Image.membersOf, read]
    exact congrArg _ (image.members_eq_membersPlain name selection)
  refine ⟨plain read, ?_⟩
  intro otherContent other otherRead agree
  rw [plain read, plain otherRead, agree.membersPlain_eq]

/-- Two images of one field.  The second has a string in no known encoding and a type that is no
descriptor besides, and the field does not refer to them. -/
theorem imageMembers_eq_plain_unused_entries :
    let front : List UInt8 := dexMagic ++ [0x30, 0x33, 0x35, 0x00] ++ List.replicate 24 0
    let fieldId := idTripleBytes 0 0 1
    let strings : List UInt8 := [0x03, 0x4C, 0x41, 0x3B, 0x00, 0x01, 0x6E, 0x00]
    let content : List UInt8 := front ++
      [140, 112, 0x12345678, 0, 0, 0, 2, 112, 1, 120, 0, 0, 1, 124, 0, 0, 0, 0, 8, 132].flatMap
        Header.wordBytes ++
      [132, 137, 0].flatMap Binary.u32Bytes ++ fieldId ++ strings
    let otherContent : List UInt8 := front ++
      [151, 112, 0x12345678, 0, 0, 0, 3, 112, 2, 124, 0, 0, 1, 132, 0, 0, 0, 0, 11, 140].flatMap
        Header.wordBytes ++
      [140, 145, 148, 0, 1].flatMap Binary.u32Bytes ++ fieldId ++ strings ++ [0x01, 0xFF, 0x00]
    let field : FieldRef :=
      { declaringType := .object "A", name := "n", fieldType := .object "A" }
    ∃ image other : Image, Image.read content = .ok image ∧ Image.read otherContent = .ok other ∧
      image.AgreeOnAsked other .fields ∧
      other.strings[2]? = some (.raw 1 [0xFF]) ∧
      other.typeAt 1 = .error (.descriptor (.unknownPrimitive 'n')) ∧
      (Source.imageMembers "a.apk" "a.dex" otherContent .fields).outcome =
        .ok { name := "a.dex", methods := [], fields := [field] } := by
  intro front fieldId strings content otherContent field
  let image : Image :=
    { header := Header.ofBytes content (by decide +kernel)
      strings := #[.decoded "LA;", .decoded "n"]
      types := #[0]
      prototypes := #[]
      fields := #[{ declaringType := 0, fieldType := 0, name := 1 }]
      methods := #[] }
  let other : Image :=
    { header := Header.ofBytes otherContent (by decide +kernel)
      strings := #[.decoded "LA;", .decoded "n", .raw 1 [0xFF]]
      types := #[0, 1]
      prototypes := #[]
      fields := #[{ declaringType := 0, fieldType := 0, name := 1 }]
      methods := #[] }
  have read : Image.read content = .ok image := by decide +kernel
  have otherRead : Image.read otherContent = .ok other := by decide +kernel
  have type : image.AgreeOnType other 0 := by
    refine ⟨rfl, ?_⟩
    rintro text ⟨⟩
    rfl
  have agree : image.AgreeOnAsked other .fields := by
    refine ⟨fun asked => absurd asked (by decide), fun _ => ⟨rfl, ?_⟩⟩
    intro id member
    obtain rfl := Array.mem_singleton.mp member
    exact ⟨type, rfl, type⟩
  obtain ⟨plain, same⟩ := imageMembers_eq_plain "a.apk" "a.dex" .fields read
  refine ⟨image, other, read, otherRead, agree, rfl, by decide +kernel, ?_⟩
  rw [same otherContent other otherRead agree, plain]
  decide +kernel

end DexMembers
