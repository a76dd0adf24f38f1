import DexMembers.Proofs.Image.Complete
import DexMembers.Proofs.Image.References
import DexMembers.Proofs.Listing.Blocks

/-!
# References that lead nowhere

A complete image may hold ids and prototypes that refer to entries which do not exist.  A listing
fails over such a reference if and only if a member it asks for leads there.  Only a type without a
string is turned down before any member is asked for.
-/

set_option autoImplicit false

namespace DexMembers

variable {content : List UInt8} {image : Image}

theorem listedAlone_of_read (read : Image.read content = .ok image) {inputs : Inputs}
    {source : Source} (found : source.content inputs = .ok content) (options : ListingOptions) :
    listedAlone inputs options source =
      ((image.members source.name options.selection).map (MemberTable.lines options)).mapError
        (MembersError.inListing source.name source.name) := by
  rw [listedAlone_eq, outcome_lines_of_bare found (isDex_of_read read), Image.linesOf,
    Image.membersOf, read, Except.mapError_ok, Except.ok_bind]

/-- A complete image is read if and only if each of its types refers to a string that exists, and
the first that does not is the failure.  All other references may lead nowhere: the image is read,
and its listing fails only over something a member asked for leads to, and always over a reference
of such a member that leads nowhere. -/
theorem dangling_references_met_when_followed {header : Header} (short : content.length < 2 ^ 63)
    (start : Header.read content = .ok header) (complete : Image.Complete content header) :
    ((∃ image, Image.read content = .ok image) ↔
      ∀ i < header.typeIdsSize.toNat, Image.TypeNamed content header i) ∧
    (∀ i < header.typeIdsSize.toNat, ∀ text, Image.typeTextAt? content header i = some text →
      ¬ text < header.stringIdsSize.toNat →
      (∀ earlier < i, Image.TypeNamed content header earlier) →
      Image.read content = .error { fault := .noString text, places := [.typeId i] }) ∧
    ∀ image, Image.read content = .ok image →
      ∀ (inputs : Inputs) (options : ListingOptions) (source : Source),
        source.content inputs = .ok content →
        (∀ failure, listedAlone inputs options source = .error failure →
          ∃ error, image.Fails (image.Follows options.selection) error ∧
            failure = error.inListing source.name source.name) ∧
        ∀ reference, image.Follows options.selection reference → ¬ reference.InRange image →
          ∃ failure, listedAlone inputs options source = .error failure := by
  have numbered : content.length < Binary.Cursor.positionLimit :=
    Nat.lt_trans short (by decide)
  refine ⟨⟨?named, ?read⟩, ?first, ?listing⟩
  case named =>
    rintro ⟨image, read⟩ i inside
    exact Image.typeNamed_of_read_eq_ok start read inside
  case read => exact complete.exists_read_eq_ok numbered start
  case first =>
    intro i inside text stands absent first
    exact complete.read_eq_error numbered start inside stands absent first
  case listing =>
    intro image read inputs options source found
    rw [listedAlone_of_read read found]
    constructor
    · intro failure failed
      obtain ⟨error, unlisted, rfl⟩ := eq_error_of_mapError_eq_error failed
      exact ⟨error, Image.fails_of_members (eq_error_of_map_eq_error unlisted), rfl⟩
    · intro reference followed absent
      cases resolved : image.members source.name options.selection with
      | ok table => exact absurd (Image.inRange_of_members resolved followed) absent
      | error error => exact ⟨_, rfl⟩

/-- A field of a class that is no type of the image.  The image is read and its methods are listed;
its fields are not. -/
theorem dangling_references_met_when_followed_field_class :
    let content : List UInt8 := dexMagic ++ [0x30, 0x33, 0x35, 0x00] ++ List.replicate 24 0 ++
      [140, 112, 0x12345678, 0, 0, 0, 2, 112, 1, 120, 0, 0, 1, 124, 0, 0, 0, 0, 8, 132].flatMap
        Header.wordBytes ++
      [132, 137, 0].flatMap Binary.u32Bytes ++ idTripleBytes 7 0 1 ++
      [0x03, 0x4C, 0x41, 0x3B, 0x00, 0x01, 0x6E, 0x00]
    let inputs : Inputs := { openFile := fun _ => .error .notFound, standardInput := .ok [] }
    let source : Source := .bytes "a.dex" content
    listedAlone inputs {} source = .ok [] ∧
      ∃ failure, listedAlone inputs { selection := .fields } source = .error failure := by
  intro content inputs source
  let header := Header.ofBytes content (by decide +kernel)
  let image : Image :=
    { header
      strings := #[.decoded "LA;", .decoded "n"]
      types := #[0]
      prototypes := #[]
      fields := #[{ declaringType := 7, fieldType := 0, name := 1 }]
      methods := #[] }
  have start : Header.read content = .ok header := by decide +kernel
  have complete : Image.Complete content header := by
    constructor
    case strings => exact .inr (by decide +kernel)
    case types => exact .inr (by decide +kernel)
    case prototypes => exact .inl (by decide +kernel)
    case fields => exact .inr (by decide +kernel)
    case methods => exact .inl (by decide +kernel)
    case texts =>
      have places : ∀ i < header.stringIdsSize.toNat,
          Binary.numberAt? 4 content (header.stringIdsOffset.toNat + 4 * i) = some 132 ∨
          Binary.numberAt? 4 content (header.stringIdsOffset.toNat + 4 * i) = some 137 := by
        decide +kernel
      intro i inside offset stands
      rcases places i inside with first | second
      · cases stands.symm.trans first
        exact ⟨3, 1, by decide +kernel, by decide +kernel⟩
      · cases stands.symm.trans second
        exact ⟨1, 1, by decide +kernel, by decide +kernel⟩
    case parameters =>
      intro i inside
      exact absurd inside (Nat.not_lt_zero i)
  obtain ⟨_, _, listing⟩ :=
    dangling_references_met_when_followed (by decide +kernel) start complete
  have read : Image.read content = .ok image := by decide +kernel
  have followed : image.Follows .fields (.type 7) :=
    .field rfl (Array.mem_singleton.mpr rfl) (.declaringType .entry)
  obtain ⟨_, dangling⟩ := listing image read inputs { selection := .fields } source rfl
  exact ⟨by decide +kernel, dangling (.type 7) followed (by decide)⟩

/-- A complete image whose only type refers to a string that does not exist.  No member refers to
the type, for there is none, and still the image is turned down. -/
theorem unused_type_without_string_is_refused :
    let content : List UInt8 := dexMagic ++ [0x30, 0x33, 0x35, 0x00] ++ List.replicate 24 0 ++
      [123, 112, 0x12345678, 0, 0, 0, 1, 112, 1, 116, 0, 0, 0, 0, 0, 0, 0, 0, 3, 120].flatMap
        Header.wordBytes ++
      [120, 0xFFFF].flatMap Binary.u32Bytes ++ [0x01, 0x41, 0x00]
    let inputs : Inputs := { openFile := fun _ => .error .notFound, standardInput := .ok [] }
    ∃ header, Header.read content = .ok header ∧ Image.Complete content header ∧
      header.fieldIdsSize = 0 ∧ header.methodIdsSize = 0 ∧
      Image.read content = .error { fault := .noString 0xFFFF, places := [.typeId 0] } ∧
      listedAlone inputs {} (.bytes "a.dex" content) =
        .error (.read "a.dex" (some "a.dex")
          (.image { fault := .noString 0xFFFF, places := [.typeId 0] })) := by
  intro content inputs
  let header := Header.ofBytes content (by decide +kernel)
  refine ⟨header, by decide +kernel, ?_, by decide +kernel, by decide +kernel, by decide +kernel,
    by decide +kernel⟩
  constructor
  case strings => exact .inr (by decide +kernel)
  case types => exact .inr (by decide +kernel)
  case prototypes => exact .inl (by decide +kernel)
  case fields => exact .inl (by decide +kernel)
  case methods => exact .inl (by decide +kernel)
  case texts =>
    have place : ∀ i < header.stringIdsSize.toNat,
        Binary.numberAt? 4 content (header.stringIdsOffset.toNat + 4 * i) = some 120 := by
      decide +kernel
    intro i inside offset stands
    cases stands.symm.trans (place i inside)
    exact ⟨1, 1, by decide +kernel, by decide +kernel⟩
  case parameters =>
    intro i inside
    exact absurd inside (Nat.not_lt_zero i)

end DexMembers
