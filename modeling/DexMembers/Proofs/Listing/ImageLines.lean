import DexMembers.Listing.Source
import DexMembers.Proofs.Outcome

/-!
# The lines of an image within a listing

Apart from the events it reports, listing a source comes down to one computation per image: read
it, follow its ids, and make its lines.  A failure differs from source to source in nothing but the
names it carries.
-/

set_option autoImplicit false

namespace DexMembers

def MembersError.inListing (source image : String) : MembersError → ListingError
  | .image error => .read source (some image) (.image error)
  | .descriptor error => .decode source image error

def Image.membersOf (content : List UInt8) (name : String) (selection : Selection) :
    Except MembersError MemberTable :=
  (Image.read content).mapError .image >>= fun image => image.members name selection

def Image.linesOf (options : ListingOptions) (name : String) (content : List UInt8) :
    Except MembersError (List String) :=
  (Image.membersOf content name options.selection).map (MemberTable.lines options)

/-- An image without checksums, of the one field `n` of its own class `A`. -/
def oneFieldImage : List UInt8 :=
  dexMagic ++ [0x30, 0x33, 0x35, 0x00] ++ List.replicate 24 0 ++
    [140, 112, 0x12345678, 0, 0, 0, 2, 112, 1, 120, 0, 0, 1, 124, 0, 0, 0, 0, 8, 132].flatMap
      Header.wordBytes ++
    [132, 137, 0].flatMap Binary.u32Bytes ++ idTripleBytes 0 0 1 ++
    [0x03, 0x4C, 0x41, 0x3B, 0x00, 0x01, 0x6E, 0x00]

theorem outcome_imageMembers (source name : String) (content : List UInt8)
    (selection : Selection) :
    (Source.imageMembers source name content selection).outcome =
      (Image.membersOf content name selection).mapError (MembersError.inListing source name) := by
  simp only [Source.imageMembers, Image.membersOf, Traced.outcome_bind, Traced.outcome_mapError,
    Traced.outcome_ofExcept]
  change ((Image.read content).mapError _ >>= _) = _
  cases Image.read content with
  | error failure => rfl
  | ok image => rfl

theorem outcome_tableLines (options : ListingOptions) (tables : List MemberTable) :
    (Source.tableLines options tables).outcome =
      .ok (tables.flatMap (MemberTable.lines options)) := by
  induction tables with
  | nil => rfl
  | cons table rest ih =>
      simp only [Source.tableLines, Traced.outcome_bind, Traced.outcome_report,
        Traced.outcome_pure, ih, Except.ok_bind, List.flatMap_cons]

section

variable {inputs : Inputs} {source : Source} {content : List UInt8}

theorem outcome_lines (inputs : Inputs) (options : ListingOptions) (source : Source) :
    (source.lines inputs options).outcome =
      (source.members inputs options.selection).outcome.map fun tables =>
        tables.flatMap (MemberTable.lines options) := by
  simp only [Source.lines, Traced.outcome_bind, outcome_tableLines]
  cases (source.members inputs options.selection).outcome <;> rfl

theorem outcome_members_of_bare (found : source.content inputs = .ok content)
    (dex : isDex content = true) (selection : Selection) :
    (source.members inputs selection).outcome =
      ((Image.membersOf content source.name selection).mapError
        (MembersError.inListing source.name source.name)).map fun table => [table] := by
  simp only [Source.members, found, dex, if_true, Traced.outcome_bind, Traced.outcome_report,
    Traced.outcome_pure, outcome_imageMembers, Except.ok_bind]
  cases Image.membersOf content source.name selection <;> rfl

theorem outcome_lines_of_bare (found : source.content inputs = .ok content)
    (dex : isDex content = true) (options : ListingOptions) :
    (source.lines inputs options).outcome =
      (Image.linesOf options source.name content).mapError
        (MembersError.inListing source.name source.name) := by
  rw [outcome_lines, outcome_members_of_bare found dex, Image.linesOf]
  cases Image.membersOf content source.name options.selection with
  | error failure => rfl
  | ok table => exact congrArg Except.ok (List.flatMap_singleton ..)

theorem outcome_imagesMembers (source : String) (selection : Selection)
    (images : List ArchiveFile) :
    (Source.imagesMembers source selection images).outcome =
      images.mapM fun image => (Image.membersOf image.content image.name selection).mapError
        (MembersError.inListing source image.name) := by
  induction images with
  | nil => rfl
  | cons image rest ih =>
      rw [List.mapM_cons]
      simp only [Source.imagesMembers, Traced.outcome_bind, Traced.outcome_pure,
        outcome_imageMembers, ih]
      rfl

theorem outcome_lines_of_archive {archive : Archive} (found : source.content inputs = .ok content)
    (packed : isDex content = false) (opened : Archive.read content = .ok archive)
    (options : ListingOptions) :
    (source.lines inputs options).outcome =
      (archive.images.mapM fun image =>
        (Image.linesOf options image.name image.content).mapError
          (MembersError.inListing source.name image.name)).map List.flatten := by
  have members : (source.members inputs options.selection).outcome =
      archive.images.mapM fun image =>
        (Image.membersOf image.content image.name options.selection).mapError
          (MembersError.inListing source.name image.name) := by
    simp only [Source.members, found, packed, opened, Traced.outcome_bind, Traced.outcome_report,
      Traced.outcome_pure, outcome_imagesMembers, Bool.false_eq_true, if_false]
    exact bind_pure _
  have flat : (fun tables => tables.flatMap (MemberTable.lines options)) =
      List.flatten ∘ List.map (MemberTable.lines options) := by
    funext tables
    exact List.flatMap_def
  simp only [outcome_lines, members, Image.linesOf, map_mapError, mapM_map, map_map, flat]

end

end DexMembers
