import DexMembers.Proofs.Guarded.Lines
import DexMembers.Proofs.Guarded.Members
import DexMembers.Proofs.Listing.ImageLines

/-!
# Images listed without faults

Whatever the bytes, listing them as an image ends in lines or in a failure that the listing
reports.  No guard is missing on the way from the bytes to the lines.
-/

set_option autoImplicit false

namespace DexMembers

namespace Guarded

def linesOf (options : ListingOptions) (name : String) (content : Array UInt8) :
    Guarded MembersError (List String) := do
  let found ← (image content).adapt .image
  let table ← members found name options.selection
  lines options table

def imageLines (source name : String) (options : ListingOptions) (content : Array UInt8) :
    Guarded ListingError (List String) :=
  (linesOf options name content).adapt (MembersError.inListing source name)

theorem linesOf_eq {options : ListingOptions} (mapped : FileFits options) (name : String)
    {content : Array UInt8} (short : content.size < 2 ^ 63) :
    linesOf options name content = of (Image.linesOf options name content.toList) := by
  have unfolded : Image.linesOf options name content.toList =
      (Image.read content.toList).mapError .image >>= fun found =>
        found.members name options.selection >>= fun table => .ok (table.lines options) := by
    rw [Image.linesOf, Image.membersOf]
    cases (Image.read content.toList).mapError MembersError.image with
    | error failure => rfl
    | ok found =>
        rw [Except.ok_bind, Except.ok_bind]
        cases found.members name options.selection <;> rfl
  rw [linesOf, image_eq short, adapt_of, unfolded]
  apply of_bind
  intro found read
  rw [members_eq]
  apply of_bind
  intro table resolved
  exact lines_eq mapped short (Image.bounded_of_members (eq_ok_of_mapError_eq_ok read) resolved)

end Guarded

/-- An image of less than 2^63 bytes, listed with every index, slice, bound, copy, sum and
difference checked, meets no fault: whatever the bytes, the selection, the mapping and the way
of naming, the run ends in the lines of the image or in the failure of its listing. -/
theorem image_listed_without_fault (source name : String) {content : List UInt8}
    (short : content.length < 2 ^ 63) (options : ListingOptions)
    (mapped : ∀ mapping, options.mapping = some mapping →
      ∃ text : String, text.utf8ByteSize < 2 ^ 63 ∧ Mapping.read text = .ok mapping) :
    (Guarded.imageLines source name options content.toArray).run =
      .ok ((Source.imageMembers source name content options.selection).outcome.map
        (MemberTable.lines options)) ∧
    (isDex content = true → ∀ inputs,
      (Guarded.imageLines name name options content.toArray).run =
        .ok ((Source.bytes name content).lines inputs options).outcome) := by
  have run : ∀ source, (Guarded.imageLines source name options content.toArray).run =
      .ok ((Image.linesOf options name content).mapError (MembersError.inListing source name)) := by
    intro source
    rw [Guarded.imageLines, Guarded.linesOf_eq mapped name short, Guarded.adapt_of]
    rfl
  constructor
  · rw [run, outcome_imageMembers, Image.linesOf, map_mapError]
  · intro dex inputs
    have found : (Source.bytes name content).content inputs = .ok content := rfl
    rw [run, outcome_lines_of_bare found dex]
    rfl

/-- The stated size of the image is the largest there is, and its one method is renamed and loses
a counter in the middle of its name. -/
theorem image_listed_without_fault_lambda :
    let content : List UInt8 := dexMagic ++ [0x30, 0x33, 0x35, 0x00] ++ List.replicate 24 0 ++
      [0xFFFFFFFF, 112, 0x12345678, 0, 0, 0, 3, 112, 2, 124, 1, 132, 0, 0, 1, 144, 0, 0, 22,
        152].flatMap Header.wordBytes ++
      [152, 157, 160, 0, 1, 1, 1, 0].flatMap Binary.u32Bytes ++ idTripleBytes 0 0 2 ++
      [0x03, 0x4C, 0x41, 0x3B, 0x00, 0x01, 0x56, 0x00] ++
      [0x0C] ++ Text.utf8Bytes "lambda$a$1$b" ++ [0x00]
    let classes : Dictionary Descriptor ClassEntry :=
      Dictionary.insert {} (.object "A") { original := .object "com/B" }
    let options : ListingOptions :=
      { hideNumbers := true, selection := .all, mapping := some { classes } }
    (Guarded.imageLines "a.dex" "a.dex" options content.toArray).run =
      .ok (.ok ["com.B lambda$a$b()"]) := by
  intro content classes options
  have restored : Mapping.read "com.B -> A:\n" = .ok { classes } := by decide +kernel
  have short : content.length < 2 ^ 63 := by decide +kernel
  have mapped : ∀ mapping, options.mapping = some mapping →
      ∃ text : String, text.utf8ByteSize < 2 ^ 63 ∧ Mapping.read text = .ok mapping := by
    intro mapping same
    cases same
    exact ⟨_, by decide +kernel, restored⟩
  have listed := (image_listed_without_fault "a.dex" "a.dex" short options mapped).1
  rw [listed]
  decide +kernel

end DexMembers
