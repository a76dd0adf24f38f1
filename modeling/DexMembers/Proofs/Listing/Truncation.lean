import DexMembers.Proofs.Image.Extension
import DexMembers.Proofs.Listing.ImageLines
import DexMembers.Proofs.Listing.Streaming

/-!
# Images cut short

An image that is cut short is refused, or nothing of its tables stood behind the cut.  So a listing
never loses members without a word, and bytes behind an image never add any.
-/

set_option autoImplicit false

namespace DexMembers

theorem Image.linesOf_append {options : ListingOptions} {name : String} {content : List UInt8}
    {lines : List String} (listed : Image.linesOf options name content = .ok lines)
    (more : List UInt8) : Image.linesOf options name (content ++ more) = .ok lines := by
  obtain ⟨table, found, rfl⟩ := eq_ok_of_map_eq_ok listed
  obtain ⟨image, read, members⟩ := eq_ok_of_bind_eq_ok found
  have longer := Image.read_append (eq_ok_of_mapError_eq_ok read) more
  rw [Image.linesOf, Image.membersOf, longer, Except.mapError_ok, Except.ok_bind, members]
  rfl

/-- What is cut off an image was either needed, and then the rest is refused, or else played no
part. -/
theorem Image.read_take (content : List UInt8) (size : Nat) :
    (∃ failure, Image.read (content.take size) = .error failure) ∨
      Image.read (content.take size) = Image.read content := by
  cases read : Image.read (content.take size) with
  | error failure => exact Or.inl ⟨failure, rfl⟩
  | ok image =>
      have whole := Image.read_append read (content.drop size)
      rw [List.take_append_drop] at whole
      exact Or.inr whole.symm

/-- An image that can be read is read the same with any bytes behind it; cut at any place it is
refused or read the same; and a bare image that can be listed has the same lines with any bytes
behind it. -/
theorem image_complete_or_refused (content : List UInt8) :
    (∀ more image, Image.read content = .ok image → Image.read (content ++ more) = .ok image) ∧
    (∀ size, (∃ failure, Image.read (content.take size) = .error failure) ∨
      Image.read (content.take size) = Image.read content) ∧
    (∀ (more : List UInt8) (inputs otherInputs : Inputs) (options : ListingOptions)
      (source other : Source) (lines : List String), isDex content = true →
      source.name = other.name → source.content inputs = .ok content →
      other.content otherInputs = .ok (content ++ more) →
      listedAlone inputs options source = .ok lines →
      listedAlone otherInputs options other = .ok lines) := by
  refine ⟨fun more image read => Image.read_append read more, Image.read_take content, ?_⟩
  intro more inputs otherInputs options source other lines dex sameName found longer listed
  rw [listedAlone_eq, outcome_lines_of_bare found dex] at listed
  rw [listedAlone_eq, outcome_lines_of_bare longer (isDex_append dex more)]
  have alone := eq_ok_of_mapError_eq_ok listed
  rw [← sameName, Image.linesOf_append alone more]
  rfl

/-- An image of one field, in a file that grows by two bytes.  The image's last byte ends a string:
without it the reader fails, and no byte behind it matters. -/
theorem image_complete_or_refused_one_field :
    let image := oneFieldImage
    let before : Inputs := { openFile := fun _ => .ok image, standardInput := .ok [] }
    let after : Inputs :=
      { openFile := fun _ => .ok (image ++ [0xFF, 0x00]), standardInput := .ok [] }
    let options : ListingOptions := { selection := .fields }
    listedAlone before options (.file "a.dex") = .ok ["A n: A"] ∧
      listedAlone after options (.file "a.dex") = .ok ["A n: A"] ∧
      (∃ failure, Image.read (image.take 139) = .error failure) := by
  intro image before after options
  obtain ⟨_, cut, grown⟩ := image_complete_or_refused image
  have listed : listedAlone before options (.file "a.dex") = .ok ["A n: A"] := by decide +kernel
  have longer := grown [0xFF, 0x00] before after options (.file "a.dex") (.file "a.dex") _
    (by decide +kernel) rfl rfl rfl listed
  refine ⟨listed, longer, ?_⟩
  rcases cut 139 with refused | complete
  · exact refused
  · have shorter : Image.read (image.take 139) ≠ Image.read image := by decide +kernel
    exact absurd complete shorter

end DexMembers
