import DexMembers.Archive.Stored
import DexMembers.Proofs.Archive.Visit
import DexMembers.Proofs.Image.Header
import DexMembers.Proofs.Image.ReaderSteps
import DexMembers.Proofs.Listing.ImageLines
import DexMembers.Proofs.Listing.Streaming

/-!
# Listings are made of blocks

The lines of a listing stand in blocks, one per image and in the order of the sources and of the
entries in them.  An archive gives the blocks that its images give on their own, and fails where
the first of them does.
-/

set_option autoImplicit false

namespace DexMembers

theorem gathered_append (first second : List ListingOutcome) :
    gathered (first ++ second) =
      match gathered first with
      | .error failure => .error failure
      | .ok lines => (gathered second).map (lines ++ ·) := by
  induction first with
  | nil =>
      rw [List.nil_append]
      change _ = (gathered second).map fun lines => lines
      cases gathered second <;> rfl
  | cons head rest ih =>
      rw [List.cons_append, gathered_cons, gathered_cons, ih]
      cases head with
      | error failure => rfl
      | ok lines =>
          cases gathered rest with
          | error failure => rfl
          | ok others =>
              cases gathered second with
              | error failure => rfl
              | ok last => exact congrArg Except.ok (List.append_assoc lines others last).symm

theorem outcome_list_append (inputs : Inputs) (options : ListingOptions)
    (first second : List Source) :
    (list inputs options (first ++ second)).outcome =
      match (list inputs options first).outcome with
      | .error failure => .error failure
      | .ok lines => (list (inputs.afterAll first) options second).outcome.map (lines ++ ·) := by
  rw [outcome_list, listedInTurn_append, gathered_append, ← outcome_list, ← outcome_list]
  rfl

theorem outcome_list_afterAll {inputs : Inputs} {options : ListingOptions}
    {first second : List Source} (once : .standardInput ∉ first ∨ .standardInput ∉ second) :
    (list (inputs.afterAll first) options second).outcome =
      (list inputs options second).outcome := by
  simp only [outcome_list, listedInTurn_afterAll once]

namespace ArchiveFile

variable (inputs : Inputs) (options : ListingOptions)

def listedAlone (image : ArchiveFile) : Except ListingError (List String) :=
  DexMembers.listedAlone inputs options (.bytes image.name image.content)

def CanList (image : ArchiveFile) : Prop :=
  isDex image.content = true ∧ ∃ lines, image.listedAlone inputs options = .ok lines

end ArchiveFile

theorem isDex_of_read {content : List UInt8} {image : Image}
    (read : Image.read content = .ok image) : isDex content = true := by
  obtain ⟨_, magic, _⟩ := Header.read_eq_ok_iff.mp (Image.read_eq_ok_iff.mp read).1
  exact isDex_iff.mpr magic

theorem Image.linesOf_of_not_dex (options : ListingOptions) (name : String) {content : List UInt8}
    (other : isDex content = false) :
    ∃ error, Image.read content = .error error ∧
      Image.linesOf options name content = .error (.image error) := by
  cases read : Image.read content with
  | error error =>
      refine ⟨error, rfl, ?_⟩
      rw [Image.linesOf, Image.membersOf, read]
      rfl
  | ok image =>
      rw [isDex_of_read read] at other
      cases other

section Archive

variable {inputs : Inputs} {options : ListingOptions} {image : ArchiveFile}

theorem ArchiveFile.listedAlone_of_dex (dex : isDex image.content = true) :
    image.listedAlone inputs options =
      (Image.linesOf options image.name image.content).mapError
        (MembersError.inListing image.name image.name) := by
  have found : (Source.bytes image.name image.content).content inputs = .ok image.content := rfl
  exact (listedAlone_eq inputs options _).trans (outcome_lines_of_bare found dex options)

def ArchiveFile.linesIn (source : String) (options : ListingOptions) (image : ArchiveFile) :
    Except ListingError (List String) :=
  (Image.linesOf options image.name image.content).mapError
    (MembersError.inListing source image.name)

theorem ArchiveFile.linesIn_eq_ok_iff (inputs : Inputs) {source : String} {lines : List String} :
    image.linesIn source options = .ok lines ↔
      isDex image.content = true ∧ image.listedAlone inputs options = .ok lines := by
  rw [linesIn]
  cases dex : isDex image.content with
  | false =>
      obtain ⟨error, _, fails⟩ := Image.linesOf_of_not_dex options image.name dex
      simp [fails, Except.mapError]
  | true =>
      rw [listedAlone_of_dex dex]
      cases Image.linesOf options image.name image.content <;> simp [Except.mapError]

/-- How an entry fails that cannot be listed: as an image on its own does, or for being none. -/
def ArchiveFile.FailsIn (source : String) (inputs : Inputs) (options : ListingOptions)
    (image : ArchiveFile) (failure : ListingError) : Prop :=
  (isDex image.content = true →
    (∃ error, image.listedAlone inputs options =
        .error (.read image.name (some image.name) (.image error)) ∧
      failure = .read source (some image.name) (.image error)) ∨
    (∃ error, image.listedAlone inputs options = .error (.decode image.name image.name error) ∧
      failure = .decode source image.name error)) ∧
  (isDex image.content = false → ∃ error, Image.read image.content = .error error ∧
    failure = .read source (some image.name) (.image error))

theorem ArchiveFile.exists_failsIn (source : String) (bad : ¬ image.CanList inputs options) :
    ∃ failure, image.linesIn source options = .error failure ∧
      image.FailsIn source inputs options failure := by
  cases dex : isDex image.content with
  | false =>
      obtain ⟨error, unread, fails⟩ := Image.linesOf_of_not_dex options image.name dex
      refine ⟨.read source (some image.name) (.image error), ?_, ?_, ?_⟩
      · rw [linesIn, fails]
        rfl
      · exact fun image => absurd (image.symm.trans dex) (by decide)
      · exact fun _ => ⟨error, unread, rfl⟩
  | true =>
      have alone : image.listedAlone inputs options = _ := listedAlone_of_dex dex
      cases found : Image.linesOf options image.name image.content with
      | ok lines =>
          rw [found] at alone
          exact absurd ⟨dex, lines, alone⟩ bad
      | error error =>
          rw [found] at alone
          refine ⟨error.inListing source image.name, ?_, ?_, ?_⟩
          · rw [linesIn, found]
            rfl
          · intro _
            cases error with
            | image error => exact Or.inl ⟨error, alone, rfl⟩
            | descriptor error => exact Or.inr ⟨error, alone, rfl⟩
          · exact fun other => absurd (dex.symm.trans other) (by decide)

end Archive

/-- A listing of two lists of sources is the listing of the first followed by that of the second
where the first have been read, and the first failure is its failure.  What has been read is still
there but for standard input, of which nothing is left, so it matters only if both name standard
input.  An archive that can be opened can be listed if and only if
each of its entries is an image that can be listed on its own, and then its lines are those of its
entries in their order; otherwise it fails at the first entry that is none, in the way that entry
fails on its own. -/
theorem listing_concatenates_blocks (inputs : Inputs) (options : ListingOptions) :
    (∀ first second : List Source, (list inputs options (first ++ second)).outcome =
      match (list inputs options first).outcome with
      | .error failure => .error failure
      | .ok lines => (list (inputs.afterAll first) options second).outcome.map (lines ++ ·)) ∧
    (∀ first : List Source, (inputs.afterAll first).openFile = inputs.openFile ∧
      (inputs.afterAll first).standardInput =
        if .standardInput ∈ first then inputs.standardInput.map fun _ => []
        else inputs.standardInput) ∧
    (∀ first second : List Source, .standardInput ∉ first ∨ .standardInput ∉ second →
      (list (inputs.afterAll first) options second).outcome =
        (list inputs options second).outcome) ∧
    (∀ (source : Source) (content : List UInt8) (archive : Archive),
      source.content inputs = .ok content → isDex content = false →
      Archive.read content = .ok archive →
      ((∃ lines, listedAlone inputs options source = .ok lines) ↔
        ∀ image ∈ archive.images, image.CanList inputs options) ∧
      (∀ lines, listedAlone inputs options source = .ok lines →
        ∃ blocks : List (List String), archive.images.map (ArchiveFile.listedAlone inputs options) =
          blocks.map .ok ∧ lines = blocks.flatten) ∧
      (∀ before image after, archive.images = before ++ image :: after →
        (∀ earlier ∈ before, earlier.CanList inputs options) → ¬ image.CanList inputs options →
        ∃ failure, listedAlone inputs options source = .error failure ∧
          image.FailsIn source.name inputs options failure)) := by
  refine ⟨outcome_list_append inputs options,
    fun first => ⟨inputs.openFile_afterAll first, inputs.standardInput_afterAll first⟩,
    fun _ _ => outcome_list_afterAll, ?_⟩
  intro source content archive found packed opened
  have alone : listedAlone inputs options source =
      (archive.images.mapM (ArchiveFile.linesIn source.name options)).map List.flatten :=
    (listedAlone_eq inputs options source).trans
      (outcome_lines_of_archive found packed opened options)
  have canList : ∀ image : ArchiveFile, image.CanList inputs options ↔
      ∃ lines, image.linesIn source.name options = .ok lines := by
    intro image
    simp only [ArchiveFile.linesIn_eq_ok_iff inputs, exists_and_left,
      ArchiveFile.CanList]
  refine ⟨?_, ?_, ?_⟩
  · simp only [canList, ← exists_mapM_eq_ok_iff, alone]
    cases archive.images.mapM (ArchiveFile.linesIn source.name options) <;> simp [Except.map]
  · intro lines listed
    rw [alone] at listed
    obtain ⟨blocks, run, rfl⟩ := eq_ok_of_map_eq_ok listed
    exact ⟨blocks, map_eq_ok_of_imp (fun image lines listed =>
      ((ArchiveFile.linesIn_eq_ok_iff inputs).mp listed).2) (map_eq_of_mapM_eq_ok run), rfl⟩
  · intro before image after split good bad
    obtain ⟨failure, fails, inOwnWay⟩ := ArchiveFile.exists_failsIn source.name bad
    refine ⟨failure, ?_, inOwnWay⟩
    rw [alone, split, mapM_eq_error_of_first (fun earlier member =>
      (canList earlier).mp (good earlier member)) fails]
    rfl

/-- The second of three entries is an image cut off in its header.  The archive fails as that image
does, under the archive's name, and nothing is said of the third entry, which is no image at all.
Standard input that holds an image is listed once, and the second time nothing is left of it. -/
theorem listing_concatenates_blocks_cut_entry :
    let image := oneFieldImage
    let whole : ArchiveFile := { name := "b.dex", content := image }
    let cut : ArchiveFile := { name := "a.dex", content := image.take 8 }
    let other : ArchiveFile := { name := "c.dex", content := [0x00] }
    let source : Source := .bytes "a.apk" (Archive.storedBytes [whole, cut, other])
    let inputs : Inputs := { openFile := fun _ => .error .notFound, standardInput := .ok [] }
    let options : ListingOptions := { selection := .fields }
    let fed : Inputs := { openFile := fun _ => .error .notFound, standardInput := .ok image }
    listedAlone inputs options source = .error (.read "a.apk" (some "a.dex") (.image
        { fault := .shortHeader })) ∧
      (list fed options [.standardInput]).outcome = .ok ["A n: A"] ∧
      (list fed options ([.standardInput] ++ [.standardInput])).outcome =
        .error (.read "<stdin>" none (.archive .noEndRecord)) := by
  intro image whole cut other source inputs options fed
  -- The checksum is computed in pieces because evaluation nests as deep as the bytes are many.
  have checksum : Checksum.crc32 image = 1018753126 := by
    have pieces : image = image.take 50 ++ ((image.drop 50).take 50 ++ image.drop 100) := by
      decide +kernel
    have first : (image.take 50).foldl Checksum.crcStep 0xFFFFFFFF = 3632285852 := by
      decide +kernel
    have second : ((image.drop 50).take 50).foldl Checksum.crcStep 3632285852 = 808736624 := by
      decide +kernel
    have third : (image.drop 100).foldl Checksum.crcStep 808736624 = 3276214169 := by
      decide +kernel
    rw [Checksum.crc32, pieces, List.foldl_append, List.foldl_append, first, second, third]
    decide
  have shared : Archive.sharedFields whole =
      [20, 0, 0, 8, 0, 0, 0, 0, 0, 0, 102, 240, 184, 60,
        140, 0, 0, 0, 140, 0, 0, 0, 5, 0, 0, 0] := by
    simp only [Archive.sharedFields, whole, checksum]
    decide +kernel
  let entry (name : String) (checksum : UInt32) (storedSize headerStart : Nat) :
      Archive.DirectoryEntry :=
    { name, encrypted := false, locked := false, compression := 0, checksum, storedSize,
      headerStart }
  have directory : Archive.directory (Archive.storedBytes [whole, cut, other]) = .ok
      [entry "b.dex" 1018753126 140 0, entry "a.dex" 838591673 8 175,
        entry "c.dex" 3523407757 1 218] := by
    simp only [Archive.storedBytes, Archive.storedDirectory, Archive.storedEntry,
      Archive.storedFile, List.flatMap_cons, shared]
    decide +kernel
  have opened : Archive.read (Archive.storedBytes [whole, cut, other]) =
      .ok { fileCount := 3, images := [whole, cut, other] } := by
    rw [Archive.read, directory]
    dsimp only
    rw [Archive.visitAll, Archive.visit_stored _ 35 image (by decide +kernel) (by decide +kernel)
      rfl (by decide +kernel) checksum]
    decide +kernel
  have cutAlone : cut.listedAlone inputs options = .error (.read "a.dex" (some "a.dex") (.image
      { fault := .shortHeader })) := by decide +kernel
  have wholeAlone : whole.listedAlone inputs options = .ok ["A n: A"] := by decide +kernel
  have good : ∀ earlier ∈ [whole], earlier.CanList inputs options := by
    intro earlier member
    obtain rfl := List.mem_singleton.mp member
    exact ⟨by decide, ["A n: A"], wholeAlone⟩
  have bad : ¬ cut.CanList inputs options := by
    rintro ⟨_, lines, listed⟩
    rw [cutAlone] at listed
    cases listed
  obtain ⟨_, _, _, archives⟩ := listing_concatenates_blocks inputs options
  obtain ⟨_, _, fails⟩ := archives source _ _ rfl (by decide +kernel) opened
  obtain ⟨failure, listed, inOwnWay, _⟩ := fails [whole] cut [other] rfl good bad
  rw [cutAlone] at inOwnWay
  have once : (list fed options [.standardInput]).outcome = .ok ["A n: A"] := by decide +kernel
  refine ⟨?_, once, ?_⟩
  · rcases inOwnWay (by decide) with ⟨error, same, rfl⟩ | ⟨error, different, _⟩
    · cases same
      exact listed
    · cases different
  · obtain ⟨parts, _⟩ := listing_concatenates_blocks fed options
    rw [parts, once]
    decide +kernel

end DexMembers
