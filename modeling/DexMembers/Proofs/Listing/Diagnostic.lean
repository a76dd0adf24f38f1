import DexMembers.Archive.Stored
import DexMembers.Proofs.Image.References
import DexMembers.Proofs.Listing.ImageLines
import DexMembers.Proofs.Listing.Streaming
import DexMembers.Proofs.Text.LineBreak

/-!
# The line a failure is reported on

The message of a failed listing is made of fixed words, numbers, quoted tokens and names.  Two parts
stand in it as they are: the name of an archive entry, and the one character of a type token that is
no primitive.  A line break in either breaks the message, and nothing else does.
-/

set_option autoImplicit false

namespace DexMembers

open Text (OneLine isLineBreak oneLine_append_iff oneLine_repr oneLine_quoted)

/-! ### Messages -/

theorem Binary.ReadFailure.oneLine_message (failure : Binary.ReadFailure) :
    OneLine failure.message := by
  cases failure with
  | endOfBytes unit position =>
      have unitName : OneLine unit.name := by cases unit <;> decide
      exact (OneLine.append (OneLine.append (OneLine.append (by decide) unitName) (by decide))
        (oneLine_repr position))
  | positionOverflow position => exact OneLine.append (by decide) (oneLine_repr position)

theorem oneLine_hexWord (word : UInt32) : OneLine (hexWord word) := by
  refine OneLine.append (by decide) ?_
  intro c member
  rw [String.toList_ofList, List.mem_append] at member
  rcases member with zero | digit
  · rw [(List.mem_replicate.mp zero).2]
    decide
  · exact Text.isLineBreak_of_mem_toDigits (by decide) (by decide) digit

theorem ImageFault.oneLine_message (fault : ImageFault) : OneLine fault.message := by
  cases fault with
  | shortHeader => decide
  | badMagic => decide
  | badEndianTag tag => exact OneLine.append (by decide) (oneLine_hexWord tag)
  | shortField => decide
  | unreadable failure => exact failure.oneLine_message
  | typeListTooLong size =>
      exact OneLine.append (OneLine.append (by decide) (oneLine_repr size)) (by decide)
  | noString index =>
      exact OneLine.append (OneLine.append (by decide) (oneLine_repr index)) (by decide)
  | noType index =>
      exact OneLine.append (OneLine.append (by decide) (oneLine_repr index)) (by decide)
  | noPrototype index =>
      exact OneLine.append (OneLine.append (by decide) (oneLine_repr index)) (by decide)
  | undecodableString index => exact OneLine.append (by decide) (oneLine_repr index)

theorem ImagePlace.oneLine_message (place : ImagePlace) : OneLine place.message := by
  cases place with
  | stringId index => exact OneLine.append (by decide) (oneLine_repr index)
  | typeId index => exact OneLine.append (by decide) (oneLine_repr index)
  | protoId index => exact OneLine.append (by decide) (oneLine_repr index)

theorem ImageError.oneLine_message (error : ImageError) : OneLine error.message := by
  rw [message]
  split
  · exact error.fault.oneLine_message
  · refine OneLine.append (OneLine.append error.fault.oneLine_message (by decide)) ?_
    refine OneLine.intercalate (by decide) ?_
    intro piece member
    obtain ⟨place, _, rfl⟩ := List.mem_map.mp member
    exact place.oneLine_message

theorem ArchiveError.oneLine_message (error : ArchiveError) : OneLine error.message := by
  have detail : OneLine error.detail := by cases error <;> decide
  have outer : OneLine "i/o error" := by decide
  refine OneLine.append ?_ ?_
  · cases error.trouble <;> decide
  · rw [causes]
    cases error.trouble with
    | damagedContent => exact detail
    | denied => exact detail
    | invalid => exact OneLine.append (by decide) detail
    | unsupported => exact OneLine.append (by decide) detail
    | unreadable => exact outer

theorem ReadError.oneLine_message (error : ReadError) : OneLine error.message := by
  cases error with
  | image error => exact error.oneLine_message
  | archive error => exact error.oneLine_message

theorem oneLine_singleton_iff {c : Char} :
    OneLine (String.singleton c) ↔ isLineBreak c = false := by
  simp only [OneLine, String.toList_singleton, List.mem_singleton, forall_eq]

/-- A malformed token is quoted, an unknown letter is not. -/
theorem DescriptorError.oneLine_message_iff (error : DescriptorError) :
    OneLine error.message ↔ ∀ code, error = .unknownPrimitive code → isLineBreak code = false := by
  cases error with
  | unknownPrimitive code =>
      have words : OneLine "Unknown type: " := by decide
      change OneLine ("Unknown type: " ++ String.singleton code) ↔ _
      simp only [oneLine_append_iff, words, true_and, oneLine_singleton_iff,
        unknownPrimitive.injEq, forall_eq']
  | malformed token =>
      have words : OneLine "Malformed type descriptor: " := by decide
      have message : OneLine (malformed token).message := words.append (oneLine_quoted token)
      exact iff_of_true message fun _ other => nomatch other

namespace ListingError

def IsReading : ListingError → Prop
  | read _ _ _ | decode _ _ _ => True
  | input _ _ | output _ => False

def source? : ListingError → Option String
  | input source _ | read source _ _ | decode source _ _ => some source
  | output _ => none

def image? : ListingError → Option String
  | read _ image _ => image
  | decode _ image _ => some image
  | input _ _ | output _ => none

def unknownCode? : ListingError → Option Char
  | decode _ _ (.unknownPrimitive code) => some code
  | _ => none

theorem oneLine_inSource_iff {words image source reason : String} (fixed : OneLine words) :
    OneLine (words ++ image ++ " in " ++ source ++ ": " ++ reason) ↔
      OneLine source ∧ OneLine image ∧ OneLine reason := by
  have between : OneLine " in " := by decide
  have colon : OneLine ": " := by decide
  simp only [oneLine_append_iff, fixed, between, colon, true_and, and_true]
  constructor
  · rintro ⟨⟨image, source⟩, reason⟩
    exact ⟨source, image, reason⟩
  · rintro ⟨source, image, reason⟩
    exact ⟨⟨image, source⟩, reason⟩

theorem oneLine_message_iff {failure : ListingError} (reading : failure.IsReading) :
    OneLine failure.message ↔
      (∀ name, failure.source? = some name → OneLine name) ∧
      (∀ name, failure.image? = some name → OneLine name) ∧
      ∀ code, failure.unknownCode? = some code → isLineBreak code = false := by
  have unread : OneLine "Unable to read " := by decide
  have undecoded : OneLine "Unable to decode " := by decide
  have colon : OneLine ": " := by decide
  cases failure with
  | input source error => exact reading.elim
  | output error => exact reading.elim
  | read source image error =>
      have reason := error.oneLine_message
      cases image with
      | none =>
          change OneLine ("Unable to read " ++ source ++ ": " ++ error.message) ↔ _
          simp only [oneLine_append_iff, unread, colon, reason, true_and, and_true, source?, image?,
            unknownCode?, Option.some.injEq, forall_eq', reduceCtorEq, false_implies, implies_true]
      | some image =>
          refine (oneLine_inSource_iff unread).trans ?_
          simp only [reason, and_true, source?, image?, unknownCode?, Option.some.injEq, forall_eq',
            reduceCtorEq, false_implies, implies_true]
  | decode source image error =>
      have reason := error.oneLine_message_iff
      have code : ∀ code, (decode source image error).unknownCode? = some code ↔
          error = .unknownPrimitive code := by
        intro code
        cases error <;> simp [unknownCode?]
      refine (oneLine_inSource_iff undecoded).trans ?_
      simp only [reason, source?, image?, code, Option.some.injEq, forall_eq']

end ListingError

/-! ### Where a failure comes from -/

/-- The images that a source is made of, by name: itself if it is one, or the entries of its
archive. -/
inductive Source.Holds (inputs : Inputs) (source : Source) : String → List UInt8 → Prop
  | bare {content : List UInt8} (found : source.content inputs = .ok content)
      (dex : isDex content = true) : Holds inputs source source.name content
  | entry {content : List UInt8} {archive : Archive} {image : ArchiveFile}
      (found : source.content inputs = .ok content) (packed : isDex content = false)
      (opened : Archive.read content = .ok archive) (member : image ∈ archive.images) :
      Holds inputs source image.name image.content

/-- How the reading or decoding of a source fails: its archive cannot be opened, an image it holds
cannot be read, a member asked for cannot be resolved, or the token of a type that such a member
leads to is no descriptor. -/
inductive Source.FailsAt (inputs : Inputs) (selection : Selection) (source : Source) :
    ListingError → Prop
  | archive {content : List UInt8} {error : ArchiveError}
      (found : source.content inputs = .ok content) (packed : isDex content = false)
      (refused : Archive.read content = .error error) :
      FailsAt inputs selection source (.read source.name none (.archive error))
  | image {name : String} {content : List UInt8} {error : ImageError}
      (held : source.Holds inputs name content) (refused : Image.read content = .error error) :
      FailsAt inputs selection source (.read source.name (some name) (.image error))
  | member {name : String} {content : List UInt8} {image : Image} {error : ImageError}
      (held : source.Holds inputs name content) (read : Image.read content = .ok image)
      (refused : image.members name selection = .error (.image error)) :
      FailsAt inputs selection source (.read source.name (some name) (.image error))
  | token {name token : String} {content : List UInt8} {image : Image} {index : Nat}
      {error : DescriptorError} (held : source.Holds inputs name content)
      (read : Image.read content = .ok image) (followed : image.Follows selection (.type index))
      (named : image.typeName index = .ok token) (refused : Descriptor.read token = .error error) :
      FailsAt inputs selection source (.decode source.name name error)

variable {inputs : Inputs} {options : ListingOptions}

theorem Source.failsAt_of_linesOf {source : Source} {name : String} {content : List UInt8}
    (held : source.Holds inputs name content) {error : MembersError}
    (failed : Image.linesOf options name content = .error error) :
    source.FailsAt inputs options.selection (error.inListing source.name name) := by
  rcases eq_error_of_bind_eq_error (eq_error_of_map_eq_error failed) with
    unread | ⟨image, read, unresolved⟩
  · obtain ⟨error, refused, rfl⟩ := eq_error_of_mapError_eq_error unread
    exact .image held refused
  · have read := eq_ok_of_mapError_eq_ok read
    cases error with
    | image error => exact .member held read unresolved
    | descriptor error =>
        cases Image.fails_of_members unresolved with
        | token followed named refused => exact .token held read followed named refused

theorem Source.failsAt_of_listedAlone {source : Source} {failure : ListingError}
    (failed : listedAlone inputs options source = .error failure) :
    (∃ error, failure = .input source.name error) ∨
      source.FailsAt inputs options.selection failure := by
  rw [listedAlone_eq] at failed
  cases found : source.content inputs with
  | error error =>
      rw [outcome_lines, Source.members, found] at failed
      cases failed
      exact Or.inl ⟨error, rfl⟩
  | ok content =>
      right
      cases kind : isDex content with
      | true =>
          rw [outcome_lines_of_bare found kind] at failed
          obtain ⟨error, unlisted, rfl⟩ := eq_error_of_mapError_eq_error failed
          exact failsAt_of_linesOf (.bare found kind) unlisted
      | false =>
          cases opened : Archive.read content with
          | error error =>
              rw [outcome_lines, Source.members, found] at failed
              simp only [kind, opened] at failed
              cases failed
              exact .archive found kind opened
          | ok archive =>
              rw [outcome_lines_of_archive found kind opened] at failed
              obtain ⟨image, member, failed⟩ :=
                exists_mem_of_mapM_eq_error (eq_error_of_map_eq_error failed)
              obtain ⟨error, unlisted, rfl⟩ := eq_error_of_mapError_eq_error failed
              exact failsAt_of_linesOf (.entry found kind opened member) unlisted

theorem Source.FailsAt.source?_eq {source : Source} {selection : Selection}
    {failure : ListingError} (fails : source.FailsAt inputs selection failure) :
    failure.source? = some source.name := by
  cases fails <;> rfl

/-- A listing that fails at reading or decoding, written to any sink or to none, fails at the first
source that cannot be listed.  If no source's name breaks the line, the message is on one line if
and only if neither the name of the image nor the letter that is no primitive breaks it: these two
stand in the message as they are, and nothing else of the source's bytes does. -/
theorem diagnostic_one_line_iff (inputs : Inputs) (options : ListingOptions)
    (sources : List Source) (plain : ∀ source ∈ sources, OneLine source.name)
    (failure : ListingError) (reading : failure.IsReading)
    (failed : (list inputs options sources).outcome = .error failure ∨
      ∃ sink, (writeListing inputs options sources sink).outcome = .error failure) :
    (let listable := listableCount (listedInTurn inputs options sources)
      ∃ source, sources[listable]? = some source ∧
        source.FailsAt (inputs.afterAll (sources.take listable)) options.selection failure) ∧
    (OneLine failure.message ↔
      (∀ name, failure.image? = some name → OneLine name) ∧
      ∀ code, failure.unknownCode? = some code → isLineBreak code = false) := by
  have noSink : ∀ error, failure ≠ .output error := by
    rintro error rfl
    exact reading
  have listed : (list inputs options sources).outcome = .error failure := by
    rcases failed with failed | ⟨sink, failed⟩
    · exact failed
    · rw [outcome_list]
      exact (streamed_writeListing inputs options sources sink).gathered_eq_error failed noSink
  obtain ⟨source, first, unlisted⟩ := exists_unlisted_of_list_eq_error listed
  have fails := (Source.failsAt_of_listedAlone unlisted).resolve_left <| by
    rintro ⟨error, rfl⟩
    exact reading
  have named : OneLine source.name := plain source (List.mem_of_getElem? first)
  refine ⟨⟨source, first, fails⟩, ?_⟩
  rw [ListingError.oneLine_message_iff reading, fails.source?_eq]
  exact and_iff_right fun name same => Option.some.inj same ▸ named

/-- An archive whose one entry has a line feed in its name: the entry is no image, and the name
breaks the message. -/
theorem diagnostic_one_line_iff_entry_name :
    let entry : ArchiveFile := { name := "a\n.dex", content := [0x00] }
    let inputs : Inputs := { openFile := fun _ => .error .notFound, standardInput := .ok [] }
    let source : Source := .bytes "a.apk" (Archive.storedBytes [entry])
    let failure : ListingError :=
      .read "a.apk" (some "a\n.dex") (.image { fault := .shortHeader })
    OneLine source.name ∧ failure.IsReading ∧
      (list inputs {} [source]).outcome = .error failure ∧
      (writeListing inputs {} [source] {}).outcome = .error failure ∧
      source.FailsAt inputs .methods failure ∧ ¬ OneLine failure.message := by
  intro entry inputs source failure
  have named : OneLine source.name := by decide
  have listed : (list inputs {} [source]).outcome = .error failure := by decide +kernel
  obtain ⟨⟨found, first, fails⟩, oneLine⟩ := diagnostic_one_line_iff inputs {} [source]
    (by simpa using named) failure trivial (.inl listed)
  refine ⟨named, trivial, listed, ?_, ?_, ?_⟩
  · rw [(writeListing_unbounded rfl rfl).2, listed]
    rfl
  · have alone : source = found := by
      have only := List.mem_of_getElem? first
      exact (List.mem_singleton.mp only).symm
    have unread : ∀ count, .standardInput ∉ [source].take count := by
      intro count member
      exact Source.noConfusion (List.mem_singleton.mp (List.mem_of_mem_take member))
    rw [inputs.afterAll_of_not_mem (unread _), ← alone] at fails
    exact fails
  · rw [oneLine]
    rintro ⟨image, _⟩
    exact absurd (image _ rfl) (by decide)

/-- The letter of a type token that is no primitive is a line feed, and the message shows it as it
is, while a malformed token is quoted. -/
theorem diagnostic_breaks_at_unknown_code :
    let image : List UInt8 := dexMagic ++ [0x30, 0x33, 0x35, 0x00] ++ List.replicate 24 0 ++
      [138, 112, 0x12345678, 0, 0, 0, 2, 112, 1, 120, 0, 0, 1, 124, 0, 0, 0, 0, 6, 132].flatMap
        Header.wordBytes ++
      [132, 135, 0].flatMap Binary.u32Bytes ++ idTripleBytes 0 0 1 ++
      [0x01, 0x0A, 0x00, 0x01, 0x78, 0x00]
    let inputs : Inputs := { openFile := fun _ => .error .notFound, standardInput := .ok [] }
    let options : ListingOptions := { selection := .fields }
    let failure : ListingError := .decode "a.dex" "a.dex" (.unknownPrimitive '\n')
    OneLine "a.dex" ∧ failure.IsReading ∧
      (list inputs options [.bytes "a.dex" image]).outcome = .error failure ∧
      (writeListing inputs options [.bytes "a.dex" image] {}).outcome = .error failure ∧
      failure.message = "Unable to decode a.dex in a.dex: Unknown type: \n" ∧
      ¬ OneLine failure.message := by
  intro image inputs options failure
  have listed : (list inputs options [.bytes "a.dex" image]).outcome = .error failure := by
    decide +kernel
  have written : (writeListing inputs options [.bytes "a.dex" image] {}).outcome =
      .error failure := by
    rw [(writeListing_unbounded rfl rfl).2, listed]
    rfl
  exact ⟨by decide, trivial, listed, written, by decide, by decide⟩

end DexMembers
