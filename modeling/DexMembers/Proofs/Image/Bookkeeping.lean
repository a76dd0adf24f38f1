import DexMembers.Journal
import DexMembers.Proofs.Binary.Agreement
import DexMembers.Proofs.Binary.Number
import DexMembers.Proofs.Image.ReaderSteps

/-!
# Header fields that no reader of ids needs

Of the header only the magic, the tag and the words for the five id tables have a say in what is
read.  Version, digests, sizes, link, map, class definitions and data may be anything, as long as
the reader is never sent back into the header.
-/

set_option autoImplicit false

namespace DexMembers

open Binary (Cursor AgreeFrom numberAt?)
open Binary.Cursor (AlikeFrom Together)

/-! ### The readers of entries -/

theorem Binary.Cursor.Together.ofRead {α : Type} {limit : Nat}
    {run other : Except Binary.ReadFailure (α × Cursor)} (together : Together limit run other) :
    Together limit (ImageError.ofRead run) (ImageError.ofRead other) :=
  together.mapError _

section Entries

variable {limit : Nat} {first second : Cursor} (alike : AlikeFrom limit first second)
include alike

theorem StringData.read_together :
    Together limit (StringData.read first) (StringData.read second) := by
  rw [StringData.read_eq_bind, StringData.read_eq_bind]
  apply (Cursor.uleb128_together alike).bind
  intro units c d _ alike
  apply (Cursor.untilZero_together alike).bind
  intro content c d _ alike
  dsimp only
  cases Text.ofModifiedUtf8? content <;> exact .read _ alike

theorem TypeList.read_together :
    Together limit (TypeList.read first) (TypeList.read second) := by
  rw [TypeList.read_eq_bind, TypeList.read_eq_bind]
  apply (Cursor.u4_together alike).ofRead.bind
  intro size c d _ alike
  dsimp only
  rw [alike.bytes.size]
  split
  · exact .failed _
  · have entries := Cursor.many_together alike (fun _ c => c.u2) size
      fun _ _ _ _ _ _ alike => Cursor.u2_together alike
    apply entries.ofRead.bind
    intro types c d _ alike
    exact .read types.toList alike

/-- The parameters stand elsewhere, and are looked at unless their offset is zero. -/
theorem Prototype.read_together
    (behind : ∀ offset next, (first.advance 8).u4 = .ok (offset, next) → offset ≠ 0 →
      limit ≤ offset) :
    Together limit (Prototype.read first) (Prototype.read second) := by
  unfold Prototype.read
  apply (Cursor.u4_together alike).ofRead.bind
  intro shorty c d shortyRead alike
  obtain ⟨_, rfl⟩ := Cursor.eq_ok_of_u4 (eq_ok_of_mapError_eq_ok shortyRead)
  apply (Cursor.u4_together alike).ofRead.bind
  intro returnType c d returnRead alike
  obtain ⟨_, rfl⟩ := Cursor.eq_ok_of_u4 (eq_ok_of_mapError_eq_ok returnRead)
  apply (Cursor.u4_together alike).ofRead.bind
  intro offset c d offsetRead alike
  have target := behind offset c (eq_ok_of_mapError_eq_ok offsetRead)
  dsimp only
  split
  · exact .read _ alike
  · rename_i somewhere
    have moved : AlikeFrom limit (c.seek offset) (d.seek offset) := alike.seek (target somewhere)
    apply (TypeList.read_together moved).bind
    intro parameters _ _ _ _
    exact .read _ alike

theorem readIdTriple_together : Together limit (readIdTriple first) (readIdTriple second) := by
  unfold readIdTriple
  apply (Cursor.u2_together alike).bind
  intro firstHalf c d _ alike
  apply (Cursor.u2_together alike).bind
  intro secondHalf c d _ alike
  apply (Cursor.u4_together alike).bind
  intro word c d _ alike
  exact .read (firstHalf, secondHalf, word) alike

theorem FieldId.read_together : Together limit (FieldId.read first) (FieldId.read second) := by
  rw [FieldId.read_eq_bind, FieldId.read_eq_bind]
  apply (readIdTriple_together alike).bind
  intro id c d _ alike
  exact .read _ alike

theorem MethodId.read_together : Together limit (MethodId.read first) (MethodId.read second) := by
  rw [MethodId.read_eq_bind, MethodId.read_eq_bind]
  apply (readIdTriple_together alike).bind
  intro id c d _ alike
  exact .read _ alike

namespace Image

theorem readString_together (index : Nat)
    (behind : ∀ offset next, first.u4 = .ok (offset, next) → limit ≤ offset) :
    Together limit (readString index first) (readString index second) := by
  rw [readString_eq_bind, readString_eq_bind]
  apply (Cursor.u4_together alike).ofRead.bind
  intro offset c d offsetRead later
  have moved : AlikeFrom limit (first.seek offset) (second.seek offset) :=
    alike.seek (behind offset c (eq_ok_of_mapError_eq_ok offsetRead))
  apply ((StringData.read_together moved).ofRead.mapError _).bind
  intro text _ _ _ _
  exact .read text later

theorem readType_together (strings index : Nat) :
    Together limit (readType strings index first) (readType strings index second) := by
  rw [readType_eq_bind, readType_eq_bind]
  apply (Cursor.u4_together alike).ofRead.bind
  intro text c d _ alike
  dsimp only
  split
  · exact .read text alike
  · exact .failed _

end Image

end Entries

namespace Image

theorem readTable_eq_of_agree {α : Type}
    (next : Nat → Cursor → Except ImageError (α × Cursor)) {limit : Nat}
    {first second : Array UInt8} {size offset : UInt32} (agree : AgreeFrom limit first second)
    (behind : size ≠ 0 → limit ≤ offset.toNat)
    (each : ∀ index < size.toNat, ∀ before c,
      Cursor.many next index ⟨first, offset.toNat⟩ = .ok (before, c) →
      ∀ d, AlikeFrom limit c d → Together limit (next before.size c) (next before.size d)) :
    readTable next first size offset = readTable next second size offset := by
  by_cases empty : size = 0
  · subst empty
    rfl
  · have start : AlikeFrom limit ⟨first, offset.toNat⟩ ⟨second, offset.toNat⟩ :=
      ⟨rfl, behind empty, agree⟩
    exact (Cursor.many_together start next size.toNat each).values_eq

/-! ### Where the reader is sent -/

section Tables

variable (header : Header) (bytes : Array UInt8)

def stringTable : Except ImageError (Array StringData) :=
  readTable readString bytes header.stringIdsSize header.stringIdsOffset

/-- The type table, if all tables up to it can be read; likewise the tables below. -/
def typeTable : Except ImageError (Array Nat) := do
  let strings ← stringTable header bytes
  readTable (readType strings.size) bytes header.typeIdsSize header.typeIdsOffset

def prototypeTable : Except ImageError (Array Prototype) := do
  let _ ← typeTable header bytes
  readTable readPrototype bytes header.protoIdsSize header.protoIdsOffset

def fieldTable : Except ImageError (Array FieldId) := do
  let _ ← prototypeTable header bytes
  readTable (fun _ c => ImageError.ofRead (FieldId.read c)) bytes header.fieldIdsSize
    header.fieldIdsOffset

/-- The offsets at which the reader of an image goes on: that of each table that has entries, once
the tables before it are read, and those of the data of a string and of the parameters of a
prototype, once the entries before it are read. -/
inductive Followed : Nat → Prop
  | strings (filled : header.stringIdsSize ≠ 0) : Followed header.stringIdsOffset.toNat
  | stringData {index offset : Nat} {before : Array StringData} {c next : Cursor}
      (inside : index < header.stringIdsSize.toNat)
      (reached : Cursor.many readString index ⟨bytes, header.stringIdsOffset.toNat⟩ =
        .ok (before, c))
      (stated : c.u4 = .ok (offset, next)) : Followed offset
  | types {strings : Array StringData} (reached : stringTable header bytes = .ok strings)
      (filled : header.typeIdsSize ≠ 0) : Followed header.typeIdsOffset.toNat
  | prototypes {types : Array Nat} (reached : typeTable header bytes = .ok types)
      (filled : header.protoIdsSize ≠ 0) : Followed header.protoIdsOffset.toNat
  | parameters {types : Array Nat} {index offset : Nat} {before : Array Prototype}
      {c next : Cursor} (table : typeTable header bytes = .ok types)
      (inside : index < header.protoIdsSize.toNat)
      (reached : Cursor.many readPrototype index ⟨bytes, header.protoIdsOffset.toNat⟩ =
        .ok (before, c))
      (stated : (c.advance 8).u4 = .ok (offset, next)) (somewhere : offset ≠ 0) : Followed offset
  | fields {prototypes : Array Prototype} (reached : prototypeTable header bytes = .ok prototypes)
      (filled : header.fieldIdsSize ≠ 0) : Followed header.fieldIdsOffset.toNat
  | methods {fields : Array FieldId} (reached : fieldTable header bytes = .ok fields)
      (filled : header.methodIdsSize ≠ 0) : Followed header.methodIdsOffset.toNat

end Tables

/-- The reader of the image, if it takes the header at all, is never sent back into it. -/
def StaysBehindHeader (content : List UInt8) : Prop :=
  ∀ header, Header.read content = .ok header →
    ∀ offset, Followed header content.toArray offset → Header.byteLength ≤ offset

end Image

/-! ### Two headers for the same tables -/

def Header.tableWords (header : Header) : List UInt32 :=
  (header.words.drop 6).take 10

namespace Image

theorem readTables_eq_of_agree {header other : Header} {first second : Array UInt8}
    (agree : AgreeFrom Header.byteLength first second)
    (words : header.tableWords = other.tableWords)
    (behind : ∀ offset, Followed header first offset → Header.byteLength ≤ offset) :
    readTables other second =
      (readTables header first).map fun image => { image with header := other } := by
  simp only [Header.tableWords, Header.words, List.drop_succ_cons, List.drop_zero,
    List.take_succ_cons, List.take_zero, List.cons.injEq, and_true] at words
  obtain ⟨stringSize, stringOffset, typeSize, typeOffset, protoSize, protoOffset, fieldSize,
    fieldOffset, methodSize, methodOffset⟩ := words
  rw [readTables, readTables, ← stringSize, ← stringOffset, ← typeSize, ← typeOffset, ← protoSize,
    ← protoOffset, ← fieldSize, ← fieldOffset, ← methodSize, ← methodOffset]
  -- each table is the same from both buffers, once the reader has come to it
  have sameStrings := readTable_eq_of_agree readString agree
    (fun filled => behind _ (.strings filled))
    (fun index inside before c reached d alike => readString_together alike before.size
      fun offset next stated => behind offset (.stringData inside reached stated))
  rw [← sameStrings]
  apply bind_eq_map_bind
  intro strings stringsRead
  have atTypes : stringTable header first = .ok strings := stringsRead
  have sameTypes := readTable_eq_of_agree (readType strings.size) agree
    (fun filled => behind _ (.types atTypes filled))
    (fun _ _ before _ _ _ alike => readType_together alike strings.size before.size)
  rw [← sameTypes]
  apply bind_eq_map_bind
  intro types typesRead
  have atPrototypes : typeTable header first = .ok types := by
    rw [typeTable, atTypes]
    exact typesRead
  have samePrototypes := readTable_eq_of_agree _ agree
    (fun filled => behind _ (.prototypes atPrototypes filled))
    (fun index inside before c reached d alike =>
      (Prototype.read_together alike fun offset next stated somewhere => behind offset
        (.parameters atPrototypes inside reached stated somewhere)).mapError
          (ImageError.inside (.protoId before.size)))
  rw [← samePrototypes]
  apply bind_eq_map_bind
  intro prototypes prototypesRead
  have atFields : prototypeTable header first = .ok prototypes := by
    rw [prototypeTable, atPrototypes]
    exact prototypesRead
  have sameFields := readTable_eq_of_agree
    (fun _ c => ImageError.ofRead (FieldId.read c)) agree
    (fun filled => behind _ (.fields atFields filled))
    (fun _ _ _ _ _ _ alike => (FieldId.read_together alike).ofRead)
  rw [← sameFields]
  apply bind_eq_map_bind
  intro fields fieldsRead
  have atMethods : fieldTable header first = .ok fields := by
    rw [fieldTable, atFields]
    exact fieldsRead
  have sameMethods := readTable_eq_of_agree
    (fun _ c => ImageError.ofRead (MethodId.read c)) agree
    (fun filled => behind _ (.methods atMethods filled))
    (fun _ _ _ _ _ _ alike => (MethodId.read_together alike).ofRead)
  rw [← sameMethods]
  apply bind_eq_map_bind
  intro methods _
  rfl

end Image

/-! ### Two images that differ in their bookkeeping -/

/-- The bytes are as many, and the same but for the version, the checksum, the signature, the sizes
of file and header, and the words for link, map, class definitions and data. -/
structure SameButBookkeeping (first second : List UInt8) : Prop where
  length : first.length = second.length
  magic : first.take 4 = second.take 4
  tag : (first.drop 40).take 4 = (second.drop 40).take 4
  tables : (first.drop 56).take 40 = (second.drop 56).take 40
  behind : first.drop Header.byteLength = second.drop Header.byteLength

namespace SameButBookkeeping

variable {first second : List UInt8}

theorem symm (same : SameButBookkeeping first second) : SameButBookkeeping second first :=
  ⟨same.length.symm, same.magic.symm, same.tag.symm, same.tables.symm, same.behind.symm⟩

theorem isDex_eq (same : SameButBookkeeping first second) : isDex first = isDex second := by
  rw [Bool.eq_iff_iff, isDex_iff, isDex_iff, List.prefix_iff_eq_take,
    List.prefix_iff_eq_take]
  exact iff_of_eq (congrArg (dexMagic = ·) same.magic)

theorem wordAt_eq (same : SameButBookkeeping first second) {i : Nat} (inside : i < 10) :
    Header.wordAt first (56 + 4 * i) = Header.wordAt second (56 + 4 * i) := by
  have within : ∀ bytes : List UInt8,
      (bytes.drop (56 + 4 * i)).take 4 = (((bytes.drop 56).take 40).drop (4 * i)).take 4 := by
    intro bytes
    rw [List.drop_take, List.take_take, List.drop_drop, Nat.min_eq_left (by omega)]
  rw [Header.wordAt, Header.wordAt, within, within, same.tables]

theorem agreeFrom (same : SameButBookkeeping first second) :
    AgreeFrom Header.byteLength first.toArray second.toArray := by
  refine ⟨same.length, fun i behind => ?_⟩
  obtain ⟨k, rfl⟩ := Nat.exists_eq_add_of_le behind
  rw [List.getElem?_toArray, List.getElem?_toArray, ← List.getElem?_drop, ← List.getElem?_drop,
    same.behind]

theorem tableWords_eq (same : SameButBookkeeping first second)
    (long : Header.byteLength ≤ first.length) (other : Header.byteLength ≤ second.length) :
    (Header.ofBytes first long).tableWords = (Header.ofBytes second other).tableWords := by
  have word := fun i inside => same.wordAt_eq (i := i) inside
  simp only [Header.tableWords, Header.words, Header.ofBytes, List.drop_succ_cons, List.drop_zero,
    List.take_succ_cons, List.take_zero, List.cons.injEq, and_true]
  exact ⟨word 0 (by decide), word 1 (by decide), word 2 (by decide), word 3 (by decide),
    word 4 (by decide), word 5 (by decide), word 6 (by decide), word 7 (by decide),
    word 8 (by decide), word 9 (by decide)⟩

theorem header_read (same : SameButBookkeeping first second) :
    (∃ error, Header.read first = .error error ∧ Header.read second = .error error) ∨
      ∃ header other, Header.read first = .ok header ∧ Header.read second = .ok other ∧
        header.tableWords = other.tableWords := by
  by_cases long : Header.byteLength ≤ first.length
  · have other : Header.byteLength ≤ second.length := same.length ▸ long
    have tag : (Header.ofBytes first long).endianTag = (Header.ofBytes second other).endianTag := by
      change Header.wordAt first 40 = Header.wordAt second 40
      rw [Header.wordAt, Header.wordAt, same.tag]
    rw [Header.read, Header.read, dif_pos long, dif_pos other, ← same.isDex_eq]
    dsimp only
    rw [← tag]
    split
    · split
      · exact Or.inr ⟨_, _, rfl, rfl, same.tableWords_eq long other⟩
      · exact Or.inl ⟨_, rfl, rfl⟩
    · exact Or.inl ⟨_, rfl, rfl⟩
  · have other : ¬ Header.byteLength ≤ second.length := same.length ▸ long
    rw [Header.read, Header.read, dif_neg long, dif_neg other]
    exact Or.inl ⟨_, rfl, rfl⟩

end SameButBookkeeping

namespace Image

structure SameTables (first second : Image) : Prop where
  strings : first.strings = second.strings
  types : first.types = second.types
  prototypes : first.prototypes = second.prototypes
  fields : first.fields = second.fields
  methods : first.methods = second.methods

theorem SameTables.symm {first second : Image} (same : first.SameTables second) :
    second.SameTables first :=
  ⟨same.strings.symm, same.types.symm, same.prototypes.symm, same.fields.symm, same.methods.symm⟩

/-- Both are refused for the same reason, or both are images with the same tables. -/
def ReadAlike (first second : List UInt8) : Prop :=
  (∃ error, Image.read first = .error error ∧ Image.read second = .error error) ∨
    ∃ image other, Image.read first = .ok image ∧ Image.read second = .ok other ∧
      image.SameTables other

theorem ReadAlike.symm {first second : List UInt8} (alike : ReadAlike first second) :
    ReadAlike second first := by
  rcases alike with ⟨error, failed, alsoFailed⟩ | ⟨image, other, found, alsoFound, same⟩
  · exact Or.inl ⟨error, alsoFailed, failed⟩
  · exact Or.inr ⟨other, image, alsoFound, found, same.symm⟩

theorem readAlike_of_staysBehindHeader {first second : List UInt8}
    (same : SameButBookkeeping first second) (stays : StaysBehindHeader first) :
    ReadAlike first second := by
  rcases same.header_read with
    ⟨error, refused, alsoRefused⟩ | ⟨header, other, taken, alsoTaken, words⟩
  · rw [ReadAlike, Image.read, Image.read, refused, alsoRefused]
    exact Or.inl ⟨error, rfl, rfl⟩
  · have tables := readTables_eq_of_agree same.agreeFrom words (stays header taken)
    rw [ReadAlike, Image.read, Image.read, taken, alsoTaken]
    dsimp only
    rw [tables]
    cases readTables header first.toArray with
    | error error => exact Or.inl ⟨error, rfl, rfl⟩
    | ok image => exact Or.inr ⟨image, _, rfl, rfl, ⟨rfl, rfl, rfl, rfl, rfl⟩⟩

/-- Once the header is taken, the reader reports the stated checksum and the computed one if and
only if they differ; the computed one is that of the bytes from the twelfth on up to the stated
size, kept between that place and the end. -/
theorem checksumMismatch_mem_events_iff {content : List UInt8} {header : Header}
    (taken : Header.read content = .ok header) (stated computed : UInt32) :
    .checksumMismatch stated computed ∈ (readTraced content).events ↔
      stated = header.checksum ∧
      computed = Checksum.adler32
        ((content.take (max 12 (min header.fileSize.toNat content.length))).drop 12) ∧
      stated ≠ computed := by
  obtain ⟨rest, events, others⟩ : ∃ rest,
      (readTraced content).events = checksumEvents header content ++ rest ∧
        .checksumMismatch stated computed ∉ rest := by
    refine ⟨_, by rw [readTraced, readEvents, taken], ?_⟩
    cases Image.read content <;> simp
  have checked : computedChecksum header content = Checksum.adler32
      ((content.take (max 12 (min header.fileSize.toNat content.length))).drop 12) := rfl
  rw [events, List.mem_append, or_iff_left others, checksumEvents, ← checked]
  by_cases right : computedChecksum header content = header.checksum
  · rw [if_pos right, right]
    constructor
    · intro member
      cases member
    · rintro ⟨rfl, rfl, differ⟩
      exact absurd rfl differ
  · rw [if_neg right, List.mem_singleton, Event.checksumMismatch.injEq]
    constructor
    · rintro ⟨rfl, rfl⟩
      exact ⟨rfl, rfl, Ne.symm right⟩
    · rintro ⟨rfl, rfl, _⟩
      exact ⟨rfl, rfl⟩

/-- Two buffers that differ in bookkeeping only are read alike if the reader of one of them is never
sent back into its header: they fail for the same reason, or their tables are the same.  So neither
a wrong checksum nor the size it is computed over has a say; a wrong one is reported, and that is
all. -/
theorem bookkeeping_not_read {first second : List UInt8} (same : SameButBookkeeping first second)
    (stays : StaysBehindHeader first ∨ StaysBehindHeader second) :
    ReadAlike first second ∧
      ∀ content ∈ [first, second], ∀ header, Header.read content = .ok header →
        (readTraced content).outcome = readTables header content.toArray ∧
        ∀ stated computed, .checksumMismatch stated computed ∈ (readTraced content).events ↔
          stated = header.checksum ∧
          computed = Checksum.adler32
            ((content.take (max 12 (min header.fileSize.toNat content.length))).drop 12) ∧
          stated ≠ computed := by
  constructor
  · rcases stays with stays | stays
    · exact readAlike_of_staysBehindHeader same stays
    · exact (readAlike_of_staysBehindHeader same.symm stays).symm
  · intro content _ header taken
    refine ⟨?_, checksumMismatch_mem_events_iff taken⟩
    rw [readTraced, Image.read, taken]

/-- The second header is of another version, and its digests, sizes and places are other ones: the
tables are the same, and its checksum is compared with that of four bytes, for a file of
sixteen. -/
theorem bookkeeping_not_read_patched_header :
    let data : List UInt8 := [146, 0, 0, 0, 140].flatMap Binary.u32Bytes ++ idTripleBytes 0 0 0 ++
      TypeList.bytes [0] ++ StringData.bytes (.decoded "V")
    let first : List UInt8 := dexMagic ++ [0x30, 0x33, 0x35, 0x00] ++ List.replicate 24 0 ++
      [149, 112, 0x12345678, 0, 0, 0, 1, 112, 1, 116, 1, 120, 0, 0, 1, 132, 0, 0, 9, 140].flatMap
        Header.wordBytes ++ data
    let second : List UInt8 := dexMagic ++ [0x30, 0x34, 0x30, 0x00] ++ List.replicate 24 0xFF ++
      [16, 1, 0x12345678, 2, 3, 4, 1, 112, 1, 116, 1, 120, 0, 0, 1, 132, 5, 6, 7, 8].flatMap
        Header.wordBytes ++ data
    SameButBookkeeping first second ∧ StaysBehindHeader first ∧ ReadAlike first second ∧
      (∃ image, Image.read first = .ok image ∧ image.methods.size = 1) ∧
      .checksumMismatch 0xFFFFFFFF 0x09FA03FD ∈ (readTraced second).events := by
  intro data first second
  have same : SameButBookkeeping first second := by
    constructor <;> decide +kernel
  let header := Header.ofBytes first (by decide +kernel)
  let other := Header.ofBytes second (by decide +kernel)
  have taken : Header.read first = .ok header := by decide +kernel
  have alsoTaken : Header.read second = .ok other := by decide +kernel
  have stays : StaysBehindHeader first := by
    intro found read offset followed
    obtain rfl := Except.ok.inj (taken.symm.trans read)
    have oneString : header.stringIdsSize.toNat = 1 := by decide +kernel
    have onePrototype : header.protoIdsSize.toNat = 1 := by decide +kernel
    cases followed with
    | strings => decide +kernel
    | types => decide +kernel
    | prototypes => decide +kernel
    | methods => decide +kernel
    | fields reached filled => exact absurd (by decide +kernel) filled
    | stringData inside reached stated =>
        obtain rfl := Nat.lt_one_iff.mp (oneString ▸ inside)
        cases reached
        have place : numberAt? 4 first 112 = some 146 := by decide +kernel
        obtain rfl := Option.some.inj (place.symm.trans (Cursor.eq_ok_of_u4 stated).1)
        decide
    | parameters table inside reached stated somewhere =>
        obtain rfl := Nat.lt_one_iff.mp (onePrototype ▸ inside)
        cases reached
        have place : numberAt? 4 first 128 = some 140 := by decide +kernel
        obtain rfl := Option.some.inj (place.symm.trans (Cursor.eq_ok_of_u4 stated).1)
        decide
  let image : Image :=
    { header
      strings := #[.decoded "V"]
      types := #[0]
      prototypes := #[{ shorty := 0, returnType := 0, parameters := [0] }]
      fields := #[]
      methods := #[{ declaringType := 0, prototype := 0, name := 0 }] }
  have readable : Image.read first = .ok image := by decide +kernel
  obtain ⟨alike, reports⟩ := bookkeeping_not_read same (Or.inl stays)
  refine ⟨same, stays, alike, ⟨image, readable, rfl⟩, ?_⟩
  exact ((reports second (by simp) other alsoTaken).2 0xFFFFFFFF 0x09FA03FD).mpr (by decide +kernel)

end Image

end DexMembers
