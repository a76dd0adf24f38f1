import DexMembers.Archive.Stored
import DexMembers.Proofs.Archive.Record
import DexMembers.Proofs.Archive.Search
import DexMembers.Proofs.Archive.Visit
import DexMembers.Proofs.Text.LenientUtf8

/-!
# Archives of stored files are read back

An archive of stored files has one local record per file with the content in it, then one directory
entry per file in the same order, then the end record.  Whatever the contents are, also if they
hold signatures of records, the archive is read for its files.
-/

set_option autoImplicit false

namespace DexMembers.Archive

/-! ### The layout -/

/-- The record says of a file what a local header and a directory entry both say, the flags standing
at `base`: a name in UTF-8, no encryption, no compression, the checksum, the sizes, and the length
of the name. -/
structure Describes (record : List UInt8) (base : Nat) (file : ArchiveFile) : Prop where
  utf8Name : (half record base).testBit 11 = true
  unlocked : (half record base).testBit 0 = false
  uncompressed : half record (base + 2) = 0
  checksum : word record (base + 8) = (Checksum.crc32 file.content).toNat
  storedSize : word record (base + 12) = file.content.length
  size : word record (base + 16) = file.content.length
  nameLength : half record (base + 20) = (Text.utf8Bytes file.name).length

inductive IsLocalRecord (file : ArchiveFile) : List UInt8 → Prop where
  | intro {header extra : List UInt8} (length : header.length = 30)
      (signed : localSignature <+: header) (describes : Describes header 6 file)
      (extraLength : half header 28 = extra.length) :
      IsLocalRecord file (header ++ Text.utf8Bytes file.name ++ extra ++ file.content)

inductive IsDirectoryRecord (start : Nat) (file : ArchiveFile) : List UInt8 → Prop where
  | intro {header comment : List UInt8} (length : header.length = 46)
      (signed : directorySignature <+: header) (describes : Describes header 8 file)
      (noExtra : half header 30 = 0) (commentLength : half header 32 = comment.length)
      (position : word header 42 = start) :
      IsDirectoryRecord start file (header ++ Text.utf8Bytes file.name ++ comment)

/-- The first bytes are the local records of the files, the first of which starts at the given
position, and the second bytes are their directory entries in the same order. -/
inductive RecordsOf : (start : Nat) → List ArchiveFile → List UInt8 → List UInt8 → Prop where
  | nil {start : Nat} : RecordsOf start [] [] []
  | cons {start : Nat} {file : ArchiveFile} {files : List ArchiveFile}
      {record contents entry listing : List UInt8} (stands : IsLocalRecord file record)
      (listed : IsDirectoryRecord start file entry)
      (rest : RecordsOf (start + record.length) files contents listing) :
      RecordsOf start (file :: files) (record ++ contents) (entry ++ listing)

/-- The end record without a comment of an archive on one disk, with room for the offset. -/
structure IsEndRecord (count directorySize directoryOffset : Nat) (record : List UInt8) :
    Prop where
  length : record.length = 22
  signed : endSignature <+: record
  oneDisk : half record 4 = half record 6
  entriesHere : half record 8 = count
  entriesInAll : half record 10 = count
  size : word record 12 = directorySize
  offset : word record 16 = directoryOffset
  near : directoryOffset < 0xFFFFFFFF
  noComment : half record 20 = 0

inductive IsStored (files : List ArchiveFile) : List UInt8 → Prop where
  | intro {contents listing ending : List UInt8} (records : RecordsOf 0 files contents listing)
      (ends : IsEndRecord files.length listing.length contents.length ending) :
      IsStored files (contents ++ listing ++ ending)

structure BelowLimits (files : List ArchiveFile) : Prop where
  count : files.length < 0xFFFF
  names : ∀ file ∈ files, (Text.utf8Bytes file.name).length ≤ 0xFFFF
  contents : (files.flatMap storedFile).length < 0xFFFFFFFF
  listing : (storedDirectory 0 files).length < 0xFFFFFFFF

/-! ### The directory of stored files -/

def entryOf (start : Nat) (file : ArchiveFile) : DirectoryEntry where
  name := file.name
  encrypted := false
  locked := false
  compression := 0
  checksum := Checksum.crc32 file.content
  storedSize := file.content.length
  headerStart := start

theorem IsLocalRecord.length_pos {file : ArchiveFile} {record : List UInt8}
    (stands : IsLocalRecord file record) : 0 < record.length := by
  obtain ⟨length, _, _, _⟩ := stands
  simp only [List.length_append, length]
  omega

theorem IsDirectoryRecord.length_pos {start : Nat} {file : ArchiveFile} {record : List UInt8}
    (listed : IsDirectoryRecord start file record) : 0 < record.length := by
  obtain ⟨length, _, _, _, _, _⟩ := listed
  simp only [List.length_append, length]
  omega

theorem IsDirectoryRecord.signed {start : Nat} {file : ArchiveFile} {record : List UInt8}
    (listed : IsDirectoryRecord start file record) : directorySignature <+: record := by
  obtain ⟨_, signed, _, _, _, _⟩ := listed
  rw [List.append_assoc]
  exact signed.trans (List.prefix_append _ _)

theorem amended?_nil (plain : Description) (unlocked : plain.compression = 0) :
    plain.amended? [] = some plain := by
  rw [Description.amended?, Description.amendAll?, if_neg (by decide)]
  exact if_pos (by simp [Description.isConsistent, unlocked, lockCompression])

theorem IsDirectoryRecord.read? {start : Nat} {file : ArchiveFile} {record : List UInt8}
    (listed : IsDirectoryRecord start file record) (rest : List UInt8) :
    DirectoryEntry.read? 0 (record ++ rest) = some (entryOf start file, rest) := by
  obtain @⟨header, comment, length, signed, describes, noExtra, commentLength, position⟩ := listed
  have nameLength : half header 28 = (Text.utf8Bytes file.name).length := describes.nameLength
  have uncompressed : half header 10 = 0 := describes.uncompressed
  have checksum : word header 16 = (Checksum.crc32 file.content).toNat := describes.checksum
  have storedSize : word header 20 = file.content.length := describes.storedSize
  have text : entryText (half header 8) (Text.utf8Bytes file.name) = file.name := by
    rw [entryText, if_pos describes.utf8Name, Text.ofUtf8Lenient_utf8Bytes]
  have starts : directorySignature.isPrefixOf
      (header ++ (Text.utf8Bytes file.name ++ comment)) = true :=
    List.isPrefixOf_iff_prefix.mpr (signed.trans (List.prefix_append _ _))
  have size : (header ++ (Text.utf8Bytes file.name ++ comment)).length =
      46 + (Text.utf8Bytes file.name).length + comment.length := by
    simp only [List.length_append, length]
    omega
  have named : ((header ++ (Text.utf8Bytes file.name ++ comment)).take
      (46 + (Text.utf8Bytes file.name).length)).drop 46 = Text.utf8Bytes file.name := by
    rw [← length, List.take_length_add_append, List.drop_left, List.take_left]
  have alone : DirectoryEntry.read? 0 (header ++ (Text.utf8Bytes file.name ++ comment)) =
      some (entryOf start file, []) := by
    unfold DirectoryEntry.read?
    simp (disch := omega) only [half_append_of_le, word_append_of_le, nameLength, uncompressed,
      noExtra, commentLength, checksum, storedSize, position, Nat.add_zero]
    rw [if_pos ⟨starts, by omega, Nat.le_of_eq size.symm⟩, named, List.drop_take_self,
      amended?_nil _ rfl, Option.map_some, UInt32.ofNat_toNat,
      List.drop_eq_nil_of_le (Nat.le_of_eq size), describes.unlocked, text]
    rfl
  rw [List.append_assoc header]
  exact DirectoryEntry.read?_append alone rest

/-! ### The contents of stored files -/

/-- The archive with one more file, by the end of its name: a directory is not counted, and an image
is kept. -/
def withFile (archive : Archive) (file : ArchiveFile) : Archive where
  fileCount := archive.fileCount + if isDirectoryName file.name then 0 else 1
  images := if isImageName file.name then archive.images ++ [file] else archive.images

theorem IsLocalRecord.visit {file : ArchiveFile} {record : List UInt8}
    (stands : IsLocalRecord file record) (front back : List UInt8) (archive : Archive) :
    visit (front ++ record ++ back) archive (entryOf front.length file) =
      .ok (archive.withFile file) := by
  obtain @⟨header, extra, length, signed, describes, extraLength⟩ := stands
  have nameLength : half header 26 = (Text.utf8Bytes file.name).length := describes.nameLength
  have starts : localSignature.isPrefixOf header = true := List.isPrefixOf_iff_prefix.mpr signed
  have opened : contentStart
      (front ++ (header ++ Text.utf8Bytes file.name ++ extra ++ file.content) ++ back)
      (entryOf front.length file) =
        .ok (front.length + 30 + (Text.utf8Bytes file.name).length + extra.length) := by
    have there : ((front ++ (header ++ Text.utf8Bytes file.name ++ extra ++ file.content) ++
        back).drop front.length).take 30 = header := by
      rw [List.append_assoc, List.drop_left]
      simp only [List.append_assoc]
      exact List.take_left' length
    rw [contentStart, entryOf]
    dsimp only
    rw [there, if_neg (by omega), if_pos starts, nameLength, extraLength]
  have content : ((front ++ (header ++ Text.utf8Bytes file.name ++ extra ++ file.content) ++
      back).drop (front.length + 30 + (Text.utf8Bytes file.name).length + extra.length)).take
        file.content.length = file.content := by
    have size : (front ++ header ++ Text.utf8Bytes file.name ++ extra).length =
        front.length + 30 + (Text.utf8Bytes file.name).length + extra.length := by
      simp only [List.length_append, length]
    have split : front ++ (header ++ Text.utf8Bytes file.name ++ extra ++ file.content) ++ back =
        (front ++ header ++ Text.utf8Bytes file.name ++ extra) ++ (file.content ++ back) := by
      simp only [List.append_assoc]
    rw [split, List.drop_left' size, List.take_left]
  cases image : isImageName file.name with
  | true =>
      have counted := isDirectoryName_of_isImageName image
      rw [visit_stored archive _ file.content opened (by simp [entryOf, image, counted]) rfl content
        rfl, withFile, if_pos image, counted]
      rfl
  | false =>
      rw [visit_of_not_image archive opened image, withFile, image]
      rfl

theorem foldl_withFile (files : List ArchiveFile) (archive : Archive) :
    files.foldl withFile archive =
      { fileCount := archive.fileCount + files.countP fun file => !isDirectoryName file.name
        images := archive.images ++ files.filter fun file => isImageName file.name } := by
  induction files generalizing archive with
  | nil => simp
  | cons file files ih =>
      rw [List.foldl_cons, ih, withFile, List.countP_cons, List.filter_cons]
      cases isDirectoryName file.name <;> cases isImageName file.name <;>
        simp [Nat.add_assoc, Nat.add_comm]

/-! ### The whole archive -/

/-- The directory of stored files is read from its bytes, whatever stands behind them.  Its entries
bear the names of the files, their local headers stand before the end of the contents, and visiting
them gives the files. -/
theorem RecordsOf.read {start : Nat} {files : List ArchiveFile} {contents listing : List UInt8}
    (records : RecordsOf start files contents listing) :
    ∃ listed, (∀ rest, readDirectory? 0 files.length (listing ++ rest) = some listed) ∧
      listed.map (·.name) = files.map (·.name) ∧
      (∀ entry ∈ listed, entry.headerStart < start + contents.length) ∧
      ∀ front back archive, front.length = start →
        visitAll (front ++ contents ++ back) archive listed =
          .ok (files.foldl withFile archive) := by
  -- each file moves the position where the next local record starts, so the bytes in front grow
  induction records with
  | nil => exact ⟨[], fun _ => rfl, rfl, by simp, fun _ _ _ _ => rfl⟩
  | @cons start file files record contents entry listing stands described _ ih =>
      obtain ⟨others, reads, names, before, visits⟩ := ih
      refine ⟨entryOf start file :: others, ?_, ?_, ?_, ?_⟩
      · intro rest
        rw [List.length_cons, readDirectory?, List.append_assoc, described.read?]
        dsimp only
        rw [reads, Option.map_some]
      · rw [List.map_cons, List.map_cons, names]
        rfl
      · have filled := stands.length_pos
        rw [List.length_append]
        refine List.forall_mem_cons.mpr ⟨?_, ?_⟩
        · change start < _
          omega
        · intro other mentioned
          have bound := before other mentioned
          omega
      · rintro front back archive rfl
        rw [visitAll, ← List.append_assoc front, List.append_assoc (front ++ record),
          stands.visit front (contents ++ back)]
        dsimp only
        rw [← List.append_assoc (front ++ record),
          visits (front ++ record) back _ (List.length_append ..)]
        rfl

theorem foldl_enter_of_nodup {known listed : List DirectoryEntry}
    (distinct : ((known ++ listed).map (·.name)).Nodup) :
    listed.foldl enter known = known ++ listed := by
  induction listed generalizing known with
  | nil => rw [List.foldl_nil, List.append_nil]
  | cons entry listed ih =>
      have new : known.any (fun other => decide (other.name = entry.name)) = false := by
        rw [List.map_append, List.map_cons] at distinct
        have apart := (List.nodup_append.mp distinct).2.2
        rw [List.any_eq_false]
        intro other mentioned
        rw [decide_eq_true_eq]
        exact apart _ (List.mem_map_of_mem mentioned) _ List.mem_cons_self
      rw [List.append_cons] at distinct ⊢
      rw [List.foldl_cons, enter, new, if_neg (by decide)]
      exact ih distinct

theorem IsEndRecord.read {count directorySize directoryOffset : Nat} {record : List UInt8}
    (ends : IsEndRecord count directorySize directoryOffset record) :
    EndRecord.read record = .ok {
      disk := half record 4
      directoryDisk := half record 6
      entriesHere := count
      entriesInAll := count
      directoryOffset } := by
  rw [EndRecord.read, ends.noComment, ends.length, if_neg (by decide), if_neg (by decide),
    ends.entriesHere, ends.entriesInAll, ends.offset]

/-- The directory starts where its first entry stands, right behind the contents. -/
theorem RecordsOf.plainPlace {files : List ArchiveFile} {contents listing ending : List UInt8}
    (records : RecordsOf 0 files contents listing) {record : EndRecord}
    (inAll : record.entriesInAll = files.length)
    (offset : record.directoryOffset = contents.length) :
    record.plainPlace (contents ++ listing ++ ending) (contents.length + listing.length) = .ok {
      start := contents.length
      shift := 0
      count := record.entriesHere
      consistent := record.disk = record.directoryDisk } := by
  have region : ((contents ++ listing ++ ending).take (contents.length + listing.length)).drop
      contents.length = listing := by
    rw [← List.length_append, List.take_left, List.drop_left]
  rw [EndRecord.plainPlace, inAll, offset, region]
  dsimp only
  cases records with
  | nil => simp
  | cons _ described _ =>
      have filled := described.length_pos
      rw [List.length_cons, if_neg (Nat.succ_ne_zero _),
        if_neg (by simp only [List.length_append]; omega),
        firstPositionOf?_of_starts (by decide) (List.isPrefixOf_iff_prefix.mpr
          (described.signed.trans (List.prefix_append _ _)))]
      dsimp only
      rw [Nat.sub_self]

/-- Whatever the files hold, the end record of their archive is the one in use. -/
theorem IsStored.directory {files : List ArchiveFile} {bytes : List UInt8}
    (stored : IsStored files bytes) (few : files.length < 0xFFFF)
    (distinct : (files.map (·.name)).Nodup) :
    ∃ listed, directory bytes = .ok listed ∧
      ∀ archive, visitAll bytes archive listed = .ok (files.foldl withFile archive) := by
  obtain @⟨contents, listing, ending, records, ends⟩ := stored
  obtain ⟨listed, reads, names, before, visits⟩ := records.read
  have front : (contents ++ listing).length = contents.length + listing.length :=
    List.length_append
  have behind : (contents ++ listing ++ ending).drop (contents.length + listing.length) =
      ending := List.drop_left' front
  let record : EndRecord :=
    { disk := half ending 4
      directoryDisk := half ending 6
      entriesHere := files.length
      entriesInAll := files.length
      directoryOffset := contents.length }
  let place : Place := ⟨contents.length + listing.length, record,
    ⟨contents.length, 0, files.length, true⟩⟩
  have room : record.isFull = false := Bool.or_eq_false_iff.mpr
    ⟨decide_eq_false (Nat.ne_of_lt few), decide_eq_false (Nat.ne_of_lt ends.near)⟩
  have oneDisk : decide (record.disk = record.directoryDisk) = true :=
    decide_eq_true ends.oneDisk
  have opens : place.Opens (contents ++ listing ++ ending) listed := by
    refine { complete := ?_, found := ?_, consistent := rfl, reads := ?_, before := ?_,
             signed := ?_, last := ?_ }
    · change EndRecord.read (List.drop (contents.length + listing.length) _) = _
      rw [behind, ends.read]
    · change record.directoryPlace _ (contents.length + listing.length) = _
      rw [directoryPlace_of_not_full room, records.plainPlace rfl rfl, oneDisk]
    · change readDirectory? 0 files.length (List.drop contents.length _) = _
      rw [List.append_assoc, List.drop_left]
      exact reads ending
    · intro entry mentioned
      have bound := before entry mentioned
      rwa [Nat.zero_add] at bound
    · change endSignature.isPrefixOf (List.drop (contents.length + listing.length) _) = true
      rw [behind]
      exact List.isPrefixOf_iff_prefix.mpr ends.signed
    -- behind the start of the last record there is no room for another
    · intro later further _
      change contents.length + listing.length < later at further
      have short : ((contents ++ listing ++ ending).drop later).length < 22 := by
        rw [List.length_drop, List.length_append, front, ends.length]
        omega
      rw [leadsTo?, EndRecord.read, if_pos short]
  refine ⟨listed, directory_eq_ok_iff.mpr ⟨place, listed, opens, ?_⟩, ?_⟩
  · rw [foldl_enter_of_nodup (by rwa [List.nil_append, names]), List.nil_append]
  · intro archive
    have visited := visits [] (listing ++ ending) archive rfl
    rwa [List.nil_append, ← List.append_assoc] at visited

/-! ### The plainest archive -/

theorem half_u16Bytes {n : Nat} (small : n ≤ 0xFFFF) : half (Binary.u16Bytes n) 0 = n := by
  change Binary.wordValue (Binary.u16Bytes n) = n
  rw [Binary.wordValue_u16Bytes]
  omega

theorem word_u32Bytes {n : Nat} (small : n ≤ 0xFFFFFFFF) : word (Binary.u32Bytes n) 0 = n := by
  change Binary.wordValue (Binary.u32Bytes n) = n
  rw [Binary.wordValue_u32Bytes]
  omega

theorem describes_sharedFields {file : ArchiveFile} (size : file.content.length < 0xFFFFFFFF)
    (name : (Text.utf8Bytes file.name).length ≤ 0xFFFF) :
    Describes (sharedFields file) 2 file where
  utf8Name := by rw [show half (sharedFields file) 2 = utf8Flag from rfl]; decide
  unlocked := by rw [show half (sharedFields file) 2 = utf8Flag from rfl]; decide
  uncompressed := rfl
  checksum := word_u32Bytes (by have bound := (Checksum.crc32 file.content).toNat_lt; omega)
  storedSize := word_u32Bytes (Nat.le_of_lt size)
  size := word_u32Bytes (Nat.le_of_lt size)
  nameLength := half_u16Bytes name

theorem Describes.between {record : List UInt8} {base : Nat} {file : ArchiveFile}
    (describes : Describes record base file) (inside : base + 22 ≤ record.length)
    (front back : List UInt8) : Describes (front ++ record ++ back) (front.length + base) file := by
  have halves : ∀ offset, offset + 2 ≤ record.length →
      half (front ++ record ++ back) (front.length + offset) = half record offset := by
    intro offset small
    rw [List.append_assoc, half_append_right, half_append_of_le small]
  have words : ∀ offset, offset + 4 ≤ record.length →
      word (front ++ record ++ back) (front.length + offset) = word record offset := by
    intro offset small
    rw [List.append_assoc, word_append_right, word_append_of_le small]
  constructor
  · rw [halves _ (by omega), describes.utf8Name]
  · rw [halves _ (by omega), describes.unlocked]
  · rw [Nat.add_assoc, halves _ (by omega), describes.uncompressed]
  · rw [Nat.add_assoc, words _ (by omega), describes.checksum]
  · rw [Nat.add_assoc, words _ (by omega), describes.storedSize]
  · rw [Nat.add_assoc, words _ (by omega), describes.size]
  · rw [Nat.add_assoc, halves _ (by omega), describes.nameLength]

theorem length_sharedFields (file : ArchiveFile) : (sharedFields file).length = 26 := rfl

theorem isLocalRecord_storedFile {file : ArchiveFile} (size : file.content.length < 0xFFFFFFFF)
    (name : (Text.utf8Bytes file.name).length ≤ 0xFFFF) :
    IsLocalRecord file (storedFile file) := by
  have describes := (describes_sharedFields size name).between
    (by rw [length_sharedFields]; decide) localSignature []
  have extraLength := half_append_right localSignature (sharedFields file) 24
  rw [List.append_nil] at describes
  have record := @IsLocalRecord.intro file (localSignature ++ sharedFields file) []
    (by rw [List.length_append, length_sharedFields]; rfl) (List.prefix_append _ _) describes
    extraLength
  rwa [List.append_nil] at record

theorem isDirectoryRecord_storedEntry {file : ArchiveFile} {start : Nat}
    (size : file.content.length < 0xFFFFFFFF) (name : (Text.utf8Bytes file.name).length ≤ 0xFFFF)
    (position : start ≤ 0xFFFFFFFF) : IsDirectoryRecord start file (storedEntry start file) := by
  let front := directorySignature ++ Binary.u16Bytes 20
  let tail := Binary.u16Bytes 0 ++ Binary.u16Bytes 0 ++ Binary.u16Bytes 0 ++ Binary.u32Bytes 0 ++
    Binary.u32Bytes start
  have form : storedEntry start file =
      front ++ sharedFields file ++ tail ++ Text.utf8Bytes file.name ++ [] := by
    simp only [storedEntry, front, tail, List.append_assoc, List.append_nil]
  have length : (front ++ sharedFields file).length = 32 := rfl
  have describes := (describes_sharedFields size name).between
    (by rw [length_sharedFields]; decide) front tail
  have noExtra : half (front ++ sharedFields file ++ tail) 30 = 0 := by
    rw [half_append_of_le (Nat.le_of_eq length.symm)]
    exact half_append_right front (sharedFields file) 24
  have commentLength := half_append_right (front ++ sharedFields file) tail 0
  have offset := word_append_right (front ++ sharedFields file) tail 10
  rw [length] at commentLength offset
  rw [form]
  refine .intro ?_ ?_ describes noExtra commentLength (offset.trans (word_u32Bytes position))
  · rw [List.length_append, length]
    rfl
  · simp only [front, List.append_assoc]
    exact List.prefix_append _ _

theorem recordsOf_stored {start : Nat} {files : List ArchiveFile}
    (names : ∀ file ∈ files, (Text.utf8Bytes file.name).length ≤ 0xFFFF)
    (small : start + (files.flatMap storedFile).length < 0xFFFFFFFF) :
    RecordsOf start files (files.flatMap storedFile) (storedDirectory start files) := by
  induction files generalizing start with
  | nil => exact .nil
  | cons file files ih =>
      obtain ⟨name, names⟩ := List.forall_mem_cons.mp names
      rw [List.flatMap_cons, List.length_append] at small
      have size : file.content.length ≤ (storedFile file).length := by
        rw [storedFile, List.length_append]
        exact Nat.le_add_left _ _
      exact .cons (isLocalRecord_storedFile (by omega) name)
        (isDirectoryRecord_storedEntry (by omega) name (by omega)) (ih names (by omega))

theorem isEndRecord_storedEnd {count directorySize directoryOffset : Nat} (few : count ≤ 0xFFFF)
    (small : directorySize ≤ 0xFFFFFFFF) (near : directoryOffset < 0xFFFFFFFF) :
    IsEndRecord count directorySize directoryOffset
      (storedEnd count directorySize directoryOffset) where
  length := rfl
  signed := by
    simp only [storedEnd, List.append_assoc]
    exact List.prefix_append _ _
  oneDisk := rfl
  entriesHere := half_u16Bytes few
  entriesInAll := half_u16Bytes few
  size := word_u32Bytes small
  offset := word_u32Bytes (Nat.le_of_lt near)
  near := near
  noComment := rfl

theorem isStored_storedBytes {files : List ArchiveFile} (limits : BelowLimits files) :
    IsStored files (storedBytes files) :=
  .intro (recordsOf_stored limits.names (by rw [Nat.zero_add]; exact limits.contents))
    (isEndRecord_storedEnd (Nat.le_of_lt limits.count) (Nat.le_of_lt limits.listing)
      limits.contents)

/-- An archive of files stored under distinct names holds as many files as there are names that do
not end in a slash, and its images are the files whose names end in `.dex`, in their order and with
their contents, whatever these are.  Files within the limits of the format have such an archive. -/
theorem read_stored {files : List ArchiveFile} (distinct : (files.map (·.name)).Nodup)
    (limits : BelowLimits files) :
    IsStored files (storedBytes files) ∧
      ∀ bytes, IsStored files bytes → Archive.read bytes = .ok {
        fileCount := files.countP fun file =>
          ¬ (['/'] <:+ file.name.toList ∨ ['\\'] <:+ file.name.toList)
        images := files.filter fun file => ".dex".toList <:+ file.name.toList } := by
  refine ⟨isStored_storedBytes limits, ?_⟩
  intro bytes stored
  obtain ⟨listed, opened, visits⟩ := stored.directory limits.count distinct
  rw [Archive.read, opened]
  dsimp only
  rw [visits, foldl_withFile, Nat.zero_add, List.nil_append]
  simp only [← isDirectoryName_iff, ← isImageName_iff, Bool.not_eq_true, Bool.decide_eq_false,
    Bool.decide_eq_true]

theorem read_stored_archive_inside :
    let files : List ArchiveFile := [
      { name := "lib/", content := [] },
      { name := "b.dex", content := storedBytes [{ name := "c.dex", content := [0x00] }] },
      { name := "ä.bin", content := directorySignature },
      { name := "a.dex", content := storedBytes [] }]
    (files.map (·.name)).Nodup ∧ BelowLimits files ∧ Archive.read (storedBytes files) = .ok {
      fileCount := 3
      images := [
        { name := "b.dex", content := storedBytes [{ name := "c.dex", content := [0x00] }] },
        { name := "a.dex", content := storedBytes [] }] } := by
  intro files
  have distinct : (files.map (·.name)).Nodup := by decide +kernel
  have limits : BelowLimits files := by
    refine { count := ?_, names := ?_, contents := ?_, listing := ?_ } <;> decide +kernel
  obtain ⟨stored, reads⟩ := read_stored distinct limits
  refine ⟨distinct, limits, ?_⟩
  rw [reads _ stored]
  rfl

end DexMembers.Archive
