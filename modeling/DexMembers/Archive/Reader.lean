import DexMembers.Archive.ExtraField
import DexMembers.Archive.Inflate
import DexMembers.Text.Encoding

/-!
# Reading archives

A ZIP archive is read from its end: the end record tells where the directory stands, the directory
lists the entries, and each entry's local header tells where its content starts.  Bytes before the
first entry shift everything, and bytes after the end record are ignored.  Only the content of
`.dex` entries is unpacked.
-/

set_option autoImplicit false

namespace DexMembers

structure ArchiveFile where
  name : String
  content : List UInt8
deriving DecidableEq, Repr

structure Archive where
  fileCount : Nat
  images : List ArchiveFile
deriving DecidableEq, Repr

namespace Archive

/-- The positions at which the signature stands, the last one first, each with the bytes from there
on; `found` holds those before. -/
def positionsOf (signature : List UInt8) (found : List (Nat × List UInt8)) (position : Nat) :
    List UInt8 → List (Nat × List UInt8)
  | [] => found
  | byte :: rest =>
      let found :=
        if signature.isPrefixOf (byte :: rest) then (position, byte :: rest) :: found else found
      positionsOf signature found (position + 1) rest

def firstPositionOf? (signature : List UInt8) (position : Nat) : List UInt8 → Option Nat
  | [] => none
  | byte :: rest =>
      if signature.isPrefixOf (byte :: rest) then some position
      else firstPositionOf? signature (position + 1) rest

/-! ### The directory -/

def directorySignature : List UInt8 := [0x50, 0x4B, 0x01, 0x02]

structure DirectoryEntry where
  name : String
  encrypted : Bool
  locked : Bool
  compression : Nat
  checksum : UInt32
  storedSize : Nat
  headerStart : Nat
deriving DecidableEq, Repr

def entryText (flags : Nat) (bytes : List UInt8) : String :=
  if flags.testBit 11 then Text.ofUtf8Lenient bytes else Text.ofCodePage437 bytes

def Description.amended? (plain : Description) (extraBytes : List UInt8) : Option Description :=
  (plain.amendAll? extraBytes).filter Description.isConsistent

/-- The directory entry that the bytes start with and the bytes after it; every offset counts from
`shift`. -/
def DirectoryEntry.read? (shift : Nat) (record : List UInt8) :
    Option (DirectoryEntry × List UInt8) :=
  let nameEnd := 46 + half record 28
  let extraEnd := nameEnd + half record 30
  let length := extraEnd + half record 32
  if directorySignature.isPrefixOf record ∧ 46 ≤ record.length ∧ length ≤ record.length then
    let flags := half record 8
    let part := fun start stop => (record.take stop).drop start
    let plain : Description :=
      { nameBytes := part 46 nameEnd
        name := entryText flags (part 46 nameEnd)
        comment := entryText flags (part extraEnd length)
        compression := half record 10
        size := word record 24
        storedSize := word record 20
        headerStart := word record 42 }
    (plain.amended? (part nameEnd extraEnd)).map fun description =>
      ({ name := description.name
         encrypted := flags.testBit 0
         locked := description.locked
         compression := description.compression
         checksum := UInt32.ofNat (word record 16)
         storedSize := description.storedSize
         headerStart := description.headerStart + shift },
       record.drop length)
  else none

def readDirectory? (shift : Nat) : (count : Nat) → List UInt8 → Option (List DirectoryEntry)
  | 0, _ => some []
  | count + 1, record =>
      match DirectoryEntry.read? shift record with
      | none => none
      | some (entry, rest) => (readDirectory? shift count rest).map (entry :: ·)

/-- The entries with one more: an entry of the same name gives up its place to it. -/
def enter (entries : List DirectoryEntry) (entry : DirectoryEntry) : List DirectoryEntry :=
  if entries.any fun known => known.name = entry.name then
    entries.map fun known => if known.name = entry.name then entry else known
  else entries ++ [entry]

/-- Where a directory stands and how many entries it has.  All offsets are too small by `shift`. -/
structure DirectoryPlace where
  start : Nat
  shift : Nat
  count : Nat
  /-- Whether what is said of the directory agrees with itself. -/
  consistent : Bool
deriving DecidableEq, Repr

/-- The place of the directory by the end record alone: its first entry is searched from the stated
offset on. -/
def EndRecord.plainPlace (bytes : List UInt8) (position : Nat) (record : EndRecord) :
    Except ArchiveError DirectoryPlace :=
  let placeAt := fun start : Nat =>
    { start
      shift := start - record.directoryOffset
      count := record.entriesHere
      consistent := record.disk = record.directoryDisk : DirectoryPlace }
  if record.entriesInAll = 0 then .ok (placeAt (max record.directoryOffset position))
  else if position ≤ record.directoryOffset then .error .directoryBehindEnd
  else
    let region := (bytes.take position).drop record.directoryOffset
    match firstPositionOf? directorySignature record.directoryOffset region with
    | none => .error .noDirectory
    | some start => .ok (placeAt start)

def Locator.largePlace (bytes : List UInt8) (position : Nat) (locator : Locator) :
    Except ArchiveError DirectoryPlace :=
  (locator.largeEnd bytes position).map fun (found, record) =>
    let shift := found - locator.endOffset
    { start := record.directoryOffset + shift
      shift
      count := record.entriesInAll
      consistent := record.isConsistent }

def EndRecord.directoryPlace (bytes : List UInt8) (position : Nat) (record : EndRecord) :
    Except ArchiveError DirectoryPlace :=
  match record.locator? bytes position with
  | some locator => locator.largePlace bytes (position - 20)
  | none => record.plainPlace bytes position

/-- The directory at a place, if all of it can be read and every local header stands before it. -/
def DirectoryPlace.directory? (bytes : List UInt8) (place : DirectoryPlace) :
    Option (List DirectoryEntry) :=
  if place.consistent then
    match readDirectory? place.shift place.count (bytes.drop place.start) with
    | some entries =>
        if entries.all (·.headerStart < place.start) then some (entries.foldl enter []) else none
    | none => none
  else none

/-- The directory, found from the first of the candidate end records that leads to one.  If none
does, the error is the one `found` so far: a candidate that is cut short sets it if it is not set,
one without a directory sets it, and one whose directory cannot be read clears it. -/
def findDirectory (bytes : List UInt8) (found : Option ArchiveError) :
    List (Nat × List UInt8) → Except ArchiveError (List DirectoryEntry)
  | [] => .error (found.getD .noEndRecord)
  | (position, record) :: earlier =>
      match EndRecord.read record with
      | .error error => findDirectory bytes (some (found.getD error)) earlier
      | .ok record =>
          match record.directoryPlace bytes position with
          | .error error => findDirectory bytes (some error) earlier
          | .ok place =>
              match place.directory? bytes with
              | some entries => .ok entries
              | none => findDirectory bytes none earlier

/-- The entries of an archive: of those with one name the last, at the place of the first. -/
def directory (bytes : List UInt8) : Except ArchiveError (List DirectoryEntry) :=
  findDirectory bytes none (positionsOf endSignature [] 0 bytes)

/-! ### The entries -/

def localSignature : List UInt8 := [0x50, 0x4B, 0x03, 0x04]

def contentStart (bytes : List UInt8) (entry : DirectoryEntry) : Except ArchiveError Nat :=
  let header := (bytes.drop entry.headerStart).take 30
  if header.length < 30 then .error .cutShort
  else if localSignature.isPrefixOf header then
    .ok (entry.headerStart + 30 + half header 26 + half header 28)
  else .error .badLocalHeader

def unpacker? (compression : Nat) : Option (List UInt8 → Except ArchiveError (List UInt8)) :=
  match compression with
  | 0 => some .ok
  | 8 =>
      some fun stored =>
        (Inflate.inflate stored).mapError fun
          | .incomplete => .incompleteData
          | .corrupt => .corruptData
  | _ => none

def content (bytes : List UInt8) (entry : DirectoryEntry) (start : Nat) :
    Except ArchiveError (List UInt8) :=
  if entry.encrypted then .error .encryptedEntry
  else
    match unpacker? entry.compression with
    | none => .error .unknownCompression
    | some unpack =>
        if entry.locked then .error .lockedEntry
        else
          match unpack ((bytes.drop start).take entry.storedSize) with
          | .error error => .error error
          | .ok unpacked =>
              if Checksum.crc32 unpacked = entry.checksum then .ok unpacked
              else .error .wrongChecksum

def isDirectoryName (name : String) : Bool :=
  match name.toList.getLast? with
  | some c => c = '/' || c = '\\'
  | none => false

def isImageName (name : String) : Bool :=
  ".dex".toList.isSuffixOf name.toList

def visit (bytes : List UInt8) (archive : Archive) (entry : DirectoryEntry) :
    Except ArchiveError Archive :=
  match contentStart bytes entry with
  | .error error => .error error
  | .ok start =>
      if isDirectoryName entry.name then .ok archive
      else if isImageName entry.name then
        (content bytes entry start).map fun content =>
          { fileCount := archive.fileCount + 1
            images := archive.images ++ [{ name := entry.name, content }] }
      else .ok { archive with fileCount := archive.fileCount + 1 }

def visitAll (bytes : List UInt8) (archive : Archive) :
    List DirectoryEntry → Except ArchiveError Archive
  | [] => .ok archive
  | entry :: rest =>
      match visit bytes archive entry with
      | .ok archive => visitAll bytes archive rest
      | .error error => .error error

def read (bytes : List UInt8) : Except ArchiveError Archive :=
  match directory bytes with
  | .ok entries => visitAll bytes { fileCount := 0, images := [] } entries
  | .error error => .error error

end Archive

end DexMembers
