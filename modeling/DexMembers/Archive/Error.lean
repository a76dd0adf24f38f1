/-!
# Why an archive cannot be read
-/

set_option autoImplicit false

namespace DexMembers

inductive ArchiveError where
  | noEndRecord
  /-- The comment of the end record goes on past the end of the archive. -/
  | endCommentCutShort
  /-- The end record puts the directory behind itself. -/
  | directoryBehindEnd
  | noDirectory
  /-- The locator puts the large end record behind itself. -/
  | largeEndBehindLocator
  | severalDisks
  | noLargeEnd
  | shortLargeEnd
  | longLargeEnd
  | otherDirectoryDisk
  | otherLargeEndLength
  /-- A large end record has no room for the directory in front of it. -/
  | tooManyEntries
  | badLocalHeader
  | encryptedEntry
  | unknownCompression
  /-- The content of an entry is locked, and no password is given. -/
  | lockedEntry
  /-- A record goes on past the end of the archive. -/
  | cutShort
  | wrongChecksum
  | incompleteData
  | corruptData
deriving DecidableEq, Repr

inductive ArchiveTrouble where
  | damagedContent
  | invalid
  | unsupported
  | unreadable
  /-- The content of an entry is not open to everyone. -/
  | denied
deriving DecidableEq, Repr

namespace ArchiveError

def trouble : ArchiveError → ArchiveTrouble
  | noEndRecord | endCommentCutShort | directoryBehindEnd | noDirectory | largeEndBehindLocator
  | severalDisks | noLargeEnd | shortLargeEnd | longLargeEnd | otherDirectoryDisk
  | otherLargeEndLength | tooManyEntries | badLocalHeader => .invalid
  | encryptedEntry | unknownCompression => .unsupported
  | lockedEntry => .denied
  | cutShort => .unreadable
  | wrongChecksum | incompleteData | corruptData => .damagedContent

def detail : ArchiveError → String
  | noEndRecord => "Could not find EOCD"
  | endCommentCutShort => "EOCD comment exceeds file boundary"
  | directoryBehindEnd => "Invalid CDFH offset in EOCD"
  | noDirectory => "No CDFH found"
  | largeEndBehindLocator => "Invalid EOCD64 Locator CD offset"
  | severalDisks => "Multi-disk ZIP files are not supported"
  | noLargeEnd => "Could not find EOCD64"
  | shortLargeEnd => "Low EOCD64 record size"
  | longLargeEnd => "EOCD64 extends beyond EOCD64 locator"
  | otherDirectoryDisk => "Invalid EOCD64: inconsistency with Locator data"
  | otherLargeEndLength => "Invalid EOCD64: inconsistent length"
  | tooManyEntries => "Invalid EOCD64: inconsistent number of files"
  | badLocalHeader => "Invalid local file header"
  | encryptedEntry => "Password required to decrypt file"
  | unknownCompression => "Compression method not supported"
  | lockedEntry => "provided password is incorrect"
  | cutShort => "failed to fill whole buffer"
  | wrongChecksum => "Invalid checksum"
  | incompleteData => "incomplete deflate stream"
  | corruptData => "corrupt deflate stream"

/-- The causes behind the error's message, the outermost first. -/
def causes (error : ArchiveError) : List String :=
  match error.trouble with
  | .damagedContent | .denied => [error.detail]
  | .invalid => ["invalid Zip archive: " ++ error.detail]
  | .unsupported => ["unsupported Zip archive: " ++ error.detail]
  | .unreadable => ["i/o error", error.detail]

def message (error : ArchiveError) : String :=
  (match error.trouble with
    | .damagedContent => "I/O error: "
    | _ => "ZIP error: ") ++ error.causes.headD ""

end ArchiveError

end DexMembers
