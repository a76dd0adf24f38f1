import DexMembers.Archive.Reader

/-!
# Archives of stored files

The plainest archive of some files: each stands uncompressed behind its local header, the directory
describes them in the same order, and the end record has no comment.
-/

set_option autoImplicit false

namespace DexMembers

namespace Archive

def utf8Flag : Nat := 0x0800

/-- The part that the local header and the directory entry of a file share: version, flags,
compression, time and date, checksum, both sizes, and the lengths of the name and of no extra
field. -/
def sharedFields (file : ArchiveFile) : List UInt8 :=
  Binary.u16Bytes 20 ++ Binary.u16Bytes utf8Flag ++ Binary.u16Bytes 0 ++ Binary.u32Bytes 0 ++
    Binary.u32Bytes (Checksum.crc32 file.content).toNat ++
    Binary.u32Bytes file.content.length ++ Binary.u32Bytes file.content.length ++
    Binary.u16Bytes (Text.utf8Bytes file.name).length ++ Binary.u16Bytes 0

def storedFile (file : ArchiveFile) : List UInt8 :=
  localSignature ++ sharedFields file ++ Text.utf8Bytes file.name ++ file.content

/-- The directory entry of a file whose local header starts at the given position: the version it
was made by, the shared part, no comment, the first disk, no attributes, the position, the name. -/
def storedEntry (start : Nat) (file : ArchiveFile) : List UInt8 :=
  directorySignature ++ Binary.u16Bytes 20 ++ sharedFields file ++ Binary.u16Bytes 0 ++
    Binary.u16Bytes 0 ++ Binary.u16Bytes 0 ++ Binary.u32Bytes 0 ++ Binary.u32Bytes start ++
    Text.utf8Bytes file.name

def storedDirectory (start : Nat) : List ArchiveFile → List UInt8
  | [] => []
  | file :: rest =>
      storedEntry start file ++ storedDirectory (start + (storedFile file).length) rest

def storedEnd (count directorySize directoryOffset : Nat) : List UInt8 :=
  endSignature ++ Binary.u16Bytes 0 ++ Binary.u16Bytes 0 ++ Binary.u16Bytes count ++
    Binary.u16Bytes count ++ Binary.u32Bytes directorySize ++ Binary.u32Bytes directoryOffset ++
    Binary.u16Bytes 0

def storedBytes (files : List ArchiveFile) : List UInt8 :=
  let contents := files.flatMap storedFile
  let listing := storedDirectory 0 files
  contents ++ listing ++ storedEnd files.length listing.length contents.length

end Archive

end DexMembers
