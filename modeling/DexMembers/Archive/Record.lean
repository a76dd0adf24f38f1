import DexMembers.Archive.Error
import DexMembers.Binary.Numbers

/-!
# The records at the end of an archive

Every number stands little-endian at a fixed offset of its record.  The end record tells where the
directory is.  If a number is too large for it, a locator in front of the end record tells where to
find another one that has more room.
-/

set_option autoImplicit false

namespace DexMembers.Archive

def half (record : List UInt8) (offset : Nat) : Nat :=
  Binary.wordValue ((record.drop offset).take 2)

def word (record : List UInt8) (offset : Nat) : Nat :=
  Binary.wordValue ((record.drop offset).take 4)

def long (record : List UInt8) (offset : Nat) : Nat :=
  Binary.wordValue ((record.drop offset).take 8)

theorem long_drop (record : List UInt8) (start offset : Nat) :
    long (record.drop start) offset = long record (start + offset) := by
  rw [long, long, List.drop_drop]

/-- A half word and a word that stand for a number with no room in them. -/
def fullHalf : Nat := 0xFFFF

def fullWord : Nat := 0xFFFFFFFF

/-! ### The end record -/

def endSignature : List UInt8 := [0x50, 0x4B, 0x05, 0x06]

structure EndRecord where
  disk : Nat
  directoryDisk : Nat
  entriesHere : Nat
  entriesInAll : Nat
  directoryOffset : Nat
deriving DecidableEq, Repr

namespace EndRecord

def read (record : List UInt8) : Except ArchiveError EndRecord :=
  if record.length < 22 then .error .cutShort
  else if record.length < 22 + half record 20 then .error .endCommentCutShort
  else
    .ok {
      disk := half record 4
      directoryDisk := half record 6
      entriesHere := half record 8
      entriesInAll := half record 10
      directoryOffset := word record 16 }

def isFull (record : EndRecord) : Bool :=
  record.entriesInAll = fullHalf || record.directoryOffset = fullWord

end EndRecord

/-! ### The large end record -/

def locatorSignature : List UInt8 := [0x50, 0x4B, 0x06, 0x07]

structure Locator where
  directoryDisk : Nat
  endOffset : Nat
  disks : Nat
deriving DecidableEq, Repr

/-- The locator in the twenty bytes before a full end record at the given position. -/
def EndRecord.locator? (bytes : List UInt8) (position : Nat) (record : EndRecord) :
    Option Locator :=
  let front := (bytes.take position).drop (position - 20)
  if record.isFull ∧ 20 ≤ front.length ∧ locatorSignature.isPrefixOf front then
    some { directoryDisk := word front 4, endOffset := long front 8, disks := word front 16 }
  else none

def largeEndSignature : List UInt8 := [0x50, 0x4B, 0x06, 0x06]

structure LargeEndRecord where
  maker : Nat
  needed : Nat
  disk : Nat
  directoryDisk : Nat
  entriesHere : Nat
  entriesInAll : Nat
  directoryOffset : Nat
deriving DecidableEq, Repr

namespace LargeEndRecord

/-- The record at a position that ends at the locator, which stands at `stop`. -/
def read (locator : Locator) (stop position : Nat) (record : List UInt8) :
    Except ArchiveError LargeEndRecord :=
  let length := long record 4 + 12
  let entriesInAll := long record 32
  let directoryOffset := long record 48
  if record.length < 56 then .error .cutShort
  else if length < 56 then .error .shortLargeEnd
  else if stop - position < length then .error .longLargeEnd
  else if word record 20 ≠ locator.directoryDisk then .error .otherDirectoryDisk
  else if length ≠ stop - position then .error .otherLargeEndLength
  else if position < entriesInAll * 46 + directoryOffset then .error .tooManyEntries
  else
    .ok {
      maker := half record 12
      needed := half record 14
      disk := word record 16
      directoryDisk := word record 20
      entriesHere := long record 24
      entriesInAll
      directoryOffset }

def isConsistent (record : LargeEndRecord) : Bool :=
  record.entriesHere ≤ record.entriesInAll && record.needed ≤ record.maker &&
    record.disk = record.directoryDisk

end LargeEndRecord

/-- The first large end record that can be read, from the position on where the bytes stand.  If
there is none, the error is that of the last that cannot, or the one `found` before. -/
def findLargeEnd (locator : Locator) (stop : Nat) (found : ArchiveError) (position : Nat) :
    List UInt8 → Except ArchiveError (Nat × LargeEndRecord)
  | [] => .error found
  | byte :: rest =>
      if stop ≤ position then .error found
      else if largeEndSignature.isPrefixOf (byte :: rest) then
        match LargeEndRecord.read locator stop position (byte :: rest) with
        | .ok record => .ok (position, record)
        | .error error => findLargeEnd locator stop error (position + 1) rest
      else findLargeEnd locator stop found (position + 1) rest

def Locator.largeEnd (bytes : List UInt8) (position : Nat) (locator : Locator) :
    Except ArchiveError (Nat × LargeEndRecord) :=
  if position ≤ locator.endOffset then .error .largeEndBehindLocator
  else if 1 < locator.disks then .error .severalDisks
  else findLargeEnd locator position .noLargeEnd locator.endOffset (bytes.drop locator.endOffset)

end DexMembers.Archive
