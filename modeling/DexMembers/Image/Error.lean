import DexMembers.Binary.Cursor
import DexMembers.Text.Quoted

/-!
# Why an image cannot be read

A failure is a cause and the places it was found in, the innermost first.
-/

set_option autoImplicit false

namespace DexMembers

inductive ImageFault where
  | shortHeader
  | badMagic
  | badEndianTag (tag : UInt32)
  /-- Fewer bytes are left than a field of fixed size takes. -/
  | shortField
  | unreadable (failure : Binary.ReadFailure)
  /-- A type list claims more entries than the image has room for. -/
  | typeListTooLong (size : Nat)
  | noString (index : Nat)
  | noType (index : Nat)
  | noPrototype (index : Nat)
  /-- The bytes of a string are in no known encoding. -/
  | undecodableString (index : Nat)
deriving DecidableEq, Repr

inductive ImagePlace where
  | stringId (index : Nat)
  | typeId (index : Nat)
  | protoId (index : Nat)
deriving DecidableEq, Repr

structure ImageError where
  fault : ImageFault
  places : List ImagePlace := []
deriving DecidableEq, Repr

def Binary.ReadUnit.name : Binary.ReadUnit → String
  | u1 => "u1"
  | u2 => "u2"
  | u4 => "u4"
  | uleb128 => "uleb128"

def Binary.ReadFailure.message : Binary.ReadFailure → String
  | endOfBytes unit position =>
      "Unexpected end of stream reading " ++ unit.name ++ " at index " ++ position.repr
  | positionOverflow position => "No index follows a read at index " ++ position.repr

def hexWord (word : UInt32) : String :=
  let digits := Text.hexDigits word.toNat
  "0x" ++ String.ofList (List.replicate (8 - digits.length) '0' ++ digits)

def ImageFault.message : ImageFault → String
  | shortHeader => "Not enough bytes for header"
  | badMagic => "Invalid magic value"
  | badEndianTag tag => "Unsupported endian tag " ++ hexWord tag
  | shortField => "buffer too short for array read"
  | unreadable failure => failure.message
  | typeListTooLong size => "type_list size " ++ size.repr ++ " exceeds the image"
  | noString index => "string index " ++ index.repr ++ " out of range"
  | noType index => "type index " ++ index.repr ++ " out of range"
  | noPrototype index => "proto index " ++ index.repr ++ " out of range"
  | undecodableString index => "Invalid MUTF-8 data in string #" ++ index.repr

def ImagePlace.message : ImagePlace → String
  | stringId index => "string_id #" ++ index.repr
  | typeId index => "type_id #" ++ index.repr
  | protoId index => "proto_id #" ++ index.repr

namespace ImageError

def inside (place : ImagePlace) (error : ImageError) : ImageError :=
  { error with places := error.places ++ [place] }

def message (error : ImageError) : String :=
  match error.places with
  | [] => error.fault.message
  | places =>
      error.fault.message ++ " for " ++ " of ".intercalate (places.map ImagePlace.message)

def ofRead {α : Type} (result : Except Binary.ReadFailure α) : Except ImageError α :=
  result.mapError fun failure => { fault := .unreadable failure }

end ImageError

end DexMembers
