import DexMembers.Archive.Record
import DexMembers.Checksum
import DexMembers.Text.Encoding

/-!
# Extra fields of a directory entry

A block of extra fields follows the name of an entry.  Each field is a kind, a length and that many
bytes.  A field can give numbers that have no room in the entry, give the name or the comment in
UTF-8, or say that the content is locked; fields of times are only checked, and fields of any other
kind are passed over.  A block that ends in the middle of a field counts up to that field; a field
that breaks the rule of its kind makes the whole entry unreadable.
-/

set_option autoImplicit false

namespace DexMembers.Archive

/-- What an entry says of itself and its extra fields can amend. -/
structure Description where
  nameBytes : List UInt8
  name : String
  comment : String
  compression : Nat
  size : Nat
  storedSize : Nat
  headerStart : Nat
  locked : Bool := false
deriving DecidableEq, Repr

inductive FieldFault where
  /-- The block ends before the field does. -/
  | cutShort
  /-- The field breaks the rule of its kind. -/
  | broken
deriving DecidableEq, Repr

/-- Checks a field of times in seconds.  Its first byte has a bit for each of the three times; the
length fits these bits, or it is that of one time, whatever the bits say. -/
def checkTimes (length : Nat) (data : List UInt8) : Except FieldFault Unit :=
  match data with
  | [] => .error .cutShort
  | present :: _ =>
      let count := ((List.range 3).filter present.toNat.testBit).length
      if 8 ≤ present.toNat ∨ (length ≠ 5 ∧ length ≠ 1 + 4 * count) then .error .broken
      else if data.length < length then .error .cutShort
      else .ok ()

/-- Checks a field of three times in fractions of a second, which stand behind a reserved word under
the only tag there is. -/
def checkFineTimes (length : Nat) (data : List UInt8) : Except FieldFault Unit :=
  if length ≠ 32 then .error .broken
  else if data.length < 6 then .error .cutShort
  else if half data 4 ≠ 1 then .error .broken
  else if data.length < 8 then .error .cutShort
  else if half data 6 ≠ 24 then .error .broken
  else if data.length < 32 then .error .cutShort
  else .ok ()

/-- The text of a field that gives another text in UTF-8, with its bytes: behind a version stands
the checksum of the bytes that it replaces. -/
def replacementText (replaced : List UInt8) (length : Nat) (data : List UInt8) :
    Except FieldFault (List UInt8 × String) :=
  if data.length < 5 then .error .cutShort
  else if length < 5 then .error .broken
  else if data.length < length then .error .cutShort
  else
    let bytes := (data.take length).drop 5
    match Text.ofUtf8? bytes with
    | some text =>
        if (Checksum.crc32 replaced).toNat = word data 1 then .ok (bytes, text) else .error .broken
    | none => .error .broken

/-- The compression below the lock, from a field that says how the content is locked: a version, the
maker's mark, the strength of the lock, and the compression. -/
def lockedCompression (length : Nat) (data : List UInt8) : Except FieldFault Nat :=
  let strength := (data.getD 4 0).toNat
  if length ≠ 7 then .error .broken
  else if data.length < 7 then .error .cutShort
  else if half data 0 ∈ [1, 2] ∧ half data 2 = 0x4541 ∧ strength ∈ [1, 2, 3] then
    .ok (half data 5)
  else .error .broken

/-- A number and what follows it: the number that is known, or the next long word if it is `given`
in the field. -/
def nextLong? (given : Bool) (known : Nat) (data : List UInt8) : Option (Nat × List UInt8) :=
  if !given then some (known, data)
  else if data.length < 8 then none
  else some (long data 0, data.drop 8)

theorem nextLong?_given {known : Nat} {data : List UInt8} (enough : 8 ≤ data.length) :
    nextLong? true known data = some (long data 0, data.drop 8) := by
  simp [nextLong?, Nat.not_lt.mpr enough]

namespace Description

/-- The description with the numbers of a field that has room for them: those that have none in the
entry, or all of them in a field of three numbers.  A field that ends early leaves the numbers read
so far. -/
def amendNumbers (description : Description) (length : Nat) (data : List UInt8) :
    Description × Option FieldFault :=
  let given := fun known => decide (24 ≤ length ∨ known = fullWord)
  match nextLong? (given description.size) description.size data with
  | none => (description, some .cutShort)
  | some (size, rest) =>
      let description := { description with size }
      match nextLong? (given description.storedSize) description.storedSize rest with
      | none => (description, some .cutShort)
      | some (storedSize, rest) =>
          let description := { description with storedSize }
          match nextLong? (given description.headerStart) description.headerStart rest with
          | none => (description, some .cutShort)
          | some (headerStart, rest) =>
              let taken := data.length - rest.length
              ({ description with headerStart },
                if length < taken then some .broken
                else if data.length < length then some .cutShort
                else none)

/-- A field of three numbers gives all of them, whatever the entry says. -/
theorem amendNumbers_three (description : Description) {data : List UInt8}
    (whole : 24 ≤ data.length) :
    description.amendNumbers 24 data =
      ({ description with
          size := long data 0, storedSize := long data 8, headerStart := long data 16 }, none) := by
  have taken : data.length - (data.length - 24) = 24 := Nat.sub_sub_self whole
  have first : 8 ≤ data.length := by omega
  have second : 8 ≤ (data.drop 8).length := by
    rw [List.length_drop]
    omega
  have third : 8 ≤ ((data.drop 8).drop 8).length := by
    rw [List.length_drop, List.length_drop]
    omega
  simp only [amendNumbers, Nat.le_refl, true_or, decide_true, nextLong?_given first,
    nextLong?_given second, nextLong?_given third]
  rw [List.drop_drop, List.drop_drop, List.length_drop, taken, if_neg (Nat.lt_irrefl 24),
    if_neg (Nat.not_lt.mpr whole), long_drop, long_drop]

-- The size alone has no room in the entry.
example :
    let entry : Description := ⟨[], "", "", 0, fullWord, 5, 7, false⟩
    entry.amendNumbers 8 [0, 0, 0, 0, 2, 0, 0, 0] =
      ({ entry with size := 0x200000000 }, none) := by
  decide

def amendWhole (description : Description) (kind length : Nat) (data : List UInt8) :
    Except FieldFault Description :=
  match kind with
  | 0x000A => (checkFineTimes length data).map fun _ => description
  | 0x5455 => (checkTimes length data).map fun _ => description
  | 0x6375 =>
      (replacementText (Text.utf8Bytes description.comment) length data).map fun (_, comment) =>
        { description with comment }
  | 0x7075 =>
      (replacementText description.nameBytes length data).map fun (nameBytes, name) =>
        { description with nameBytes, name }
  | 0x9901 =>
      (lockedCompression length data).map fun compression =>
        { description with compression, locked := true }
  | _ => if data.length < length then .error .cutShort else .ok description

/-- The description with one field taken into account, and what is wrong with the field; `data` are
the bytes behind the field's kind and length. -/
def amend (description : Description) (kind length : Nat) (data : List UInt8) :
    Description × Option FieldFault :=
  if kind = 0x0001 then description.amendNumbers length data
  else
    match description.amendWhole kind length data with
    | .ok amended => (amended, none)
    | .error fault => (description, some fault)

def amendAll? (description : Description) (block : List UInt8) : Option Description :=
  if 4 ≤ block.length then
    let length := half block 2
    match description.amend (half block 0) length (block.drop 4) with
    | (description, none) => description.amendAll? (block.drop (4 + length))
    | (description, some .cutShort) => some description
    | (_, some .broken) => none
  else some description
termination_by block.length
decreasing_by simp only [List.length_drop]; omega

end Description

def lockCompression : Nat := 99

/-- Whether locked content says how it is locked. -/
def Description.isConsistent (description : Description) : Bool :=
  description.compression ≠ lockCompression || description.locked

@[simp] theorem Description.amendAll?_nil (description : Description) :
    description.amendAll? [] = some description := by
  unfold Description.amendAll?
  simp

end DexMembers.Archive
