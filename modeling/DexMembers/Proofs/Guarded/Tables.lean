import DexMembers.Proofs.Guarded.Reader
import DexMembers.Proofs.Image.ReaderSteps

/-!
# Tables read without faults

Every number in an image is one that its maker chose, up to 2^32 - 1, and is followed wherever it
leads.  Whatever it is, the guards of the readers below are enough.
-/

set_option autoImplicit false

namespace DexMembers

open Binary (Cursor ReadFailure)

namespace Guarded

variable {ε α β : Type}

/-! ### Items -/

def ofRead (run : Guarded ReadFailure α) : Guarded ImageError α :=
  run.adapt fun failure => { fault := .unreadable failure }

def stringData (c : Cursor) : Guarded ReadFailure (StringData × Cursor) := do
  let (units, c) ← uleb128 c
  let (content, c) ← untilZero c
  match Text.ofModifiedUtf8? content with
  | some text => return (.decoded text, c)
  | none => return (.raw units content, c)

def typeList (c : Cursor) : Guarded ImageError (List Nat × Cursor) := do
  let (size, c) ← ofRead (u4 c)
  if c.bytes.size / 2 < size then throw { fault := .typeListTooLong size }
  else
    let (types, c) ← ofRead (manyOnto (fun _ c => u2 c) size #[] c)
    return (types.toList, c)

def prototype (c : Cursor) : Guarded ImageError (Prototype × Cursor) := do
  let (shorty, c) ← ofRead (u4 c)
  let (returnType, c) ← ofRead (u4 c)
  let (offset, c) ← ofRead (u4 c)
  if offset = 0 then return ({ shorty, returnType, parameters := [] }, c)
  else
    let (parameters, _) ← typeList (c.seek offset)
    return ({ shorty, returnType, parameters }, c)

def idTriple (c : Cursor) : Guarded ReadFailure ((Nat × Nat × Nat) × Cursor) := do
  let (first, c) ← u2 c
  let (second, c) ← u2 c
  let (third, c) ← u4 c
  return ((first, second, third), c)

def fieldId (c : Cursor) : Guarded ReadFailure (FieldId × Cursor) := do
  let ((declaringType, fieldType, name), c) ← idTriple c
  return ({ declaringType, fieldType, name }, c)

def methodId (c : Cursor) : Guarded ReadFailure (MethodId × Cursor) := do
  let ((declaringType, prototype, name), c) ← idTriple c
  return ({ declaringType, prototype, name }, c)

variable {c : Cursor}

theorem Follows.ofRead {run : Guarded ReadFailure (α × Cursor)}
    {plain : Except ReadFailure (α × Cursor)} (follows : Follows run plain) :
    Follows (Guarded.ofRead run) (ImageError.ofRead plain) :=
  follows.adapt _

theorem u4_ofRead_follows (inRange : c.InRange) :
    Follows (Guarded.ofRead (u4 c)) (ImageError.ofRead c.u4) :=
  (u4_follows inRange).ofRead

theorem ofRead_u4_lt {value : Nat} {next : Cursor}
    (read : ImageError.ofRead c.u4 = .ok (value, next)) : value < 2 ^ 32 :=
  u4_lt (eq_ok_of_mapError_eq_ok read)

theorem seek_inRange {other : Cursor} {offset : Nat} {next : Cursor} (inRange : other.InRange)
    (read : ImageError.ofRead c.u4 = .ok (offset, next)) : (other.seek offset).InRange :=
  inRange.seek (Nat.lt_trans (ofRead_u4_lt read) (by decide))

theorem stringData_follows (inRange : c.InRange) :
    Follows (stringData c) (StringData.read c) := by
  rw [stringData, StringData.read_eq_bind]
  apply (uleb128_follows inRange).bind
  intro units c _ inRange
  apply (untilZero_follows inRange).bind
  intro content c _ inRange
  dsimp only
  cases Text.ofModifiedUtf8? content <;> exact Follows.pure inRange _

theorem typeList_follows (inRange : c.InRange) : Follows (typeList c) (TypeList.read c) := by
  rw [typeList, TypeList.read_eq_bind]
  apply (u4_ofRead_follows inRange).bind
  intro size c _ inRange
  dsimp only
  split
  · exact Follows.throw _
  · apply (manyOnto_follows (fun _ _ => u2_follows) size #[] inRange).ofRead.bind
    intro types c _ inRange
    exact Follows.pure inRange _

theorem prototype_follows (inRange : c.InRange) : Follows (prototype c) (Prototype.read c) := by
  apply (u4_ofRead_follows inRange).bind
  intro shorty c _ inRange
  apply (u4_ofRead_follows inRange).bind
  intro returnType c _ inRange
  apply (u4_ofRead_follows inRange).bind
  intro offset next read nextInRange
  dsimp only
  split
  · exact Follows.pure nextInRange _
  · apply (typeList_follows (seek_inRange nextInRange read)).bind
    intro parameters _ _ _
    exact Follows.pure nextInRange _

theorem idTriple_follows (below : c.BelowTop) : Follows (idTriple c) (readIdTriple c) := by
  apply (word_follows_of_lt below.size .u2 below.position).bind
  intro first c _ inRange
  apply (u2_follows inRange).bind
  intro second c _ inRange
  apply (u4_follows inRange).bind
  intro third c _ inRange
  exact Follows.pure inRange _

theorem fieldId_follows (below : c.BelowTop) : Follows (fieldId c) (FieldId.read c) := by
  rw [FieldId.read_eq_bind]
  apply (idTriple_follows below).bind
  intro id c _ inRange
  exact Follows.pure inRange _

theorem methodId_follows (below : c.BelowTop) : Follows (methodId c) (MethodId.read c) := by
  rw [MethodId.read_eq_bind]
  apply (idTriple_follows below).bind
  intro id c _ inRange
  exact Follows.pure inRange _

/-! ### Tables -/

def stringId (index : Nat) (c : Cursor) : Guarded ImageError (StringData × Cursor) := do
  let (offset, next) ← ofRead (u4 c)
  let (text, _) ← (ofRead (stringData (c.seek offset))).adapt (ImageError.inside (.stringId index))
  return (text, next)

def typeId (strings index : Nat) (c : Cursor) : Guarded ImageError (Nat × Cursor) := do
  let (text, next) ← ofRead (u4 c)
  if text < strings then return (text, next)
  else throw (({ fault := .noString text } : ImageError).inside (.typeId index))

def protoId (index : Nat) (c : Cursor) : Guarded ImageError (Prototype × Cursor) :=
  (prototype c).adapt (ImageError.inside (.protoId index))

def table (next : Nat → Cursor → Guarded ImageError (α × Cursor)) (bytes : Array UInt8)
    (size offset : UInt32) : Guarded ImageError (Array α) := do
  let (items, _) ← manyOnto next size.toNat #[] ⟨bytes, offset.toNat⟩
  return items

def tables (header : Header) (bytes : Array UInt8) : Guarded ImageError Image := do
  let strings ← table stringId bytes header.stringIdsSize header.stringIdsOffset
  let types ← table (typeId strings.size) bytes header.typeIdsSize header.typeIdsOffset
  let prototypes ← table protoId bytes header.protoIdsSize header.protoIdsOffset
  let fields ← table (fun _ c => ofRead (fieldId c)) bytes header.fieldIdsSize
    header.fieldIdsOffset
  let methods ← table (fun _ c => ofRead (methodId c)) bytes header.methodIdsSize
    header.methodIdsOffset
  return { header, strings, types, prototypes, fields, methods }

theorem stringId_follows (index : Nat) (c : Cursor) (inRange : c.InRange) :
    Follows (stringId index c) (Image.readString index c) := by
  rw [Image.readString_eq_bind]
  apply (u4_ofRead_follows inRange).bind
  intro offset next read nextInRange
  apply ((stringData_follows (seek_inRange inRange read)).ofRead.adapt _).bind
  intro text _ _ _
  exact Follows.pure nextInRange _

theorem typeId_follows (strings index : Nat) (c : Cursor) (inRange : c.InRange) :
    Follows (typeId strings index c) (Image.readType strings index c) := by
  rw [Image.readType_eq_bind]
  apply (u4_ofRead_follows inRange).bind
  intro text next _ nextInRange
  dsimp only
  split
  · exact Follows.pure nextInRange _
  · exact Follows.throw _

theorem protoId_follows (index : Nat) (c : Cursor) (inRange : c.InRange) :
    Follows (protoId index c) (Image.readPrototype index c) :=
  (prototype_follows inRange).adapt _

theorem table_eq {step : Nat → Cursor → Guarded ImageError (α × Cursor)}
    {plain : Nat → Cursor → Except ImageError (α × Cursor)} {bytes : Array UInt8}
    (short : bytes.size < 2 ^ 63)
    (each : ∀ index c, c.InRange → Follows (step index c) (plain index c)) (size offset : UInt32) :
    table step bytes size offset = of (Image.readTable plain bytes size offset) := by
  have small := offset.toNat_lt
  have inRange : (Cursor.mk bytes offset.toNat).InRange := Cursor.inRange_mk short (by omega)
  rw [table, Image.readTable, (manyOnto_follows each size.toNat #[] inRange).same, Cursor.many]
  cases Cursor.manyOnto plain size.toNat #[] ⟨bytes, offset.toNat⟩ <;> rfl

theorem tables_eq (header : Header) {bytes : Array UInt8} (short : bytes.size < 2 ^ 63) :
    tables header bytes = of (Image.readTables header bytes) := by
  rw [tables, Image.readTables, table_eq short stringId_follows]
  apply of_bind
  intro strings _
  rw [table_eq short (typeId_follows strings.size)]
  apply of_bind
  intro types _
  rw [table_eq short protoId_follows]
  apply of_bind
  intro prototypes _
  rw [table_eq short fun _ _ inRange => (fieldId_follows inRange.belowTop).ofRead]
  apply of_bind
  intro fields _
  rw [table_eq short fun _ _ inRange => (methodId_follows inRange.belowTop).ofRead]
  apply of_bind
  intro methods _
  rfl

end Guarded

end DexMembers
