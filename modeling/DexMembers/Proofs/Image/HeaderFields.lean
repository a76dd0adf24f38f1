import DexMembers.Proofs.Image.Header
import DexMembers.Proofs.Outcome

/-!
# Headers field by field

The fields of a header stand one behind the other.  So reading them in turn gives what reading each
of them at its own distance gives, and writing them gives the bytes that were read.
-/

set_option autoImplicit false

namespace DexMembers.Header

open Binary (Cursor)

/-! ### Writing what was read -/

variable {bytes : List UInt8}

theorem wordBytes_wordAt {offset : Nat} (inside : offset + 4 ≤ bytes.length) :
    wordBytes (wordAt bytes offset) = (bytes.drop offset).take 4 := by
  have four : ((bytes.drop offset).take 4).length = 4 := by
    rw [List.length_take, List.length_drop]
    omega
  have value : (wordAt bytes offset).toNat = Binary.wordValue ((bytes.drop offset).take 4) :=
    Nat.mod_eq_of_lt (Binary.wordValue_lt_of_length four)
  rw [wordBytes, value, Binary.u32Bytes_wordValue_of_length four]

theorem wordAt_eq_iff {offset : Nat} {word : UInt32} (inside : offset + 4 ≤ bytes.length) :
    wordAt bytes offset = word ↔ wordBytes word <+: bytes.drop offset := by
  constructor
  · rintro rfl
    rw [wordBytes_wordAt inside]
    exact List.take_prefix 4 _
  · rintro ⟨rest, stands⟩
    have moved : wordAt bytes offset = wordAt (bytes.drop offset) 0 := rfl
    rw [moved, ← stands, wordAt_wordBytes]

theorem flatMap_wordBytes_wordAt (start : Nat) {count : Nat}
    (inside : start + 4 * count ≤ bytes.length) :
    ((List.range count).map fun i => wordAt bytes (start + 4 * i)).flatMap wordBytes =
      (bytes.drop start).take (4 * count) := by
  induction count with
  | zero => rfl
  | succ count ih =>
      have last : wordBytes (wordAt bytes (start + 4 * count)) =
          ((bytes.drop start).drop (4 * count)).take 4 := by
        rw [wordBytes_wordAt (by omega), List.drop_drop]
      rw [List.range_succ, List.map_append, List.flatMap_append, ih (by omega), List.map_singleton,
        List.flatMap_singleton, last, Nat.mul_succ, List.take_add]

theorem bytes_ofBytes (long : byteLength ≤ bytes.length) :
    (ofBytes bytes long).bytes = bytes.take byteLength := by
  have length : 112 ≤ bytes.length := long
  have words : (ofBytes bytes long).words =
      (List.range 20).map fun i => wordAt bytes (32 + 4 * i) := rfl
  have digests : (ofBytes bytes long).magic.toList = bytes.take 8 ∧
      (ofBytes bytes long).checksum = wordAt bytes 8 ∧
      (ofBytes bytes long).signature.toList = (bytes.drop 12).take 20 := ⟨rfl, rfl, rfl⟩
  have split : byteLength = 8 + (4 + (20 + 80)) := rfl
  rw [Header.bytes, signedBytes, digests.1, digests.2.1, digests.2.2, words,
    flatMap_wordBytes_wordAt 32 (by omega), wordBytes_wordAt (by omega), split, List.take_add,
    List.take_add, List.take_add, List.drop_drop, List.drop_drop, List.append_assoc]

/-! ### Reading in turn -/

variable (buffer : Array UInt8) {position : Nat}

theorem extract_eq_take_drop (position length : Nat) :
    buffer.extract position (position + length) =
      ((buffer.toList.drop position).take length).toArray :=
  Array.toList_inj.mp (Cursor.toList_extract ⟨buffer, position⟩ length)

theorem length_take_drop {length : Nat} (inside : position + length ≤ buffer.size) :
    ((buffer.toList.drop position).take length).toArray.size = length := by
  rw [List.size_toArray, List.length_take, List.length_drop, Array.length_toList]
  omega

theorem readBytes_of_le {length : Nat} (inside : position + length ≤ buffer.size) :
    readBytes length ⟨buffer, position⟩ =
      .ok (⟨((buffer.toList.drop position).take length).toArray, length_take_drop buffer inside⟩,
        ⟨buffer, position + length⟩) := by
  simp only [readBytes, dif_pos inside, extract_eq_take_drop]
  rfl

theorem readWord_of_le (inside : position + 4 ≤ buffer.size)
    (numbered : position + 4 < 0x10000000000000000) :
    readWord ⟨buffer, position⟩ =
      pure (wordAt buffer.toList position, ⟨buffer, position + 4⟩) := by
  have below : ¬ Cursor.positionLimit ≤ position + 4 := Nat.not_le_of_lt numbered
  have read : Cursor.u4 ⟨buffer, position⟩ =
      .ok (Binary.wordValue ((buffer.toList.drop position).take 4), ⟨buffer, position + 4⟩) := by
    rw [Cursor.u4, Cursor.word, if_neg below, Cursor.peek?, if_pos inside, Cursor.toList_extract]
    rfl
  rw [readWord, read]
  rfl

theorem readBehindMagic_eq {buffer : Array UInt8} (long : byteLength ≤ buffer.toList.length)
    {magic : Vector UInt8 8} (start : magic = (ofBytes buffer.toList long).magic) :
    readBehindMagic magic ⟨buffer, 8⟩ =
      if (ofBytes buffer.toList long).endianTag = littleEndianTag then
        .ok (ofBytes buffer.toList long, ⟨buffer, byteLength⟩)
      else .error { fault := .badEndianTag (ofBytes buffer.toList long).endianTag } := by
  have size : 112 ≤ buffer.size := long
  obtain ⟨signature, read, digest⟩ : ∃ signature,
      readBytes 20 ⟨buffer, 12⟩ = pure (signature, ⟨buffer, 32⟩) ∧
        signature = (ofBytes buffer.toList long).signature :=
    ⟨_, readBytes_of_le buffer (by omega), rfl⟩
  have tag : (ofBytes buffer.toList long).endianTag = wordAt buffer.toList 40 := rfl
  rw [readBehindMagic, tag]
  simp (disch := omega) only [readWord_of_le buffer, read, pure_bind, Nat.reduceAdd]
  by_cases little : wordAt buffer.toList 40 = littleEndianTag
  · rw [if_pos little, if_pos little, start, digest]
    rfl
  · rw [if_neg little, if_neg little]
    rfl

/-- Reading the fields in turn gives what reading each at its distance gives, and the cursor is
then behind them. -/
theorem readFields_eq :
    readFields ⟨buffer, 0⟩ =
      (read buffer.toList).map fun header => (header, ⟨buffer, byteLength⟩) := by
  rw [readFields, read]
  by_cases long : byteLength ≤ buffer.toList.length
  · have size : 112 ≤ buffer.size := long
    have clear : ¬ buffer.size < byteLength := Nat.not_lt_of_le long
    have start : isDex (ofBytes buffer.toList long).magic.toList = isDex buffer.toList :=
      isDex_take buffer.toList
    rw [dif_pos long, if_neg clear, readBytes_of_le buffer (by omega)]
    change (if isDex (ofBytes buffer.toList long).magic.toList then
      readBehindMagic (ofBytes buffer.toList long).magic ⟨buffer, 8⟩ else _) = _
    rw [start, readBehindMagic_eq long rfl]
    by_cases magic : isDex buffer.toList = true
    · rw [if_pos magic, if_pos magic]
      dsimp only
      split <;> rfl
    · rw [if_neg magic, if_neg magic]
      rfl
  · have cut : buffer.size < byteLength := Nat.lt_of_not_le long
    rw [dif_neg long, if_pos cut]
    rfl


/-! ### Both directions -/

/-- The bytes of a header that can be read are its own, and no more is asked of them than their
number, the magic and the tag. -/
theorem exists_read_eq_ok_iff :
    (∃ header, read bytes = .ok header) ↔ byteLength ≤ bytes.length ∧ dexMagic <+: bytes ∧
      wordBytes littleEndianTag <+: bytes.drop 40 := by
  constructor
  · rintro ⟨header, found⟩
    obtain ⟨long, magic, tag, rfl⟩ := read_eq_ok_iff.mp found
    have inside : 112 ≤ bytes.length := long
    exact ⟨long, magic, (wordAt_eq_iff (by omega)).mp tag⟩
  · rintro ⟨long, magic, stands⟩
    have inside : 112 ≤ bytes.length := long
    have tag : wordAt bytes 40 = littleEndianTag := (wordAt_eq_iff (by omega)).mpr stands
    exact ⟨ofBytes bytes long, read_eq_ok_iff.mpr ⟨long, magic, tag, rfl⟩⟩

theorem readFields_eq_ok_iff {header : Header} {next : Cursor} :
    readFields ⟨buffer, 0⟩ = .ok (header, next) ↔
      read buffer.toList = .ok header ∧ next = ⟨buffer, byteLength⟩ := by
  rw [readFields_eq]
  cases read buffer.toList with
  | error failure => simp [Except.map]
  | ok found => simp [Except.map, eq_comm]

/-- Reading and writing a header undo each other, whatever the bytes and whatever the header: what
was read is written as the bytes it was read from, the cursor being behind them, and what is written
is read back whatever follows it.  Bytes are read exactly if there are enough of them, the magic
stands in front and the tag where it belongs.  Reading field by field is how an image's header is
read. -/
theorem readFields_bytes_inverse :
    (∀ (buffer : Array UInt8) (header : Header) (next : Cursor),
      readFields ⟨buffer, 0⟩ = .ok (header, next) →
        header.bytes = buffer.toList.take 0x70 ∧ next = ⟨buffer, 0x70⟩) ∧
    (∀ (header : Header) (rest : List UInt8), dexMagic <+: header.magic.toList →
      header.endianTag = littleEndianTag →
        readFields ⟨(header.bytes ++ rest).toArray, 0⟩ =
          .ok (header, ⟨(header.bytes ++ rest).toArray, 0x70⟩)) ∧
    (∀ buffer : Array UInt8, (∃ found, readFields ⟨buffer, 0⟩ = .ok found) ↔
      0x70 ≤ buffer.size ∧ dexMagic <+: buffer.toList ∧
        wordBytes littleEndianTag <+: buffer.toList.drop 40) ∧
    ∀ bytes : List UInt8, read bytes = (readFields ⟨bytes.toArray, 0⟩).map Prod.fst := by
  refine ⟨?written, ?read, ?readable, ?whole⟩
  case written =>
    intro buffer header next found
    obtain ⟨read, behind⟩ := (readFields_eq_ok_iff buffer).mp found
    obtain ⟨long, -, -, rfl⟩ := read_eq_ok_iff.mp read
    exact ⟨bytes_ofBytes long, behind⟩
  case read =>
    intro header rest magic tag
    have found : read (header.bytes ++ rest) = .ok header :=
      read_bytes_append (isDex_iff.mpr magic) tag rest
    exact (readFields_eq_ok_iff _).mpr ⟨found, rfl⟩
  case readable =>
    intro buffer
    have plain : (∃ found, readFields ⟨buffer, 0⟩ = .ok found) ↔
        ∃ header, read buffer.toList = .ok header := by
      simp only [Prod.exists, readFields_eq_ok_iff, exists_and_left, exists_eq, and_true]
    rw [plain, exists_read_eq_ok_iff, Array.length_toList]
    rfl
  case whole =>
    intro bytes
    rw [readFields_eq]
    cases read bytes <;> rfl

def distinctFields : Header where
  magic := #v[0x64, 0x65, 0x78, 0x0A, 0x30, 0x33, 0x39, 0]
  checksum := 1
  signature := Vector.ofFn fun i => UInt8.ofNat (100 + i)
  fileSize := 2
  headerSize := 0x70
  endianTag := littleEndianTag
  linkSize := 3
  linkOffset := 4
  mapOffset := 5
  stringIdsSize := 6
  stringIdsOffset := 7
  typeIdsSize := 8
  typeIdsOffset := 9
  protoIdsSize := 10
  protoIdsOffset := 11
  fieldIdsSize := 12
  fieldIdsOffset := 13
  methodIdsSize := 14
  methodIdsOffset := 15
  classDefsSize := 16
  classDefsOffset := 17
  dataSize := 18
  dataOffset := 0xFFFFFFFF

/-- Two bytes follow the header.  With the tag's bytes turned round it is not read. -/
theorem readFields_bytes_inverse_distinct_fields :
    readFields ⟨(distinctFields.bytes ++ [0xCA, 0xFE]).toArray, 0⟩ =
        .ok (distinctFields, ⟨(distinctFields.bytes ++ [0xCA, 0xFE]).toArray, 0x70⟩) ∧
      distinctFields.bytes = (distinctFields.bytes ++ [0xCA, 0xFE]).take 0x70 ∧
      ¬ ∃ found, readFields ⟨{ distinctFields with endianTag := 0x78563412 }.bytes.toArray, 0⟩ =
        .ok found := by
  have found : readFields ⟨(distinctFields.bytes ++ [0xCA, 0xFE]).toArray, 0⟩ =
      .ok (distinctFields, ⟨(distinctFields.bytes ++ [0xCA, 0xFE]).toArray, 0x70⟩) :=
    readFields_bytes_inverse.2.1 distinctFields [0xCA, 0xFE] (by decide) rfl
  have turned : ¬ wordBytes littleEndianTag <+:
      ({ distinctFields with endianTag := 0x78563412 }.bytes.toArray.toList.drop 40) := by
    decide
  refine ⟨found, (readFields_bytes_inverse.1 _ _ _ found).1, ?_⟩
  intro readable
  exact turned ((readFields_bytes_inverse.2.2.1 _).mp readable).2.2

end DexMembers.Header
