import DexMembers.Image.Header
import DexMembers.Proofs.Binary.Cursor

/-!
# Headers are read back

The words of a header stand at fixed distances, so the reader finds each where the writer put it.
-/

set_option autoImplicit false

namespace DexMembers.Header

@[simp] theorem length_wordBytes (word : UInt32) : (wordBytes word).length = 4 := rfl

theorem length_signedBytes (h : Header) : h.signedBytes.length = 100 := by
  rw [signedBytes, List.length_append, Vector.length_toList,
    Binary.length_flatMap_of_width wordBytes length_wordBytes]
  rfl

theorem length_bytes (h : Header) : h.bytes.length = byteLength := by
  rw [bytes, List.length_append, List.length_append, Vector.length_toList, length_wordBytes,
    length_signedBytes]
  rfl

theorem wordAt_append (front bytes : List UInt8) (offset : Nat) :
    wordAt (front ++ bytes) (front.length + offset) = wordAt bytes offset := by
  rw [wordAt, wordAt, List.drop_length_add_append]

theorem wordAt_wordBytes (word : UInt32) (rest : List UInt8) :
    wordAt (wordBytes word ++ rest) 0 = word := by
  have taken : ((wordBytes word ++ rest).drop 0).take 4 = Binary.u32Bytes word.toNat :=
    List.take_left' rfl
  rw [wordAt, taken, Binary.wordValue_u32Bytes]
  have bound := word.toNat_lt
  apply UInt32.toNat_inj.mp
  rw [UInt32.toNat_ofNat']
  omega

theorem wordAt_words (words : List UInt32) (rest : List UInt8) (i : Nat)
    (inside : i < words.length) :
    wordAt (words.flatMap wordBytes ++ rest) (4 * i) = words[i] := by
  induction words generalizing i with
  | nil => exact absurd inside (Nat.not_lt_zero i)
  | cons word words ih =>
      rw [List.flatMap_cons, List.append_assoc]
      cases i with
      | zero => exact wordAt_wordBytes word _
      | succ i =>
          have offset : 4 * (i + 1) = (wordBytes word).length + 4 * i := by
            rw [length_wordBytes]
            omega
          rw [offset, wordAt_append]
          exact ih i (Nat.lt_of_succ_lt_succ inside)

/-- The words of a header stand behind its signature, four bytes each. -/
theorem wordAt_bytes (h : Header) (rest : List UInt8) (i : Nat) (inside : i < 20) :
    wordAt (h.bytes ++ rest) (32 + 4 * i) = h.words[i] := by
  have front : (h.magic.toList ++ wordBytes h.checksum ++ h.signature.toList).length = 32 := by
    simp
  have shape : h.bytes ++ rest = (h.magic.toList ++ wordBytes h.checksum ++ h.signature.toList) ++
      (h.words.flatMap wordBytes ++ rest) := by
    simp only [bytes, signedBytes, List.append_assoc]
  rw [shape, ← front, wordAt_append]
  exact wordAt_words h.words rest i inside

theorem checksum_bytes (h : Header) (rest : List UInt8) :
    wordAt (h.bytes ++ rest) 8 = h.checksum := by
  have shape : h.bytes ++ rest =
      h.magic.toList ++ (wordBytes h.checksum ++ (h.signedBytes ++ rest)) := by
    simp only [bytes, List.append_assoc]
  have moved := wordAt_append h.magic.toList (wordBytes h.checksum ++ (h.signedBytes ++ rest)) 0
  rw [Vector.length_toList, wordAt_wordBytes] at moved
  rw [shape]
  exact moved

theorem drop_checksum (h : Header) (rest : List UInt8) :
    (h.bytes ++ rest).drop 12 = h.signedBytes ++ rest := by
  have front : (h.magic.toList ++ wordBytes h.checksum).length = 12 := by simp
  rw [bytes, List.append_assoc, List.drop_left' front]

theorem signature_bytes (h : Header) (rest : List UInt8) :
    ((h.bytes ++ rest).drop 12).take 20 = h.signature.toList := by
  rw [drop_checksum, signedBytes, List.append_assoc]
  exact List.take_left' Vector.length_toList

theorem drop_signature (h : Header) (rest : List UInt8) :
    (h.bytes ++ rest).drop 32 = h.words.flatMap wordBytes ++ rest := by
  have behind : (h.bytes ++ rest).drop 32 = ((h.bytes ++ rest).drop 12).drop 20 := by
    rw [List.drop_drop]
  rw [behind, drop_checksum, signedBytes, List.append_assoc]
  exact List.drop_left' Vector.length_toList

theorem ofBytes_bytes (h : Header) (rest : List UInt8)
    (long : byteLength ≤ (h.bytes ++ rest).length) : ofBytes (h.bytes ++ rest) long = h := by
  have magic : (h.bytes ++ rest).take 8 = h.magic.toList := by
    rw [bytes, List.append_assoc, List.append_assoc]
    exact List.take_left' Vector.length_toList
  have signature := signature_bytes h rest
  have word := wordAt_bytes h rest
  have checksum := checksum_bytes h rest
  cases h
  simp only [ofBytes, Header.mk.injEq]
  refine ⟨?_, checksum, ?_, word 0 (by decide), word 1 (by decide), word 2 (by decide),
    word 3 (by decide), word 4 (by decide), word 5 (by decide), word 6 (by decide),
    word 7 (by decide), word 8 (by decide), word 9 (by decide), word 10 (by decide),
    word 11 (by decide), word 12 (by decide), word 13 (by decide), word 14 (by decide),
    word 15 (by decide), word 16 (by decide), word 17 (by decide), word 18 (by decide),
    word 19 (by decide)⟩
  · apply Vector.toList_inj.mp
    rw [← magic]
    rfl
  · apply Vector.toList_inj.mp
    rw [← signature]
    rfl

theorem isDex_bytes_append (h : Header) (rest : List UInt8) :
    isDex (h.bytes ++ rest) = isDex h.magic.toList := by
  have long : dexMagic.length ≤ h.magic.toList.length := by
    rw [Vector.length_toList]
    decide
  rw [Bool.eq_iff_iff, isDex_iff, isDex_iff, bytes, List.append_assoc,
    List.append_assoc]
  constructor
  · intro stands
    exact List.prefix_of_prefix_length_le stands (List.prefix_append _ _) long
  · intro stands
    exact stands.trans (List.prefix_append _ _)

theorem isDex_take (bytes : List UInt8) : isDex (bytes.take 8) = isDex bytes := by
  rw [Bool.eq_iff_iff, isDex_iff, isDex_iff, List.prefix_take_iff]
  exact and_iff_left (by decide)

theorem read_eq_ok_iff {bytes : List UInt8} {header : Header} :
    read bytes = .ok header ↔ ∃ long : byteLength ≤ bytes.length,
      dexMagic <+: bytes ∧ header.endianTag = littleEndianTag ∧ header = ofBytes bytes long := by
  rw [← isDex_iff, read]
  constructor
  · intro found
    split at found
    · dsimp only at found
      split at found
      · split at found
        · cases found
          exact ⟨‹_›, ‹_›, ‹_›, rfl⟩
        · cases found
      · cases found
    · cases found
  · rintro ⟨long, magic, tag, rfl⟩
    rw [dif_pos long, if_pos magic]
    exact if_pos tag

/-- Every header of an image is read back, whatever follows it. -/
theorem read_bytes_append {h : Header} (magic : isDex h.magic.toList = true)
    (tag : h.endianTag = littleEndianTag) (rest : List UInt8) :
    read (h.bytes ++ rest) = .ok h := by
  have long : byteLength ≤ (h.bytes ++ rest).length := by
    rw [List.length_append, length_bytes]
    exact Nat.le_add_right _ _
  rw [← isDex_bytes_append h rest, isDex_iff] at magic
  exact read_eq_ok_iff.mpr ⟨long, magic, tag, (ofBytes_bytes h rest long).symm⟩

end DexMembers.Header
