import DexMembers.Proofs.Binary.LebNumber
import DexMembers.Proofs.Image.Item
import DexMembers.Proofs.Image.ReaderSteps

/-!
# Strings are stored and read back

A text is stored behind its length in UTF-16 units, in a form without a zero byte, and a zero byte
ends it.  What any bytes are read as is read again from where it is written: a text from its
modified form, and bytes in no known encoding from themselves, with the length that was stated.
-/

set_option autoImplicit false

namespace DexMembers

open Binary (Cursor)

namespace Binary.Cursor

theorem holds_of_append {before part rest : List UInt8}
    (numbered : (before ++ part ++ rest).length < positionLimit) :
    (Cursor.mk (before ++ part ++ rest).toArray before.length).Holds part := by
  refine ⟨by simpa using numbered, rest, ?_⟩
  simp [Cursor.rest]

theorem lt_wordLimit_of_uleb128 {c next : Cursor} {value : Nat}
    (read : c.uleb128 = .ok (value, next)) : value < wordLimit := by
  rw [uleb128] at read
  split at read
  · rename_i used found
    cases read
    obtain ⟨_, _, _, _, _, rfl⟩ := exists_lebNumber_of_readLeb? found
    exact Nat.mod_lt _ (by decide)
  · cases read

end Binary.Cursor

namespace StringData

/-- The string can be stored: bytes in no known encoding hold no zero, and their stated length is a
word. -/
inductive Storable : StringData → Prop
  | decoded (text : String) : Storable (.decoded text)
  | raw {units : Nat} {content : List UInt8} (small : units < Binary.wordLimit)
      (nonzero : 0 ∉ content) (unknown : Text.ofModifiedUtf8? content = none) :
      Storable (.raw units content)

theorem storable_of_read {c next : Cursor} {string : StringData}
    (done : read c = .ok (string, next)) : string.Storable := by
  rw [read_eq_bind] at done
  obtain ⟨⟨units, behind⟩, length, done⟩ := eq_ok_of_bind_eq_ok done
  obtain ⟨⟨content, after⟩, stands, done⟩ := eq_ok_of_bind_eq_ok done
  dsimp only at done
  split at done
  · cases done
    exact .decoded _
  · rename_i unknown
    cases done
    exact .raw (Cursor.lt_wordLimit_of_uleb128 length)
      (Cursor.untilZero_eq_ok_iff.mp stands).1.nonzero unknown

theorem Storable.read_of_holds {c : Cursor} {string : StringData} (storable : string.Storable)
    (holds : c.Holds string.bytes) :
    read c = .ok (string, c.advance string.bytes.length) := by
  cases storable with
  | decoded text => exact StringData.read_of_holds holds
  | @raw units content small nonzero unknown =>
      rw [bytes, List.append_assoc] at holds
      have body := Cursor.untilZero_of_holds nonzero holds.right
      simp only [read, Cursor.uleb128_of_holds small holds.left, body, unknown,
        Cursor.advance_advance]
      simp only [bytes, List.length_append, List.length_singleton, Nat.add_assoc]

/-- What is written behind some bytes is read from there, and the reader stops behind it. -/
theorem Storable.read_written {string : StringData} (storable : string.Storable)
    {before rest : List UInt8}
    (numbered : (before ++ string.bytes ++ rest).length < Cursor.positionLimit) :
    read ⟨(before ++ string.bytes ++ rest).toArray, before.length⟩ =
      .ok (string, ⟨(before ++ string.bytes ++ rest).toArray,
        (before ++ string.bytes).length⟩) := by
  rw [storable.read_of_holds (Cursor.holds_of_append numbered), List.length_append]
  rfl

/-- A text of fewer than 2^32 units is written as a shortest form of their number, bytes none of
which is zero, and one zero, and as many bytes are reported as were written; it is read from there
and nothing else with it.  Whatever any bytes are read as is written so that it is read again. -/
theorem write_then_read :
    (∀ text before, Text.utf16Length text < Binary.wordLimit →
      ∃ length stored, Binary.ShortestLeb (Text.utf16Length text) length ∧
        stored = length ++ Text.modifiedUtf8Bytes text ++ [0] ∧
        0 ∉ Text.modifiedUtf8Bytes text ∧
        (decoded text).write before = (before ++ stored, stored.length) ∧
        ∀ rest, (before ++ stored ++ rest).length < Cursor.positionLimit →
          read ⟨(before ++ stored ++ rest).toArray, before.length⟩ =
            .ok (decoded text, ⟨(before ++ stored ++ rest).toArray, (before ++ stored).length⟩)) ∧
    ∀ c string next, read c = .ok (string, next) →
      ∀ before rest, ((string.write before).1 ++ rest).length < Cursor.positionLimit →
        read ⟨((string.write before).1 ++ rest).toArray, before.length⟩ =
          .ok (string, ⟨((string.write before).1 ++ rest).toArray,
            (string.write before).1.length⟩) := by
  constructor
  · intro text before few
    have form : (decoded text).bytes =
        Binary.lebBytes (Text.utf16Length text) ++ Text.modifiedUtf8Bytes text ++ [0] := by
      rw [bytes, Nat.mod_eq_of_lt few]
    refine ⟨Binary.lebBytes (Text.utf16Length text), (decoded text).bytes,
      Binary.shortestLeb_lebBytes few, form, Text.zero_not_mem_modifiedUtf8Bytes text,
      write_eq _ _, ?_⟩
    exact fun rest => (Storable.decoded text).read_written
  · intro c string next done before rest
    simp only [write_eq]
    exact (storable_of_read done).read_written

/-- A text with U+0000 and a character beyond U+FFFF behind another byte, and the byte `FF`, which
no text has, behind a length that is not in its shortest form. -/
theorem write_then_read_two_forms :
    let text := "a\x00😀"
    let stored : List UInt8 := [4, 0x61, 0xC0, 0x80, 0xED, 0xA0, 0xBD, 0xED, 0xB8, 0x80, 0]
    ((decoded text).write [7] = (7 :: stored, 11) ∧
      read ⟨(7 :: stored ++ [0xAA]).toArray, 1⟩ =
        .ok (decoded text, ⟨(7 :: stored ++ [0xAA]).toArray, 12⟩)) ∧
    (read ⟨#[0x80, 0, 0xFF, 0], 0⟩ = .ok (raw 0 [0xFF], ⟨#[0x80, 0, 0xFF, 0], 4⟩) ∧
      (raw 0 [0xFF]).write [] = ([0, 0xFF, 0], 3) ∧
      read ⟨#[0, 0xFF, 0], 0⟩ = .ok (raw 0 [0xFF], ⟨#[0, 0xFF, 0], 3⟩)) := by
  intro text stored
  obtain ⟨texts, others⟩ := write_then_read
  constructor
  · obtain ⟨length, form, _, _, _, written, behind⟩ := texts text [7] (by decide)
    have bytesWritten : (decoded text).write [7] = (7 :: stored, 11) := by decide +kernel
    obtain rfl : form = stored :=
      List.append_cancel_left (congrArg Prod.fst (written.symm.trans bytesWritten))
    exact ⟨bytesWritten, behind [0xAA] (by decide)⟩
  · have found : read ⟨#[0x80, 0, 0xFF, 0], 0⟩ =
        .ok (raw 0 [0xFF], ⟨#[0x80, 0, 0xFF, 0], 4⟩) := by decide +kernel
    have bytesWritten : (raw 0 [0xFF]).write [] = ([0, 0xFF, 0], 3) := by decide +kernel
    have again := others _ _ _ found [] []
    rw [bytesWritten] at again
    exact ⟨found, bytesWritten, again (by decide)⟩

end StringData

end DexMembers
