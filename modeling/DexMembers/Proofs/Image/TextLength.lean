import DexMembers.Proofs.Binary.Cursor
import DexMembers.Proofs.Image.ReaderSteps
import DexMembers.Proofs.Text.Utf8Length

/-!
# The strings of an image are short

A string of an image takes no more bytes than the image does, for it was decoded from bytes that
stand in it.
-/

set_option autoImplicit false

namespace DexMembers

open Binary (Cursor)

variable {ε α : Type}

namespace Binary.Cursor

theorem bytes_of_word {unit : ReadUnit} {width : Nat} {c next : Cursor} {value : Nat}
    (read : c.word unit width = .ok (value, next)) : next.bytes = c.bytes := by
  rw [word] at read
  split at read
  · cases read
  · split at read
    · cases read
      rfl
    · cases read

theorem bytes_of_uleb128 {c next : Cursor} {value : Nat} (read : c.uleb128 = .ok (value, next)) :
    next.bytes = c.bytes := by
  rw [uleb128] at read
  split at read
  · cases read
    rfl
  · cases read

theorem length_of_untilZero {c next : Cursor} {content : List UInt8}
    (read : c.untilZero = .ok (content, next)) : content.length ≤ c.bytes.size := by
  have inside := (untilZero_eq_ok_iff.mp read).1.end_le
  omega

/-- What every value has that can be read anywhere in a buffer, all values read in a row have. -/
theorem forall_mem_of_manyOnto {next : Nat → Cursor → Except ε (α × Cursor)} {p : α → Prop}
    {bytes : Array UInt8}
    (each : ∀ index c value later, c.bytes = bytes → next index c = .ok (value, later) →
      p value ∧ later.bytes = bytes) {count : Nat} {before values : Array α} {c later : Cursor}
    (stands : c.bytes = bytes) (sofar : ∀ value ∈ before, p value)
    (read : manyOnto next count before c = .ok (values, later)) : ∀ value ∈ values, p value := by
  induction count generalizing before c with
  | zero =>
      cases read
      exact sofar
  | succ count ih =>
      rw [manyOnto_succ] at read
      obtain ⟨⟨value, after⟩, first, read⟩ := eq_ok_of_bind_eq_ok read
      obtain ⟨holds, stays⟩ := each before.size c value after stands first
      refine ih stays ?_ read
      intro other member
      rcases Array.mem_push.mp member with earlier | rfl
      · exact sofar other earlier
      · exact holds

end Binary.Cursor

def StringData.FitsIn (size : Nat) (data : StringData) : Prop :=
  ∀ text, data = .decoded text → text.utf8ByteSize ≤ size

theorem StringData.fitsIn_of_read {c next : Cursor} {data : StringData}
    (done : StringData.read c = .ok (data, next)) : data.FitsIn c.bytes.size := by
  intro text decoded
  rw [StringData.read_eq_bind] at done
  obtain ⟨⟨units, behind⟩, length, done⟩ := eq_ok_of_bind_eq_ok done
  obtain ⟨⟨content, after⟩, stands, done⟩ := eq_ok_of_bind_eq_ok done
  have short := Cursor.length_of_untilZero stands
  rw [Cursor.bytes_of_uleb128 length] at short
  dsimp only at done
  split at done
  · rename_i read
    cases done
    cases decoded
    exact Nat.le_trans (Text.utf8ByteSize_le_of_ofModifiedUtf8? read) short
  · cases done
    cases decoded

namespace Image

theorem fitsIn_of_readString {index : Nat} {c next : Cursor} {data : StringData}
    (done : readString index c = .ok (data, next)) :
    data.FitsIn c.bytes.size ∧ next.bytes = c.bytes := by
  rw [readString_eq_bind] at done
  obtain ⟨⟨offset, behind⟩, place, done⟩ := eq_ok_of_bind_eq_ok done
  obtain ⟨⟨text, elsewhere⟩, stands, done⟩ := eq_ok_of_bind_eq_ok done
  cases done
  have fits : text.FitsIn (c.seek offset).bytes.size :=
    StringData.fitsIn_of_read (eq_ok_of_mapError_eq_ok (eq_ok_of_mapError_eq_ok stands))
  exact ⟨fits, Cursor.bytes_of_word (eq_ok_of_mapError_eq_ok place)⟩

theorem fitsIn_of_readTable {size offset : UInt32} {bytes : Array UInt8}
    {strings : Array StringData} (done : readTable readString bytes size offset = .ok strings) :
    ∀ data ∈ strings, data.FitsIn bytes.size := by
  obtain ⟨⟨values, behind⟩, entries, rfl⟩ := eq_ok_of_map_eq_ok done
  have each : ∀ index c data later, c.bytes = bytes → readString index c = .ok (data, later) →
      data.FitsIn bytes.size ∧ later.bytes = bytes := by
    intro index c data later stands done
    obtain ⟨fits, stays⟩ := fitsIn_of_readString done
    rw [stands] at fits stays
    exact ⟨fits, stays⟩
  exact Cursor.forall_mem_of_manyOnto each rfl (by simp) entries

theorem utf8ByteSize_string_le {content : List UInt8} {image : Image}
    (read : Image.read content = .ok image) {index : Nat} {text : String}
    (found : image.string index = .ok text) : text.utf8ByteSize ≤ content.length := by
  have stored : .decoded text ∈ image.strings := by
    rw [string] at found
    split at found
    · rename_i there
      cases found
      exact Array.mem_of_getElem? there
    · cases found
    · cases found
  have tables := (read_eq_ok_iff.mp read).2
  exact fitsIn_of_readTable tables.strings _ stored text rfl

end Image

end DexMembers
