import DexMembers.Proofs.Binary.Extension
import DexMembers.Proofs.Image.Header
import DexMembers.Proofs.Image.ReaderSteps

/-!
# Images with bytes behind them

What the reader finds in the bytes of an image it finds in any longer bytes, for every reference
was followed inside of the image.  So an image that is cut short is either refused or complete.
-/

set_option autoImplicit false

namespace DexMembers

open Binary (Cursor)
open Binary.Cursor (Stable seek_extend extend_mk)

theorem stable_ofRead {α : Type} {read : Cursor → Except Binary.ReadFailure (α × Cursor)}
    (stable : Stable read) : Stable fun c => ImageError.ofRead (read c) :=
  stable.mapError _

theorem StringData.stable_read : Stable StringData.read := by
  rw [funext StringData.read_eq_bind]
  apply Cursor.stable_uleb128.bind
  intro units
  dsimp only
  apply Cursor.stable_untilZero.bind
  intro content
  dsimp only
  cases Text.ofModifiedUtf8? content <;> exact Cursor.stable_ok _

/-- The longer the buffer, the longer a list may claim to be. -/
theorem TypeList.stable_read : Stable TypeList.read := by
  rw [funext TypeList.read_eq_bind]
  apply (stable_ofRead Cursor.stable_u4).bind
  intro size c value next done more
  dsimp only at done ⊢
  split at done
  · cases done
  · rename_i fits
    have longer : ¬ (c.extend more).bytes.size / 2 < size := by
      rw [Cursor.size_extend]
      omega
    have entries := stable_ofRead (Cursor.stable_many (fun _ => Cursor.stable_u2) size)
    rw [if_neg longer]
    exact entries.bind (fun types => Cursor.stable_ok types.toList) c value next done more

theorem Prototype.stable_read : Stable Prototype.read := by
  unfold Prototype.read
  apply (stable_ofRead Cursor.stable_u4).bind
  intro shorty
  apply (stable_ofRead Cursor.stable_u4).bind
  intro returnType
  apply (stable_ofRead Cursor.stable_u4).bind
  intro offset
  by_cases none : offset = 0
  · simp only [none, if_true]
    exact Cursor.stable_ok _
  · simp only [none, if_false]
    exact TypeList.stable_read.aside offset _

theorem stable_readIdTriple : Stable readIdTriple := by
  unfold readIdTriple
  apply Cursor.stable_u2.bind
  intro first
  apply Cursor.stable_u2.bind
  intro second
  apply Cursor.stable_u4.bind
  intro third
  exact Cursor.stable_ok (first, second, third)

theorem FieldId.stable_read : Stable FieldId.read :=
  stable_readIdTriple.map fun _ _ => rfl

theorem MethodId.stable_read : Stable MethodId.read :=
  stable_readIdTriple.map fun _ _ => rfl

theorem isDex_append {content : List UInt8} (dex : isDex content = true) (more : List UInt8) :
    isDex (content ++ more) = true := by
  rw [isDex_iff] at dex ⊢
  exact dex.trans (List.prefix_append _ _)

namespace Header

theorem take_drop_append_of_le {bytes : List UInt8} {start length : Nat}
    (inside : start + length ≤ bytes.length) (more : List UInt8) :
    ((bytes ++ more).drop start).take length = (bytes.drop start).take length := by
  rw [List.drop_append_of_le_length (by omega),
    List.take_append_of_le_length (by rw [List.length_drop]; omega)]

theorem wordAt_append_of_le {bytes : List UInt8} {offset : Nat} (inside : offset + 4 ≤ bytes.length)
    (more : List UInt8) : wordAt (bytes ++ more) offset = wordAt bytes offset := by
  rw [wordAt, wordAt, take_drop_append_of_le inside]

theorem ofBytes_append {bytes : List UInt8} (long : byteLength ≤ bytes.length) (more : List UInt8)
    (longer : byteLength ≤ (bytes ++ more).length) :
    ofBytes (bytes ++ more) longer = ofBytes bytes long := by
  have size : 112 ≤ bytes.length := long
  have magic : (bytes ++ more).take 8 = bytes.take 8 := List.take_append_of_le_length (by omega)
  simp (disch := omega) only [ofBytes, wordAt_append_of_le, take_drop_append_of_le, magic]

theorem read_append {bytes : List UInt8} {header : Header} (read : Header.read bytes = .ok header)
    (more : List UInt8) : Header.read (bytes ++ more) = .ok header := by
  obtain ⟨long, magic, tag, rfl⟩ := read_eq_ok_iff.mp read
  have longer : byteLength ≤ (bytes ++ more).length := by
    rw [List.length_append]
    omega
  exact read_eq_ok_iff.mpr ⟨longer, magic.trans (List.prefix_append _ _), tag,
    (ofBytes_append long more longer).symm⟩

end Header

namespace Image

theorem stable_readString (index : Nat) : Stable (readString index) := by
  intro c value next done more
  rw [readString_eq_bind] at done ⊢
  obtain ⟨⟨offset, behind⟩, place, done⟩ := eq_ok_of_bind_eq_ok done
  obtain ⟨⟨text, elsewhere⟩, content, done⟩ := eq_ok_of_bind_eq_ok done
  cases done
  have offsetStands := stable_ofRead Cursor.stable_u4 c _ _ place more
  have textStands := (stable_ofRead StringData.stable_read).mapError _ _ _ _ content more
  rw [seek_extend] at textStands
  dsimp only at offsetStands textStands
  rw [offsetStands, Except.ok_bind, textStands]
  rfl

theorem stable_readType (strings index : Nat) : Stable (readType strings index) := by
  rw [funext (readType_eq_bind strings index)]
  apply (stable_ofRead Cursor.stable_u4).bind
  intro text
  by_cases known : text < strings
  · simp only [known, if_true]
    exact Cursor.stable_ok text
  · simp only [known, if_false]
    exact Cursor.stable_error _

theorem stable_readPrototype (index : Nat) : Stable (readPrototype index) :=
  Prototype.stable_read.mapError _

section Table

variable {α : Type} {next : Nat → Cursor → Except ImageError (α × Cursor)} {bytes : Array UInt8}
  {size offset : UInt32} {table : Array α}

theorem readTable_append (each : ∀ index, Stable (next index))
    (read : readTable next bytes size offset = .ok table) (more : Array UInt8) :
    readTable next (bytes ++ more) size offset = .ok table := by
  obtain ⟨⟨values, behind⟩, entries, rfl⟩ := eq_ok_of_map_eq_ok read
  rw [readTable, ← extend_mk, Cursor.stable_many each size.toNat _ _ _ entries more]
  rfl

end Table

theorem ReadFrom.append {image : Image} {bytes : Array UInt8} (tables : image.ReadFrom bytes)
    (more : Array UInt8) : image.ReadFrom (bytes ++ more) where
  strings := readTable_append stable_readString tables.strings more
  types := readTable_append (stable_readType _) tables.types more
  prototypes := readTable_append stable_readPrototype tables.prototypes more
  fields := readTable_append (fun _ => stable_ofRead FieldId.stable_read) tables.fields more
  methods := readTable_append (fun _ => stable_ofRead MethodId.stable_read) tables.methods more

/-- More bytes behind an image do not change what is read. -/
theorem read_append {content : List UInt8} {image : Image} (read : Image.read content = .ok image)
    (more : List UInt8) : Image.read (content ++ more) = .ok image := by
  rw [read_eq_ok_iff] at read ⊢
  obtain ⟨headerRead, tables⟩ := read
  rw [← List.append_toArray]
  exact ⟨Header.read_append headerRead more, tables.append more.toArray⟩

end Image

end DexMembers
