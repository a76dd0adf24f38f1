import DexMembers.Proofs.Binary.Number
import DexMembers.Proofs.Image.ReadBack

/-!
# Regions of an image

A region is a section with the position at which it stops.  Regions that fill a stretch follow one
another without gaps, whichever of them are empty; so those that are not lie apart and in order.
-/

set_option autoImplicit false

namespace DexMembers

open Binary (Cursor numberAt?)
open Layout (Section)

structure Region extends Section where
  stop : Nat

namespace Region

def stored (regions : List Region) : List Region :=
  regions.filter fun region => region.size ≠ 0

def placed (code size offset length : Nat) : Region :=
  { Section.place code size offset with stop := (Section.place code size offset).offset + length }

def table (code width : Nat) (size offset : UInt32) : Region where
  code := code
  size := size.toNat
  offset := offset.toNat
  stop := offset.toNat + width * size.toNat

/-- The regions fill the stretch between two positions: each starts where the one before it stops,
and an empty one has the offset zero and takes no room. -/
inductive Fill : Nat → List Region → Nat → Prop
  | none (position : Nat) : Fill position [] position
  | empty {position last : Nat} {region : Region} {regions : List Region}
      (size : region.size = 0) (offset : region.offset = 0) (rest : Fill position regions last) :
      Fill position (region :: regions) last
  | next {position last : Nat} {region : Region} {regions : List Region}
      (size : region.size ≠ 0) (offset : region.offset = position) (room : position < region.stop)
      (rest : Fill region.stop regions last) :
      Fill position (region :: regions) last

/-- The regions lie inside a content of the given length, each behind those in front of it. -/
structure Apart (length : Nat) (regions : List Region) : Prop where
  inside : ∀ region ∈ regions, region.offset < region.stop ∧ region.stop ≤ length
  ordered : regions.Pairwise fun front behind => front.stop ≤ behind.offset

variable {first middle last : Nat} {regions others : List Region}

theorem Apart.increasing {length : Nat} (apart : Apart length regions) :
    regions.Pairwise fun front behind => front.offset < behind.offset := by
  refine apart.ordered.imp_of_mem fun {front behind} member _ clear => ?_
  exact Nat.lt_of_lt_of_le (apart.inside front member).1 clear

@[simp] theorem stored_nil : stored [] = [] := rfl

theorem stored_cons_of_empty {region : Region} (size : region.size = 0) :
    stored (region :: regions) = stored regions :=
  List.filter_cons_of_neg (by simp [size])

theorem stored_cons_of_size {region : Region} (size : region.size ≠ 0) :
    stored (region :: regions) = region :: stored regions :=
  List.filter_cons_of_pos (by simp [size])

theorem stored_append (regions others : List Region) :
    stored (regions ++ others) = stored regions ++ stored others :=
  List.filter_append regions others

@[simp] theorem code_placed (code size offset length : Nat) :
    (placed code size offset length).code = code := by
  rw [placed, Section.place]
  split <;> rfl

@[simp] theorem size_placed (code size offset length : Nat) :
    (placed code size offset length).size = size := by
  rw [placed, Section.place]
  split
  · rename_i none
    exact none.symm
  · rfl

theorem offset_place {size : Nat} (some : size ≠ 0) (code offset : Nat) :
    (Section.place code size offset).offset = offset := by
  rw [Section.place, if_neg some]

theorem offset_placed {size : Nat} (some : size ≠ 0) (code offset length : Nat) :
    (placed code size offset length).offset = offset :=
  offset_place some code offset

theorem stop_placed {size : Nat} (some : size ≠ 0) (code offset length : Nat) :
    (placed code size offset length).stop = offset + length :=
  congrArg (· + length) (offset_place some code offset)

namespace Fill

theorem le (fills : Fill first regions last) : first ≤ last := by
  induction fills with
  | none => exact Nat.le_refl _
  | empty _ _ _ ih => exact ih
  | next _ _ room _ ih => exact Nat.le_of_lt (Nat.lt_of_lt_of_le room ih)

theorem append (fills : Fill first regions middle) (more : Fill middle others last) :
    Fill first (regions ++ others) last := by
  induction fills with
  | none => exact more
  | empty size offset _ ih => exact .empty size offset (ih more)
  | next size offset room _ ih => exact .next size offset room (ih more)

theorem within (fills : Fill first regions last) :
    ∀ region ∈ stored regions,
      first ≤ region.offset ∧ region.offset < region.stop ∧ region.stop ≤ last := by
  induction fills with
  | none =>
      intro region member
      cases member
  | empty size _ _ ih =>
      rw [stored_cons_of_empty size]
      exact ih
  | next size offset room rest ih =>
      rw [stored_cons_of_size size, List.forall_mem_cons]
      refine ⟨⟨Nat.le_of_eq offset.symm, offset ▸ room, rest.le⟩, fun region member => ?_⟩
      obtain ⟨behind, long, inside⟩ := ih region member
      exact ⟨by omega, long, inside⟩

theorem apart (fills : Fill first regions last) :
    (stored regions).Pairwise fun front behind => front.stop ≤ behind.offset := by
  induction fills with
  | none => exact .nil
  | empty size _ _ ih =>
      rw [stored_cons_of_empty size]
      exact ih
  | next size _ _ rest ih =>
      rw [stored_cons_of_size size]
      exact .cons (fun region member => (rest.within region member).1) ih

/-- A region takes its length, which is none just when it is empty. -/
theorem placed {code size length : Nat} (sized : size = 0 ↔ length = 0)
    (rest : Fill (first + length) regions last) :
    Fill first (.placed code size first length :: regions) last := by
  by_cases none : size = 0
  · have nowhere : Section.place code size first = ⟨code, 0, 0⟩ := if_pos none
    rw [sized.mp none, Nat.add_zero] at rest
    rw [Region.placed, nowhere]
    exact .empty rfl rfl rest
  · have somewhere : Section.place code size first = ⟨code, size, first⟩ := if_neg none
    rw [Region.placed, somewhere]
    exact .next none rfl (by dsimp only; omega) rest

end Fill

theorem table_place {code size offset width : Nat} (few : size < 4294967296)
    (low : offset < 4294967296) :
    table code width (.ofNat (Section.place code size offset).size)
      (.ofNat (Section.place code size offset).offset) =
        placed code size offset (width * size) := by
  rw [table, placed, Section.place]
  split
  · rename_i none
    rw [none]
    rfl
  · rw [Image.toNat_ofNat few, Image.toNat_ofNat low]

end Region

/-! ### The map -/

namespace Layout

structure Section.ListedAt (content : List UInt8) (position : Nat) (entry : Section) : Prop where
  code : numberAt? 2 content position = some entry.code
  unused : numberAt? 2 content (position + 2) = some 0
  size : numberAt? 4 content (position + 4) = some entry.size
  offset : numberAt? 4 content (position + 8) = some entry.offset

structure MapListedAt (content : List UInt8) (offset : Nat) (entries : List Section) : Prop where
  count : numberAt? 4 content offset = some entries.length
  entries : ∀ i (inside : i < entries.length),
    entries[i].ListedAt content (offset + 4 + 12 * i)

/-- The map at the offset, a multiple of four, lists the regions by increasing offsets and ends the
content. -/
structure MapsRegions (content : List UInt8) (offset : Nat) (regions : List Region) : Prop where
  aligned : offset % 4 = 0
  listed : MapListedAt content offset (regions.map Region.toSection)
  increasing : regions.Pairwise fun front behind => front.offset < behind.offset
  ends : offset + 4 + 12 * regions.length = content.length

variable {bytes : Array UInt8} {position : Nat}

structure Section.Fits (entry : Section) : Prop where
  code : entry.code < 65536
  size : entry.size < 4294967296
  offset : entry.offset < 4294967296

theorem Section.length_bytes (entry : Section) : entry.bytes.length = 12 := rfl

theorem Section.listedAt_of_holds {entry : Section} (fits : entry.Fits)
    (holds : (Cursor.mk bytes position).Holds entry.bytes) :
    entry.ListedAt bytes.toList position := by
  rw [Section.bytes, List.append_assoc, List.append_assoc] at holds
  have unused := holds.next (Binary.length_u16Bytes _)
  have size := unused.next (Binary.length_u16Bytes _)
  have offset := size.next (Binary.length_u32Bytes _)
  exact
    { code := Cursor.numberAt?_of_u16 fits.code holds.left
      unused := Cursor.numberAt?_of_u16 (by decide) unused.left
      size := Cursor.numberAt?_of_u32 fits.size size.left
      offset := Cursor.numberAt?_of_u32 fits.offset offset }

theorem length_mapBytes (entries : List Section) :
    (mapBytes entries).length = 4 + 12 * entries.length := by
  rw [mapBytes, List.length_append, Binary.length_u32Bytes,
    Binary.length_flatMap_of_width Section.bytes Section.length_bytes]

theorem mapListedAt_of_holds {entries : List Section} (few : entries.length < 4294967296)
    (fits : ∀ entry ∈ entries, entry.Fits)
    (holds : (Cursor.mk bytes position).Holds (mapBytes entries)) :
    MapListedAt bytes.toList position entries := by
  have behind := holds.next (Binary.length_u32Bytes _)
  refine ⟨Cursor.numberAt?_of_u32 few holds.left, fun i inside => ?_⟩
  exact Section.listedAt_of_holds (fits _ (List.getElem_mem inside))
    (Cursor.holds_part_of_width Section.length_bytes behind i inside)

end Layout

end DexMembers
