import DexMembers.Image.Layout
import DexMembers.Proofs.Image.Header
import DexMembers.Proofs.Image.Item

/-!
# Where the parts of a built image stand

The offsets that the layout gives are the positions at which the bytes of the parts stand.  The
sections follow one another, so each position is the sum of the lengths in front of it.
-/

set_option autoImplicit false

namespace DexMembers

open Binary (Cursor)

namespace Layout

variable {bytes : Array UInt8}

@[simp] theorem length_zeros (count : Nat) : (zeros count).length = count :=
  List.length_replicate

theorem length_placeTypeLists (position : Nat) (lists : List (List Nat)) :
    (placeTypeLists position lists).1.length = lists.length := by
  induction lists generalizing position with
  | nil => rfl
  | cons types rest ih =>
      rw [placeTypeLists]
      split
      · simp [ih]
      · simp [ih]

theorem placeTypeLists_stand (position : Nat) (positive : 0 < position) (lists : List (List Nat))
    (holds : (Cursor.mk bytes position).Holds (placeTypeLists position lists).2) :
    ∀ pair ∈ lists.zip (placeTypeLists position lists).1, TypeList.StandsAt bytes pair.1 pair.2 := by
  induction lists generalizing position with
  | nil =>
      intro pair member
      cases member
  | cons types rest ih =>
      intro pair member
      rw [placeTypeLists] at holds member
      split at member
      · rename_i empty
        rw [if_pos empty] at holds
        simp only [List.zip_cons_cons, List.mem_cons] at member
        rcases member with rfl | later
        · exact (if_pos empty).mpr rfl
        · exact ih position positive holds pair later
      · rename_i nonempty
        rw [if_neg nonempty] at holds
        simp only [List.zip_cons_cons, List.mem_cons] at member
        have start := holds.left.next (length_zeros _)
        rcases member with rfl | later
        · exact (if_neg nonempty).mpr ⟨by omega, start⟩
        · have others := holds.next (List.length_append.trans (by rw [length_zeros]))
          rw [← Nat.add_assoc] at others
          exact ih _ (by omega) others pair later

theorem length_placeStrings (position : Nat) (strings : List String) :
    (placeStrings position strings).1.length = strings.length := by
  induction strings generalizing position with
  | nil => rfl
  | cons text rest ih => simp [placeStrings, ih]

theorem placeStrings_stand (position : Nat) (strings : List String)
    (holds : (Cursor.mk bytes position).Holds (placeStrings position strings).2) :
    ∀ pair ∈ strings.zip (placeStrings position strings).1,
      (Cursor.mk bytes pair.2).Holds (StringData.decoded pair.1).bytes := by
  induction strings generalizing position with
  | nil =>
      intro pair member
      cases member
  | cons text rest ih =>
      intro pair member
      rw [placeStrings] at holds member
      simp only [List.zip_cons_cons, List.mem_cons] at member
      rcases member with rfl | later
      · exact holds.left
      · exact ih _ holds.right pair later

end Layout

/-! ### The sections -/

namespace Draft

def placedPrototypes (draft : Draft) : List (Prototype × Nat) :=
  draft.prototypes.entries.toList.zip draft.layout.parameterOffsets

def placedStrings (draft : Draft) : List (String × Nat) :=
  draft.strings.entries.toList.zip draft.layout.stringOffsets

def stringIdBytes (draft : Draft) : List UInt8 :=
  draft.placedStrings.flatMap fun pair => Binary.u32Bytes pair.2

def typeIdBytes (draft : Draft) : List UInt8 :=
  draft.types.entries.toList.flatMap Binary.u32Bytes

def protoIdBytes (draft : Draft) : List UInt8 :=
  draft.placedPrototypes.flatMap fun pair => pair.1.bytes pair.2

def fieldIdBytes (draft : Draft) : List UInt8 :=
  draft.fields.toList.flatMap FieldId.bytes

def methodIdBytes (draft : Draft) : List UInt8 :=
  draft.methods.toList.flatMap MethodId.bytes

def listBytes (draft : Draft) : List UInt8 :=
  (Layout.placeTypeLists draft.layout.dataOffset
    (draft.prototypes.entries.toList.map Prototype.parameters)).2

def textBytes (draft : Draft) : List UInt8 :=
  (Layout.placeStrings (draft.layout.dataOffset + draft.listBytes.length)
    draft.strings.entries.toList).2

def header (draft : Draft) : Header :=
  let body := draft.tableBytes draft.layout ++ draft.layout.dataBytes
  sign (unsignedHeader draft.layout (Header.byteLength + body.length)
    draft.layout.dataBytes.length) body

theorem layout_parameterOffsets (draft : Draft) :
    draft.layout.parameterOffsets =
      (Layout.placeTypeLists draft.layout.dataOffset
        (draft.prototypes.entries.toList.map Prototype.parameters)).1 := rfl

theorem length_parameterOffsets (draft : Draft) :
    draft.layout.parameterOffsets.length = draft.prototypes.entries.toList.length := by
  rw [layout_parameterOffsets, Layout.length_placeTypeLists, List.length_map]

theorem length_stringOffsets (draft : Draft) :
    draft.layout.stringOffsets.length = draft.strings.entries.toList.length :=
  Layout.length_placeStrings _ _

theorem flatMap_stringOffsets (draft : Draft) :
    draft.layout.stringOffsets.flatMap Binary.u32Bytes = draft.stringIdBytes := by
  have offsets : draft.placedStrings.map Prod.snd = draft.layout.stringOffsets :=
    List.map_snd_zip (Nat.le_of_eq draft.length_stringOffsets)
  rw [← offsets, List.flatMap_map, stringIdBytes]

theorem bytes_eq (draft : Draft) : ∃ rest : List UInt8,
    draft.bytes = draft.header.bytes ++ (draft.stringIdBytes ++ (draft.typeIdBytes ++
      (draft.protoIdBytes ++ (draft.fieldIdBytes ++ (draft.methodIdBytes ++
        (draft.listBytes ++ (draft.textBytes ++ rest))))))) := by
  have shape : draft.bytes =
      draft.header.bytes ++ (draft.tableBytes draft.layout ++ draft.layout.dataBytes) := rfl
  have data : ∃ gap, draft.layout.data = draft.listBytes ++ draft.textBytes ++ gap := ⟨_, rfl⟩
  obtain ⟨gap, data⟩ := data
  refine ⟨gap ++ Layout.mapBytes draft.layout.sections, ?_⟩
  rw [shape, tableBytes, Layout.dataBytes, data, flatMap_stringOffsets]
  simp only [List.append_assoc]
  rfl

/-- The indices of a draft's tables do not show in its image. -/
theorem bytes_congr {draft other : Draft} (strings : draft.strings.entries = other.strings.entries)
    (types : draft.types.entries = other.types.entries)
    (prototypes : draft.prototypes.entries = other.prototypes.entries)
    (fields : draft.fields = other.fields) (methods : draft.methods = other.methods) :
    draft.bytes = other.bytes := by
  obtain ⟨⟨draftStrings, _⟩, ⟨draftTypes, _⟩, ⟨draftPrototypes, _⟩, draftFields, draftMethods⟩ := draft
  obtain ⟨⟨otherStrings, _⟩, ⟨otherTypes, _⟩, ⟨otherPrototypes, _⟩, otherFields, otherMethods⟩ := other
  subst strings types prototypes fields methods
  rfl

theorem length_bytes (draft : Draft) : draft.bytes.length =
    Header.byteLength + (draft.tableBytes draft.layout ++ draft.layout.dataBytes).length := by
  have shape : draft.bytes =
      draft.header.bytes ++ (draft.tableBytes draft.layout ++ draft.layout.dataBytes) := rfl
  rw [shape, List.length_append, Header.length_bytes]

theorem length_placedStrings (draft : Draft) :
    draft.placedStrings.length = draft.strings.entries.size := by
  rw [placedStrings, List.length_zip, length_stringOffsets, Nat.min_self, Array.length_toList]

theorem length_placedPrototypes (draft : Draft) :
    draft.placedPrototypes.length = draft.prototypes.entries.size := by
  rw [placedPrototypes, List.length_zip, length_parameterOffsets, Nat.min_self, Array.length_toList]

theorem dataOffset_layout (draft : Draft) :
    draft.layout.dataOffset = Header.byteLength + 4 * draft.strings.entries.size +
      4 * draft.types.entries.size + 12 * draft.prototypes.entries.size + 8 * draft.fields.size +
      8 * draft.methods.size := rfl

theorem length_stringIdBytes (draft : Draft) :
    draft.stringIdBytes.length = 4 * draft.strings.entries.size := by
  rw [stringIdBytes, Binary.length_flatMap_of_width _ (fun _ => Binary.length_u32Bytes _),
    length_placedStrings]

theorem length_typeIdBytes (draft : Draft) :
    draft.typeIdBytes.length = 4 * draft.types.entries.size := by
  rw [typeIdBytes, Binary.length_flatMap_of_width _ Binary.length_u32Bytes, Array.length_toList]

theorem length_protoIdBytes (draft : Draft) :
    draft.protoIdBytes.length = 12 * draft.prototypes.entries.size := by
  have width : ∀ pair : Prototype × Nat, (pair.1.bytes pair.2).length = 12 := fun _ => rfl
  rw [protoIdBytes, Binary.length_flatMap_of_width _ width, length_placedPrototypes]

theorem length_fieldIdBytes (draft : Draft) : draft.fieldIdBytes.length = 8 * draft.fields.size := by
  have width : ∀ field : FieldId, field.bytes.length = 8 := fun _ => rfl
  rw [fieldIdBytes, Binary.length_flatMap_of_width _ width, Array.length_toList]

theorem length_methodIdBytes (draft : Draft) :
    draft.methodIdBytes.length = 8 * draft.methods.size := by
  have width : ∀ method : MethodId, method.bytes.length = 8 := fun _ => rfl
  rw [methodIdBytes, Binary.length_flatMap_of_width _ width, Array.length_toList]

structure StandsIn (draft : Draft) (bytes : Array UInt8) : Prop where
  stringIds : (Cursor.mk bytes Header.byteLength).Holds draft.stringIdBytes
  typeIds : (Cursor.mk bytes (Header.byteLength + 4 * draft.strings.entries.size)).Holds
    draft.typeIdBytes
  protoIds : (Cursor.mk bytes (Header.byteLength + 4 * draft.strings.entries.size +
    4 * draft.types.entries.size)).Holds draft.protoIdBytes
  fieldIds : (Cursor.mk bytes (Header.byteLength + 4 * draft.strings.entries.size +
    4 * draft.types.entries.size + 12 * draft.prototypes.entries.size)).Holds draft.fieldIdBytes
  methodIds : (Cursor.mk bytes (Header.byteLength + 4 * draft.strings.entries.size +
    4 * draft.types.entries.size + 12 * draft.prototypes.entries.size +
    8 * draft.fields.size)).Holds draft.methodIdBytes
  parameters : ∀ pair ∈ draft.placedPrototypes,
    TypeList.StandsAt bytes pair.1.parameters pair.2
  strings : ∀ pair ∈ draft.placedStrings,
    (Cursor.mk bytes pair.2).Holds (StringData.decoded pair.1).bytes

theorem mem_zip_map {α β γ : Type} {f : α → β} {items : List α} {others : List γ} {pair : α × γ}
    (member : pair ∈ items.zip others) : (f pair.1, pair.2) ∈ (items.map f).zip others := by
  rw [List.zip_map_left]
  exact List.mem_map.mpr ⟨pair, member, rfl⟩

theorem standsIn_bytes (draft : Draft) (numbered : draft.bytes.length < Cursor.positionLimit) :
    draft.StandsIn draft.bytes.toArray := by
  obtain ⟨rest, shape⟩ := draft.bytes_eq
  have whole : (Cursor.mk draft.bytes.toArray 0).Holds draft.bytes :=
    ⟨numbered, List.prefix_refl _⟩
  generalize draft.bytes.toArray = bytes at whole ⊢
  rw [shape] at whole
  have strings := whole.next draft.header.length_bytes
  rw [Nat.zero_add] at strings
  have types := strings.next draft.length_stringIdBytes
  have prototypes := types.next draft.length_typeIdBytes
  have fields := prototypes.next draft.length_protoIdBytes
  have methods := fields.next draft.length_fieldIdBytes
  have lists := methods.next draft.length_methodIdBytes
  have texts := lists.next rfl
  have positive : 0 < draft.layout.dataOffset := by
    rw [dataOffset_layout, Header.byteLength]
    omega
  exact
    { stringIds := strings.left
      typeIds := types.left
      protoIds := prototypes.left
      fieldIds := fields.left
      methodIds := methods.left
      parameters := fun pair member =>
        Layout.placeTypeLists_stand draft.layout.dataOffset positive _ lists.left _
          (mem_zip_map member)
      strings := Layout.placeStrings_stand _ _ texts.left }

theorem tables_le (draft : Draft) :
    Header.byteLength + 4 * draft.strings.entries.size + 4 * draft.types.entries.size +
      12 * draft.prototypes.entries.size + 8 * draft.fields.size + 8 * draft.methods.size ≤
        draft.bytes.length := by
  obtain ⟨rest, shape⟩ := draft.bytes_eq
  have length := congrArg List.length shape
  simp only [List.length_append, Header.length_bytes, length_stringIdBytes, length_typeIdBytes,
    length_protoIdBytes, length_fieldIdBytes, length_methodIdBytes] at length
  omega

end Draft

end DexMembers
