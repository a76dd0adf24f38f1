import DexMembers.Proofs.Image.Placement
import DexMembers.Proofs.Image.Region
import DexMembers.Proofs.Image.Signature

/-!
# The layout of a built image

The offsets of a layout are computed before anything is written.  In the bytes of an image the id
tables, the type lists and the strings fill the stretch behind the header, the map follows at the
next multiple of four and ends the image, and the header and the map state where all of them are.
-/

set_option autoImplicit false

namespace DexMembers

open Binary (Cursor numberAt?)
open Layout (Section)

def Header.idTables (h : Header) : List Region :=
  [.table 0x0001 4 h.stringIdsSize h.stringIdsOffset, .table 0x0002 4 h.typeIdsSize h.typeIdsOffset,
    .table 0x0003 12 h.protoIdsSize h.protoIdsOffset, .table 0x0004 8 h.fieldIdsSize h.fieldIdsOffset,
    .table 0x0005 8 h.methodIdsSize h.methodIdsOffset]

def Region.header : Region where
  code := 0x0000
  size := 1
  offset := 0
  stop := Header.byteLength

def Region.mapList (offset stop : Nat) : Region where
  code := 0x1000
  size := 1
  offset := offset
  stop := stop

def Header.regions (h : Header) (lists texts : Region) : List Region :=
  [.header] ++ h.idTables ++ [lists, texts] ++ [.mapList h.mapOffset.toNat h.fileSize.toNat]

namespace Draft

/-- The region holds the type lists: the id of each prototype states where its parameters are, at a
multiple of four in the region, or zero when there are none, and some of them are at the start. -/
structure ListsIn (draft : Draft) (content : List UInt8) (header : Header) (region : Region) :
    Prop where
  code : region.code = 0x1001
  size : region.size =
    (draft.prototypes.entries.toList.filter fun prototype => prototype.parameters ≠ []).length
  offsets : ∀ i (inside : i < draft.prototypes.entries.size), ∃ offset,
    numberAt? 4 content (header.protoIdsOffset.toNat + 12 * i + 8) = some offset ∧
    Layout.PlacedBetween region.offset region.stop draft.prototypes.entries[i].parameters offset ∧
    TypeList.StandsAt content.toArray draft.prototypes.entries[i].parameters offset
  first : region.size ≠ 0 → ∃ i < draft.prototypes.entries.size,
    numberAt? 4 content (header.protoIdsOffset.toNat + 12 * i + 8) = some region.offset

/-- The region holds the strings: each id states where its string is, the first at the start. -/
structure TextsIn (draft : Draft) (content : List UInt8) (header : Header) (region : Region) :
    Prop where
  code : region.code = 0x2002
  size : region.size = draft.strings.entries.size
  offsets : ∀ i (inside : i < draft.strings.entries.size), ∃ offset,
    numberAt? 4 content (header.stringIdsOffset.toNat + 4 * i) = some offset ∧
    region.offset ≤ offset ∧
    offset + (StringData.decoded draft.strings.entries[i]).bytes.length ≤ region.stop ∧
    (Cursor.mk content.toArray offset).Holds (StringData.decoded draft.strings.entries[i]).bytes
  first : region.size ≠ 0 →
    numberAt? 4 content header.stringIdsOffset.toNat = some region.offset

/-- The content is an image of the draft whose header and map state where each part is. -/
structure LaidOut (draft : Draft) (content : List UInt8) (header : Header)
    (lists texts : Region) : Prop where
  read : Header.read content = .ok header
  fileSize : header.fileSize.toNat = content.length
  dataSize : header.dataOffset.toNat + header.dataSize.toNat = content.length
  /-- The header counts the entries of each table. -/
  tableSizes : header.idTables.map (fun table => table.size) =
    [draft.strings.entries.size, draft.types.entries.size, draft.prototypes.entries.size,
      draft.fields.size, draft.methods.size]
  tables : Region.Fill Header.byteLength header.idTables header.dataOffset.toNat
  typeLists : draft.ListsIn content header lists
  stringData : draft.TextsIn content header texts
  apart : Region.Apart content.length (Region.stored (header.regions lists texts))
  map : Layout.MapsRegions content header.mapOffset.toNat
    (Region.stored (header.regions lists texts))
  signature : (content.drop 12).take 20 = (Checksum.sha1 (content.drop 32)).toList
  checksum : header.checksum = Checksum.adler32 (content.drop 12)
  /-- The reader does not complain about the checksum. -/
  accepted : ∀ stated computed,
    Event.checksumMismatch stated computed ∉ (Image.readTraced content).events
  /-- The tables end where the data was said to begin. -/
  tablesEnd : Header.byteLength + (draft.tableBytes draft.layout).length = header.dataOffset.toNat

/-! ### The regions of a draft -/

variable {draft : Draft}

def parameterLists (draft : Draft) : List (List Nat) :=
  draft.prototypes.entries.toList.map Prototype.parameters

def tables (draft : Draft) : List Region :=
  let strings := draft.strings.entries.size
  let types := draft.types.entries.size
  let prototypes := draft.prototypes.entries.size
  let typeIds := Header.byteLength + 4 * strings
  let protoIds := typeIds + 4 * types
  let fieldIds := protoIds + 12 * prototypes
  let methodIds := fieldIds + 8 * draft.fields.size
  [.placed 0x0001 strings Header.byteLength (4 * strings), .placed 0x0002 types typeIds (4 * types),
    .placed 0x0003 prototypes protoIds (12 * prototypes),
    .placed 0x0004 draft.fields.size fieldIds (8 * draft.fields.size),
    .placed 0x0005 draft.methods.size methodIds (8 * draft.methods.size)]

def listRegion (draft : Draft) : Region :=
  .placed 0x1001 (Layout.nonemptyLists draft.parameterLists).length draft.layout.dataOffset
    draft.listBytes.length

def textRegion (draft : Draft) : Region :=
  .placed 0x2002 draft.strings.entries.size (draft.layout.dataOffset + draft.listBytes.length)
    draft.textBytes.length

def textEnd (draft : Draft) : Nat :=
  draft.layout.dataOffset + draft.listBytes.length + draft.textBytes.length

theorem dataOffset_mod (draft : Draft) : draft.layout.dataOffset % 4 = 0 := by
  rw [dataOffset_layout, Header.byteLength]
  omega

theorem dataOffset_pos (draft : Draft) : 0 < draft.layout.dataOffset := by
  rw [dataOffset_layout, Header.byteLength]
  omega

theorem mapOffset_layout (draft : Draft) :
    draft.layout.mapOffset = draft.textEnd + Layout.gap draft.textEnd := rfl

theorem fill_tables (draft : Draft) :
    Region.Fill Header.byteLength draft.tables draft.layout.dataOffset := by
  rw [dataOffset_layout]
  refine .placed (by omega) (.placed (by omega) (.placed (by omega) (.placed (by omega) ?_)))
  exact .placed (by omega) (.none _)

theorem fill_data (draft : Draft) :
    Region.Fill draft.layout.dataOffset [draft.listRegion, draft.textRegion] draft.textEnd :=
  .placed (Layout.length_placeTypeLists_eq_zero _ _)
    (.placed (Layout.length_placeStrings_eq_zero _ _) (.none _))

theorem typeLists_layout (draft : Draft) :
    draft.layout.typeLists = .place 0x1001 (Layout.nonemptyLists draft.parameterLists).length
      draft.layout.dataOffset := by
  have count := Layout.length_filter_placeTypeLists draft.dataOffset_pos draft.parameterLists
  have shape : draft.layout.typeLists =
      let offsets := (Layout.placeTypeLists draft.layout.dataOffset draft.parameterLists).1
      .place 0x1001 (offsets.filter (· ≠ 0)).length ((offsets.filter (· ≠ 0)).headD 0) := rfl
  rw [shape]
  dsimp only
  rw [count]
  by_cases none : (Layout.nonemptyLists draft.parameterLists).length = 0
  · rw [Section.place, Section.place, if_pos none, if_pos none]
  · rw [Layout.headD_filter_placeTypeLists draft.dataOffset_pos draft.dataOffset_mod _ none]

/-! ### The bytes -/

theorem tableBytes_layout (draft : Draft) : draft.tableBytes draft.layout =
    draft.stringIdBytes ++ draft.typeIdBytes ++ draft.protoIdBytes ++ draft.fieldIdBytes ++
      draft.methodIdBytes := by
  rw [← flatMap_stringOffsets]
  rfl

theorem length_tableBytes (draft : Draft) :
    Header.byteLength + (draft.tableBytes draft.layout).length = draft.layout.dataOffset := by
  rw [tableBytes_layout, dataOffset_layout]
  simp only [List.length_append, length_stringIdBytes, length_typeIdBytes, length_protoIdBytes,
    length_fieldIdBytes, length_methodIdBytes, Nat.add_assoc]

def frontBytes (draft : Draft) : List UInt8 :=
  draft.header.bytes ++ (draft.tableBytes draft.layout ++ draft.layout.data)

theorem bytes_eq_front_append (draft : Draft) :
    draft.bytes = draft.frontBytes ++ Layout.mapBytes draft.layout.sections := by
  have shape : draft.bytes = draft.header.bytes ++ (draft.tableBytes draft.layout ++
      (draft.layout.data ++ Layout.mapBytes draft.layout.sections)) := rfl
  rw [shape, frontBytes]
  simp only [List.append_assoc]

theorem length_frontBytes (draft : Draft) : draft.frontBytes.length = draft.layout.mapOffset := by
  have tables := draft.length_tableBytes
  have data : draft.layout.data.length =
      draft.listBytes.length + draft.textBytes.length + Layout.gap draft.textEnd := by
    have shape : draft.layout.data =
        draft.listBytes ++ draft.textBytes ++ Layout.zeros (Layout.gap draft.textEnd) := rfl
    rw [shape, List.length_append, List.length_append, Layout.length_zeros]
  rw [frontBytes, List.length_append, List.length_append, Header.length_bytes, data,
    mapOffset_layout, textEnd]
  omega

theorem length_bytes_map (draft : Draft) :
    draft.layout.mapOffset + 4 + 12 * draft.layout.sections.length = draft.bytes.length := by
  rw [bytes_eq_front_append, List.length_append, length_frontBytes, Layout.length_mapBytes,
    Nat.add_assoc]

theorem length_dataBytes (draft : Draft) :
    draft.layout.dataOffset + draft.layout.dataBytes.length = draft.bytes.length := by
  have tables := draft.length_tableBytes
  rw [length_bytes, List.length_append]
  omega

/-! ### The header -/

theorem read_header (draft : Draft) : Header.read draft.bytes = .ok draft.header :=
  Header.read_bytes_append (h := draft.header) rfl rfl _

theorem toNat_stringIdsOffset (some : draft.strings.entries.size ≠ 0) :
    draft.header.stringIdsOffset.toNat = Header.byteLength := by
  have shape : draft.header.stringIdsOffset =
    .ofNat (Section.place 0x0001 draft.strings.entries.size Header.byteLength).offset := rfl
  rw [shape, Region.offset_place some]
  rfl

section Small

variable (small : draft.bytes.length < 4294967296)

include small

theorem toNat_fileSize : draft.header.fileSize.toNat = draft.bytes.length := by
  have shape : draft.header.fileSize = .ofNat (Header.byteLength +
      (draft.tableBytes draft.layout ++ draft.layout.dataBytes).length) := rfl
  rw [shape, ← length_bytes, Image.toNat_ofNat small]

theorem toNat_mapOffset : draft.header.mapOffset.toNat = draft.layout.mapOffset := by
  have length := draft.length_bytes_map
  exact Image.toNat_ofNat (by omega)

theorem toNat_dataOffset : draft.header.dataOffset.toNat = draft.layout.dataOffset := by
  have length := draft.length_dataBytes
  exact Image.toNat_ofNat (by omega)

theorem toNat_dataSize : draft.header.dataSize.toNat = draft.layout.dataBytes.length := by
  have length := draft.length_dataBytes
  exact Image.toNat_ofNat (by omega)

theorem idTables_header : draft.header.idTables = draft.tables := by
  have room := draft.tables_le
  have start : Header.byteLength = 112 := rfl
  have strings : draft.strings.entries.toList.length = draft.strings.entries.size := rfl
  have prototypes : draft.prototypes.entries.toList.length = draft.prototypes.entries.size := rfl
  refine congrArg₂ List.cons ?_ (congrArg₂ List.cons ?_ (congrArg₂ List.cons ?_
    (congrArg₂ List.cons ?_ (congrArg₂ List.cons ?_ rfl))))
  all_goals exact Region.table_place (by omega) (by omega)

theorem regions_header :
    draft.header.regions draft.listRegion draft.textRegion =
      [.header] ++ draft.tables ++ [draft.listRegion, draft.textRegion] ++
        [.mapList draft.layout.mapOffset draft.bytes.length] := by
  rw [Header.regions, idTables_header small, toNat_mapOffset small, toNat_fileSize small]

theorem sections_layout : draft.layout.sections =
    (Region.stored (draft.header.regions draft.listRegion draft.textRegion)).map
      Region.toSection := by
  have filtered := List.filter_map (p := fun entry : Section => decide (entry.size ≠ 0))
    (f := Region.toSection) (l := draft.header.regions draft.listRegion draft.textRegion)
  rw [Region.stored]
  refine Eq.trans ?_ filtered
  rw [regions_header small, Layout.sections, typeLists_layout]
  rfl

theorem apart_regions : Region.Apart draft.bytes.length
    (Region.stored (draft.header.regions draft.listRegion draft.textRegion)) := by
  have length := draft.length_bytes_map
  have behind : draft.textEnd ≤ draft.layout.mapOffset := Nat.le_add_right _ _
  have first : Region.Fill 0 [.header] Header.byteLength :=
    .next Nat.one_ne_zero rfl (by decide) (.none _)
  -- up to the end of the strings nothing is left free; only the map may stand behind a gap
  have front := (first.append draft.fill_tables).append draft.fill_data
  have within := front.within
  rw [regions_header small, Region.stored_append]
  refine ⟨?inside, ?ordered⟩
  case inside =>
    rw [List.forall_mem_append]
    refine ⟨fun region member => ?_, fun region only => ?_⟩
    · obtain ⟨_, long, before⟩ := within region member
      exact ⟨long, by omega⟩
    · obtain rfl := List.mem_singleton.mp only
      exact ⟨by dsimp only [Region.mapList]; omega, Nat.le_refl _⟩
  case ordered =>
    rw [List.pairwise_append]
    refine ⟨front.apart, List.pairwise_singleton _ _, fun region member map only => ?_⟩
    obtain ⟨_, _, before⟩ := within region member
    obtain rfl := List.mem_singleton.mp only
    exact Nat.le_trans before behind

theorem small_regions : ∀ region ∈ draft.header.regions draft.listRegion draft.textRegion,
    region.code < 65536 ∧ region.size < 4294967296 := by
  have room := draft.tables_le
  have lists : (Layout.nonemptyLists draft.parameterLists).length ≤
      draft.prototypes.entries.size := by
    have fewer := List.length_filter_le (· ≠ []) draft.parameterLists
    rw [parameterLists, List.length_map] at fewer
    exact fewer
  rw [regions_header small]
  simp only [tables, listRegion, textRegion, Region.header, Region.mapList, List.cons_append,
    List.nil_append, List.forall_mem_cons, Region.code_placed, Region.size_placed]
  refine ⟨?_, ?_, ?_, ?_, ?_, ?_, ?_, ?_, ?_, fun region member => absurd member List.not_mem_nil⟩
  all_goals omega

theorem fits_sections : ∀ entry ∈ draft.layout.sections, entry.Fits := by
  rw [sections_layout small, List.forall_mem_map]
  intro region member
  obtain ⟨code, size⟩ := small_regions small region (List.mem_filter.mp member).1
  obtain ⟨long, inside⟩ := (apart_regions small).inside region member
  exact ⟨code, size, by omega⟩

theorem mapListedAt_bytes :
    Layout.MapListedAt draft.bytes draft.layout.mapOffset draft.layout.sections := by
  have length := draft.length_bytes_map
  have whole : (Cursor.mk draft.bytes.toArray 0).Holds
      (draft.frontBytes ++ Layout.mapBytes draft.layout.sections) := by
    rw [← bytes_eq_front_append]
    exact ⟨Nat.lt_trans small (by decide), List.prefix_refl _⟩
  have behind := whole.next draft.length_frontBytes
  rw [Nat.zero_add] at behind
  exact Layout.mapListedAt_of_holds (by omega) (fits_sections small) behind

theorem mapsRegions_bytes : Layout.MapsRegions draft.bytes draft.header.mapOffset.toNat
    (Region.stored (draft.header.regions draft.listRegion draft.textRegion)) := by
  have listed := mapListedAt_bytes small
  have length := draft.length_bytes_map
  have sections := sections_layout small
  rw [sections] at listed length
  rw [List.length_map] at length
  rw [toNat_mapOffset small]
  exact
    { aligned := Layout.add_gap_mod draft.textEnd
      listed := listed
      increasing := (apart_regions small).increasing
      ends := length }

theorem toNat_protoIdsOffset (some : draft.prototypes.entries.size ≠ 0) :
    draft.header.protoIdsOffset.toNat =
      Header.byteLength + 4 * draft.strings.entries.size + 4 * draft.types.entries.size := by
  have room := draft.tables_le
  have shape : draft.header.protoIdsOffset = .ofNat (Section.place 0x0003
    draft.prototypes.entries.size (Header.byteLength + 4 * draft.strings.entries.size +
      4 * draft.types.entries.size)).offset := rfl
  rw [shape, Region.offset_place some, Image.toNat_ofNat (by omega)]

theorem numberAt?_protoId (i : Nat) (inside : i < draft.placedPrototypes.length) :
    numberAt? 4 draft.bytes (draft.header.protoIdsOffset.toNat + 12 * i + 8) =
      some draft.placedPrototypes[i].2 := by
  have stands := draft.standsIn_bytes (Nat.lt_trans small (by decide))
  have width : ∀ pair : Prototype × Nat, (pair.1.bytes pair.2).length = 12 := fun _ => rfl
  have count := draft.length_placedPrototypes
  have id := Cursor.holds_part_of_width width stands.protoIds i inside
  rw [toNat_protoIdsOffset small (by omega)]
  have low := Image.lt_of_standsAt small (stands.parameters _ (List.getElem_mem inside))
  rw [Prototype.bytes] at id
  exact Cursor.numberAt?_of_u32 low (id.next rfl)

theorem numberAt?_stringId (i : Nat) (inside : i < draft.placedStrings.length) :
    numberAt? 4 draft.bytes (draft.header.stringIdsOffset.toNat + 4 * i) =
      some draft.placedStrings[i].2 := by
  have stands := draft.standsIn_bytes (Nat.lt_trans small (by decide))
  have width : ∀ pair : String × Nat, (Binary.u32Bytes pair.2).length = 4 := fun _ => rfl
  have count := draft.length_placedStrings
  have id := Cursor.holds_part_of_width width stands.stringIds i inside
  rw [toNat_stringIdsOffset (by omega)]
  have low : draft.placedStrings[i].2 < 4294967296 :=
    Image.lt_of_holds small (stands.strings _ (List.getElem_mem inside))
      (List.ne_nil_of_length_pos (Layout.StringData.length_bytes_pos _))
  exact Cursor.numberAt?_of_u32 low id

theorem listsIn_bytes : draft.ListsIn draft.bytes draft.header draft.listRegion := by
  have stands := draft.standsIn_bytes (Nat.lt_trans small (by decide))
  have count := draft.length_placedPrototypes
  refine
    { code := Region.code_placed _ _ _ _
      size := ?size
      offsets := fun i inside => ?offsets
      first := fun some => ?first }
  case size =>
    rw [listRegion, Region.size_placed, Layout.nonemptyLists, parameterLists, List.filter_map,
      List.length_map]
    rfl
  case offsets =>
    have within : i < draft.placedPrototypes.length := by omega
    have member := List.getElem_mem within
    have same : draft.placedPrototypes[i].1 = draft.prototypes.entries[i] := by
      simp only [placedPrototypes, List.getElem_zip, Array.getElem_toList]
    have between := Layout.placeTypeLists_between draft.layout.dataOffset draft.parameterLists _
      (mem_zip_map member)
    have stored := stands.parameters _ member
    rw [same] at between stored
    refine ⟨_, numberAt?_protoId small i within, ⟨between.aligned, fun nonempty => ?_⟩, stored⟩
    have listed : draft.prototypes.entries[i].parameters ∈ draft.parameterLists :=
      List.mem_map_of_mem (Array.getElem_mem_toList inside)
    have some := Layout.length_nonemptyLists_ne_zero listed nonempty
    rw [listRegion, Region.offset_placed some, Region.stop_placed some]
    exact between.room nonempty
  case first =>
    rw [listRegion, Region.size_placed] at some
    have start := Layout.start_mem_placeTypeLists draft.dataOffset_pos draft.dataOffset_mod some
    obtain ⟨i, inside, found⟩ := List.mem_iff_getElem.mp start
    have offsets := draft.length_parameterOffsets
    rw [layout_parameterOffsets, Array.length_toList] at offsets
    have within : i < draft.placedPrototypes.length := count ▸ offsets ▸ inside
    have same : draft.placedPrototypes[i].2 = draft.layout.dataOffset := by
      simp only [placedPrototypes, List.getElem_zip]
      exact found
    have id := numberAt?_protoId small i within
    rw [same] at id
    rw [listRegion, Region.offset_placed some]
    exact ⟨i, count ▸ within, id⟩

theorem textsIn_bytes : draft.TextsIn draft.bytes draft.header draft.textRegion := by
  have stands := draft.standsIn_bytes (Nat.lt_trans small (by decide))
  have count := draft.length_placedStrings
  refine
    { code := Region.code_placed _ _ _ _
      size := Region.size_placed _ _ _ _
      offsets := fun i inside => ?offsets
      first := fun some => ?first }
  case offsets =>
    have within : i < draft.placedStrings.length := by omega
    have member := List.getElem_mem within
    have same : draft.placedStrings[i].1 = draft.strings.entries[i] := by
      simp only [placedStrings, List.getElem_zip, Array.getElem_toList]
    have between := Layout.placeStrings_between
      (draft.layout.dataOffset + draft.listBytes.length) draft.strings.entries.toList _ member
    have stored := stands.strings _ member
    have some : draft.strings.entries.size ≠ 0 := by omega
    rw [same] at between stored
    rw [textRegion, Region.offset_placed some, Region.stop_placed some]
    exact ⟨_, numberAt?_stringId small i within, between.1, between.2, stored⟩
  case first =>
    rw [textRegion, Region.size_placed] at some
    have within : 0 < draft.placedStrings.length := count ▸ Nat.pos_of_ne_zero some
    have same : draft.placedStrings[0].2 = draft.layout.dataOffset + draft.listBytes.length := by
      simp only [placedStrings, List.getElem_zip]
      exact Layout.getElem_placeStrings_zero _ _ _
    have id := numberAt?_stringId small 0 within
    rw [same] at id
    rw [textRegion, Region.offset_placed some]
    exact id

end Small

/-- The image of any declarations, if it is smaller than 4 GiB, states where its parts are: the id
tables fill the room between header and data, all parts lie apart and in order, the map lists those
that are stored and ends the image, and the digests are those of the bytes that they cover. -/
theorem ofDeclarations_laidOut (declarations : List Declaration)
    (small : (ofDeclarations declarations).bytes.length < 4294967296) :
    ∃ header lists texts, (ofDeclarations declarations).LaidOut
      (ofDeclarations declarations).bytes header lists texts := by
  generalize ofDeclarations declarations = draft at small ⊢
  have read := draft.read_header
  have fileSize := toNat_fileSize small
  have dataOffset := toNat_dataOffset small
  have idTables := idTables_header small
  have checksum : draft.header.checksum = Checksum.adler32 (draft.bytes.drop 12) :=
    checksum_sign _ _
  refine ⟨draft.header, draft.listRegion, draft.textRegion, ?_⟩
  exact
    { read := read
      fileSize := fileSize
      dataSize := by rw [dataOffset, toNat_dataSize small, length_dataBytes]
      tableSizes := by
        rw [idTables]
        simp only [tables, List.map_cons, List.map_nil, Region.size_placed]
      tables := by
        rw [idTables, dataOffset]
        exact draft.fill_tables
      typeLists := listsIn_bytes small
      stringData := textsIn_bytes small
      apart := apart_regions small
      map := mapsRegions_bytes small
      signature := signature_sign _ _
      checksum := checksum
      accepted := Image.checksumMismatch_not_mem_events read fileSize checksum
      tablesEnd := draft.length_tableBytes.trans dataOffset.symm }

/-- Three parameters and the strings end between multiples of four, so that the map does not follow
at once.  The bytes behind the magic and the version are the checksum and the signature. -/
theorem ofDeclarations_laidOut_odd_parameters :
    let declarations : List Declaration :=
      [.method "LA;" "run" ["I", "I", "I"] "V", .field "LA;" "n" "I"]
    (ofDeclarations declarations).bytes.length < 4294967296 ∧
      (∃ header lists texts, (ofDeclarations declarations).LaidOut
        (ofDeclarations declarations).bytes header lists texts) ∧
      ((ofDeclarations declarations).bytes.take 32).drop 8 =
        [0x2E, 0x20, 0xE2, 0xE9] ++
          [0xE7, 0xF8, 0x0B, 0xFD, 0x80, 0xD8, 0x5A, 0xC2, 0x20, 0x25,
            0x15, 0x31, 0x6C, 0x4B, 0xCF, 0xCE, 0x7D, 0x72, 0x3D, 0xB3] := by
  intro declarations
  let plain : Draft :=
    { strings := { entries := #["LA;", "run", "V", "I", "VIII", "n"] }
      types := { entries := #[0, 2, 3] }
      prototypes := { entries := #[{ shorty := 4, returnType := 1, parameters := [2, 2, 2] }] }
      fields := #[{ declaringType := 0, fieldType := 2, name := 5 }]
      methods := #[{ declaringType := 0, prototype := 0, name := 1 }] }
  have short : Draft.shorty ["I", "I", "I"] "V" = "VIII" := by decide
  have same : (ofDeclarations declarations).bytes = plain.bytes := by
    apply bytes_congr <;>
      simp [declarations, plain, ofDeclarations, declare, field, method, internType, internTypes,
        internPrototype, internString, Interner.find?, Interner.add, short,
        Std.HashMap.getElem_insert]
  have small : (ofDeclarations declarations).bytes.length < 4294967296 := by
    rw [same, length_bytes]
    decide +kernel
  refine ⟨small, ofDeclarations_laidOut declarations small, ?_⟩
  rw [same]
  decide +kernel

end Draft

end DexMembers
