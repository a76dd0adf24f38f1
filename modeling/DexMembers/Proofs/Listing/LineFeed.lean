import DexMembers.Proofs.Listing.ImageLines
import DexMembers.Proofs.Listing.Streaming
import DexMembers.Proofs.Mapping.LineFeed
import DexMembers.Proofs.Text.AsciiByte

/-!
# One line for each listed member

A run that succeeds has written the lines of the listing, each with a line feed behind it.  Split
at line feeds, the bytes are these lines again if and only if no listed member shows a name that
has a line feed inside.  Such names come from the images alone, and nothing takes their line feeds
away.
-/

set_option autoImplicit false

namespace DexMembers

/-! ### The lines of a listing and the members they stand for -/

namespace MemberTable

def ShowsLineFeed (selection : Selection) (table : MemberTable) : Prop :=
  (selection.hasMethods = true ∧ ∃ method ∈ table.methods, method.ShowsLineFeed) ∨
    (selection.hasFields = true ∧ ∃ field ∈ table.fields, field.ShowsLineFeed)

instance (selection : Selection) (table : MemberTable) :
    Decidable (table.ShowsLineFeed selection) :=
  inferInstanceAs (Decidable (_ ∧ _ ∨ _ ∧ _))

theorem mem_lines_iff (options : ListingOptions) (table : MemberTable) (line : String) :
    line ∈ table.lines options ↔
      (options.selection.hasMethods = true ∧
        ∃ method ∈ table.methods, methodLine options method = line) ∨
      (options.selection.hasFields = true ∧
        ∃ field ∈ table.fields, fieldLine options field = line) := by
  rw [lines, List.mem_mergeSort, unsortedLines, List.mem_append]
  cases options.selection.hasMethods <;> cases options.selection.hasFields <;> simp

variable {options : ListingOptions}
  (fromText : ∀ mapping, options.mapping = some mapping →
    ∃ text, Mapping.read text = .ok mapping)

include fromText

theorem feed_mem_methodLine_iff (method : MethodRef) :
    '\n' ∈ (methodLine options method).toList ↔ method.ShowsLineFeed := by
  rw [methodLine]
  cases mapped : options.mapping with
  | none => exact method.feed_mem_line_iff options.hideNumbers
  | some mapping =>
      obtain ⟨text, readable⟩ := fromText mapping mapped
      exact (MethodRef.feed_mem_line_iff options.hideNumbers _).trans
        (Mapping.showsLineFeed_restoreMethod_iff (Mapping.unbroken_of_read readable) method)

theorem feed_mem_fieldLine_iff (field : FieldRef) :
    '\n' ∈ (fieldLine options field).toList ↔ field.ShowsLineFeed := by
  rw [fieldLine]
  cases mapped : options.mapping with
  | none => exact field.feed_mem_line_iff options.hideNumbers
  | some mapping =>
      obtain ⟨text, readable⟩ := fromText mapping mapped
      exact (FieldRef.feed_mem_line_iff options.hideNumbers _).trans
        (Mapping.showsLineFeed_restoreField_iff (Mapping.unbroken_of_read readable) field)

theorem exists_feed_mem_lines_iff (table : MemberTable) :
    (∃ line ∈ table.lines options, '\n' ∈ line.toList) ↔
      table.ShowsLineFeed options.selection := by
  simp only [mem_lines_iff, ShowsLineFeed, ← feed_mem_methodLine_iff fromText,
    ← feed_mem_fieldLine_iff fromText]
  constructor
  · rintro ⟨line, ⟨asked, method, member, rfl⟩ | ⟨asked, field, member, rfl⟩, feed⟩
    · exact Or.inl ⟨asked, method, member, feed⟩
    · exact Or.inr ⟨asked, field, member, feed⟩
  · rintro (⟨asked, method, member, feed⟩ | ⟨asked, field, member, feed⟩)
    · exact ⟨_, Or.inl ⟨asked, method, member, rfl⟩, feed⟩
    · exact ⟨_, Or.inr ⟨asked, field, member, rfl⟩, feed⟩

end MemberTable

section Listed

variable {inputs : Inputs} {options : ListingOptions} {sources : List Source}
  {lines : List String}

theorem mem_list_iff (listed : (list inputs options sources).outcome = .ok lines) (line : String) :
    line ∈ lines ↔ ∃ source ∈ sources, ∃ tables,
      (source.members inputs options.selection).outcome = .ok tables ∧
        ∃ table ∈ tables, line ∈ table.lines options := by
  have once : sources.count .standardInput ≤ 1 := by
    rw [outcome_list] at listed
    exact count_standardInput_le_one listed
  have blocks : (list inputs options sources).outcome =
      (sources.mapM (listedAlone inputs options)).map List.flatten := by
    rw [outcome_list, listedInTurn_of_once once, gathered, List.mapM_map]
    rfl
  rw [blocks] at listed
  obtain ⟨blocks, run, rfl⟩ := eq_ok_of_map_eq_ok listed
  have among : ∀ own, own ∈ blocks ↔
      ∃ source ∈ sources, listedAlone inputs options source = .ok own := by
    intro own
    have same := congrArg (Except.ok own ∈ ·) (map_eq_of_mapM_eq_ok run)
    simpa [List.mem_map] using same.symm
  simp only [List.mem_flatten, among, listedAlone_eq, outcome_lines]
  constructor
  · rintro ⟨own, ⟨source, given, listed⟩, inside⟩
    obtain ⟨tables, members, rfl⟩ := eq_ok_of_map_eq_ok listed
    exact ⟨source, given, tables, members, List.mem_flatMap.mp inside⟩
  · rintro ⟨source, given, tables, members, inside⟩
    exact ⟨_, ⟨source, given, by rw [members]; rfl⟩, List.mem_flatMap.mpr inside⟩

theorem sentBlocks_flatten_of_gathered {listed : List ListingOutcome}
    (done : gathered listed = .ok lines) {badFlush : Option Nat}
    (late : ∀ flush, badFlush = some flush → listableCount listed ≤ flush) :
    (sentBlocks badFlush listed).flatten = lines.flatMap lineBytes := by
  induction listed generalizing lines badFlush with
  | nil =>
      cases done
      cases badFlush <;> rfl
  | cons first rest ih =>
      rw [gathered_cons] at done
      cases first with
      | error failure => cases done
      | ok own =>
          obtain ⟨others, following, rfl⟩ := eq_ok_of_map_eq_ok done
          rw [listableCount_ok] at late
          have good : badFlush ≠ some 0 := by
            intro bad
            exact absurd (late 0 bad) (Nat.not_succ_le_zero _)
          rw [sentBlocks_of_good good, List.flatten_cons, List.flatMap_append, ih following]
          intro flush left
          obtain ⟨before, same, rfl⟩ := Option.map_eq_some_iff.mp left
          exact Nat.le_sub_of_add_le (late before same)

theorem Sink.fitting_of_hasRoom {sink : Sink} {bytes : List UInt8}
    (enough : sink.HasRoom bytes.length) : sink.fitting bytes = bytes := by
  cases limit : sink.room with
  | none => simp only [fitting, limit]
  | some room =>
      simp only [fitting, limit]
      exact List.take_of_length_le (enough room limit)

/-- A run that succeeds has written the whole listing. -/
theorem listed_of_writeListing {sink : Sink} {count : Nat}
    (written : (writeListing inputs options sources sink).outcome = .ok count) :
    ∃ lines, (list inputs options sources).outcome = .ok lines ∧ lines.length = count ∧
      (writeListing inputs options sources sink).sink.taken =
        sink.taken ++ lines.flatMap lineBytes := by
  have run := streamed_writeListing inputs options sources sink
  generalize writeListing inputs options sources sink = result at written run
  have enough : sink.HasRoom
      (sentBlocks sink.goodFlushes (listedInTurn inputs options sources)).flatten.length := by
    by_contra short
    rw [run.full short] at written
    cases written
  have late : ∀ flush, sink.goodFlushes = some flush →
      listableCount (listedInTurn inputs options sources) ≤ flush := by
    intro flush limit
    by_contra early
    rw [run.flushFailed enough flush limit (Nat.lt_of_not_le early)] at written
    cases written
  have finished := run.finished enough late
  rw [written] at finished
  obtain ⟨lines, listed, total⟩ := eq_ok_of_map_eq_ok finished.symm
  refine ⟨lines, (outcome_list ..).trans listed, (Nat.zero_add _).symm.trans total, ?_⟩
  rw [run.taken, Sink.fitting_of_hasRoom enough, sentBlocks_flatten_of_gathered listed late]

end Listed

/-! ### Line feeds among the bytes -/

theorem flatMap_lineBytes (lines : List String) :
    lines.flatMap lineBytes = (lines.map Text.utf8Bytes).flatMap (· ++ [0x0A]) := by
  rw [List.flatMap_map]
  rfl

theorem feed_not_mem_bytes_iff (lines : List String) :
    (∀ bytes ∈ lines.map Text.utf8Bytes, 0x0A ∉ bytes) ↔ ¬ ∃ line ∈ lines, '\n' ∈ line.toList := by
  have feed : ∀ line, (0x0A : UInt8) ∈ Text.utf8Bytes line ↔ '\n' ∈ line.toList :=
    @Text.lowByte_mem_utf8Bytes_iff '\n' (by decide)
  rw [List.forall_mem_map]
  simp only [feed, not_exists, not_and]

theorem count_feed_lines_eq_length_iff (lines : List String) :
    (lines.flatMap lineBytes).count 0x0A = lines.length ↔
      ¬ ∃ line ∈ lines, '\n' ∈ line.toList := by
  rw [← feed_not_mem_bytes_iff, ← Text.count_flatMap_append_eq_length_iff, flatMap_lineBytes,
    List.length_map]

theorem splitOn_feed_lines_iff (lines : List String) :
    (lines.flatMap lineBytes).splitOn 0x0A = lines.map Text.utf8Bytes ++ [[]] ↔
      ¬ ∃ line ∈ lines, '\n' ∈ line.toList := by
  rw [← feed_not_mem_bytes_iff, ← Text.splitOn_flatMap_append_iff, flatMap_lineBytes]

def ListsLineFeed (inputs : Inputs) (selection : Selection) (sources : List Source) : Prop :=
  ∃ source ∈ sources, ∃ tables, (source.members inputs selection).outcome = .ok tables ∧
    ∃ table ∈ tables, table.ShowsLineFeed selection

theorem exists_feed_mem_list_iff {inputs : Inputs} {options : ListingOptions}
    {sources : List Source} {lines : List String}
    (fromText : ∀ mapping, options.mapping = some mapping →
      ∃ text, Mapping.read text = .ok mapping)
    (listed : (list inputs options sources).outcome = .ok lines) :
    (∃ line ∈ lines, '\n' ∈ line.toList) ↔ ListsLineFeed inputs options.selection sources := by
  simp only [mem_list_iff listed, ListsLineFeed, ← MemberTable.exists_feed_mem_lines_iff fromText]
  constructor
  · rintro ⟨line, ⟨source, given, tables, members, table, among, inTable⟩, feed⟩
    exact ⟨source, given, tables, members, table, among, line, inTable, feed⟩
  · rintro ⟨source, given, tables, members, table, among, line, inTable, feed⟩
    exact ⟨line, ⟨source, given, tables, members, table, among, inTable⟩, feed⟩

/-- A run that succeeds reports the number of lines of the listing and has written these, each with
a line feed behind it.  The bytes split into the lines again, and there are as many line feeds as
lines, if and only if no listed member shows a name with a line feed. -/
theorem writeListing_one_line_each_iff {inputs : Inputs} {options : ListingOptions}
    {sources : List Source} {sink : Sink} {count : Nat}
    (fromText : ∀ mapping, options.mapping = some mapping →
      ∃ text, Mapping.read text = .ok mapping)
    (written : (writeListing inputs options sources sink).outcome = .ok count) :
    ∃ lines bytes, (list inputs options sources).outcome = .ok lines ∧ lines.length = count ∧
      (writeListing inputs options sources sink).sink.taken = sink.taken ++ bytes ∧
      bytes = (lines.flatMap fun line => Text.utf8Bytes line ++ [0x0A]) ∧
      (bytes.splitOn 0x0A = lines.map Text.utf8Bytes ++ [[]] ↔
        ¬ ListsLineFeed inputs options.selection sources) ∧
      (bytes.count 0x0A = count ↔ ¬ ListsLineFeed inputs options.selection sources) := by
  obtain ⟨lines, listed, rfl, taken⟩ := listed_of_writeListing written
  refine ⟨lines, _, listed, rfl, taken, rfl, ?_, ?_⟩
  · rw [splitOn_feed_lines_iff, exists_feed_mem_list_iff fromText listed]
  · rw [count_feed_lines_eq_length_iff, exists_feed_mem_list_iff fromText listed]

/-- A field under its original name, written behind what the sink held before. -/
theorem writeListing_one_line_each_iff_restored :
    let image := oneFieldImage
    let inputs : Inputs := { openFile := fun _ => .error .notFound, standardInput := .ok image }
    let mapping : Mapping :=
      { classes := ({} : Dictionary Descriptor ClassEntry).insert (.object "A")
          { original := .object "geo/Point" } }
    let options : ListingOptions := { selection := .fields, mapping := some mapping }
    Mapping.read "geo.Point -> A:" = .ok mapping ∧
      ∃ bytes, (writeListing inputs options [.standardInput] { taken := [0x0A] }).sink.taken =
        0x0A :: bytes ∧
        bytes.splitOn 0x0A = [Text.utf8Bytes "geo.Point n: Point", []] := by
  intro image inputs mapping options
  have readable : Mapping.read "geo.Point -> A:" = .ok mapping := by decide +kernel
  have fromText : ∀ other, options.mapping = some other → ∃ text, Mapping.read text = .ok other := by
    rintro other ⟨⟩
    exact ⟨_, readable⟩
  let table : MemberTable :=
    { name := "<stdin>"
      methods := []
      fields := [{ declaringType := .object "A", name := "n", fieldType := .object "A" }] }
  have members : (Source.standardInput.members inputs .fields).outcome = .ok [table] := by
    decide +kernel
  have unbroken : ¬ ListsLineFeed inputs options.selection [.standardInput] := by
    rintro ⟨source, given, tables, found, other, among, shows⟩
    obtain rfl := List.mem_singleton.mp given
    obtain rfl := Except.ok.inj (members.symm.trans found)
    obtain rfl := List.mem_singleton.mp among
    exact absurd shows (by decide)
  have listed : (list inputs options [.standardInput]).outcome = .ok ["geo.Point n: Point"] := by
    decide +kernel
  have written : (writeListing inputs options [.standardInput] { taken := [0x0A] }).outcome =
      .ok 1 := by decide +kernel
  obtain ⟨lines, bytes, same, _, taken, _, split, _⟩ :=
    writeListing_one_line_each_iff fromText written
  obtain rfl := Except.ok.inj (listed.symm.trans same)
  exact ⟨readable, bytes, taken, split.mpr unbroken⟩

/-- A field whose name has a line feed: one line is reported and listed, and two are written. -/
theorem writeListing_two_lines_of_one :
    let image : List UInt8 := dexMagic ++ [0x30, 0x33, 0x35, 0x00] ++ List.replicate 24 0 ++
      [142, 112, 0x12345678, 0, 0, 0, 2, 112, 1, 120, 0, 0, 1, 124, 0, 0, 0, 0, 10, 132].flatMap
        Header.wordBytes ++
      [132, 137, 0].flatMap Binary.u32Bytes ++ idTripleBytes 0 0 1 ++
      [0x03, 0x4C, 0x41, 0x3B, 0x00, 0x03, 0x78, 0x0A, 0x79, 0x00]
    let inputs : Inputs := { openFile := fun _ => .error .notFound, standardInput := .ok [] }
    let options : ListingOptions := { selection := .fields }
    let written := writeListing inputs options [.bytes "a.dex" image] {}
    written.outcome = .ok 1 ∧
      (list inputs options [.bytes "a.dex" image]).outcome = .ok ["A x\ny: A"] ∧
      written.sink.taken.count 0x0A = 2 ∧
      written.sink.taken.splitOn 0x0A =
        [Text.utf8Bytes "A x", Text.utf8Bytes "y: A", []] := by
  decide +kernel

end DexMembers
