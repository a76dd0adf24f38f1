import Mathlib.Order.CompletePartialOrder
import Mathlib.Order.Interval.Set.Disjoint
import DexMembers.Archive.Stored
import DexMembers.Proofs.Archive.Record
import DexMembers.Proofs.Archive.Search
import DexMembers.Proofs.Archive.Visit

/-!
# Overwriting what is not unpacked

Only images are unpacked.  So the content of any other entry can be overwritten, if nothing else of
the archive stands in it and the search for the directory does not come across it.
-/

set_option autoImplicit false

namespace DexMembers.Archive

/-! ### Bytes that differ in a range -/

structure AgreeOutside (range : Set Nat) (bytes other : List UInt8) : Prop where
  length : other.length = bytes.length
  same : ∀ index ∉ range, other[index]? = bytes[index]?

def overwrite (bytes : List UInt8) (start : Nat) (data : List UInt8) : List UInt8 :=
  bytes.take start ++ data ++ bytes.drop (start + data.length)

section Agreement

variable {range : Set Nat} {bytes other : List UInt8}

theorem AgreeOutside.take_drop_eq (agree : AgreeOutside range bytes other) {start count : Nat}
    (apart : Disjoint range (Set.Ico start (start + count))) :
    (other.drop start).take count = (bytes.drop start).take count := by
  apply List.ext_getElem?
  intro index
  rw [List.getElem?_take, List.getElem?_take]
  split
  · rename_i small
    rw [List.getElem?_drop, List.getElem?_drop]
    refine agree.same _ fun inside => Set.disjoint_left.mp apart inside ?_
    exact ⟨Nat.le_add_right _ _, Nat.add_lt_add_left small _⟩
  · rfl

theorem AgreeOutside.drop_eq (agree : AgreeOutside range bytes other) {start : Nat}
    (apart : Disjoint range (Set.Ici start)) : other.drop start = bytes.drop start := by
  apply List.ext_getElem?
  intro index
  rw [List.getElem?_drop, List.getElem?_drop]
  exact agree.same _ fun inside => Set.disjoint_left.mp apart inside (Nat.le_add_right _ _)

theorem agreeOutside_overwrite {start : Nat} {data : List UInt8}
    (fits : start + data.length ≤ bytes.length) :
    AgreeOutside (Set.Ico start (start + data.length)) bytes (overwrite bytes start data) where
  length := by
    simp only [overwrite, List.length_append, List.length_take, List.length_drop]
    omega
  same index outside := by
    have front : (bytes.take start).length = start := by
      rw [List.length_take]
      omega
    rw [overwrite, List.append_assoc]
    rcases Nat.lt_or_ge index start with before | behind
    · rw [List.getElem?_append_left (by omega), List.getElem?_take, if_pos before]
    · have further : start + data.length ≤ index :=
        Nat.le_of_not_lt fun inside => outside ⟨behind, inside⟩
      rw [List.getElem?_append_right (by omega), front, List.getElem?_append_right (by omega),
        List.getElem?_drop]
      congr 1
      omega

end Agreement

/-! ### What is looked at -/

/-- Where an entry ends that stands among the files: behind its content, or behind the fixed part of
its local header if that is none. -/
def entryEnd (bytes : List UInt8) (entry : DirectoryEntry) : Nat :=
  match contentStart bytes entry with
  | .ok start => start + entry.storedSize
  | .error _ => entry.headerStart + 30

theorem le_of_contentStart {bytes : List UInt8} {entry : DirectoryEntry} {start : Nat}
    (found : contentStart bytes entry = .ok start) : entry.headerStart + 30 ≤ start := by
  rw [contentStart] at found
  split at found
  · cases found
  · split at found
    · obtain rfl := Except.ok.inj found
      omega
    · cases found

theorem headerStart_add_le_entryEnd (bytes : List UInt8) (entry : DirectoryEntry) :
    entry.headerStart + 30 ≤ entryEnd bytes entry := by
  rw [entryEnd]
  split
  · rename_i start found
    have bound := le_of_contentStart found
    omega
  · exact Nat.le_refl _

/-- Where the search begins that an end record asks for: that of the large end record if there is a
locator, or else that of the directory. -/
def EndRecord.searchStart (bytes : List UInt8) (position : Nat) (record : EndRecord) : Nat :=
  match record.locator? bytes position with
  | some locator => locator.endOffset
  | none => record.directoryOffset

/-- The positions that are looked at for the directory of an end record: those of a locator, and all
from where a search begins or the directory starts. -/
def EndRecord.lookedAt (bytes : List UInt8) (position : Nat) (record : EndRecord) : Set Nat :=
  {index | record.isFull = true ∧ index ∈ Set.Ico (position - 20) position} ∪
    Set.Ici (record.searchStart bytes position) ∪
    {index | ∃ place, record.directoryPlace bytes position = .ok place ∧ place.start ≤ index}

theorem EndRecord.disjoint_lookedAt_iff {range : Set Nat} {bytes : List UInt8} {position : Nat}
    {record : EndRecord} :
    Disjoint range (record.lookedAt bytes position) ↔
      (record.isFull = true → Disjoint range (Set.Ico (position - 20) position)) ∧
        Disjoint range (Set.Ici (record.searchStart bytes position)) ∧
        ∀ place, record.directoryPlace bytes position = .ok place →
          Disjoint range (Set.Ici place.start) := by
  rw [lookedAt, Set.disjoint_union_right, Set.disjoint_union_right, and_assoc]
  refine and_congr ?_ (and_congr Iff.rfl ?_)
  · simp only [Set.disjoint_left, Set.mem_ofPred_eq, not_and]
    exact ⟨fun apart full index inside => apart inside full,
      fun apart index inside full => apart full inside⟩
  · simp only [Set.disjoint_left, Set.mem_ofPred_eq, not_exists, not_and, Set.mem_Ici]
    exact ⟨fun apart place found index inside => apart inside place found,
      fun apart index inside place found => apart place found inside⟩

/-- Where the records at the end start: with the large end record if it is in use. -/
def Place.endStart (place : Place) (bytes : List UInt8) : Nat :=
  match place.record.locator? bytes place.endPosition with
  | some locator => locator.endOffset + place.directory.shift
  | none => place.endPosition

/-- The range is apart from every record of the archive and from the contents of all entries but
one. -/
structure Place.ApartFromRecords (place : Place) (bytes : List UInt8)
    (listed : List DirectoryEntry) (entry : DirectoryEntry) (range : Set Nat) : Prop where
  others : ∀ other ∈ listed, other ≠ entry →
    Disjoint range (Set.Ico other.headerStart (entryEnd bytes other))
  directory : Disjoint range (Set.Ico place.directory.start (place.directory.start +
    directoryLength place.directory.count (bytes.drop place.directory.start)))
  ending : Disjoint range (Set.Ico (place.endStart bytes)
    (place.endPosition + 22 + half (bytes.drop place.endPosition) 20))

/-- The range stands before the end record, outside the stretch that is searched for the directory
or for the large end record and outside the place of a locator, and it is not looked at for an end
record further behind. -/
structure Place.ApartFromSearch (place : Place) (bytes : List UInt8) (range : Set Nat) : Prop where
  searched : Disjoint range (Set.Ico (place.record.searchStart bytes place.endPosition)
    (place.record.searchStart bytes place.endPosition + place.directory.shift))
  locator : place.record.isFull = true →
    Disjoint range (Set.Ico (place.endPosition - 20) place.endPosition)
  behind : Disjoint range (Set.Ici place.endPosition)
  later : ∀ later record, place.endPosition < later →
    endSignature.isPrefixOf (bytes.drop later) = true →
    EndRecord.read (bytes.drop later) = .ok record →
    Disjoint range (record.lookedAt bytes later)

/-! ### The directory is found again -/

section Found

variable {range : Set Nat} {bytes other : List UInt8} {position : Nat} {record : EndRecord}

theorem locator?_of_agree (agree : AgreeOutside range bytes other)
    (apart : record.isFull = true → Disjoint range (Set.Ico (position - 20) position)) :
    record.locator? other position = record.locator? bytes position := by
  rw [EndRecord.locator?, EndRecord.locator?]
  cases full : record.isFull with
  | false => simp
  | true =>
      have stop : position - 20 + (position - (position - 20)) = position := by omega
      have front : (other.drop (position - 20)).take (position - (position - 20)) =
          (bytes.drop (position - 20)).take (position - (position - 20)) :=
        agree.take_drop_eq (by rw [stop]; exact apart full)
      rw [List.drop_take, List.drop_take, front]

theorem largePlace_congr {locator : Locator}
    (same : other.drop locator.endOffset = bytes.drop locator.endOffset) :
    locator.largePlace other position = locator.largePlace bytes position := by
  rw [Locator.largePlace, Locator.largePlace, Locator.largeEnd, Locator.largeEnd, same]

theorem directoryPlace_congr (located : record.locator? other position =
      record.locator? bytes position)
    (same : other.drop (record.searchStart bytes position) =
      bytes.drop (record.searchStart bytes position)) :
    record.directoryPlace other position = record.directoryPlace bytes position := by
  rw [EndRecord.directoryPlace, EndRecord.directoryPlace, located]
  rw [EndRecord.searchStart] at same
  cases there : record.locator? bytes position with
  | none =>
      rw [there] at same
      dsimp only at same ⊢
      rw [EndRecord.plainPlace, EndRecord.plainPlace, List.drop_take, List.drop_take, same]
  | some locator =>
      rw [there] at same
      exact largePlace_congr same

theorem leadsTo?_of_agree (agree : AgreeOutside range bytes other)
    (here : other.drop position = bytes.drop position)
    (apart : ∀ record, EndRecord.read (bytes.drop position) = .ok record →
      Disjoint range (record.lookedAt bytes position)) :
    leadsTo? other position = leadsTo? bytes position := by
  rw [leadsTo?, leadsTo?, here]
  cases complete : EndRecord.read (bytes.drop position) with
  | error error => rfl
  | ok record =>
      obtain ⟨locator, search, directory⟩ :=
        EndRecord.disjoint_lookedAt_iff.mp (apart record complete)
      dsimp only
      rw [directoryPlace_congr (locator?_of_agree agree locator) (agree.drop_eq search)]
      cases found : record.directoryPlace bytes position with
      | error error => rfl
      | ok place =>
          dsimp only
          rw [DirectoryPlace.directory?, DirectoryPlace.directory?,
            agree.drop_eq (directory place found)]

theorem start_of_plainPlace {place : DirectoryPlace}
    (found : record.plainPlace bytes position = .ok place) :
    place.start = record.directoryOffset + place.shift := by
  rw [EndRecord.plainPlace] at found
  dsimp only at found
  split at found
  · obtain rfl := Except.ok.inj found
    dsimp only
    omega
  · split at found
    · cases found
    · split at found
      · cases found
      · rename_i here
        obtain rfl := Except.ok.inj found
        have bounds := bounds_of_firstPositionOf? here
        dsimp only
        omega

/-- The search for the directory ends at its first record. -/
theorem plainPlace_eq_of_take_eq {place : DirectoryPlace} {count : Nat}
    (found : record.plainPlace bytes position = .ok place)
    (within : place.start + 4 ≤ record.directoryOffset + count)
    (same : ((other.take position).drop record.directoryOffset).take count =
      ((bytes.take position).drop record.directoryOffset).take count) :
    record.plainPlace other position = .ok place := by
  rw [EndRecord.plainPlace] at found ⊢
  dsimp only at found ⊢
  split at found
  · rename_i none
    rwa [if_pos none]
  · rename_i some
    rw [if_neg some]
    split at found
    · cases found
    · rename_i above
      rw [if_neg above]
      split at found
      · cases found
      · rename_i first searched
        obtain rfl := Except.ok.inj found
        rw [firstPositionOf?_eq_of_take_eq (by decide) searched within same]

end Found

theorem directoryLength_of_mentioned {shift count : Nat} {record : List UInt8}
    {listed : List DirectoryEntry} {entry : DirectoryEntry}
    (reads : readDirectory? shift count record = some listed) (mentioned : entry ∈ listed) :
    46 ≤ directoryLength count record := by
  cases count with
  | zero =>
      obtain rfl := Option.some.inj reads
      cases mentioned
  | succ count =>
      rw [directoryLength, recordLength]
      omega

section Opened

variable {place : Place} {bytes other : List UInt8} {range : Set Nat}
  {listed : List DirectoryEntry} {entry : DirectoryEntry}

theorem Place.Opens.largePlace_of_agree {locator : Locator}
    (located : place.record.locator? bytes place.endPosition = some locator)
    (apart : place.ApartFromRecords bytes listed entry range)
    (hidden : place.ApartFromSearch bytes range) (agree : AgreeOutside range bytes other)
    (position : Nat) : locator.largePlace other position = locator.largePlace bytes position := by
  have searched := hidden.searched
  have ending := apart.ending
  rw [EndRecord.searchStart, located] at searched
  rw [Place.endStart, located] at ending
  have whole : Disjoint range (Set.Ici locator.endOffset) := by
    refine ((searched.union_right ending).union_right hidden.behind).mono_right ?_
    intro index inside
    simp only [Set.mem_union, Set.mem_Ico, Set.mem_Ici] at inside ⊢
    omega
  exact largePlace_congr (agree.drop_eq whole)

theorem Place.Opens.plainPlace_of_agree (opens : place.Opens bytes listed)
    (mentioned : entry ∈ listed)
    (located : place.record.locator? bytes place.endPosition = none)
    (apart : place.ApartFromRecords bytes listed entry range)
    (hidden : place.ApartFromSearch bytes range) (agree : AgreeOutside range bytes other) :
    place.record.plainPlace other place.endPosition = .ok place.directory := by
  have filled := directoryLength_of_mentioned opens.reads mentioned
  have found := opens.found
  have searched := hidden.searched
  rw [EndRecord.directoryPlace, located] at found
  rw [EndRecord.searchStart, located] at searched
  have shifted := start_of_plainPlace found
  -- the stretch that is searched, up to the signature of the directory's first record
  have stretch : Disjoint range (Set.Ico place.record.directoryOffset
      (place.record.directoryOffset + (place.directory.shift + 4))) := by
    refine (searched.union_right apart.directory).mono_right ?_
    intro index inside
    simp only [Set.mem_union, Set.mem_Ico] at inside ⊢
    omega
  refine plainPlace_eq_of_take_eq found (Nat.le_of_eq (by rw [shifted, Nat.add_assoc])) ?_
  rw [List.drop_take, List.drop_take, List.take_take, List.take_take]
  refine agree.take_drop_eq (stretch.mono_right (Set.Ico_subset_Ico_right ?_))
  omega

theorem Place.Opens.of_agree (opens : place.Opens bytes listed) (mentioned : entry ∈ listed)
    (apart : place.ApartFromRecords bytes listed entry range)
    (hidden : place.ApartFromSearch bytes range) (agree : AgreeOutside range bytes other) :
    place.Opens other listed := by
  have here := agree.drop_eq hidden.behind
  have located := locator?_of_agree agree hidden.locator
  have directory := agree.take_drop_eq apart.directory
  refine { complete := ?_, found := ?_, consistent := opens.consistent, reads := ?_,
           before := opens.before, signed := ?_, last := ?_ }
  · rw [here]
    exact opens.complete
  · rw [EndRecord.directoryPlace, located]
    cases there : place.record.locator? bytes place.endPosition with
    | none => exact opens.plainPlace_of_agree mentioned there apart hidden agree
    | some locator =>
        have found := opens.found
        rw [EndRecord.directoryPlace, there] at found
        exact (Place.Opens.largePlace_of_agree there apart hidden agree _).trans found
  · exact readDirectory?_eq_of_take_eq opens.reads directory
  · rw [here]
    exact opens.signed
  · intro later further signed
    have there : other.drop later = bytes.drop later :=
      agree.drop_eq (hidden.behind.mono_right (Set.Ici_subset_Ici.mpr (Nat.le_of_lt further)))
    rw [there] at signed
    rw [leadsTo?_of_agree agree there fun record complete =>
      hidden.later later record further signed complete]
    exact opens.last later further signed

end Opened

/-! ### The entries are found again -/

theorem mem_of_mem_foldl_enter {known listed : List DirectoryEntry} {entry : DirectoryEntry}
    (mentioned : entry ∈ listed.foldl enter known) : entry ∈ known ∨ entry ∈ listed := by
  induction listed generalizing known with
  | nil => exact Or.inl mentioned
  | cons next listed ih =>
      rcases ih mentioned with entered | rest
      · rw [enter] at entered
        split at entered
        · obtain ⟨old, here, rfl⟩ := List.mem_map.mp entered
          split
          · exact Or.inr List.mem_cons_self
          · exact Or.inl here
        · rcases List.mem_append.mp entered with old | new
          · exact Or.inl old
          · exact Or.inr (List.mem_cons.mpr (Or.inl (List.mem_singleton.mp new)))
      · exact Or.inr (List.mem_cons_of_mem _ rest)

theorem visit_congr {bytes other : List UInt8} {entry : DirectoryEntry}
    (header : contentStart other entry = contentStart bytes entry)
    (stored : ∀ start, contentStart bytes entry = .ok start → isImageName entry.name = true →
      (other.drop start).take entry.storedSize = (bytes.drop start).take entry.storedSize)
    (archive : Archive) : visit other archive entry = visit bytes archive entry := by
  rw [visit, visit, header]
  cases found : contentStart bytes entry with
  | error error => rfl
  | ok start =>
      cases image : isImageName entry.name with
      | true =>
          have same := stored start found image
          dsimp only
          rw [content, content, same]
      | false => simp

theorem AgreeOutside.contentStart_eq {range : Set Nat} {bytes other : List UInt8}
    {entry : DirectoryEntry} (agree : AgreeOutside range bytes other)
    (apart : Disjoint range (Set.Ico entry.headerStart (entry.headerStart + 30))) :
    contentStart other entry = contentStart bytes entry := by
  rw [contentStart, contentStart, agree.take_drop_eq apart]

theorem visit_of_agree {range : Set Nat} {bytes other : List UInt8} {entry : DirectoryEntry}
    (agree : AgreeOutside range bytes other)
    (apart : Disjoint range (Set.Ico entry.headerStart (entryEnd bytes entry)))
    (archive : Archive) : visit other archive entry = visit bytes archive entry := by
  have header := agree.contentStart_eq
    (apart.mono_right (Set.Ico_subset_Ico_right (headerStart_add_le_entryEnd bytes entry)))
  refine visit_congr header ?_ archive
  intro start found _
  have bound := le_of_contentStart found
  rw [entryEnd, found] at apart
  exact agree.take_drop_eq (apart.mono_right (Set.Ico_subset_Ico_left (by omega)))

/-- The local header of an entry stands before its content, which is looked at for images only. -/
theorem visit_of_overwritten {bytes other : List UInt8} {entry : DirectoryEntry} {start stop : Nat}
    (found : contentStart bytes entry = .ok start) (notImage : isImageName entry.name = false)
    (agree : AgreeOutside (Set.Ico start stop) bytes other) (archive : Archive) :
    visit other archive entry = visit bytes archive entry := by
  have bound := le_of_contentStart found
  have before : Disjoint (Set.Ico start stop)
      (Set.Ico entry.headerStart (entry.headerStart + 30)) := by
    rw [Set.disjoint_left]
    intro index inside header
    exact Nat.not_lt.mpr (bound.trans inside.1) header.2
  refine visit_congr (agree.contentStart_eq before) ?_ archive
  intro _ _ image
  rw [notImage] at image
  cases image

/-! ### The archive reads the same -/

theorem Place.Opens.read_of_agree {place : Place} {bytes other : List UInt8} {range : Set Nat}
    {listed : List DirectoryEntry} {entry : DirectoryEntry} (opens : place.Opens bytes listed)
    (mentioned : entry ∈ listed) (apart : place.ApartFromRecords bytes listed entry range)
    (hidden : place.ApartFromSearch bytes range) (agree : AgreeOutside range bytes other)
    (itself : ∀ archive, visit other archive entry = visit bytes archive entry) :
    Archive.read other = Archive.read bytes := by
  have again := opens.of_agree mentioned apart hidden agree
  rw [Archive.read, Archive.read, directory_eq_ok_iff.mpr ⟨place, listed, opens, rfl⟩,
    directory_eq_ok_iff.mpr ⟨place, listed, again, rfl⟩]
  dsimp only
  refine visitAll_congr ?_ _
  intro kept among archive
  -- an entry that gave up its place to another of its name is not visited
  have named := (mem_of_mem_foldl_enter among).resolve_left List.not_mem_nil
  by_cases same : kept = entry
  · rw [same]
    exact itself archive
  · exact visit_of_agree agree (apart.others kept named same) archive

/-- Data that stands before the end record does not make the bytes longer. -/
theorem Place.Opens.agreeOutside {place : Place} {bytes : List UInt8}
    {listed : List DirectoryEntry} (opens : place.Opens bytes listed) {start : Nat}
    {data : List UInt8}
    (behind : Disjoint (Set.Ico start (start + data.length)) (Set.Ici place.endPosition)) :
    AgreeOutside (Set.Ico start (start + data.length)) bytes (overwrite bytes start data) := by
  cases data with
  | nil =>
      have unchanged : overwrite bytes start [] = bytes := by
        rw [overwrite, List.append_nil, List.length_nil, Nat.add_zero, List.take_append_drop]
      rw [unchanged]
      exact ⟨rfl, fun _ _ => rfl⟩
  | cons byte data =>
      apply agreeOutside_overwrite
      have inside := lt_length_of_signed opens.signed
      have last : start + data.length ∈ Set.Ico start (start + (byte :: data).length) :=
        ⟨Nat.le_add_right _ _, Nat.lt_succ_self _⟩
      have before : ¬ place.endPosition ≤ start + data.length := Set.disjoint_left.mp behind last
      rw [List.length_cons]
      omega

/-- The data can be put in the place of an entry's content: the entry is one of the directory and no
image, and its content is as long and apart from every record of the archive. -/
structure Place.Overwrites (place : Place) (bytes : List UInt8) (listed : List DirectoryEntry)
    (entry : DirectoryEntry) (start : Nat) (data : List UInt8) : Prop where
  opens : place.Opens bytes listed
  mentioned : entry ∈ listed
  notDirectory : ¬ (['/'] <:+ entry.name.toList ∨ ['\\'] <:+ entry.name.toList)
  notImage : ¬ ".dex".toList <:+ entry.name.toList
  found : contentStart bytes entry = .ok start
  size : data.length = entry.storedSize
  apart : place.ApartFromRecords bytes listed entry (Set.Ico start (start + entry.storedSize))

/-! The conditions on a stretch of bytes can be computed. -/

theorem disjoint_Ico_Ici {start stop bound : Nat} :
    Disjoint (Set.Ico start stop) (Set.Ici bound) ↔ stop ≤ start ∨ stop ≤ bound := by
  simp only [Set.disjoint_left, Set.mem_Ico, Set.mem_Ici, and_imp, not_le]
  constructor
  · intro before
    by_contra! overlap
    have last := before (show start ≤ stop - 1 by omega) (by omega)
    omega
  · omega

instance (start stop first last : Nat) :
    Decidable (Disjoint (Set.Ico start stop) (Set.Ico first last)) :=
  decidable_of_iff _ Set.Ico_disjoint_Ico.symm

instance (start stop bound : Nat) : Decidable (Disjoint (Set.Ico start stop) (Set.Ici bound)) :=
  decidable_of_iff _ disjoint_Ico_Ici.symm

instance {ε α : Type} (p : α → Prop) [DecidablePred p] :
    (result : Except ε α) → Decidable (∀ value, result = .ok value → p value)
  | .ok value => decidable_of_iff (p value)
      ⟨fun holds _ same => Except.ok.inj same ▸ holds, fun all => all value rfl⟩
  | .error _ => .isTrue nofun

instance (bytes : List UInt8) (position : Nat) (record : EndRecord) (start stop : Nat) :
    Decidable (Disjoint (Set.Ico start stop) (record.lookedAt bytes position)) :=
  decidable_of_iff _ EndRecord.disjoint_lookedAt_iff.symm

section Decided

variable (place : Place) (bytes : List UInt8) (listed : List DirectoryEntry)
  (entry : DirectoryEntry) (start stop : Nat)

instance : Decidable (place.ApartFromRecords bytes listed entry (Set.Ico start stop)) :=
  decidable_of_iff
    ((∀ other ∈ listed, other ≠ entry →
        Disjoint (Set.Ico start stop) (Set.Ico other.headerStart (entryEnd bytes other))) ∧
      Disjoint (Set.Ico start stop) (Set.Ico place.directory.start (place.directory.start +
        directoryLength place.directory.count (bytes.drop place.directory.start))) ∧
      Disjoint (Set.Ico start stop) (Set.Ico (place.endStart bytes)
        (place.endPosition + 22 + half (bytes.drop place.endPosition) 20)))
    ⟨fun ⟨others, directory, ending⟩ => ⟨others, directory, ending⟩,
      fun apart => ⟨apart.others, apart.directory, apart.ending⟩⟩

instance : Decidable (place.ApartFromSearch bytes (Set.Ico start stop)) :=
  decidable_of_iff
    (Disjoint (Set.Ico start stop) (Set.Ico (place.record.searchStart bytes place.endPosition)
        (place.record.searchStart bytes place.endPosition + place.directory.shift)) ∧
      (place.record.isFull = true →
        Disjoint (Set.Ico start stop) (Set.Ico (place.endPosition - 20) place.endPosition)) ∧
      Disjoint (Set.Ico start stop) (Set.Ici place.endPosition) ∧
      ∀ later < bytes.length, place.endPosition < later →
        endSignature.isPrefixOf (bytes.drop later) = true →
        ∀ record, EndRecord.read (bytes.drop later) = .ok record →
          Disjoint (Set.Ico start stop) (record.lookedAt bytes later))
    ⟨fun ⟨searched, locator, behind, later⟩ =>
        ⟨searched, locator, behind, fun position record further signed =>
          later position (lt_length_of_signed signed) further signed record⟩,
      fun apart => ⟨apart.searched, apart.locator, apart.behind,
        fun position _ further signed record => apart.later position record further signed⟩⟩

instance (data : List UInt8) : Decidable (place.Overwrites bytes listed entry start data) :=
  decidable_of_iff
    (place.Opens bytes listed ∧ entry ∈ listed ∧
      ¬ (['/'] <:+ entry.name.toList ∨ ['\\'] <:+ entry.name.toList) ∧
      ¬ ".dex".toList <:+ entry.name.toList ∧ contentStart bytes entry = .ok start ∧
      data.length = entry.storedSize ∧
      place.ApartFromRecords bytes listed entry (Set.Ico start (start + entry.storedSize)))
    ⟨fun ⟨opens, mentioned, notDirectory, notImage, found, size, apart⟩ =>
        ⟨opens, mentioned, notDirectory, notImage, found, size, apart⟩,
      fun overwrites => ⟨overwrites.opens, overwrites.mentioned, overwrites.notDirectory,
        overwrites.notImage, overwrites.found, overwrites.size, overwrites.apart⟩⟩

end Decided

/-- Overwriting the content of an entry that is no image, where nothing else of the archive stands
in it and the search for the directory does not come across it, leaves what the archive holds, or
why it cannot be read, as it is.  Every archive with a directory has the place that is asked for. -/
theorem read_overwrite {place : Place} {bytes : List UInt8} {listed : List DirectoryEntry}
    {entry : DirectoryEntry} {start : Nat} {data : List UInt8}
    (overwrites : place.Overwrites bytes listed entry start data)
    (hidden : place.ApartFromSearch bytes (Set.Ico start (start + entry.storedSize))) :
    Archive.read (overwrite bytes start data) = Archive.read bytes := by
  obtain ⟨opens, mentioned, _, notImage, found, size, apart⟩ := overwrites
  rw [← isImageName_iff, Bool.not_eq_true] at notImage
  rw [← size] at apart hidden
  have agree := opens.agreeOutside hidden.behind
  exact opens.read_of_agree mentioned apart hidden agree (visit_of_overwritten found notImage agree)

/-- A signature is put into an archive of two files, and into the same archive with a large end
record. -/
theorem read_overwrite_signature_in_resource :
    let resource : ArchiveFile := { name := "r.bin", content := [0x64, 0x61, 0x74, 0x61] }
    let image : ArchiveFile := { name := "a.dex", content := [0x01] }
    let entry : DirectoryEntry := ⟨"r.bin", false, false, 0, Checksum.crc32 resource.content, 4, 0⟩
    let other : DirectoryEntry := ⟨"a.dex", false, false, 0, Checksum.crc32 image.content, 1, 39⟩
    let small := storedBytes [resource, image]
    let smallPlace : Place := ⟨177, ⟨0, 0, 2, 2, 75⟩, ⟨75, 0, 2, true⟩⟩
    let large := small.take 177 ++
      (largeEndSignature ++ [44, 0].flatMap Binary.u32Bytes ++ [45, 45].flatMap Binary.u16Bytes ++
        [0, 0, 2, 0, 2, 0, 102, 0, 75, 0].flatMap Binary.u32Bytes) ++
      (locatorSignature ++ [0, 177, 0, 1].flatMap Binary.u32Bytes) ++
      (endSignature ++ List.replicate 4 0 ++ List.replicate 12 0xFF ++ [0, 0])
    let largePlace : Place := ⟨253, ⟨0, 0, 0xFFFF, 0xFFFF, 0xFFFFFFFF⟩, ⟨75, 0, 2, true⟩⟩
    (smallPlace.Overwrites small [entry, other] entry 35 endSignature ∧
        smallPlace.ApartFromSearch small (Set.Ico 35 39) ∧
        Archive.read (overwrite small 35 endSignature) = Archive.read small) ∧
      largePlace.Overwrites large [entry, other] entry 35 endSignature ∧
        largePlace.ApartFromSearch large (Set.Ico 35 39) ∧
        Archive.read (overwrite large 35 endSignature) = Archive.read large := by
  intro resource image entry other small smallPlace large largePlace
  have inSmall : smallPlace.Overwrites small [entry, other] entry 35 endSignature := by
    decide +kernel
  have hiddenInSmall : smallPlace.ApartFromSearch small (Set.Ico 35 39) := by decide +kernel
  have inLarge : largePlace.Overwrites large [entry, other] entry 35 endSignature := by
    decide +kernel
  have hiddenInLarge : largePlace.ApartFromSearch large (Set.Ico 35 39) := by decide +kernel
  exact ⟨⟨inSmall, hiddenInSmall, read_overwrite inSmall hiddenInSmall⟩,
    inLarge, hiddenInLarge, read_overwrite inLarge hiddenInLarge⟩

/-! ### Where it would not read the same

Each condition on the search is needed: without it, data that looks like a record is taken for one,
though every record of the archive is left alone. -/

/-- An archive behind other bytes is searched for its directory from the stated offset on, which
lies before the directory by as many bytes. -/
theorem read_overwrite_in_searched_stretch :
    let file : ArchiveFile := { name := "a", content := [0x64, 0x61, 0x74, 0x61] }
    let bytes := [0x6A, 0x75, 0x6E, 0x6B] ++ storedBytes [file]
    let place : Place := ⟨86, ⟨0, 0, 1, 1, 35⟩, ⟨39, 4, 1, true⟩⟩
    let entry : DirectoryEntry := ⟨"a", false, false, 0, Checksum.crc32 file.content, 4, 4⟩
    place.Overwrites bytes [entry] entry 35 directorySignature ∧
      Archive.read bytes = .ok { fileCount := 1, images := [] } ∧
      Archive.read (overwrite bytes 35 directorySignature) = .error .badLocalHeader := by
  intro file bytes place entry
  exact ⟨by decide +kernel, by decide +kernel, by decide +kernel⟩

/-- Content behind the end record can turn into an end record. -/
theorem read_overwrite_behind_end_record :
    let content := List.replicate 22 0
    let file : ArchiveFile := { name := "a", content }
    let header := (storedFile { name := String.ofList (List.replicate 69 'a'), content }).take 30
    let bytes := header ++ storedDirectory 0 [file] ++ storedEnd 1 47 30 ++ content
    let place : Place := ⟨77, ⟨0, 0, 1, 1, 30⟩, ⟨30, 0, 1, true⟩⟩
    let entry : DirectoryEntry := ⟨"a", false, false, 0, Checksum.crc32 content, 22, 0⟩
    place.Overwrites bytes [entry] entry 99 (storedEnd 0 0 0) ∧
      Archive.read bytes = .ok { fileCount := 1, images := [] } ∧
      Archive.read (overwrite bytes 99 (storedEnd 0 0 0)) =
        .ok { fileCount := 0, images := [] } := by
  intro content file header bytes place entry
  exact ⟨by decide +kernel, by decide +kernel, by decide +kernel⟩

/-- An end record behind the one in use that led to no directory can come to lead to one. -/
theorem read_overwrite_under_later_end_record :
    let file : ArchiveFile := { name := "a", content := List.replicate 46 0 }
    let data := directorySignature ++ List.replicate 42 0
    let bytes := storedFile file ++ storedDirectory 0 [file] ++ storedEnd 1 47 77 ++
      storedEnd 2 93 31
    let place : Place := ⟨124, ⟨0, 0, 1, 1, 77⟩, ⟨77, 0, 1, true⟩⟩
    let entry : DirectoryEntry := ⟨"a", false, false, 0, Checksum.crc32 file.content, 46, 0⟩
    place.Overwrites bytes [entry] entry 31 data ∧
      Archive.read bytes = .ok { fileCount := 1, images := [] } ∧
      Archive.read (overwrite bytes 31 data) = .ok { fileCount := 2, images := [] } := by
  intro file data bytes place entry
  exact ⟨by decide +kernel, by decide +kernel, by decide +kernel⟩

/-- Content in front of a full end record can turn into a locator. -/
theorem read_overwrite_before_full_end_record :
    let content := List.replicate 20 0
    let file : ArchiveFile := { name := "a", content }
    let header := (storedFile { name := String.ofList (List.replicate 47 'a'), content }).take 30
    let ending := (storedEnd 1 47 30).take 10 ++ Binary.u16Bytes fullHalf ++
      (storedEnd 1 47 30).drop 12
    let bytes := header ++ storedDirectory 0 [file] ++ content ++ ending
    let data := locatorSignature ++ List.replicate 4 0 ++ List.replicate 8 0xFF ++ [1, 0, 0, 0]
    let place : Place := ⟨97, ⟨0, 0, 1, 0xFFFF, 30⟩, ⟨30, 0, 1, true⟩⟩
    let entry : DirectoryEntry := ⟨"a", false, false, 0, Checksum.crc32 content, 20, 0⟩
    place.Overwrites bytes [entry] entry 77 data ∧
      Archive.read bytes = .ok { fileCount := 1, images := [] } ∧
      Archive.read (overwrite bytes 77 data) = .error .largeEndBehindLocator := by
  intro content file header ending bytes data place entry
  exact ⟨by decide +kernel, by decide +kernel, by decide +kernel⟩

end DexMembers.Archive
