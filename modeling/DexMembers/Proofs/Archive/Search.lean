import Mathlib.Control.Monad.Basic
import DexMembers.Archive.Reader

/-!
# Where the directory of an archive is found

The end records are tried from the last one on, and the first that leads to a directory is used.
So what an archive holds is told by one place: an end record that leads to a directory, behind which
no other end record does.
-/

set_option autoImplicit false

namespace DexMembers.Archive

/-! ### The positions of a signature -/

theorem mem_positionsOf_iff {signature : List UInt8} {found : List (Nat × List UInt8)}
    {position : Nat} {bytes : List UInt8} {candidate : Nat × List UInt8} :
    candidate ∈ positionsOf signature found position bytes ↔
      candidate ∈ found ∨ ∃ index < bytes.length,
        signature.isPrefixOf (bytes.drop index) = true ∧
          candidate = (position + index, bytes.drop index) := by
  induction bytes generalizing found position with
  | nil => simp [positionsOf]
  | cons byte rest ih =>
      rw [positionsOf, ih]
      -- the index 0 is the one that the step itself may find
      have step : (∃ index < (byte :: rest).length,
          signature.isPrefixOf ((byte :: rest).drop index) = true ∧
            candidate = (position + index, (byte :: rest).drop index)) ↔
          (signature.isPrefixOf (byte :: rest) = true ∧ candidate = (position, byte :: rest)) ∨
            ∃ index < rest.length, signature.isPrefixOf (rest.drop index) = true ∧
              candidate = (position + 1 + index, rest.drop index) := by
        constructor
        · rintro ⟨_ | index, small, signed, rfl⟩
          · exact Or.inl ⟨signed, rfl⟩
          · refine Or.inr ⟨index, by simpa using small, signed, ?_⟩
            rw [Nat.add_right_comm, Nat.add_assoc, List.drop_succ_cons]
        · rintro (⟨signed, rfl⟩ | ⟨index, small, signed, rfl⟩)
          · exact ⟨0, by simp, signed, rfl⟩
          · refine ⟨index + 1, by simpa using small, signed, ?_⟩
            rw [Nat.add_right_comm, Nat.add_assoc, List.drop_succ_cons]
      rw [step]
      by_cases signed : signature.isPrefixOf (byte :: rest) = true
      · rw [if_pos signed, List.mem_cons, or_assoc, or_left_comm]
        simp only [signed, true_and]
      · rw [if_neg signed]
        simp only [signed, false_and, false_or, Bool.false_eq_true]

theorem positionsOf_pairwise {signature : List UInt8} {found : List (Nat × List UInt8)}
    {position : Nat} (bytes : List UInt8)
    (sorted : found.Pairwise fun later earlier => earlier.1 < later.1)
    (before : ∀ candidate ∈ found, candidate.1 < position) :
    (positionsOf signature found position bytes).Pairwise
      fun later earlier => earlier.1 < later.1 := by
  induction bytes generalizing found position with
  | nil => exact sorted
  | cons byte rest ih =>
      rw [positionsOf]
      split
      · refine ih (List.pairwise_cons.mpr ⟨before, sorted⟩) ?_
        intro candidate mentioned
        rcases List.mem_cons.mp mentioned with rfl | old
        · exact Nat.lt_succ_self position
        · exact Nat.lt_succ_of_lt (before candidate old)
      · exact ih sorted fun candidate old => Nat.lt_succ_of_lt (before candidate old)

theorem firstPositionOf?_of_starts {signature bytes : List UInt8} (nonempty : signature ≠ [])
    (starts : signature.isPrefixOf bytes = true) (position : Nat) :
    firstPositionOf? signature position bytes = some position := by
  cases bytes with
  | nil => exact absurd (List.prefix_nil.mp (List.isPrefixOf_iff_prefix.mp starts)) nonempty
  | cons byte rest => rw [firstPositionOf?, if_pos starts]

theorem bounds_of_firstPositionOf? {signature : List UInt8} {position start : Nat}
    {bytes : List UInt8} (found : firstPositionOf? signature position bytes = some start) :
    position ≤ start ∧ start + signature.length ≤ position + bytes.length := by
  induction bytes generalizing position with
  | nil => cases found
  | cons byte rest ih =>
      rw [firstPositionOf?] at found
      split at found
      · rename_i starts
        obtain rfl := Option.some.inj found
        have fits := (List.isPrefixOf_iff_prefix.mp starts).length_le
        exact ⟨Nat.le_refl _, Nat.add_le_add_left fits _⟩
      · have later := ih found
        rw [List.length_cons]
        omega

theorem isPrefixOf_eq_of_take_eq {signature bytes other : List UInt8} {count : Nat}
    (same : other.take count = bytes.take count) (within : signature.length ≤ count) :
    signature.isPrefixOf other = signature.isPrefixOf bytes := by
  have front := congrArg (List.take signature.length) same
  rw [List.take_take, List.take_take, Nat.min_eq_left within] at front
  rw [Bool.eq_iff_iff, List.isPrefixOf_iff_prefix, List.isPrefixOf_iff_prefix,
    List.prefix_iff_eq_take, List.prefix_iff_eq_take, front]

/-- The search for a signature ends where it stands first, and looks at no byte behind it. -/
theorem firstPositionOf?_eq_of_take_eq {signature : List UInt8} {position start count : Nat}
    {bytes other : List UInt8} (nonempty : 0 < signature.length)
    (found : firstPositionOf? signature position bytes = some start)
    (within : start + signature.length ≤ position + count)
    (same : other.take count = bytes.take count) :
    firstPositionOf? signature position other = some start := by
  induction bytes generalizing position count other with
  | nil => cases found
  | cons byte rest ih =>
      have bounds := bounds_of_firstPositionOf? found
      have front : signature.isPrefixOf other = signature.isPrefixOf (byte :: rest) :=
        isPrefixOf_eq_of_take_eq same (by omega)
      obtain ⟨less, rfl⟩ := Nat.exists_eq_add_of_lt (show 0 < count by omega)
      cases other with
      | nil => cases same
      | cons head tail =>
          rw [firstPositionOf?] at found ⊢
          rw [front]
          split at found
          · rename_i starts
            rw [if_pos starts, found]
          · rename_i behind
            rw [if_neg behind]
            exact ih found (by omega) (List.cons.inj same).2

/-! ### The candidate end records -/

theorem directoryPlace_of_not_full {bytes : List UInt8} {position : Nat} {record : EndRecord}
    (room : record.isFull = false) :
    record.directoryPlace bytes position = record.plainPlace bytes position := by
  rw [EndRecord.directoryPlace, EndRecord.locator?, room, if_neg (by simp)]

def leadsTo? (bytes : List UInt8) (position : Nat) : Option (List DirectoryEntry) :=
  match EndRecord.read (bytes.drop position) with
  | .error _ => none
  | .ok record =>
      match record.directoryPlace bytes position with
      | .error _ => none
      | .ok place => place.directory? bytes

theorem findDirectory_eq_ok_iff {bytes : List UInt8} {found : Option ArchiveError}
    {candidates : List (Nat × List UInt8)} {entries : List DirectoryEntry}
    (placed : ∀ candidate ∈ candidates, candidate.2 = bytes.drop candidate.1) :
    findDirectory bytes found candidates = .ok entries ↔
      candidates.findSome? (fun candidate => leadsTo? bytes candidate.1) = some entries := by
  induction candidates generalizing found with
  | nil => simp [findDirectory]
  | cons candidate earlier ih =>
      obtain ⟨position, tail⟩ := candidate
      obtain ⟨here, others⟩ := List.forall_mem_cons.mp placed
      change tail = bytes.drop position at here
      subst here
      rw [findDirectory, List.findSome?_cons, leadsTo?]
      cases EndRecord.read (bytes.drop position) with
      | error error => exact ih others
      | ok record =>
          dsimp only
          cases record.directoryPlace bytes position with
          | error error => exact ih others
          | ok place =>
              dsimp only
              cases place.directory? bytes with
              | none => exact ih others
              | some entries => simp

/-- Where the directory of an archive is found: the end record in use, and what it leads to. -/
structure Place where
  endPosition : Nat
  record : EndRecord
  directory : DirectoryPlace

theorem lt_length_of_signed {bytes : List UInt8} {position : Nat}
    (signed : endSignature.isPrefixOf (bytes.drop position) = true) : position < bytes.length := by
  have fits := (List.isPrefixOf_iff_prefix.mp signed).length_le
  rw [List.length_drop] at fits
  change 4 ≤ _ at fits
  omega

structure Place.Leads (place : Place) (bytes : List UInt8) (listed : List DirectoryEntry) :
    Prop where
  complete : EndRecord.read (bytes.drop place.endPosition) = .ok place.record
  found : place.record.directoryPlace bytes place.endPosition = .ok place.directory
  consistent : place.directory.consistent = true
  reads : readDirectory? place.directory.shift place.directory.count
    (bytes.drop place.directory.start) = some listed
  before : ∀ entry ∈ listed, entry.headerStart < place.directory.start

/-- No end record behind that of the place leads to a directory. -/
structure Place.Opens (place : Place) (bytes : List UInt8) (listed : List DirectoryEntry) : Prop
    extends place.Leads bytes listed where
  signed : endSignature.isPrefixOf (bytes.drop place.endPosition) = true
  last : ∀ later, place.endPosition < later →
    endSignature.isPrefixOf (bytes.drop later) = true → leadsTo? bytes later = none

instance (place : Place) (bytes : List UInt8) (listed : List DirectoryEntry) :
    Decidable (place.Leads bytes listed) :=
  decidable_of_iff
    (EndRecord.read (bytes.drop place.endPosition) = .ok place.record ∧
      place.record.directoryPlace bytes place.endPosition = .ok place.directory ∧
      place.directory.consistent = true ∧
      readDirectory? place.directory.shift place.directory.count
        (bytes.drop place.directory.start) = some listed ∧
      ∀ entry ∈ listed, entry.headerStart < place.directory.start)
    ⟨fun ⟨complete, found, consistent, reads, before⟩ =>
        ⟨complete, found, consistent, reads, before⟩,
      fun leads => ⟨leads.complete, leads.found, leads.consistent, leads.reads, leads.before⟩⟩

instance (place : Place) (bytes : List UInt8) (listed : List DirectoryEntry) :
    Decidable (place.Opens bytes listed) :=
  decidable_of_iff
    (place.Leads bytes listed ∧ endSignature.isPrefixOf (bytes.drop place.endPosition) = true ∧
      ∀ later < bytes.length, place.endPosition < later →
        endSignature.isPrefixOf (bytes.drop later) = true → leadsTo? bytes later = none)
    ⟨fun ⟨leads, signed, last⟩ => ⟨leads, signed, fun later further stands =>
        last later (lt_length_of_signed stands) further stands⟩,
      fun opens => ⟨opens.toLeads, opens.signed, fun later _ => opens.last later⟩⟩

theorem leadsTo?_eq_some_iff {bytes : List UInt8} {position : Nat}
    {entries : List DirectoryEntry} :
    leadsTo? bytes position = some entries ↔
      ∃ (place : Place) (listed : List DirectoryEntry), place.endPosition = position ∧
        place.Leads bytes listed ∧ entries = listed.foldl enter [] := by
  constructor
  · intro leads
    rw [leadsTo?] at leads
    split at leads
    · cases leads
    · rename_i record complete
      split at leads
      · cases leads
      · rename_i directory found
        rw [DirectoryPlace.directory?] at leads
        split at leads
        · rename_i consistent
          split at leads
          · rename_i listed reads
            split at leads
            · rename_i before
              exact ⟨⟨position, record, directory⟩, listed, rfl,
                ⟨complete, found, consistent, reads, by simpa using before⟩,
                (Option.some.inj leads).symm⟩
            · cases leads
          · cases leads
        · cases leads
  · rintro ⟨place, listed, rfl, leads, rfl⟩
    have before : (listed.all fun entry =>
        decide (entry.headerStart < place.directory.start)) = true := by
      simpa using leads.before
    rw [leadsTo?, leads.complete]
    dsimp only
    rw [leads.found]
    dsimp only
    rw [DirectoryPlace.directory?, if_pos leads.consistent, leads.reads]
    dsimp only
    rw [if_pos before]

theorem mem_candidates_iff {bytes : List UInt8} {position : Nat} {tail : List UInt8} :
    (position, tail) ∈ positionsOf endSignature [] 0 bytes ↔
      endSignature.isPrefixOf (bytes.drop position) = true ∧ tail = bytes.drop position := by
  rw [mem_positionsOf_iff]
  simp only [List.not_mem_nil, false_or, Nat.zero_add, Prod.mk.injEq]
  constructor
  · rintro ⟨index, _, signed, rfl, rfl⟩
    exact ⟨signed, rfl⟩
  · rintro ⟨signed, rfl⟩
    exact ⟨position, lt_length_of_signed signed, signed, rfl, rfl⟩

/-- The directory is that of the last end record that leads to one. -/
theorem directory_eq_ok_iff_leadsTo? {bytes : List UInt8} {entries : List DirectoryEntry} :
    directory bytes = .ok entries ↔
      ∃ position, endSignature.isPrefixOf (bytes.drop position) = true ∧
        leadsTo? bytes position = some entries ∧
        ∀ later, position < later → endSignature.isPrefixOf (bytes.drop later) = true →
          leadsTo? bytes later = none := by
  have sorted : (positionsOf endSignature [] 0 bytes).Pairwise
      fun later earlier => earlier.1 < later.1 :=
    positionsOf_pairwise bytes .nil (fun _ none => absurd none List.not_mem_nil)
  rw [directory, findDirectory_eq_ok_iff fun _ mentioned => (mem_candidates_iff.mp mentioned).2,
    List.findSome?_eq_some_iff]
  constructor
  · rintro ⟨before, ⟨position, tail⟩, behind, parts, leads, nowhere⟩
    have here : (position, tail) ∈ positionsOf endSignature [] 0 bytes :=
      parts ▸ List.mem_append_right before List.mem_cons_self
    refine ⟨position, (mem_candidates_iff.mp here).1, leads, ?_⟩
    intro later further signed
    have there := mem_candidates_iff.mpr ⟨signed, rfl⟩
    rw [parts] at sorted there
    rcases List.mem_append.mp there with first | rest
    · exact nowhere _ first
    · have order := (List.pairwise_cons.mp (List.pairwise_append.mp sorted).2.1).1
      rcases List.mem_cons.mp rest with same | old
      · exact absurd (Prod.mk.inj same).1 (Nat.ne_of_gt further)
      · exact absurd (order _ old) (Nat.lt_asymm further)
  · rintro ⟨position, signed, leads, last⟩
    obtain ⟨before, behind, parts⟩ := List.append_of_mem (mem_candidates_iff.mpr ⟨signed, rfl⟩)
    refine ⟨before, _, behind, parts, leads, ?_⟩
    rintro ⟨later, tail⟩ first
    have there : (later, tail) ∈ positionsOf endSignature [] 0 bytes :=
      parts ▸ List.mem_append_left _ first
    rw [parts] at sorted
    have order := (List.pairwise_append.mp sorted).2.2 _ first _ List.mem_cons_self
    exact last later order (mem_candidates_iff.mp there).1

/-- What an archive holds is told by one place. -/
theorem directory_eq_ok_iff {bytes : List UInt8} {entries : List DirectoryEntry} :
    directory bytes = .ok entries ↔
      ∃ (place : Place) (listed : List DirectoryEntry),
        place.Opens bytes listed ∧ entries = listed.foldl enter [] := by
  rw [directory_eq_ok_iff_leadsTo?]
  constructor
  · rintro ⟨position, signed, led, last⟩
    obtain ⟨place, listed, rfl, leads, rfl⟩ := leadsTo?_eq_some_iff.mp led
    exact ⟨place, listed, { toLeads := leads, signed, last }, rfl⟩
  · rintro ⟨place, listed, opens, rfl⟩
    exact ⟨place.endPosition, opens.signed,
      leadsTo?_eq_some_iff.mpr ⟨place, listed, rfl, opens.toLeads, rfl⟩, opens.last⟩

end DexMembers.Archive
