import DexMembers.Archive.Reader

/-!
# Records of an archive before other bytes

A directory entry says how long it is.  Reading it looks at these bytes alone, whatever follows
them.
-/

set_option autoImplicit false

namespace DexMembers.Archive

theorem half_append_of_le {record : List UInt8} {offset : Nat} (inside : offset + 2 ≤ record.length)
    (rest : List UInt8) : half (record ++ rest) offset = half record offset := by
  rw [half, half, List.drop_append_of_le_length (by omega),
    List.take_append_of_le_length (by rw [List.length_drop]; omega)]

theorem word_append_of_le {record : List UInt8} {offset : Nat} (inside : offset + 4 ≤ record.length)
    (rest : List UInt8) : word (record ++ rest) offset = word record offset := by
  rw [word, word, List.drop_append_of_le_length (by omega),
    List.take_append_of_le_length (by rw [List.length_drop]; omega)]

theorem half_append_right (front record : List UInt8) (offset : Nat) :
    half (front ++ record) (front.length + offset) = half record offset := by
  rw [half, List.drop_length_add_append, half]

theorem word_append_right (front record : List UInt8) (offset : Nat) :
    word (front ++ record) (front.length + offset) = word record offset := by
  rw [word, List.drop_length_add_append, word]

theorem isPrefixOf_append_of_le {signature record : List UInt8}
    (inside : signature.length ≤ record.length) (rest : List UInt8) :
    signature.isPrefixOf (record ++ rest) = signature.isPrefixOf record := by
  rw [Bool.eq_iff_iff, List.isPrefixOf_iff_prefix, List.isPrefixOf_iff_prefix]
  exact ⟨fun starts => List.prefix_of_prefix_length_le starts (List.prefix_append _ _) inside,
    fun starts => starts.trans (List.prefix_append _ _)⟩

/-! ### Directory entries -/

def recordLength (record : List UInt8) : Nat :=
  46 + half record 28 + half record 30 + half record 32

def directoryLength : (count : Nat) → List UInt8 → Nat
  | 0, _ => 0
  | count + 1, record =>
      recordLength record + directoryLength count (record.drop (recordLength record))

theorem recordLength_append_of_le {record : List UInt8} (headed : 46 ≤ record.length)
    (rest : List UInt8) : recordLength (record ++ rest) = recordLength record := by
  simp (disch := omega) only [recordLength, half_append_of_le]

theorem DirectoryEntry.read?_append_of_le {shift : Nat} {record : List UInt8}
    (headed : 46 ≤ record.length) (whole : recordLength record ≤ record.length)
    (rest : List UInt8) :
    DirectoryEntry.read? shift (record ++ rest) =
      (DirectoryEntry.read? shift record).map fun (entry, behind) => (entry, behind ++ rest) := by
  have signed : directorySignature.isPrefixOf (record ++ rest) =
      directorySignature.isPrefixOf record :=
    isPrefixOf_append_of_le (by change 4 ≤ _; omega) rest
  have longer : 46 ≤ (record ++ rest).length := by
    rw [List.length_append]
    omega
  have lasting : recordLength record ≤ (record ++ rest).length := by
    rw [List.length_append]
    omega
  unfold DirectoryEntry.read?
  simp (disch := omega) only [half_append_of_le, word_append_of_le, signed]
  by_cases starts : directorySignature.isPrefixOf record = true
  · rw [if_pos ⟨starts, longer, lasting⟩, if_pos ⟨starts, headed, whole⟩]
    rw [recordLength] at whole
    simp (disch := omega) only [List.take_append_of_le_length, List.drop_append_of_le_length,
      Option.map_map]
    rfl
  · rw [if_neg fun all => starts all.1, if_neg fun all => starts all.1]
    rfl

theorem DirectoryEntry.complete_of_read? {shift : Nat} {record behind : List UInt8}
    {entry : DirectoryEntry} (done : DirectoryEntry.read? shift record = some (entry, behind)) :
    46 ≤ record.length ∧ recordLength record ≤ record.length ∧
      behind = record.drop (recordLength record) := by
  unfold DirectoryEntry.read? at done
  dsimp only at done
  split at done
  · rename_i all
    obtain ⟨description, _, same⟩ := Option.map_eq_some_iff.mp done
    exact ⟨all.2.1, all.2.2, (Prod.mk.inj same).2.symm⟩
  · cases done

theorem DirectoryEntry.read?_append {shift : Nat} {record behind : List UInt8}
    {entry : DirectoryEntry} (done : DirectoryEntry.read? shift record = some (entry, behind))
    (rest : List UInt8) :
    DirectoryEntry.read? shift (record ++ rest) = some (entry, behind ++ rest) := by
  obtain ⟨headed, whole, _⟩ := complete_of_read? done
  rw [read?_append_of_le headed whole, done, Option.map_some]

theorem DirectoryEntry.read?_take {shift : Nat} {record behind : List UInt8}
    {entry : DirectoryEntry} (done : DirectoryEntry.read? shift record = some (entry, behind)) :
    DirectoryEntry.read? shift (record.take (recordLength record)) = some (entry, []) := by
  obtain ⟨_, whole, _⟩ := complete_of_read? done
  have size : (record.take (recordLength record)).length = recordLength record := by
    rw [List.length_take, Nat.min_eq_left whole]
  have headed : 46 ≤ (record.take (recordLength record)).length := by
    rw [size, recordLength]
    omega
  have same := recordLength_append_of_le headed (record.drop (recordLength record))
  rw [List.take_append_drop] at same
  have split := @read?_append_of_le shift _ headed (by omega)
    (record.drop (recordLength record))
  rw [List.take_append_drop, done] at split
  obtain ⟨⟨found, left⟩, first, parts⟩ := Option.map_eq_some_iff.mp split.symm
  obtain ⟨_, _, nothing⟩ := complete_of_read? first
  rw [← same, List.drop_eq_nil_of_le (by omega)] at nothing
  rw [first, (Prod.mk.inj parts).1, nothing]

/-- The directory is read from its own bytes, whatever stands behind them. -/
theorem readDirectory?_eq_of_take_eq {shift count : Nat} {record other : List UInt8}
    {entries : List DirectoryEntry} (done : readDirectory? shift count record = some entries)
    (same : other.take (directoryLength count record) =
      record.take (directoryLength count record)) :
    readDirectory? shift count other = some entries := by
  induction count generalizing record other entries with
  | zero => exact done
  | succ count ih =>
      rw [readDirectory?] at done ⊢
      split at done
      · cases done
      · rename_i entry behind first
        obtain ⟨_, _, rfl⟩ := DirectoryEntry.complete_of_read? first
        obtain ⟨others, later, parts⟩ := Option.map_eq_some_iff.mp done
        rw [directoryLength] at same
        have front : other.take (recordLength record) = record.take (recordLength record) := by
          have cut := congrArg (List.take (recordLength record)) same
          rwa [List.take_take, List.take_take, Nat.min_eq_left (Nat.le_add_right _ _)] at cut
        have back := congrArg (List.drop (recordLength record)) same
        rw [List.drop_take, List.drop_take, Nat.add_sub_cancel_left] at back
        have opened := DirectoryEntry.read?_append (DirectoryEntry.read?_take first)
          (other.drop (recordLength record))
        rw [← front, List.take_append_drop, List.nil_append] at opened
        rw [opened]
        dsimp only
        rw [ih later back, Option.map_some, parts]

end DexMembers.Archive
