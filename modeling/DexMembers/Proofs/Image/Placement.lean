import DexMembers.Proofs.Image.Layout

/-!
# The room of type lists and strings

Type lists and strings are placed from a position on and take up the bytes that are written for
them: each lies in that stretch, the first at its start, and there are none just when the stretch is
empty.
-/

set_option autoImplicit false

namespace DexMembers.Layout

/-- The offset is a multiple of four, and a list that is stored lies there between two
positions. -/
structure PlacedBetween (first last : Nat) (types : List Nat) (offset : Nat) : Prop where
  aligned : offset % 4 = 0
  room : types ≠ [] → first ≤ offset ∧ offset + (TypeList.bytes types).length ≤ last

def nonemptyLists (lists : List (List Nat)) : List (List Nat) :=
  lists.filter (· ≠ [])

variable {position : Nat} {lists : List (List Nat)} {types : List Nat}

theorem nonemptyLists_nil_cons (lists : List (List Nat)) :
    nonemptyLists ([] :: lists) = nonemptyLists lists :=
  List.filter_cons_of_neg (by simp)

theorem nonemptyLists_cons (lists : List (List Nat)) (stored : types ≠ []) :
    nonemptyLists (types :: lists) = types :: nonemptyLists lists :=
  List.filter_cons_of_pos (by simpa using stored)

theorem length_nonemptyLists_ne_zero (member : types ∈ lists) (stored : types ≠ []) :
    (nonemptyLists lists).length ≠ 0 :=
  Nat.ne_of_gt (List.length_pos_of_mem (List.mem_filter.mpr ⟨member, decide_eq_true stored⟩))

theorem filter_zero_cons (offsets : List Nat) :
    (0 :: offsets).filter (· ≠ 0) = offsets.filter (· ≠ 0) :=
  List.filter_cons_of_neg (by simp)

theorem filter_pos_cons {offset : Nat} (positive : 0 < offset) (offsets : List Nat) :
    (offset :: offsets).filter (· ≠ 0) = offset :: offsets.filter (· ≠ 0) :=
  List.filter_cons_of_pos (by simpa using Nat.ne_of_gt positive)

theorem add_gap_mod (position : Nat) : (position + gap position) % 4 = 0 := by
  unfold gap
  omega

theorem add_gap_of_aligned (aligned : position % 4 = 0) : position + gap position = position := by
  unfold gap
  omega

theorem placeTypeLists_nil_cons (position : Nat) (lists : List (List Nat)) :
    placeTypeLists position ([] :: lists) =
      (0 :: (placeTypeLists position lists).1, (placeTypeLists position lists).2) := by
  rw [placeTypeLists, if_pos rfl]

/-- A list that is stored starts at the next multiple of four; the others are placed behind it. -/
theorem placeTypeLists_cons {start : Nat} (next : position + gap position = start)
    (lists : List (List Nat)) (stored : types ≠ []) :
    placeTypeLists position (types :: lists) =
      (start :: (placeTypeLists (start + (TypeList.bytes types).length) lists).1,
        zeros (gap position) ++ TypeList.bytes types ++
          (placeTypeLists (start + (TypeList.bytes types).length) lists).2) := by
  subst next
  rw [placeTypeLists, if_neg stored]

theorem placeTypeLists_between (position : Nat) (lists : List (List Nat)) :
    ∀ pair ∈ lists.zip (placeTypeLists position lists).1,
      PlacedBetween position (position + (placeTypeLists position lists).2.length) pair.1 pair.2 := by
  induction lists generalizing position with
  | nil =>
      intro pair member
      cases member
  | cons types lists ih =>
      by_cases stored : types = []
      · subst stored
        rw [placeTypeLists_nil_cons, List.zip_cons_cons, List.forall_mem_cons]
        exact ⟨⟨rfl, fun nonempty => absurd rfl nonempty⟩, ih position⟩
      · rw [placeTypeLists_cons rfl lists stored, List.zip_cons_cons, List.forall_mem_cons]
        simp only [List.length_append, length_zeros]
        refine ⟨⟨add_gap_mod position, fun _ => ⟨by omega, by omega⟩⟩, fun pair member => ?_⟩
        have later := ih _ pair member
        refine ⟨later.aligned, fun nonempty => ?_⟩
        have room := later.room nonempty
        exact ⟨by omega, by omega⟩

theorem length_filter_placeTypeLists (positive : 0 < position) (lists : List (List Nat)) :
    ((placeTypeLists position lists).1.filter (· ≠ 0)).length = (nonemptyLists lists).length := by
  induction lists generalizing position with
  | nil => rfl
  | cons types lists ih =>
      by_cases stored : types = []
      · subst stored
        rw [placeTypeLists_nil_cons, filter_zero_cons, nonemptyLists_nil_cons, ih positive]
      · rw [placeTypeLists_cons rfl lists stored, filter_pos_cons (by omega),
          nonemptyLists_cons lists stored, List.length_cons, List.length_cons, ih (by omega)]

theorem headD_filter_placeTypeLists (positive : 0 < position) (aligned : position % 4 = 0)
    (lists : List (List Nat)) (some : (nonemptyLists lists).length ≠ 0) :
    ((placeTypeLists position lists).1.filter (· ≠ 0)).headD 0 = position := by
  induction lists with
  | nil => exact absurd rfl some
  | cons types lists ih =>
      by_cases stored : types = []
      · subst stored
        rw [nonemptyLists_nil_cons] at some
        rw [placeTypeLists_nil_cons, filter_zero_cons, ih some]
      · rw [placeTypeLists_cons (add_gap_of_aligned aligned) lists stored,
          filter_pos_cons positive, List.headD_cons]

theorem start_mem_placeTypeLists (positive : 0 < position) (aligned : position % 4 = 0)
    (some : (nonemptyLists lists).length ≠ 0) : position ∈ (placeTypeLists position lists).1 := by
  have count := length_filter_placeTypeLists positive lists
  have head := headD_filter_placeTypeLists positive aligned lists some
  cases offsets : (placeTypeLists position lists).1.filter (· ≠ 0) with
  | nil =>
      rw [offsets] at count
      exact absurd count.symm some
  | cons first rest =>
      rw [offsets, List.headD_cons] at head
      have member : first ∈ (placeTypeLists position lists).1.filter (· ≠ 0) := by
        rw [offsets]
        exact List.mem_cons_self
      rw [head] at member
      exact (List.mem_filter.mp member).1

theorem length_placeTypeLists_eq_zero (position : Nat) (lists : List (List Nat)) :
    (nonemptyLists lists).length = 0 ↔ (placeTypeLists position lists).2.length = 0 := by
  induction lists generalizing position with
  | nil => exact Iff.rfl
  | cons types lists ih =>
      by_cases stored : types = []
      · subst stored
        rw [placeTypeLists_nil_cons, nonemptyLists_nil_cons, ih position]
      · have long := TypeList.length_bytes types
        rw [placeTypeLists_cons rfl lists stored, nonemptyLists_cons lists stored]
        simp only [List.length_cons, List.length_append]
        omega

theorem StringData.length_bytes_pos (text : String) : 0 < (StringData.decoded text).bytes.length := by
  rw [StringData.bytes, List.length_append]
  exact Nat.succ_pos _

theorem placeStrings_between (position : Nat) (strings : List String) :
    ∀ pair ∈ strings.zip (placeStrings position strings).1, position ≤ pair.2 ∧
      pair.2 + (StringData.decoded pair.1).bytes.length ≤
        position + (placeStrings position strings).2.length := by
  induction strings generalizing position with
  | nil =>
      intro pair member
      cases member
  | cons text strings ih =>
      rw [placeStrings, List.zip_cons_cons, List.forall_mem_cons]
      simp only [List.length_append]
      refine ⟨⟨Nat.le_refl _, by omega⟩, fun pair member => ?_⟩
      have later := ih _ pair member
      exact ⟨by omega, by omega⟩

theorem getElem_placeStrings_zero (position : Nat) (strings : List String)
    (some : 0 < (placeStrings position strings).1.length) :
    (placeStrings position strings).1[0] = position := by
  cases strings with
  | nil => exact absurd some (Nat.not_lt_zero 0)
  | cons text strings => rfl

theorem length_placeStrings_eq_zero (position : Nat) (strings : List String) :
    strings.length = 0 ↔ (placeStrings position strings).2.length = 0 := by
  cases strings with
  | nil => exact Iff.rfl
  | cons text strings =>
      have positive := StringData.length_bytes_pos text
      simp only [placeStrings, List.length_cons, List.length_append]
      omega

end DexMembers.Layout
