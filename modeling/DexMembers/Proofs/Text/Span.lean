/-!
# Runs of characters

Readers take the longest run of characters of a class.  A run that is followed by nothing, or by a
character outside of the class, is taken whole and nothing else with it.
-/

set_option autoImplicit false

namespace DexMembers.Text

variable {α : Type} {p : α → Bool} {run rest : List α}

def StopsAt (p : α → Bool) (rest : List α) : Prop :=
  ∀ c, rest.head? = some c → p c = false

theorem stopsAt_nil : StopsAt p [] := by
  intro c first
  cases first

theorem stopsAt_cons {c : α} (outside : p c = false) : StopsAt p (c :: rest) := by
  intro first same
  cases same
  exact outside

theorem dropWhile_of_stopsAt (stop : StopsAt p rest) : rest.dropWhile p = rest := by
  cases rest with
  | nil => rfl
  | cons c rest => simp [stop c rfl]

theorem takeWhile_of_stopsAt (stop : StopsAt p rest) : rest.takeWhile p = [] := by
  cases rest with
  | nil => rfl
  | cons c rest => simp [stop c rfl]

theorem takeWhile_run (inside : ∀ c ∈ run, p c = true) (stop : StopsAt p rest) :
    (run ++ rest).takeWhile p = run := by
  rw [List.takeWhile_append_of_pos inside, takeWhile_of_stopsAt stop, List.append_nil]

theorem dropWhile_run (inside : ∀ c ∈ run, p c = true) (stop : StopsAt p rest) :
    (run ++ rest).dropWhile p = rest := by
  rw [List.dropWhile_append_of_pos inside, dropWhile_of_stopsAt stop]

theorem stopsAt_dropWhile (p : α → Bool) (text : List α) : StopsAt p (text.dropWhile p) := by
  intro c first
  have outside := List.head?_dropWhile_not p text
  rw [first] at outside
  exact outside

theorem run_append_inj {other behind : List α} (inside : ∀ c ∈ run, p c = true)
    (otherInside : ∀ c ∈ other, p c = true) (stop : StopsAt p rest) (otherStop : StopsAt p behind)
    (same : run ++ rest = other ++ behind) : run = other ∧ rest = behind := by
  constructor
  · rw [← takeWhile_run inside stop, same, takeWhile_run otherInside otherStop]
  · rw [← dropWhile_run inside stop, same, dropWhile_run otherInside otherStop]

end DexMembers.Text
