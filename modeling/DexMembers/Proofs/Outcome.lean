import Mathlib.Data.List.Forall2

/-!
# Runs that may fail

A run is a chain of steps each of which may fail: what a successful chain says of its steps, and
when two chains have the same outcome.
-/

set_option autoImplicit false

namespace DexMembers

variable {α β γ δ ε : Type}

@[simp] theorem Except.mapError_ok (reword : δ → ε) (value : α) :
    (Except.ok value).mapError reword = .ok value := rfl

@[simp] theorem Except.ok_bind (value : α) (next : α → Except ε β) :
    (Except.ok value >>= next) = next value := rfl

theorem eq_ok_of_bind_eq_ok {first : Except ε α} {next : α → Except ε β} {value : β}
    (done : first >>= next = .ok value) :
    ∃ middle, first = .ok middle ∧ next middle = .ok value := by
  cases first with
  | error failure => cases done
  | ok middle => exact ⟨middle, rfl, done⟩

theorem eq_ok_of_mapError_eq_ok {run : Except δ α} {reword : δ → ε} {value : α}
    (done : run.mapError reword = .ok value) : run = .ok value := by
  cases run with
  | error failure => cases done
  | ok found =>
      cases done
      rfl

theorem eq_ok_of_map_eq_ok {run : Except ε α} {change : α → β} {value : β}
    (done : run.map change = .ok value) : ∃ found, run = .ok found ∧ change found = value := by
  cases run with
  | error failure => cases done
  | ok found =>
      cases done
      exact ⟨found, rfl, rfl⟩

theorem eq_error_of_bind_eq_error {first : Except ε α} {next : α → Except ε β} {failure : ε}
    (failed : first >>= next = .error failure) :
    first = .error failure ∨ ∃ middle, first = .ok middle ∧ next middle = .error failure := by
  cases first with
  | error other =>
      cases failed
      exact Or.inl rfl
  | ok middle => exact Or.inr ⟨middle, rfl, failed⟩

theorem eq_error_of_mapError_eq_error {run : Except δ α} {reword : δ → ε} {failure : ε}
    (failed : run.mapError reword = .error failure) :
    ∃ other, run = .error other ∧ reword other = failure := by
  cases run with
  | error other =>
      cases failed
      exact ⟨other, rfl, rfl⟩
  | ok value => cases failed

theorem eq_error_of_map_eq_error {run : Except ε α} {change : α → β} {failure : ε}
    (failed : run.map change = .error failure) : run = .error failure := by
  cases run with
  | error other =>
      cases failed
      rfl
  | ok value => cases failed

/-- Two chains with one first step agree up to a change of the result if they do so behind it. -/
theorem bind_eq_map_bind {run : Except ε α} {next : α → Except ε γ} {after : α → Except ε β}
    {change : β → γ} (go : ∀ value, run = .ok value → next value = (after value).map change) :
    run >>= next = (run >>= after).map change := by
  cases run with
  | error failure => rfl
  | ok value => exact go value rfl

theorem map_mapError (run : Except δ α) (reword : δ → ε) (change : α → β) :
    (run.map change).mapError reword = (run.mapError reword).map change := by
  cases run <;> rfl

theorem map_map (run : Except ε α) (first : α → β) (second : β → γ) :
    (run.map first).map second = run.map (second ∘ first) := by
  cases run <;> rfl

theorem mapM_congr {step other : α → Except ε β} {items : List α}
    (same : ∀ item ∈ items, step item = other item) : items.mapM step = items.mapM other := by
  induction items with
  | nil => rfl
  | cons item items ih =>
      rw [List.forall_mem_cons] at same
      rw [List.mapM_cons, List.mapM_cons, same.1, ih same.2]

theorem mapM_map (step : α → Except ε β) (change : β → γ) (items : List α) :
    (items.mapM fun item => (step item).map change) = (items.mapM step).map (List.map change) := by
  induction items with
  | nil => rfl
  | cons item items ih =>
      rw [List.mapM_cons, List.mapM_cons, ih]
      cases step item with
      | error failure => rfl
      | ok value => cases items.mapM step <;> rfl

/-- Two runs whose steps agree up to the wording of failures do so as a whole. -/
theorem mapM_eq_of_forall₂ {step : α → Except ε γ} {other : β → Except δ γ} {reword : δ → ε}
    {items : List α} {others : List β}
    (same : List.Forall₂ (fun a b => step a = (other b).mapError reword) items others) :
    items.mapM step = (others.mapM other).mapError reword := by
  induction same with
  | nil => rfl
  | @cons a b items others first _ ih =>
      rw [List.mapM_cons, List.mapM_cons, first, ih]
      cases other b with
      | error failure => rfl
      | ok value =>
          cases others.mapM other with
          | error failure => rfl
          | ok values => rfl

theorem map_eq_of_mapM_eq_ok {step : α → Except ε β} {items : List α} {values : List β}
    (done : items.mapM step = .ok values) : items.map step = values.map .ok := by
  induction items generalizing values with
  | nil =>
      cases done
      rfl
  | cons item items ih =>
      rw [List.mapM_cons] at done
      obtain ⟨value, first, done⟩ := eq_ok_of_bind_eq_ok done
      obtain ⟨rest, others, done⟩ := eq_ok_of_bind_eq_ok done
      cases done
      rw [List.map_cons, List.map_cons, first, ih others]

theorem exists_mem_of_mapM_eq_ok {step : α → Except ε β} {items : List α} {values : List β}
    (done : items.mapM step = .ok values) {value : β} (member : value ∈ values) :
    ∃ item ∈ items, step item = .ok value := by
  have steps := map_eq_of_mapM_eq_ok done
  have among : Except.ok value ∈ items.map step := steps ▸ List.mem_map_of_mem member
  exact List.mem_map.mp among

theorem exists_mem_of_mapM_eq_error {step : α → Except ε β} {items : List α} {failure : ε}
    (failed : items.mapM step = .error failure) : ∃ item ∈ items, step item = .error failure := by
  induction items with
  | nil => cases failed
  | cons item items ih =>
      rw [List.mapM_cons] at failed
      rcases eq_error_of_bind_eq_error failed with first | ⟨value, _, failed⟩
      · exact ⟨item, List.mem_cons_self, first⟩
      · rcases eq_error_of_bind_eq_error failed with later | ⟨values, _, failed⟩
        · obtain ⟨found, member, failed⟩ := ih later
          exact ⟨found, List.mem_cons_of_mem item member, failed⟩
        · cases failed

theorem map_eq_ok_of_imp {step : α → Except ε β} {other : α → Except δ β}
    (imp : ∀ item value, step item = .ok value → other item = .ok value) {items : List α}
    {values : List β} (done : items.map step = values.map .ok) :
    items.map other = values.map .ok := by
  rw [← List.forall₂_eq_eq_eq, List.forall₂_map_left_iff, List.forall₂_map_right_iff] at done ⊢
  exact done.imp imp

theorem exists_mapM_eq_ok_iff {step : α → Except ε β} {items : List α} :
    (∃ values, items.mapM step = .ok values) ↔ ∀ item ∈ items, ∃ value, step item = .ok value := by
  induction items with
  | nil => exact ⟨fun _ _ member => (nomatch member), fun _ => ⟨[], rfl⟩⟩
  | cons item items ih =>
      rw [List.forall_mem_cons, ← ih, List.mapM_cons]
      constructor
      · rintro ⟨values, done⟩
        obtain ⟨value, first, done⟩ := eq_ok_of_bind_eq_ok done
        obtain ⟨others, rest, _⟩ := eq_ok_of_bind_eq_ok done
        exact ⟨⟨value, first⟩, ⟨others, rest⟩⟩
      · rintro ⟨⟨value, first⟩, ⟨others, rest⟩⟩
        rw [first, rest]
        exact ⟨value :: others, rfl⟩

theorem mapM_eq_error_of_first {step : α → Except ε β} {before after : List α} {item : α}
    {failure : ε} (good : ∀ earlier ∈ before, ∃ value, step earlier = .ok value)
    (bad : step item = .error failure) : (before ++ item :: after).mapM step = .error failure := by
  induction before with
  | nil =>
      rw [List.nil_append, List.mapM_cons, bad]
      rfl
  | cons first before ih =>
      rw [List.forall_mem_cons] at good
      obtain ⟨⟨value, done⟩, others⟩ := good
      rw [List.cons_append, List.mapM_cons, done, ih others]
      rfl

end DexMembers
