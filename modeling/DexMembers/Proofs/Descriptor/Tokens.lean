import DexMembers.Member.Basic

/-!
# The first token that is no descriptor

A computation that reads descriptors one after the other fails as the first of its tokens does, and
succeeds if all of them can be read.
-/

set_option autoImplicit false

namespace DexMembers.Descriptor

variable {α β : Type}

def failure? (token : String) : Option DescriptorError :=
  match read token with
  | .ok _ => none
  | .error failure => some failure

def firstFailure? (tokens : List String) : Option DescriptorError :=
  tokens.findSome? failure?

theorem firstFailure?_append (first second : List String) :
    firstFailure? (first ++ second) = (firstFailure? first).or (firstFailure? second) :=
  List.findSome?_append

theorem failure?_eq_none_iff {token : String} :
    failure? token = none ↔ ∃ type, read token = .ok type := by
  rw [failure?]
  cases read token with
  | ok type => simp
  | error failure => simp

theorem firstFailure?_eq_none {tokens : List String}
    (all : ∀ token ∈ tokens, ∃ type, read token = .ok type) : firstFailure? tokens = none :=
  List.findSome?_eq_none_iff.mpr fun token member => failure?_eq_none_iff.mpr (all token member)

theorem firstFailure?_eq_some {before after : List String} {token : String}
    {failure : DescriptorError} (good : ∀ token ∈ before, ∃ type, read token = .ok type)
    (bad : read token = .error failure) :
    firstFailure? (before ++ token :: after) = some failure := by
  have first : failure? token = some failure := by rw [failure?, bad]
  rw [firstFailure?_append, firstFailure?_eq_none good, firstFailure?, List.findSome?_cons, first]
  rfl

/-- The result is that of a computation that needs exactly the given tokens, in their order. -/
def Needs (tokens : List String) (result : Except DescriptorError α) : Prop :=
  match firstFailure? tokens with
  | some failure => result = .error failure
  | none => ∃ value, result = .ok value

theorem Needs.read (token : String) : Needs [token] (Descriptor.read token) := by
  rw [Needs, firstFailure?, List.findSome?_singleton, failure?]
  cases result : Descriptor.read token with
  | ok type => exact ⟨type, rfl⟩
  | error failure => rfl

theorem Needs.pure (value : α) : Needs [] (.ok value) :=
  ⟨value, rfl⟩

theorem Needs.bind {tokens others : List String} {result : Except DescriptorError α}
    {next : α → Except DescriptorError β} (first : Needs tokens result)
    (second : ∀ value, Needs others (next value)) : Needs (tokens ++ others) (result >>= next) := by
  rw [Needs] at first
  rw [Needs, firstFailure?_append]
  cases failure : firstFailure? tokens with
  | some failure =>
      rw [failure] at first
      rw [first]
      rfl
  | none =>
      rw [failure] at first
      obtain ⟨value, done⟩ := first
      rw [done]
      exact second value

theorem Needs.mapM {tokens : α → List String} {step : α → Except DescriptorError β}
    (each : ∀ item, Needs (tokens item) (step item)) (items : List α) :
    Needs (items.flatMap tokens) (items.mapM step) := by
  induction items with
  | nil => exact Needs.pure []
  | cons item items ih =>
      rw [List.flatMap_cons, List.mapM_cons]
      apply (each item).bind
      intro value
      rw [← List.append_nil (items.flatMap tokens)]
      apply ih.bind
      intro values
      exact Needs.pure (value :: values)

theorem Needs.readAll (tokens : List String) : Needs tokens (tokens.mapM Descriptor.read) := by
  have needs := Needs.mapM Needs.read tokens
  rw [List.flatMap_singleton'] at needs
  exact needs

end DexMembers.Descriptor
