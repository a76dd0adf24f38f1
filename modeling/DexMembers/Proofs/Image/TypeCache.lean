import DexMembers.Image.Members

/-!
# Decoding each type once

A step with a cache gives what the plain step gives, as long as the cache holds nothing but what a
plain step would decode; and it leaves such a cache behind.
-/

set_option autoImplicit false

namespace DexMembers.Image

variable {α β γ : Type}

def Faithful (image : Image) (cache : TypeCache) : Prop :=
  ∀ (index : Nat) descriptor, cache[index]? = some (some descriptor) →
    image.typeAt index = .ok descriptor

/-- From every faithful cache the step has the plain outcome, and a success leaves a faithful
cache. -/
def Agrees (image : Image) (step : Resolver α) (plain : Except MembersError α) : Prop :=
  ∀ cache, image.Faithful cache →
    match plain with
    | .ok value => ∃ later, step cache = .ok (value, later) ∧ image.Faithful later
    | .error failure => step cache = .error failure

variable {image : Image}

theorem Agrees.pure (value : α) : image.Agrees (pure value) (.ok value) :=
  fun cache faithful => ⟨cache, rfl, faithful⟩

theorem Agrees.bind {step : Resolver α} {plain : Except MembersError α} {next : α → Resolver β}
    {plainNext : α → Except MembersError β} (first : image.Agrees step plain)
    (second : ∀ value, image.Agrees (next value) (plainNext value)) :
    image.Agrees (step >>= next) (plain >>= plainNext) := by
  intro cache faithful
  have outcome := first cache faithful
  have unfolded : (step >>= next) cache = step cache >>= fun result => next result.1 result.2 := rfl
  cases plain with
  | error failure =>
      change step cache = .error failure at outcome
      change (step >>= next) cache = .error failure
      rw [unfolded, outcome]
      rfl
  | ok value =>
      obtain ⟨middle, ran, kept⟩ := outcome
      have last := second value middle kept
      rw [unfolded, ran]
      exact last

theorem Agrees.uncached (result : Except ImageError α) :
    image.Agrees (uncached result) (result.mapError .image) := by
  intro cache faithful
  cases result with
  | error failure => rfl
  | ok value => exact ⟨cache, rfl, faithful⟩

theorem Agrees.mapM {step : α → Resolver β} {plain : α → Except MembersError β}
    (each : ∀ item, image.Agrees (step item) (plain item)) (items : List α) :
    image.Agrees (items.mapM step) (items.mapM plain) := by
  induction items with
  | nil => exact Agrees.pure []
  | cons item items ih =>
      rw [List.mapM_cons, List.mapM_cons]
      apply (each item).bind
      intro value
      apply ih.bind
      intro values
      exact Agrees.pure (value :: values)

theorem Faithful.keep {cache : TypeCache} (faithful : image.Faithful cache) {index : Nat}
    {descriptor : Descriptor} (decoded : image.typeAt index = .ok descriptor) :
    image.Faithful (cache.setIfInBounds index (some descriptor)) := by
  intro other kept found
  rw [Array.getElem?_setIfInBounds] at found
  split at found
  · rename_i same
    split at found
    · cases found
      rw [← same]
      exact decoded
    · cases found
  · exact faithful other kept found

theorem Agrees.cachedType (image : Image) (index : Nat) :
    image.Agrees (image.cachedType index) (image.typeAt index) := by
  intro cache faithful
  have decoding : (∀ descriptor, cache[index]? ≠ some (some descriptor)) →
      image.cachedType index cache = (image.typeAt index).map fun descriptor =>
        (descriptor, cache.setIfInBounds index (some descriptor)) := by
    intro unkept
    rw [Image.cachedType]
    split
    · rename_i descriptor found
      exact absurd found (unkept descriptor)
    · cases image.typeAt index <;> rfl
  by_cases found : ∃ descriptor, cache[index]? = some (some descriptor)
  · obtain ⟨descriptor, kept⟩ := found
    rw [faithful index descriptor kept]
    refine ⟨cache, ?_, faithful⟩
    simp only [Image.cachedType, kept]
  · rw [decoding (not_exists.mp found)]
    cases decoded : image.typeAt index with
    | error failure => rfl
    | ok descriptor => exact ⟨_, rfl, faithful.keep decoded⟩

theorem Agrees.cachedMethod (image : Image) (id : MethodId) :
    image.Agrees (image.cachedMethod id) (image.methodPlain id) := by
  apply (Agrees.cachedType image id.declaringType).bind
  intro declaringType
  apply (Agrees.uncached (image.string id.name)).bind
  intro name
  apply (Agrees.uncached (image.parameterTypes id.prototype)).bind
  intro parameters
  apply (Agrees.mapM (Agrees.cachedType image) parameters).bind
  intro parameterTypes
  apply (Agrees.uncached (image.returnType id.prototype)).bind
  intro returned
  apply (Agrees.cachedType image returned).bind
  intro returnType
  exact Agrees.pure _

theorem Agrees.cachedField (image : Image) (id : FieldId) :
    image.Agrees (image.cachedField id) (image.fieldPlain id) := by
  apply (Agrees.cachedType image id.declaringType).bind
  intro declaringType
  apply (Agrees.uncached (image.string id.name)).bind
  intro name
  apply (Agrees.cachedType image id.fieldType).bind
  intro fieldType
  exact Agrees.pure _

theorem Agrees.ifAsked {step : α → Resolver β} {plain : α → Except MembersError β}
    {next : List β → Resolver γ} {plainNext : List β → Except MembersError γ}
    (each : ∀ item, image.Agrees (step item) (plain item))
    (others : ∀ values, image.Agrees (next values) (plainNext values)) (asked : Bool)
    (items : List α) :
    image.Agrees (if asked then items.mapM step >>= next else Pure.pure [] >>= next)
      (if asked then items.mapM plain >>= plainNext else Pure.pure [] >>= plainNext) := by
  cases asked with
  | false => exact (Agrees.pure []).bind others
  | true => exact (Agrees.mapM each items).bind others

theorem Agrees.cachedMembers (image : Image) (name : String) (selection : Selection) :
    image.Agrees (image.cachedMembers name selection) (image.membersPlain name selection) := by
  unfold Image.cachedMembers membersPlain
  apply Agrees.ifAsked (Agrees.cachedMethod image)
  intro methods
  apply Agrees.ifAsked (Agrees.cachedField image)
  intro fields
  exact Agrees.pure _

theorem faithful_replicate (image : Image) (size : Nat) :
    image.Faithful (Array.replicate size none) := by
  intro index descriptor found
  rw [Array.getElem?_replicate] at found
  split at found
  · cases found
  · cases found

/-- A step that agrees with a plain one has its outcome from an empty cache. -/
theorem Agrees.run' {step : Resolver α} {plain : Except MembersError α}
    (agrees : image.Agrees step plain) (size : Nat) :
    step.run' (Array.replicate size none) = plain := by
  have outcome := agrees _ (image.faithful_replicate size)
  have unfolded : step.run' (Array.replicate size none) =
      (step (Array.replicate size none)).map Prod.fst := rfl
  rw [unfolded]
  cases plain with
  | error failure =>
      change step _ = .error failure at outcome
      rw [outcome]
      rfl
  | ok value =>
      obtain ⟨later, ran, _⟩ := outcome
      rw [ran]
      rfl

theorem membersPlain_eq_bind (image : Image) (name : String) (selection : Selection) :
    image.membersPlain name selection =
      (if selection.hasMethods then image.methods.toList.mapM image.methodPlain else pure []) >>=
        fun methods =>
      (if selection.hasFields then image.fields.toList.mapM image.fieldPlain else pure []) >>=
        fun fields =>
      .ok { name, methods, fields } := by
  rw [membersPlain]
  cases selection.hasMethods <;> cases selection.hasFields <;> rfl

/-- Resolving with a cache is plain resolving. -/
theorem members_eq_membersPlain (image : Image) (name : String) (selection : Selection) :
    image.members name selection = image.membersPlain name selection :=
  (Agrees.cachedMembers image name selection).run' image.types.size

end DexMembers.Image
