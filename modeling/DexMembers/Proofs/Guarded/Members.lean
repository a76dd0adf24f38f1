import DexMembers.Image.Members
import DexMembers.Proofs.Guarded.Image
import DexMembers.Proofs.Text.Utf8Length

/-!
# Members resolved without faults

A type is stored in the cache only after it was found in the table of types, which is as long as
the cache.  The brackets of a descriptor are counted as the difference of two lengths, the second
of which is that of a part.
-/

set_option autoImplicit false

namespace DexMembers

namespace Guarded

variable {ε α β γ : Type}

/-! ### Descriptors -/

def descriptor (token : String) : Guarded DescriptorError Descriptor := do
  let trimmed := String.ofList (token.toList.dropWhile (· = '['))
  let dimensions ← difference token.utf8ByteSize trimmed.utf8ByteSize
  if Descriptor.maxDimensions < dimensions then throw (.malformed token)
  else
    match Descriptor.ofChars? token.toList with
    | some descriptor => return descriptor
    | none => throw (Descriptor.failure token)

theorem utf8ByteSize_eq_brackets (token : String) :
    token.utf8ByteSize = (token.toList.takeWhile (· = '[')).length +
      (String.ofList (token.toList.dropWhile (· = '['))).utf8ByteSize := by
  have single : ∀ c ∈ token.toList.takeWhile (· = '['), c.utf8Size = 1 := by
    intro c member
    rw [of_decide_eq_true (List.all_eq_true.mp List.all_takeWhile c member)]
    rfl
  rw [String.utf8ByteSize_ofList, ← Text.utf8Len_eq_length single, ← String.utf8Len_append,
    List.takeWhile_append_dropWhile, String.utf8Len_toList]

theorem descriptor_eq (token : String) : descriptor token = of (Descriptor.read token) := by
  have size := utf8ByteSize_eq_brackets token
  have count : token.utf8ByteSize -
      (String.ofList (token.toList.dropWhile (· = '['))).utf8ByteSize =
      (token.toList.takeWhile (· = '[')).length := by omega
  rw [descriptor, difference_of_le (by omega), count, pure_bind, Descriptor.read]
  split
  · rfl
  · cases Descriptor.ofChars? token.toList <;> rfl

/-! ### The cache of types -/

abbrev Resolver := StateT Image.TypeCache (Guarded MembersError)

def decodedType (image : Image) (index : Nat) : Resolver Descriptor := fun cache => do
  let token ← of ((image.typeName index).mapError .image)
  let found ← (descriptor token).adapt .descriptor
  let cache ← store cache index (some found)
  return (found, cache)

def cachedType (image : Image) (index : Nat) : Resolver Descriptor := fun cache =>
  match cache[index]? with
  | some (some found) => pure (found, cache)
  | _ => decodedType image index cache

def uncached (result : Except ImageError α) : Resolver α :=
  StateT.lift (of (result.mapError .image))

def cachedMethod (image : Image) (id : MethodId) : Resolver MethodRef := do
  let declaringType ← cachedType image id.declaringType
  let name ← uncached (image.string id.name)
  let parameters ← uncached (image.parameterTypes id.prototype)
  let parameterTypes ← parameters.mapM (cachedType image)
  let returned ← uncached (image.returnType id.prototype)
  let returnType ← cachedType image returned
  return { declaringType, name, parameterTypes, returnType }

def cachedField (image : Image) (id : FieldId) : Resolver FieldRef := do
  let declaringType ← cachedType image id.declaringType
  let name ← uncached (image.string id.name)
  let fieldType ← cachedType image id.fieldType
  return { declaringType, name, fieldType }

def cachedMembers (image : Image) (name : String) (selection : Selection) :
    Resolver MemberTable := do
  let methods ←
    if selection.hasMethods then image.methods.toList.mapM (cachedMethod image) else pure []
  let fields ←
    if selection.hasFields then image.fields.toList.mapM (cachedField image) else pure []
  return { name, methods, fields }

def members (image : Image) (name : String) (selection : Selection) :
    Guarded MembersError MemberTable :=
  (cachedMembers image name selection).run' (Array.replicate image.types.size none)

/-- From every cache of the given size the step does what the plain one does, and leaves a cache of
that size. -/
def Mirrors (size : Nat) (step : Resolver α) (plain : Image.Resolver α) : Prop :=
  ∀ cache, cache.size = size →
    step cache = of (plain cache) ∧
    ∀ value later, plain cache = .ok (value, later) → later.size = size

variable {size : Nat}

theorem Mirrors.pure (value : α) : Mirrors size (pure value) (pure value) := by
  intro cache sized
  refine ⟨rfl, ?_⟩
  intro _ later done
  cases done
  exact sized

theorem Mirrors.bind {step : Resolver α} {plain : Image.Resolver α} {next : α → Resolver β}
    {plainNext : α → Image.Resolver β} (first : Mirrors size step plain)
    (second : ∀ value, Mirrors size (next value) (plainNext value)) :
    Mirrors size (step >>= next) (plain >>= plainNext) := by
  intro cache sized
  obtain ⟨same, kept⟩ := first cache sized
  constructor
  · change step cache >>= (fun found => next found.1 found.2) =
      of (plain cache >>= fun found => plainNext found.1 found.2)
    rw [same]
    exact of_bind fun found done =>
      (second found.1 found.2 (kept found.1 found.2 done)).1
  · intro value later done
    obtain ⟨found, ran, done⟩ := eq_ok_of_bind_eq_ok done
    exact (second found.1 found.2 (kept found.1 found.2 ran)).2 value later done

theorem Mirrors.uncached (result : Except ImageError α) :
    Mirrors size (Guarded.uncached result) (Image.uncached result) := by
  intro cache sized
  cases result with
  | error failure => exact ⟨rfl, fun _ _ done => nomatch done⟩
  | ok value => exact Mirrors.pure value cache sized

theorem Mirrors.mapM {step : α → Resolver β} {plain : α → Image.Resolver β}
    (each : ∀ item, Mirrors size (step item) (plain item)) (items : List α) :
    Mirrors size (items.mapM step) (items.mapM plain) := by
  induction items with
  | nil => exact Mirrors.pure []
  | cons item items ih =>
      rw [List.mapM_cons, List.mapM_cons]
      apply (each item).bind
      intro value
      apply ih.bind
      intro values
      exact Mirrors.pure (value :: values)

theorem lt_size_of_typeName {image : Image} {index : Nat} {token : String}
    (found : image.typeName index = .ok token) : index < image.types.size := by
  rw [Image.typeName] at found
  split at found
  · rename_i text there
    exact (Array.getElem?_eq_some_iff.mp there).1
  · cases found

theorem decodedType_eq {image : Image} {cache : Image.TypeCache}
    (sized : cache.size = image.types.size) (index : Nat) :
    decodedType image index cache = of (match image.typeAt index with
      | .ok found => .ok (found, cache.setIfInBounds index (some found))
      | .error failure => .error failure) := by
  rw [decodedType, Image.typeAt]
  cases named : image.typeName index with
  | error failure => rfl
  | ok token =>
      have inside : index < cache.size := sized ▸ lt_size_of_typeName named
      simp only [Except.mapError_ok, of_ok, pure_bind, Except.ok_bind, descriptor_eq, adapt_of]
      cases Descriptor.read token with
      | error failure => rfl
      | ok found =>
          simp only [Except.mapError_ok, of_ok, pure_bind]
          rw [store_of_lt inside]
          rfl

theorem Mirrors.cachedType (image : Image) (index : Nat) :
    Mirrors image.types.size (Guarded.cachedType image index) (image.cachedType index) := by
  intro cache sized
  by_cases kept : ∃ found, cache[index]? = some (some found)
  · obtain ⟨found, there⟩ := kept
    simp only [Guarded.cachedType, Image.cachedType, there]
    exact Mirrors.pure found cache sized
  · have missed : Guarded.cachedType image index cache = decodedType image index cache := by
      rw [Guarded.cachedType]
      split
      · rename_i found there
        exact absurd ⟨found, there⟩ kept
      · rfl
    have plainMissed : image.cachedType index cache = match image.typeAt index with
        | .ok found => .ok (found, cache.setIfInBounds index (some found))
        | .error failure => .error failure := by
      rw [Image.cachedType]
      split
      · rename_i found there
        exact absurd ⟨found, there⟩ kept
      · rfl
    rw [missed, plainMissed]
    refine ⟨decodedType_eq sized index, ?_⟩
    intro value later done
    split at done
    · cases done
      rw [Array.size_setIfInBounds, sized]
    · cases done

theorem Mirrors.cachedMethod (image : Image) (id : MethodId) :
    Mirrors image.types.size (Guarded.cachedMethod image id) (image.cachedMethod id) := by
  apply (Mirrors.cachedType image id.declaringType).bind
  intro declaringType
  apply (Mirrors.uncached (image.string id.name)).bind
  intro name
  apply (Mirrors.uncached (image.parameterTypes id.prototype)).bind
  intro parameters
  apply (Mirrors.mapM (Mirrors.cachedType image) parameters).bind
  intro parameterTypes
  apply (Mirrors.uncached (image.returnType id.prototype)).bind
  intro returned
  apply (Mirrors.cachedType image returned).bind
  intro returnType
  exact Mirrors.pure _

theorem Mirrors.cachedField (image : Image) (id : FieldId) :
    Mirrors image.types.size (Guarded.cachedField image id) (image.cachedField id) := by
  apply (Mirrors.cachedType image id.declaringType).bind
  intro declaringType
  apply (Mirrors.uncached (image.string id.name)).bind
  intro name
  apply (Mirrors.cachedType image id.fieldType).bind
  intro fieldType
  exact Mirrors.pure _

theorem Mirrors.ifAsked {step : α → Resolver β} {plain : α → Image.Resolver β}
    {next : List β → Resolver γ} {plainNext : List β → Image.Resolver γ}
    (each : ∀ item, Mirrors size (step item) (plain item))
    (others : ∀ values, Mirrors size (next values) (plainNext values)) (asked : Bool)
    (items : List α) :
    Mirrors size (if asked then items.mapM step >>= next else Pure.pure [] >>= next)
      (if asked then items.mapM plain >>= plainNext else Pure.pure [] >>= plainNext) := by
  cases asked with
  | false => exact (Mirrors.pure []).bind others
  | true => exact (Mirrors.mapM each items).bind others

theorem Mirrors.cachedMembers (image : Image) (name : String) (selection : Selection) :
    Mirrors image.types.size (Guarded.cachedMembers image name selection)
      (image.cachedMembers name selection) := by
  unfold Guarded.cachedMembers Image.cachedMembers
  apply Mirrors.ifAsked (Mirrors.cachedMethod image)
  intro methods
  apply Mirrors.ifAsked (Mirrors.cachedField image)
  intro fields
  exact Mirrors.pure _

theorem members_eq (image : Image) (name : String) (selection : Selection) :
    members image name selection = of (image.members name selection) := by
  have mirrored := (Mirrors.cachedMembers image name selection
    (Array.replicate image.types.size none) Array.size_replicate).1
  have unfolded : members image name selection = Prod.fst <$>
      cachedMembers image name selection (Array.replicate image.types.size none) := rfl
  rw [unfolded, mirrored, map_of]
  rfl

end Guarded

end DexMembers
