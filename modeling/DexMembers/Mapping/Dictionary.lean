/-!
# Dictionaries

Pairs of keys and values in which no key comes twice.  Entering a value for a key that has one
replaces it, and leaves all other keys as they were.
-/

set_option autoImplicit false

namespace DexMembers

structure Dictionary (κ α : Type) where
  pairs : List (κ × α)
  keys_nodup : (pairs.map Prod.fst).Nodup
deriving DecidableEq, Repr

namespace Dictionary

variable {κ α : Type} [DecidableEq κ]

instance : EmptyCollection (Dictionary κ α) := ⟨⟨[], List.nodup_nil⟩⟩

def find? (dictionary : Dictionary κ α) (key : κ) : Option α :=
  dictionary.pairs.lookup key

def insert (dictionary : Dictionary κ α) (key : κ) (value : α) : Dictionary κ α where
  pairs := (key, value) :: dictionary.pairs.filter fun pair => pair.1 ≠ key
  keys_nodup := by
    have others := dictionary.keys_nodup
    simp only [List.map_cons, List.nodup_cons]
    constructor
    · simp
    · exact others.sublist (List.filter_sublist.map Prod.fst)

def size (dictionary : Dictionary κ α) : Nat :=
  dictionary.pairs.length

def values (dictionary : Dictionary κ α) : List α :=
  dictionary.pairs.map Prod.snd

@[simp] theorem find?_empty (key : κ) : ({} : Dictionary κ α).find? key = none := rfl

private theorem lookup_filter_ne (pairs : List (κ × α)) {key other : κ} (different : other ≠ key) :
    (pairs.filter fun pair => pair.1 ≠ key).lookup other = pairs.lookup other := by
  induction pairs with
  | nil => rfl
  | cons pair rest ih =>
      obtain ⟨first, value⟩ := pair
      by_cases taken : first = key
      · subst taken
        have apart : (other == first) = false := by simpa using different
        simpa [List.lookup_cons, apart] using ih
      · by_cases hit : other = first
        · subst hit
          simp [taken]
        · have apart : (other == first) = false := by simpa using hit
          simpa [List.lookup_cons, taken, apart] using ih

theorem find?_insert (dictionary : Dictionary κ α) (key : κ) (value : α) (other : κ) :
    (dictionary.insert key value).find? other =
      if other = key then some value else dictionary.find? other := by
  by_cases same : other = key
  · subst same
    simp [find?, insert]
  · have apart : (other == key) = false := by simpa using same
    rw [if_neg same]
    simpa [find?, insert, List.lookup_cons, apart] using
      lookup_filter_ne dictionary.pairs same

end Dictionary

end DexMembers
