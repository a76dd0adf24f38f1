/-!
# Splitting text at a separator

Three cuts of a list of characters: at every occurrence of a character, at its last one, and at the
first occurrence of a text.
-/

set_option autoImplicit false

namespace DexMembers.Text

/-- The pieces of a text with one more character in front, which begins a piece or cuts one off. -/
def splitStep (separator c : Char) : List (List Char) → List (List Char)
  | [] => if c = separator then [[], []] else [[c]]
  | piece :: pieces => if c = separator then [] :: piece :: pieces else (c :: piece) :: pieces

def splitAll (separator : Char) (text : List Char) : List (List Char) :=
  text.foldr (splitStep separator) [[]]

def splitLast? (separator : Char) : List Char → Option (List Char × List Char)
  | [] => none
  | c :: rest =>
      match splitLast? separator rest with
      | some (before, after) => some (c :: before, after)
      | none => if c = separator then some ([], rest) else none

def splitFirst? (separator : List Char) : List Char → Option (List Char × List Char)
  | [] => if separator = [] then some ([], []) else none
  | c :: rest =>
      if separator.isPrefixOf (c :: rest) then some ([], (c :: rest).drop separator.length)
      else (splitFirst? separator rest).map fun (before, after) => (c :: before, after)

def trimEnd (drop : Char → Bool) (text : List Char) : List Char :=
  (text.reverse.dropWhile drop).reverse

section SplitOn

variable {α : Type} [BEq α]

theorem length_splitOn (separator : α) (text : List α) :
    (text.splitOn separator).length = text.count separator + 1 := by
  induction text with
  | nil => rfl
  | cons c rest ih =>
      rw [List.splitOn_cons_eq_if_modifyHead, List.count_cons]
      by_cases cut : (c == separator) = true
      · rw [if_pos cut, if_pos cut, List.length_cons, ih]
      · rw [if_neg cut, if_neg cut, List.length_modifyHead, ih]

variable [LawfulBEq α] {separator : α}

theorem count_flatMap_append (separator : α) (pieces : List (List α)) :
    (pieces.flatMap (· ++ [separator])).count separator =
      pieces.length + pieces.flatten.count separator := by
  induction pieces with
  | nil => rfl
  | cons piece pieces ih =>
      rw [List.flatMap_cons, List.count_append, List.count_append, ih, List.count_singleton_self,
        List.length_cons, List.flatten_cons, List.count_append]
      omega

theorem count_flatMap_append_eq_length_iff {pieces : List (List α)} :
    (pieces.flatMap (· ++ [separator])).count separator = pieces.length ↔
      ∀ piece ∈ pieces, separator ∉ piece := by
  rw [count_flatMap_append, Nat.add_eq_left, List.count_eq_zero, List.mem_flatten]
  simp only [not_exists, not_and]

theorem splitOn_flatMap_append {pieces : List (List α)}
    (unbroken : ∀ piece ∈ pieces, separator ∉ piece) :
    (pieces.flatMap (· ++ [separator])).splitOn separator = pieces ++ [[]] := by
  induction pieces with
  | nil => rfl
  | cons piece pieces ih =>
      rw [List.forall_mem_cons] at unbroken
      rw [List.flatMap_cons, List.append_assoc, List.singleton_append,
        List.splitOn_append_cons_self_of_not_mem unbroken.1, ih unbroken.2, List.cons_append]

/-- Pieces that each end in the separator are told apart again, if none of them has it inside. -/
theorem splitOn_flatMap_append_iff {pieces : List (List α)} :
    (pieces.flatMap (· ++ [separator])).splitOn separator = pieces ++ [[]] ↔
      ∀ piece ∈ pieces, separator ∉ piece := by
  constructor
  · intro split
    have lengths := congrArg List.length split
    rw [length_splitOn, List.length_append, List.length_singleton] at lengths
    exact count_flatMap_append_eq_length_iff.mp (Nat.succ.inj lengths)
  · exact splitOn_flatMap_append

end SplitOn

theorem splitAll_cons (separator c : Char) (rest : List Char) :
    splitAll separator (c :: rest) = splitStep separator c (splitAll separator rest) := rfl

theorem splitAll_eq_splitOn (separator : Char) (text : List Char) :
    splitAll separator text = text.splitOn separator := by
  induction text with
  | nil => rfl
  | cons c rest ih =>
      rw [splitAll_cons, ih, List.splitOn_cons_eq_if_modifyHead]
      cases pieces : rest.splitOn separator with
      | nil => exact absurd pieces (List.splitOn_ne_nil separator rest)
      | cons piece pieces => by_cases cut : c = separator <;> simp [splitStep, cut]

theorem splitAll_ne_nil (separator : Char) (text : List Char) : splitAll separator text ≠ [] := by
  rw [splitAll_eq_splitOn]
  exact List.splitOn_ne_nil separator text

theorem splitAll_append (separator : Char) (first second : List Char) :
    splitAll separator (first ++ separator :: second) =
      splitAll separator first ++ splitAll separator second := by
  simp only [splitAll_eq_splitOn, List.splitOn_append_cons_self]

theorem length_splitAll (separator : Char) (text : List Char) :
    (splitAll separator text).length = text.count separator + 1 := by
  rw [splitAll_eq_splitOn, length_splitOn]

theorem of_mem_splitAll_cons {separator c : Char} {rest piece : List Char}
    (member : piece ∈ splitAll separator (c :: rest)) :
    piece = [] ∨ piece ∈ splitAll separator rest ∨
      ∃ first ∈ splitAll separator rest, c ≠ separator ∧ piece = c :: first := by
  rw [splitAll_cons] at member
  cases pieces : splitAll separator rest with
  | nil => exact absurd pieces (splitAll_ne_nil separator rest)
  | cons first others =>
      rw [pieces, splitStep] at member
      split at member
      · exact (List.mem_cons.mp member).imp_right Or.inl
      · rename_i other
        rcases List.mem_cons.mp member with begun | later
        · exact Or.inr (Or.inr ⟨first, List.mem_cons_self, other, begun⟩)
        · exact Or.inr (Or.inl (List.mem_cons_of_mem _ later))

theorem not_mem_of_mem_splitAll {separator : Char} {text piece : List Char}
    (member : piece ∈ splitAll separator text) : separator ∉ piece := by
  induction text generalizing piece with
  | nil =>
      obtain rfl := List.mem_singleton.mp member
      exact List.not_mem_nil
  | cons c rest ih =>
      rcases of_mem_splitAll_cons member with rfl | later | ⟨first, among, other, rfl⟩
      · exact List.not_mem_nil
      · exact ih later
      · simp [Ne.symm other, ih among]

theorem splitAll_flatMap {separator : Char} {pieces : List (List Char)}
    (unbroken : ∀ piece ∈ pieces, separator ∉ piece) :
    splitAll separator (pieces.flatMap (· ++ [separator])) = pieces ++ [[]] := by
  rw [splitAll_eq_splitOn, splitOn_flatMap_append unbroken]

theorem splitLast?_eq_none_iff {separator : Char} {text : List Char} :
    splitLast? separator text = none ↔ separator ∉ text := by
  induction text with
  | nil => simp [splitLast?]
  | cons c rest ih =>
      cases found : splitLast? separator rest with
      | none =>
          have absent := ih.mp found
          by_cases cut : c = separator
          · simp [splitLast?, found, cut]
          · simp [splitLast?, found, cut, absent, Ne.symm cut]
      | some halves =>
          have present : separator ∈ rest := by
            by_cases member : separator ∈ rest
            · exact member
            · rw [ih.mpr member] at found
              cases found
          simp [splitLast?, found, present]

theorem splitLast?_append {separator : Char} {before after : List Char}
    (last : separator ∉ after) :
    splitLast? separator (before ++ separator :: after) = some (before, after) := by
  induction before with
  | nil => simp [splitLast?, splitLast?_eq_none_iff.mpr last]
  | cons c rest ih => simp [splitLast?, ih]

/-- The cut is at the last occurrence: nothing is lost, and what follows has no further one. -/
theorem eq_append_of_splitLast? {separator : Char} {text before after : List Char}
    (cut : splitLast? separator text = some (before, after)) :
    text = before ++ separator :: after ∧ separator ∉ after := by
  induction text generalizing before with
  | nil => simp [splitLast?] at cut
  | cons c rest ih =>
      cases found : splitLast? separator rest with
      | some halves =>
          obtain ⟨left, right⟩ := halves
          simp only [splitLast?, found, Option.some.injEq, Prod.mk.injEq] at cut
          obtain ⟨rfl, rfl⟩ := cut
          obtain ⟨whole, last⟩ := ih found
          exact ⟨by rw [whole, List.cons_append], last⟩
      | none =>
          simp only [splitLast?, found] at cut
          split at cut
          · rename_i here
            simp only [Option.some.injEq, Prod.mk.injEq] at cut
            obtain ⟨rfl, rfl⟩ := cut
            exact ⟨by rw [here, List.nil_append], splitLast?_eq_none_iff.mp found⟩
          · cases cut

theorem splitLast?_eq_some_iff {separator : Char} {text before after : List Char} :
    splitLast? separator text = some (before, after) ↔
      text = before ++ separator :: after ∧ separator ∉ after := by
  constructor
  · exact eq_append_of_splitLast?
  · rintro ⟨rfl, last⟩
    exact splitLast?_append last

theorem eq_append_of_splitFirst? {separator text before after : List Char}
    (cut : splitFirst? separator text = some (before, after)) :
    text = before ++ separator ++ after := by
  induction text generalizing before with
  | nil =>
      simp only [splitFirst?] at cut
      split at cut
      · rename_i empty
        simp only [Option.some.injEq, Prod.mk.injEq] at cut
        obtain ⟨rfl, rfl⟩ := cut
        simp [empty]
      · cases cut
  | cons c rest ih =>
      simp only [splitFirst?] at cut
      split at cut
      · rename_i starts
        simp only [Option.some.injEq, Prod.mk.injEq] at cut
        obtain ⟨rfl, rfl⟩ := cut
        obtain ⟨tail, whole⟩ := List.isPrefixOf_iff_prefix.mp starts
        rw [← whole]
        simp
      · obtain ⟨⟨left, right⟩, found, pair⟩ := Option.map_eq_some_iff.mp cut
        simp only [Prod.mk.injEq] at pair
        obtain ⟨rfl, rfl⟩ := pair
        rw [ih found, List.cons_append, List.cons_append]

theorem splitFirst?_append {first : Char} {separator before : List Char} (unbroken : first ∉ before)
    (after : List Char) :
    splitFirst? (first :: separator) (before ++ (first :: separator) ++ after) =
      some (before, after) := by
  induction before with
  | nil => simp [splitFirst?]
  | cons c before ih =>
      simp only [List.mem_cons, not_or] at unbroken
      have apart : (first == c) = false := by simpa using unbroken.1
      rw [List.append_assoc] at ih ⊢
      rw [List.cons_append, splitFirst?, List.isPrefixOf, apart, Bool.false_and,
        if_neg Bool.false_ne_true, ih unbroken.2]
      rfl

theorem trimEnd_sublist (drop : Char → Bool) (text : List Char) :
    (trimEnd drop text).Sublist text := by
  rw [trimEnd, ← List.reverse_sublist, List.reverse_reverse]
  exact List.dropWhile_sublist drop

theorem not_drop_of_getLast?_trimEnd {drop : Char → Bool} {text : List Char} {c : Char}
    (last : (trimEnd drop text).getLast? = some c) : drop c = false := by
  have outside := List.head?_dropWhile_not drop text.reverse
  rw [trimEnd, List.getLast?_reverse] at last
  rw [last] at outside
  simpa using outside

theorem trimEnd_append_run {drop : Char → Bool} {run : List Char}
    (inside : ∀ c ∈ run, drop c = true) (text : List Char) :
    trimEnd drop (text ++ run) = trimEnd drop text := by
  rw [trimEnd, trimEnd, List.reverse_append,
    List.dropWhile_append_of_pos fun c member => inside c (List.mem_reverse.mp member)]

/-- The text in front of a run at its end, if it does not end in such a run itself. -/
theorem trimEnd_append {drop : Char → Bool} {text run : List Char}
    (inside : ∀ c ∈ run, drop c = true) (stop : ∀ c, text.getLast? = some c → drop c = false) :
    trimEnd drop (text ++ run) = text := by
  have kept : text.reverse.dropWhile drop = text.reverse := by
    cases reversed : text.reverse with
    | nil => rfl
    | cons c rest =>
        have last : text.getLast? = some c := by
          rw [← List.head?_reverse, reversed, List.head?_cons]
        rw [List.dropWhile_cons_of_neg (by simp [stop c last])]
  rw [trimEnd_append_run inside, trimEnd, kept, List.reverse_reverse]

theorem trimEnd_append_cons {drop : Char → Bool} {c : Char} (stays : drop c = false)
    (front rest : List Char) : trimEnd drop (front ++ c :: rest) = front ++ c :: trimEnd drop rest := by
  have reversed : (front ++ c :: rest).reverse = rest.reverse ++ c :: front.reverse := by simp
  rw [trimEnd, trimEnd, reversed, List.dropWhile_append]
  split
  · rename_i empty
    rw [List.dropWhile_cons_of_neg (by simp [stays]), List.isEmpty_iff.mp empty]
    simp
  · simp

end DexMembers.Text
