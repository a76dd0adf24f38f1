import DexMembers.Member.SyntheticNumber
import DexMembers.Proofs.Text.Span
import Mathlib.Data.List.Basic
import Mathlib.Data.List.TakeWhile

/-!
# Where counters stand

A counter is a dollar sign and the digits behind it.  One at the end of a name is found by a cut at
the last dollar sign, one inside of a name by a search from its start.  What either finds is said
here of the parts of a name: the counter at the end is the only one there can be, and the inner
counter is the one with the fewest characters in front of it.
-/

set_option autoImplicit false

namespace DexMembers.SyntheticNumber

variable {name front digits back : List Char}

theorem all_of_isDigits (run : isDigits digits = true) : ∀ c ∈ digits, c.isDigit = true := by
  rw [isDigits, Bool.and_eq_true, List.all_eq_true] at run
  exact run.2

theorem ne_nil_of_isDigits (run : isDigits digits = true) : digits ≠ [] := by
  rintro rfl
  cases run

theorem not_mem_of_isDigits {c : Char} (noDigit : c.isDigit = false)
    (run : isDigits digits = true) : c ∉ digits := by
  intro member
  rw [all_of_isDigits run c member] at noDigit
  cases noDigit

theorem isDigits_takeWhile {text : List Char} (nonempty : text.takeWhile Char.isDigit ≠ []) :
    isDigits (text.takeWhile Char.isDigit) = true := by
  rw [isDigits, Bool.and_eq_true, Bool.not_eq_true', List.isEmpty_eq_false_iff]
  exact ⟨nonempty, List.all_takeWhile⟩

theorem ne_append_of_last {c : Char} (last : name.getLast? = some c) (noDigit : c.isDigit = false)
    (run : isDigits digits = true) : name ≠ front ++ '$' :: digits := by
  rintro rfl
  rw [List.append_cons, List.getLast?_append_of_ne_nil _ (ne_nil_of_isDigits run)] at last
  exact not_mem_of_isDigits noDigit run (List.mem_of_getLast? last)

/-- The second name is the first one, or the first one without one counter. -/
inductive LosesCounter : List Char → List Char → Prop
  | same (name : List Char) : LosesCounter name name
  | counter (front digits back : List Char) (run : isDigits digits = true) :
      LosesCounter (front ++ '$' :: digits ++ back) (front ++ back)

theorem LosesCounter.mem_iff {left : List Char} (loses : LosesCounter name left) {c : Char}
    (other : c ≠ '$') (noDigit : c.isDigit = false) : c ∈ left ↔ c ∈ name := by
  cases loses with
  | same => rfl
  | counter front digits back run => simp [other, not_mem_of_isDigits noDigit run]

/-! ### At the end -/

/-- The name without the counter at its end, if what stands in front of it is to be kept. -/
def dropEnd (keep : List Char → Prop) [DecidablePred keep] (name : List Char) : List Char :=
  match Text.splitLast? '$' name with
  | some (before, digits) => if keep before ∧ isDigits digits then before else name
  | none => name

theorem dropLast_eq_dropEnd (name : List Char) : dropLast name = dropEnd (· ≠ []) name := rfl

theorem dropFromClass_eq_dropEnd (name : List Char) :
    dropFromClass name = dropEnd (fun before => lambdaClassMark.isSuffixOf before) name := rfl

section DropEnd

variable {keep : List Char → Prop} [DecidablePred keep]

theorem dropEnd_append (kept : keep front) (run : isDigits digits = true) :
    dropEnd keep (front ++ '$' :: digits) = front := by
  have last : '$' ∉ digits := not_mem_of_isDigits (by decide) run
  rw [dropEnd, Text.splitLast?_append last]
  exact if_pos ⟨kept, run⟩

theorem dropEnd_eq_self (none : ∀ front digits, keep front → isDigits digits = true →
    name ≠ front ++ '$' :: digits) : dropEnd keep name = name := by
  rw [dropEnd]
  split
  · rename_i before after cut
    apply if_neg
    rintro ⟨kept, run⟩
    exact none before after kept run (Text.eq_append_of_splitLast? cut).1
  · rfl

theorem dropEnd_cases (keep : List Char → Prop) [DecidablePred keep] (name : List Char) :
    (∃ front digits, keep front ∧ isDigits digits = true ∧ name = front ++ '$' :: digits ∧
      dropEnd keep name = front) ∨
    ((∀ front digits, keep front → isDigits digits = true → name ≠ front ++ '$' :: digits) ∧
      dropEnd keep name = name) := by
  by_cases ends : ∃ front digits, keep front ∧ isDigits digits = true ∧
      name = front ++ '$' :: digits
  · obtain ⟨front, digits, kept, run, rfl⟩ := ends
    exact Or.inl ⟨front, digits, kept, run, rfl, dropEnd_append kept run⟩
  · have none : ∀ front digits, keep front → isDigits digits = true →
        name ≠ front ++ '$' :: digits := by
      intro front digits kept run whole
      exact ends ⟨front, digits, kept, run, whole⟩
    exact Or.inr ⟨none, dropEnd_eq_self none⟩

theorem losesCounter_dropEnd (name : List Char) : LosesCounter name (dropEnd keep name) := by
  rcases dropEnd_cases keep name with ⟨front, digits, _, run, whole, left⟩ | ⟨_, left⟩
  · have loses := LosesCounter.counter front digits [] run
    rw [List.append_nil, List.append_nil, ← whole] at loses
    rwa [left]
  · rw [left]
    exact .same name

end DropEnd

/-! ### Inside -/

/-- Digits stand between two dollar signs: the first one behind `front`, and with the second one
`back` begins. -/
structure InnerCounter (name front digits back : List Char) : Prop where
  parts : name = front ++ '$' :: digits ++ back
  run : isDigits digits = true
  next : back.head? = some '$'

/-- No inner counter has fewer characters in front of it. -/
structure FirstInner (name front digits back : List Char) : Prop
    extends InnerCounter name front digits back where
  shortest : ∀ otherFront otherDigits otherBack,
    InnerCounter name otherFront otherDigits otherBack → front.length ≤ otherFront.length

namespace InnerCounter

theorem cons (inner : InnerCounter name front digits back) (c : Char) :
    InnerCounter (c :: name) (c :: front) digits back :=
  ⟨congrArg (c :: ·) inner.parts, inner.run, inner.next⟩

theorem takeWhile_eq (inner : InnerCounter name front digits back) :
    (digits ++ back).takeWhile Char.isDigit = digits ∧
      (digits ++ back).dropWhile Char.isDigit = back := by
  have stop : Text.StopsAt Char.isDigit back := by
    intro c first
    rw [inner.next] at first
    cases first
    rfl
  have digit := all_of_isDigits inner.run
  exact ⟨Text.takeWhile_run digit stop, Text.dropWhile_run digit stop⟩

/-- An inner counter is the first thing in the name, or one of what follows its first character. -/
theorem head_or_tail {c : Char} {rest : List Char}
    (inner : InnerCounter (c :: rest) front digits back) :
    (c = '$' ∧ rest.takeWhile Char.isDigit ≠ [] ∧
      (rest.dropWhile Char.isDigit).head? = some '$') ∨
    ∃ others, front = c :: others ∧ InnerCounter rest others digits back := by
  obtain ⟨taken, left⟩ := inner.takeWhile_eq
  have parts := inner.parts
  cases front with
  | nil =>
      rw [List.nil_append, List.cons_append, List.cons.injEq] at parts
      obtain ⟨rfl, rfl⟩ := parts
      rw [taken, left]
      exact Or.inl ⟨rfl, ne_nil_of_isDigits inner.run, inner.next⟩
  | cons first others =>
      rw [List.cons_append, List.cons_append, List.cons.injEq] at parts
      obtain ⟨rfl, rest⟩ := parts
      exact Or.inr ⟨others, rfl, rest, inner.run, inner.next⟩

end InnerCounter

theorem FirstInner.unique {otherFront otherDigits otherBack : List Char}
    (first : FirstInner name front digits back)
    (other : FirstInner name otherFront otherDigits otherBack) :
    front = otherFront ∧ digits = otherDigits ∧ back = otherBack := by
  have length : front.length = otherFront.length :=
    Nat.le_antisymm (first.shortest _ _ _ other.toInnerCounter)
      (other.shortest _ _ _ first.toInnerCounter)
  have same := first.parts.symm.trans other.parts
  rw [List.append_assoc, List.append_assoc] at same
  obtain ⟨fronts, behind⟩ := List.append_inj same length
  rw [List.cons_append, List.cons_append, List.cons.injEq] at behind
  refine ⟨fronts, ?_, ?_⟩
  · rw [← first.takeWhile_eq.1, behind.2, other.takeWhile_eq.1]
  · rw [← first.takeWhile_eq.2, behind.2, other.takeWhile_eq.2]

theorem dropInner_cases (name : List Char) :
    (∃ front digits back, FirstInner name front digits back ∧ dropInner name = front ++ back) ∨
    ((∀ front digits back, ¬ InnerCounter name front digits back) ∧ dropInner name = name) := by
  induction name with
  | nil =>
      refine Or.inr ⟨?_, rfl⟩
      intro front digits back inner
      have length := congrArg List.length inner.parts
      simp at length
  | cons c rest ih =>
      rw [dropInner]
      split
      · rename_i counter
        obtain ⟨rfl, nonempty, next⟩ := counter
        have parts : '$' :: rest =
            [] ++ '$' :: rest.takeWhile Char.isDigit ++ rest.dropWhile Char.isDigit := by
          rw [List.nil_append, List.cons_append, List.takeWhile_append_dropWhile]
        exact Or.inl ⟨[], _, _, ⟨⟨parts, isDigits_takeWhile nonempty, next⟩,
          fun _ _ _ _ => Nat.zero_le _⟩, rfl⟩
      · rename_i noCounter
        rcases ih with ⟨front, digits, back, first, left⟩ | ⟨none, left⟩
        · refine Or.inl ⟨c :: front, digits, back, ⟨first.cons c, ?_⟩, congrArg (c :: ·) left⟩
          intro otherFront otherDigits otherBack inner
          rcases inner.head_or_tail with here | ⟨others, rfl, later⟩
          · exact absurd here noCounter
          · exact Nat.succ_le_succ (first.shortest _ _ _ later)
        · refine Or.inr ⟨?_, congrArg (c :: ·) left⟩
          intro front digits back inner
          rcases inner.head_or_tail with here | ⟨others, rfl, later⟩
          · exact noCounter here
          · exact none _ _ _ later

theorem FirstInner.dropInner_eq (first : FirstInner name front digits back) :
    dropInner name = front ++ back := by
  rcases dropInner_cases name with ⟨_, _, _, other, left⟩ | ⟨none, _⟩
  · obtain ⟨rfl, rfl, rfl⟩ := first.unique other
    exact left
  · exact absurd first.toInnerCounter (none _ _ _)

theorem dropInner_eq_self (none : ∀ front digits back, ¬ InnerCounter name front digits back) :
    dropInner name = name := by
  rcases dropInner_cases name with ⟨_, _, _, first, _⟩ | ⟨_, left⟩
  · exact absurd first.toInnerCounter (none _ _ _)
  · exact left

theorem losesCounter_dropInner (name : List Char) : LosesCounter name (dropInner name) := by
  rcases dropInner_cases name with ⟨front, digits, back, first, left⟩ | ⟨_, left⟩
  · rw [left, first.parts]
    exact .counter front digits back first.run
  · rw [left]
    exact .same name

theorem dropInner_append_of_not_mem (unmarked : '$' ∉ front) (rest : List Char) :
    dropInner (front ++ rest) = front ++ dropInner rest := by
  induction front with
  | nil => rfl
  | cons c front ih =>
      rw [List.mem_cons, not_or] at unmarked
      rw [List.cons_append, dropInner, ih unmarked.2]
      exact if_neg fun counter => unmarked.1 counter.1.symm

/-- The dollar sign of a counter goes, and that of the next one takes its place. -/
theorem head?_dropInner_dollar (rest : List Char) :
    (dropInner ('$' :: rest)).head? = some '$' := by
  rw [dropInner]
  split
  · rename_i counter
    exact counter.2.2
  · rfl

/-! ### In names of methods and classes -/

theorem dropFromMethod_of_body (body : lambdaMark <+: name) :
    dropFromMethod name = dropInner name :=
  if_pos (List.isPrefixOf_iff_prefix.mpr body)

theorem dropFromMethod_of_noBody (noBody : ¬ lambdaMark <+: name) :
    dropFromMethod name = dropEnd (· ≠ []) name :=
  (if_neg (by rwa [List.isPrefixOf_iff_prefix])).trans (dropLast_eq_dropEnd name)

theorem dropFromMethod_last (nonempty : front ≠ []) (run : isDigits digits = true)
    (noBody : ¬ lambdaMark <+: front ++ '$' :: digits) :
    dropFromMethod (front ++ '$' :: digits) = front := by
  rw [dropFromMethod_of_noBody noBody]
  exact dropEnd_append nonempty run

theorem dropFromClass_of_counter (run : isDigits digits = true) :
    dropFromClass (front ++ lambdaClassMark ++ '$' :: digits) = front ++ lambdaClassMark := by
  have mark : lambdaClassMark <:+ front ++ lambdaClassMark := List.suffix_append _ _
  exact dropEnd_append (List.isSuffixOf_iff_suffix.mpr mark) run

theorem losesCounter_dropFromMethod (name : List Char) :
    LosesCounter name (dropFromMethod name) := by
  rw [dropFromMethod]
  split
  · exact losesCounter_dropInner name
  · exact losesCounter_dropEnd name

end DexMembers.SyntheticNumber
