import DexMembers.Mapping.Reader
import DexMembers.Proofs.Outcome

/-!
# Reading a mapping file line by line

A run over lines is a run over the first of them and then over the others, and it ends at the first
line that cannot be read.  What every line keeps, the whole run keeps.
-/

set_option autoImplicit false

namespace DexMembers.Mapping

/-! ### Lines of two texts -/

theorem lines_append (first second : List Char) :
    lines (first ++ '\n' :: second) = lines first ++ lines second := by
  rw [lines, Text.splitAll_append, List.map_append]
  rfl

theorem length_lines (text : List Char) : (lines text).length = text.count '\n' + 1 := by
  rw [lines, List.length_map, Text.length_splitAll]

/-! ### Lines one after the other -/

namespace Progress

theorem readLines_cons (progress : Progress) (number : Nat) (line : List Char)
    (rest : List (List Char)) :
    progress.readLines number (line :: rest) =
      progress.readLine number line >>= fun next => next.readLines (number + 1) rest := by
  rw [readLines]
  cases progress.readLine number line <;> rfl

theorem readLines_append (progress : Progress) (number : Nat) (first rest : List (List Char)) :
    progress.readLines number (first ++ rest) =
      progress.readLines number first >>= fun next =>
        next.readLines (number + first.length) rest := by
  induction first generalizing progress number with
  | nil => rfl
  | cons line first ih =>
      rw [List.cons_append, readLines_cons, readLines_cons]
      cases progress.readLine number line with
      | error failure => rfl
      | ok next =>
          rw [Except.ok_bind, Except.ok_bind, ih, List.length_cons, Nat.add_assoc, Nat.add_comm 1]

theorem readLine_renumber (progress : Progress) (number place : Nat) (line : List Char) :
    progress.readLine place line =
      (progress.readLine number line).mapError fun failure => { failure with line := place } := by
  rw [Progress.readLine, Progress.readLine]
  cases LineRole.of line with
  | nothing => rfl
  | typeLine => cases TypeLine.read? line <;> rfl
  | memberLine =>
      cases MemberLine.read? line with
      | none => rfl
      | some member => cases progress.current <;> rfl

theorem readLine_of_nothing {line : List Char} (role : LineRole.of line = .nothing)
    (progress : Progress) (number : Nat) : progress.readLine number line = .ok progress := by
  rw [Progress.readLine, role]

theorem line_of_readLine_eq_error {progress : Progress} {number : Nat} {line : List Char}
    {failure : MappingFailure} (failed : progress.readLine number line = .error failure) :
    failure.line = number := by
  rw [readLine_renumber progress 0] at failed
  obtain ⟨other, _, rfl⟩ := eq_error_of_mapError_eq_error failed
  rfl

theorem exists_line_of_readLines_eq_error {progress : Progress} {number : Nat}
    {rest : List (List Char)} {failure : MappingFailure}
    (failed : progress.readLines number rest = .error failure) :
    ∃ above line below next, rest = above ++ line :: below ∧
      progress.readLines number above = .ok next ∧
      next.readLine failure.line line = .error failure ∧ failure.line = number + above.length := by
  induction rest generalizing progress number with
  | nil => cases failed
  | cons line rest ih =>
      rw [readLines_cons] at failed
      rcases eq_error_of_bind_eq_error failed with here | ⟨after, first, later⟩
      · have place := line_of_readLine_eq_error here
        exact ⟨[], line, rest, progress, rfl, rfl, place ▸ here, place⟩
      · obtain ⟨above, bad, below, next, rfl, run, here, place⟩ := ih later
        refine ⟨line :: above, bad, below, next, rfl, ?_, here, ?_⟩
        · rw [readLines_cons, first, Except.ok_bind, run]
        · rw [place, List.length_cons]
          omega

end Progress

theorem read_eq_map (text : String) :
    read text = (({} : Progress).readLines 1 (lines text.toList)).map fun progress =>
      { classes := progress.classes } := by
  rw [read]
  cases ({} : Progress).readLines 1 (lines text.toList) <;> rfl

/-! ### What every line keeps -/

def EveryEntry (Holds : Descriptor → ClassEntry → Prop)
    (classes : Dictionary Descriptor ClassEntry) : Prop :=
  ∀ renamed entry, classes.find? renamed = some entry → Holds renamed entry

/-- A class is as said when the line begins it, and stays so when the line adds a member. -/
structure KeptBy (Holds : Descriptor → ClassEntry → Prop) (line : List Char) : Prop where
  opened : ∀ parts, TypeLine.read? line = some parts →
    Holds (.ofWritten parts.renamed) { original := .ofWritten parts.original }
  extended : ∀ parts, MemberLine.read? line = some parts →
    ∀ renamed entry, Holds renamed entry → Holds renamed (entry.insert parts)

structure Progress.Every (Holds : Descriptor → ClassEntry → Prop) (progress : Progress) : Prop where
  finished : EveryEntry Holds progress.finished
  current : ∀ renamed entry, progress.current = some (renamed, entry) → Holds renamed entry

section Every

variable {Holds : Descriptor → ClassEntry → Prop} {progress next : Progress} {number : Nat}

theorem Progress.Every.classes (every : progress.Every Holds) :
    EveryEntry Holds progress.classes := by
  rw [Progress.classes]
  split
  · rename_i renamed entry current
    intro type other found
    rw [Dictionary.find?_insert] at found
    split at found
    · rename_i same
      cases found
      rw [same]
      exact every.current renamed entry current
    · exact every.finished type other found
  · exact every.finished

theorem Progress.Every.readLine {line : List Char} (every : progress.Every Holds)
    (kept : KeptBy Holds line) (read : progress.readLine number line = .ok next) :
    next.Every Holds := by
  rw [Progress.readLine] at read
  dsimp only at read
  split at read
  · cases read
    exact every
  · split at read
    · cases read
    · rename_i original renamed parts
      cases read
      refine ⟨every.classes, ?_⟩
      rintro _ _ ⟨⟩
      exact kept.opened _ parts
  · split at read
    · rename_i member renamed entry parts current
      cases read
      refine ⟨every.finished, ?_⟩
      rintro _ _ ⟨⟩
      exact kept.extended member parts renamed entry (every.current renamed entry current)
    · cases read

theorem Progress.Every.readLines {rest : List (List Char)} (every : progress.Every Holds)
    (kept : ∀ line ∈ rest, KeptBy Holds line) (read : progress.readLines number rest = .ok next) :
    next.Every Holds := by
  induction rest generalizing progress number with
  | nil =>
      cases read
      exact every
  | cons line rest ih =>
      rw [List.forall_mem_cons] at kept
      rw [readLines_cons] at read
      obtain ⟨after, first, others⟩ := eq_ok_of_bind_eq_ok read
      exact ih (every.readLine kept.1 first) kept.2 others

theorem everyEntry_of_read {text : String} {mapping : Mapping}
    (kept : ∀ line ∈ lines text.toList, KeptBy Holds line) (readable : read text = .ok mapping) :
    EveryEntry Holds mapping.classes := by
  rw [read_eq_map] at readable
  obtain ⟨progress, run, rfl⟩ := eq_ok_of_map_eq_ok readable
  have start : ({} : Progress).Every Holds := by
    constructor
    · intro renamed entry found
      cases found
    · intro renamed entry current
      cases current
  exact (start.readLines kept run).classes

end Every

end DexMembers.Mapping
