import DexMembers.Proofs.Mapping.Run
import DexMembers.Proofs.Text.Span
import Mathlib.Data.List.TakeWhile

/-!
# Blank lines, comments and carriage returns

Lines that say nothing may be added to a mapping file and taken from it, anywhere, and any line may
be given carriage returns at its end.  The mapping stays the same, and so does the failure, which is
then met at the new number of the same line.
-/

set_option autoImplicit false

namespace DexMembers.Mapping

inductive SilentLine : List Char → Prop
  | blank {line : List Char} (blanks : ∀ c ∈ line, Text.isBlank c = true) : SilentLine line
  | comment {indent : List Char} (blanks : ∀ c ∈ indent, Text.isBlank c = true)
      (rest : List Char) : SilentLine (indent ++ '#' :: rest)

/-- The lines of a text and of another, which may have further carriage returns at the ends of its
lines, and other silent lines. -/
inductive Respaced : List (List Char) → List (List Char) → Prop
  | nil : Respaced [] []
  | kept (line : List Char) (returns : Nat) {rest others : List (List Char)}
      (behind : Respaced rest others) :
      Respaced (line :: rest) ((line ++ List.replicate returns '\r') :: others)
  | inserted {line : List Char} (silent : SilentLine line) {rest others : List (List Char)}
      (behind : Respaced rest others) : Respaced rest (line :: others)
  | deleted {line : List Char} (silent : SilentLine line) {rest others : List (List Char)}
      (behind : Respaced rest others) : Respaced (line :: rest) others

inductive SameLine : List (List Char) → List (List Char) → Nat → Nat → Prop
  | mk {above aboveOther below belowOther : List (List Char)} (line : List Char) (returns : Nat)
      (before : Respaced above aboveOther) (behind : Respaced below belowOther) :
      SameLine (above ++ line :: below)
        (aboveOther ++ (line ++ List.replicate returns '\r') :: belowOther)
        (above.length + 1) (aboveOther.length + 1)

theorem Respaced.append {above aboveOther below belowOther : List (List Char)}
    (before : Respaced above aboveOther) (behind : Respaced below belowOther) :
    Respaced (above ++ below) (aboveOther ++ belowOther) := by
  induction before with
  | nil => exact behind
  | kept line returns _ ih => exact .kept line returns ih
  | inserted silent _ ih => exact .inserted silent ih
  | deleted silent _ ih => exact .deleted silent ih

/-! ### Lines without their carriage returns -/

theorem trimEnd_append_returns (line : List Char) (returns : Nat) :
    Text.trimEnd (· = '\r') (line ++ List.replicate returns '\r') =
      Text.trimEnd (· = '\r') line := by
  apply Text.trimEnd_append_run
  intro c member
  exact decide_eq_true (List.eq_of_mem_replicate member)

theorem SilentLine.role {line : List Char} (silent : SilentLine line) :
    LineRole.of line = .nothing := by
  cases silent with
  | blank blanks =>
      have nothing : line.dropWhile Text.isBlank = [] := List.dropWhile_eq_nil_iff.mpr blanks
      rw [LineRole.of, nothing]
  | comment blanks rest =>
      have stop : Text.StopsAt Text.isBlank ('#' :: rest) := Text.stopsAt_cons (by decide)
      rw [LineRole.of, Text.dropWhile_run blanks stop]
      exact if_pos rfl

theorem SilentLine.trimmed {line : List Char} (silent : SilentLine line) :
    SilentLine (Text.trimEnd (· = '\r') line) := by
  cases silent with
  | blank blanks =>
      exact .blank fun c member => blanks c ((Text.trimEnd_sublist _ line).subset member)
  | comment blanks rest =>
      rw [Text.trimEnd_append_cons (by decide)]
      exact .comment blanks _

/-! ### Runs over respaced lines -/

/-- Silent lines change nothing, and all others are read without their carriage returns. -/
theorem Respaced.readLines {lines others : List (List Char)} (respaced : Respaced lines others)
    {progress next : Progress} {number : Nat} (place : Nat)
    (run : progress.readLines number (lines.map (Text.trimEnd (· = '\r'))) = .ok next) :
    progress.readLines place (others.map (Text.trimEnd (· = '\r'))) = .ok next := by
  induction respaced generalizing progress number place with
  | nil => exact run
  | kept line returns _ ih =>
      rw [List.map_cons, Progress.readLines_cons] at run ⊢
      obtain ⟨after, first, rest⟩ := eq_ok_of_bind_eq_ok run
      rw [trimEnd_append_returns, Progress.readLine_renumber progress number, first]
      exact ih (place + 1) rest
  | inserted silent _ ih =>
      rw [List.map_cons, Progress.readLines_cons,
        Progress.readLine_of_nothing silent.trimmed.role]
      exact ih (place + 1) run
  | deleted silent _ ih =>
      rw [List.map_cons, Progress.readLines_cons,
        Progress.readLine_of_nothing silent.trimmed.role] at run
      exact ih place run

theorem Respaced.exists_of_heard {lines others : List (List Char)}
    (respaced : Respaced lines others) {above below : List (List Char)} {line : List Char}
    (split : lines = above ++ line :: below) (heard : ¬ SilentLine line) :
    ∃ aboveOther returns belowOther,
      others = aboveOther ++ (line ++ List.replicate returns '\r') :: belowOther ∧
        Respaced above aboveOther ∧ Respaced below belowOther := by
  induction respaced generalizing above with
  | nil => cases above <;> cases split
  | kept first returns behind ih =>
      cases above with
      | nil =>
          obtain ⟨rfl, rfl⟩ := List.cons.inj split
          exact ⟨[], returns, _, rfl, .nil, behind⟩
      | cons head above =>
          obtain ⟨rfl, rest⟩ := List.cons.inj split
          obtain ⟨aboveOther, added, belowOther, rfl, before, after⟩ := ih rest
          exact ⟨_ :: aboveOther, added, belowOther, rfl, .kept first returns before, after⟩
  | inserted silent _ ih =>
      obtain ⟨aboveOther, added, belowOther, rfl, before, after⟩ := ih split
      exact ⟨_ :: aboveOther, added, belowOther, rfl, .inserted silent before, after⟩
  | deleted silent _ ih =>
      cases above with
      | nil =>
          obtain ⟨rfl, _⟩ := List.cons.inj split
          exact absurd silent heard
      | cons head above =>
          obtain ⟨rfl, rest⟩ := List.cons.inj split
          obtain ⟨aboveOther, added, belowOther, rfl, before, after⟩ := ih rest
          exact ⟨aboveOther, added, belowOther, rfl, .deleted silent before, after⟩

variable {lines others : List (List Char)} {failure : MappingFailure}

/-- The line of a failure is the line that it numbers, and it is not silent. -/
theorem exists_heard_of_readLines_eq_error
    (failed : ({} : Progress).readLines 1 (lines.map (Text.trimEnd (· = '\r'))) =
      .error failure) :
    ∃ above line below, lines = above ++ line :: below ∧ ¬ SilentLine line ∧
      failure.line = above.length + 1 := by
  obtain ⟨_, _, _, next, split, _, here, number⟩ :=
    Progress.exists_line_of_readLines_eq_error failed
  obtain ⟨above, rest, rfl, rfl, tails⟩ := List.map_eq_append_iff.mp split
  obtain ⟨line, below, rfl, rfl, rfl⟩ := List.map_eq_cons_iff.mp tails
  refine ⟨above, line, below, rfl, ?_, ?_⟩
  · intro silent
    rw [Progress.readLine_of_nothing silent.trimmed.role] at here
    cases here
  · rw [number, List.length_map, Nat.add_comm]

theorem Respaced.exists_sameLine (respaced : Respaced lines others)
    (failed : ({} : Progress).readLines 1 (lines.map (Text.trimEnd (· = '\r'))) =
      .error failure) :
    ∃ place, SameLine lines others failure.line place := by
  obtain ⟨above, line, below, rfl, heard, number⟩ := exists_heard_of_readLines_eq_error failed
  obtain ⟨aboveOther, returns, belowOther, rfl, before, behind⟩ :=
    respaced.exists_of_heard rfl heard
  rw [number]
  exact ⟨_, .mk line returns before behind⟩

/-- Above the line of a failure both runs come as far, and at the line both fail. -/
theorem SameLine.readLines_eq_error {number place : Nat}
    (same : SameLine lines others number place)
    (failed : ({} : Progress).readLines 1 (lines.map (Text.trimEnd (· = '\r'))) =
      .error failure) (here : failure.line = number) :
    ({} : Progress).readLines 1 (others.map (Text.trimEnd (· = '\r'))) =
      .error { failure with line := place } := by
  obtain ⟨line, returns, before, behind⟩ := same
  obtain ⟨_, _, _, next, split, run, refused, numbered⟩ :=
    Progress.exists_line_of_readLines_eq_error failed
  rw [List.map_append, List.map_cons] at split
  obtain ⟨rfl, tails⟩ := List.append_inj split (by rw [List.length_map]; omega)
  obtain ⟨rfl, rfl⟩ := List.cons.inj tails
  rw [List.map_append, List.map_cons, Progress.readLines_append, before.readLines 1 run,
    Except.ok_bind, Progress.readLines_cons, trimEnd_append_returns,
    Progress.readLine_renumber next failure.line, refused, List.length_map, Nat.add_comm 1]
  rfl

/-- A text that differs in blank lines, comments and carriage returns only has the same mapping.  If
there is none it fails in the same way at the same line, whose number is its number there. -/
theorem read_respaced (text other : String)
    (respaced : Respaced (Text.splitAll '\n' text.toList) (Text.splitAll '\n' other.toList)) :
    (∀ mapping, read text = .ok mapping → read other = .ok mapping) ∧
    ∀ failure, read text = .error failure →
      (∃ place, SameLine (Text.splitAll '\n' text.toList) (Text.splitAll '\n' other.toList)
        failure.line place) ∧
      ∀ place, SameLine (Text.splitAll '\n' text.toList) (Text.splitAll '\n' other.toList)
        failure.line place → read other = .error { failure with line := place } := by
  simp only [read_eq_map]
  constructor
  · intro mapping readable
    obtain ⟨progress, run, rfl⟩ := eq_ok_of_map_eq_ok readable
    rw [Mapping.lines, respaced.readLines 1 run]
    rfl
  · intro failure unreadable
    have failed := eq_error_of_map_eq_error unreadable
    refine ⟨respaced.exists_sameLine failed, ?_⟩
    intro place same
    rw [Mapping.lines, same.readLines_eq_error failed rfl]
    rfl

/-- Between a class and its members, above it and below them there may be other silent lines, and
lines may end in carriage returns. -/
theorem read_respaced_around_members :
    let text := "# old\ngeo.Point -> a:\n    int x -> c\n# end"
    let other := "\u3000\ngeo.Point -> a:\r\n  # fields\r\n\n    int x -> c\r\r"
    let unreadable := "# old\ngeo.Point -> a:\n    int x => c"
    let further := "geo.Point -> a:\r\n\n  # fields\n    int x => c\r"
    (∃ mapping, read text = .ok mapping ∧ read other = .ok mapping) ∧
      read unreadable = .error { line := 3, role := .memberLine, text := "    int x => c" } ∧
      read further = .error { line := 4, role := .memberLine, text := "    int x => c" } := by
  intro text other unreadable further
  let start := "geo.Point -> a:".toList
  let field := "    int x -> c".toList
  let broken := "    int x => c".toList
  have comment : ∀ rest, SilentLine ("  ".toList ++ '#' :: rest) :=
    SilentLine.comment (List.all_eq_true.mp (by decide))
  have unindented : ∀ rest, SilentLine ([] ++ '#' :: rest) := SilentLine.comment (by simp)
  have empty : SilentLine [] := .blank (by simp)
  have space : SilentLine ['\u3000'] := .blank (List.all_eq_true.mp (by decide))
  have respaced : Respaced (Text.splitAll '\n' text.toList) (Text.splitAll '\n' other.toList) := by
    have before : Text.splitAll '\n' text.toList =
        ['#' :: " old".toList, start, field, '#' :: " end".toList] := by decide
    have behind : Text.splitAll '\n' other.toList =
        [['\u3000'], start ++ List.replicate 1 '\r', "  ".toList ++ '#' :: " fields\r".toList, [],
          field ++ List.replicate 2 '\r'] := by decide
    rw [before, behind]
    exact .deleted (unindented _) <| .inserted space <| .kept start 1 <| .inserted (comment _) <|
      .inserted empty <| .kept field 2 <| .deleted (unindented _) .nil
  have before : Text.splitAll '\n' unreadable.toList = ['#' :: " old".toList, start, broken] := by
    decide
  have behind : Text.splitAll '\n' further.toList =
      [start ++ List.replicate 1 '\r', [], "  ".toList ++ '#' :: " fields".toList,
        broken ++ List.replicate 1 '\r'] := by decide
  have above : Respaced ['#' :: " old".toList, start]
      [start ++ List.replicate 1 '\r', [], "  ".toList ++ '#' :: " fields".toList] :=
    .deleted (unindented _) <| .kept start 1 <| .inserted empty <| .inserted (comment _) .nil
  have same : SameLine (Text.splitAll '\n' unreadable.toList) (Text.splitAll '\n' further.toList)
      3 4 := by
    rw [before, behind]
    exact .mk broken 1 above .nil
  have whole : Respaced (Text.splitAll '\n' unreadable.toList)
      (Text.splitAll '\n' further.toList) := by
    rw [before, behind]
    exact above.append (.kept broken 1 .nil)
  let point : ClassEntry :=
    { original := .object "geo/Point"
      fields := ({} : Dictionary String String).insert "c" "x" }
  let classes := ({} : Dictionary Descriptor ClassEntry).insert (.object "a") point
  have readable : read text = .ok { classes } := by decide +kernel
  have failed : read unreadable =
      .error { line := 3, role := .memberLine, text := "    int x => c" } := by decide +kernel
  exact ⟨⟨_, readable, (read_respaced text other respaced).1 _ readable⟩, failed,
    ((read_respaced unreadable further whole).2 _ failed).2 4 same⟩

end DexMembers.Mapping
