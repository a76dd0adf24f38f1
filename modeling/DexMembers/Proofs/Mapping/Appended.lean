import DexMembers.Proofs.Mapping.Run
import DexMembers.Proofs.Text.Span

/-!
# Mapping files one behind the other

A mapping file that goes on in a second text keeps the failure of the first.  If the second text
begins with a class line, neither text says anything about the classes of the other: the file has
the entries of both, those of the second in place of the first's, and it fails where the second
does, so many lines later.
-/

set_option autoImplicit false

namespace DexMembers

def MappingFailure.later (failure : MappingFailure) (lines : Nat) : MappingFailure :=
  { failure with line := failure.line + lines }

namespace LineRole

theorem of_ne_memberLine {line : List Char} (unindented : ∀ c, line.head? = some c →
    Text.isBlank c = false) : LineRole.of line ≠ .memberLine := by
  have nothingBefore : line.takeWhile Text.isBlank = [] := Text.takeWhile_of_stopsAt unindented
  rw [LineRole.of, nothingBefore]
  split
  · decide
  · split <;> decide

end LineRole

namespace Mapping

/-- The first of the lines that is neither blank nor a comment, if there is one, is not indented. -/
def OpenUnindented (lines : List (List Char)) : Prop :=
  ∀ line, lines.find? (fun line => LineRole.of line ≠ .nothing) = some line →
    ∀ c, line.head? = some c → Text.isBlank c = false

namespace Progress

/-- Two runs end in states that are so related, or in the same failure, which the second meets a
number of lines later. -/
inductive Alike (Related : Progress → Progress → Prop) (lines : Nat) :
    Except MappingFailure Progress → Except MappingFailure Progress → Prop
  | read {alone joined : Progress} (related : Related alone joined) :
      Alike Related lines (.ok alone) (.ok joined)
  | failed (failure : MappingFailure) :
      Alike Related lines (.error failure) (.error (failure.later lines))

section Alike

variable {Related Further : Progress → Progress → Prop} {lines : Nat}
  {first second : Except MappingFailure Progress}

theorem Alike.imp (alike : Alike Related lines first second)
    (imp : ∀ alone joined, Related alone joined → Further alone joined) :
    Alike Further lines first second := by
  cases alike with
  | read related => exact .read (imp _ _ related)
  | failed failure => exact .failed failure

theorem Alike.bind (alike : Alike Related lines first second)
    {next other : Progress → Except MappingFailure Progress}
    (go : ∀ alone joined, Related alone joined → Alike Further lines (next alone) (other joined)) :
    Alike Further lines (first >>= next) (second >>= other) := by
  cases alike with
  | read related => exact go _ _ related
  | failed failure => exact .failed failure

end Alike

def ClassesOver (before : Dictionary Descriptor ClassEntry) (alone joined : Progress) : Prop :=
  ∀ renamed, joined.classes.find? renamed =
    (alone.classes.find? renamed).or (before.find? renamed)

/-- What was read is what another run has read, on top of what was read before it; both are at the
same class. -/
structure Over (before : Dictionary Descriptor ClassEntry) (alone joined : Progress) : Prop where
  finished : ∀ renamed, joined.finished.find? renamed =
    (alone.finished.find? renamed).or (before.find? renamed)
  current : joined.current = alone.current

variable {before : Dictionary Descriptor ClassEntry} {alone joined : Progress}

theorem Over.classes (onTop : Over before alone joined) : ClassesOver before alone joined := by
  intro renamed
  rw [Progress.classes, Progress.classes, onTop.current]
  cases alone.current with
  | none => exact onTop.finished renamed
  | some last =>
      simp only [Dictionary.find?_insert]
      by_cases same : renamed = last.1
      · simp [same]
      · simp [same, onTop.finished renamed]

theorem Over.readLine (onTop : Over before alone joined) (number lines : Nat) (line : List Char) :
    Alike (Over before) lines (alone.readLine number line)
      (joined.readLine (number + lines) line) := by
  rw [Progress.readLine, Progress.readLine, onTop.current]
  cases LineRole.of line with
  | nothing => exact .read onTop
  | typeLine =>
      cases TypeLine.read? line with
      | none => exact .failed _
      | some parts => exact .read ⟨onTop.classes, rfl⟩
  | memberLine =>
      cases MemberLine.read? line with
      | none => exact .failed _
      | some member =>
          cases alone.current with
          | none => exact .failed _
          | some last => exact .read ⟨onTop.finished, rfl⟩

theorem Over.readLines (onTop : Over before alone joined) (number lines : Nat)
    (rest : List (List Char)) :
    Alike (Over before) lines (alone.readLines number rest)
      (joined.readLines (number + lines) rest) := by
  induction rest generalizing alone joined number with
  | nil => exact .read onTop
  | cons line rest ih =>
      rw [readLines_cons, readLines_cons, Nat.add_right_comm number]
      exact (onTop.readLine number lines line).bind fun _ _ related => ih related (number + 1)

theorem readLine_of_typeLine {line : List Char} (role : LineRole.of line = .typeLine)
    (start : Progress) (number lines : Nat) :
    Alike (Over start.classes) lines (({} : Progress).readLine number line)
      (start.readLine (number + lines) line) := by
  rw [Progress.readLine, Progress.readLine, role]
  cases TypeLine.read? line with
  | none => exact .failed _
  | some parts => exact .read ⟨fun _ => rfl, rfl⟩

/-- Lines that begin with a class read the same behind anything. -/
theorem readLines_of_openUnindented {rest : List (List Char)} (opened : OpenUnindented rest)
    (start : Progress) (number lines : Nat) :
    Alike (ClassesOver start.classes) lines (({} : Progress).readLines number rest)
      (start.readLines (number + lines) rest) := by
  induction rest generalizing number with
  | nil => exact .read fun _ => rfl
  | cons line rest ih =>
      rw [readLines_cons, readLines_cons, Nat.add_right_comm number]
      cases role : LineRole.of line with
      | nothing =>
          have later : OpenUnindented rest := by
            intro other first
            exact opened other (by simpa [role] using first)
          rw [readLine_of_nothing role, readLine_of_nothing role]
          exact ih later (number + 1)
      | typeLine =>
          apply (readLine_of_typeLine role start number lines).bind
          intro alone joined onTop
          exact (onTop.readLines (number + 1) lines rest).imp fun _ _ => Over.classes
      | memberLine =>
          have first := opened line (by simp [role])
          exact absurd role (LineRole.of_ne_memberLine first)

end Progress

/-! ### The text of two files -/

theorem lines_toList_append (first second : String) :
    lines (first ++ "\n" ++ second).toList = lines first.toList ++ lines second.toList := by
  have feed : "\n".toList = ['\n'] := rfl
  rw [String.toList_append, String.toList_append, feed, List.append_assoc, List.singleton_append,
    lines_append]

theorem read_append_of_error {first : String} {failure : MappingFailure}
    (failed : read first = .error failure) (second : String) :
    read (first ++ "\n" ++ second) = .error failure := by
  rw [read_eq_map] at failed
  rw [read_eq_map, lines_toList_append, Progress.readLines_append]
  cases run : ({} : Progress).readLines 1 (lines first.toList) with
  | error other =>
      rw [run] at failed
      cases failed
      rfl
  | ok progress =>
      rw [run] at failed
      cases failed

theorem read_append_of_ok {first second : String} {before : Mapping}
    (readable : read first = .ok before) (opened : OpenUnindented (lines second.toList)) :
    (∀ after, read second = .ok after →
      ∃ joined, read (first ++ "\n" ++ second) = .ok joined ∧
        ∀ renamed, joined.classes.find? renamed =
          (after.classes.find? renamed).or (before.classes.find? renamed)) ∧
    (∀ failure, read second = .error failure →
      read (first ++ "\n" ++ second) =
        .error (failure.later (first.toList.count '\n' + 1))) := by
  rw [read_eq_map] at readable
  obtain ⟨start, run, rfl⟩ := eq_ok_of_map_eq_ok readable
  have alike := Progress.readLines_of_openUnindented opened start 1 (lines first.toList).length
  have joined : read (first ++ "\n" ++ second) =
      (start.readLines (1 + (lines first.toList).length) (lines second.toList)).map fun progress =>
        { classes := progress.classes } := by
    rw [read_eq_map, lines_toList_append, Progress.readLines_append, run, Except.ok_bind]
  rw [joined, read_eq_map second, ← length_lines]
  generalize ({} : Progress).readLines 1 (lines second.toList) = aloneRun at alike ⊢
  generalize start.readLines (1 + (lines first.toList).length) (lines second.toList) = joinedRun
    at alike ⊢
  cases alike with
  | read onTop =>
      constructor
      · rintro after ⟨⟩
        exact ⟨_, rfl, onTop⟩
      · intro failure failed
        cases failed
  | failed failure =>
      constructor
      · intro after found
        cases found
      · rintro other ⟨⟩
        rfl

/-- A failure of the first of two texts is the failure of both.  If the second begins with a class,
the classes of both are those of the second, entry by entry in place of the first's, and those of
the first that the second does not rename to; and a failure of the second counts its lines from the
end of the first. -/
theorem read_append_composes (first second : String) :
    (∀ failure, read first = .error failure →
      read (first ++ "\n" ++ second) = .error failure) ∧
    (OpenUnindented (lines second.toList) → ∀ before, read first = .ok before →
      (∀ after, read second = .ok after →
        ∃ joined, read (first ++ "\n" ++ second) = .ok joined ∧
          ∀ renamed, joined.classes.find? renamed =
            (after.classes.find? renamed).or (before.classes.find? renamed)) ∧
      (∀ failure, read second = .error failure →
        read (first ++ "\n" ++ second) = .error
          { line := failure.line + first.toList.count '\n' + 1
            role := failure.role
            text := failure.text })) :=
  ⟨fun _ failed => read_append_of_error failed second,
    fun opened _ readable => read_append_of_ok readable opened⟩

/-- The second text renames another class to `a`, and so the field of the first is forgotten.  A
text that fails in its third line does so in the sixth behind the three lines of the first. -/
theorem read_append_composes_replaced_class :
    let first := "geo.Point -> a:\n    int x -> c\ngeo.Shape -> b:"
    let second := "# again\n\ngeo.Line -> a:"
    let broken := "# again\n\ngeo.Line to a"
    (∃ joined, read (first ++ "\n" ++ second) = .ok joined ∧
      joined.classes.find? (.object "a") = some { original := .object "geo/Line" } ∧
      joined.classes.find? (.object "b") = some { original := .object "geo/Shape" }) ∧
    read (first ++ "\n" ++ broken) =
      .error { line := 6, role := .typeLine, text := "geo.Line to a" } := by
  intro first second broken
  let point : ClassEntry :=
    { original := .object "geo/Point"
      fields := ({} : Dictionary String String).insert "c" "x" }
  let before : Mapping :=
    { classes := (({} : Dictionary Descriptor ClassEntry).insert (.object "a") point).insert
        (.object "b") { original := .object "geo/Shape" } }
  let after : Mapping :=
    { classes := ({} : Dictionary Descriptor ClassEntry).insert (.object "a")
        { original := .object "geo/Line" } }
  have readable : read first = .ok before := by decide +kernel
  have opens : ∀ text : String, ∀ line : List Char,
      (lines text.toList).find? (fun line => LineRole.of line ≠ .nothing) = some line →
      line.head? = some 'g' → OpenUnindented (lines text.toList) := by
    intro text line found head other same c start
    obtain rfl := Option.some.inj (found.symm.trans same)
    obtain rfl := Option.some.inj (head.symm.trans start)
    decide
  constructor
  · have opened := opens second "geo.Line -> a:".toList (by decide +kernel) (by decide)
    obtain ⟨joined, both, entries⟩ := ((read_append_composes first second).2 opened before
      readable).1 after (by decide +kernel)
    refine ⟨joined, both, ?_, ?_⟩
    · rw [entries]
      decide +kernel
    · rw [entries]
      decide +kernel
  · have opened := opens broken "geo.Line to a".toList (by decide +kernel) (by decide)
    have failed := ((read_append_composes first broken).2 opened before readable).2
      { line := 3, role := .typeLine, text := "geo.Line to a" } (by decide +kernel)
    have feeds : first.toList.count '\n' = 2 := by decide
    rw [failed, feeds]

end Mapping

end DexMembers
