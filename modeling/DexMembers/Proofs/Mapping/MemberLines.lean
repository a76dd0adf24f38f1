import DexMembers.Proofs.Mapping.MemberGrammar
import DexMembers.Proofs.Mapping.Run
import DexMembers.Text.Split

/-!
# Member lines of a mapping file

A mapping file is read only if each of its member lines begins with the pieces of one, from the
indentation to the new name.  Nothing behind the new name is looked at, so a line may go on there
after a blank.  A line that begins otherwise is the failure of the file, unless a line above it is.
-/

set_option autoImplicit false

namespace DexMembers.Mapping

open MemberLine (Pieces)

theorem Progress.exists_readLine_of_readLines {progress next : Progress} {number : Nat}
    {rest : List (List Char)} (done : progress.readLines number rest = .ok next) {line : List Char}
    (member : line ∈ rest) :
    ∃ (before : Progress) (place : Nat) (after : Progress),
      before.readLine place line = .ok after := by
  induction rest generalizing progress number with
  | nil => cases member
  | cons first rest ih =>
      rw [readLines_cons] at done
      obtain ⟨after, step, others⟩ := eq_ok_of_bind_eq_ok done
      rcases List.mem_cons.mp member with rfl | later
      · exact ⟨progress, number, after, step⟩
      · exact ih others later

theorem Progress.exists_begins_of_readLine {progress next : Progress} {number : Nat}
    {line : List Char} (role : LineRole.of line = .memberLine)
    (done : progress.readLine number line = .ok next) :
    ∃ pieces rest, Pieces.Begins pieces line rest := by
  rw [readLine, role] at done
  dsimp only at done
  split at done
  · rename_i found _
    obtain ⟨pieces, rest, begins, _⟩ := MemberLine.exists_begins_of_read? found
    exact ⟨pieces, rest, begins⟩
  · cases done

theorem Progress.readLine_of_begins {progress : Progress} {number : Nat} {line rest : List Char}
    {pieces : Pieces} {renamed : Descriptor} {entry : ClassEntry}
    (role : LineRole.of line = .memberLine) (begins : pieces.Begins line rest)
    (current : progress.current = some (renamed, entry)) :
    progress.readLine number line =
      .ok { progress with current := some (renamed, entry.insert pieces.parts) } := by
  rw [readLine, role]
  simp only [begins.read?_eq, current]

theorem Progress.readLine_of_not_begins {line : List Char} (role : LineRole.of line = .memberLine)
    (other : ¬ ∃ pieces rest, Pieces.Begins pieces line rest) (progress : Progress) (number : Nat) :
    progress.readLine number line =
      .error { line := number, role := .memberLine, text := String.ofList line } := by
  have refused : MemberLine.read? line = none := by
    cases found : MemberLine.read? line with
    | none => rfl
    | some parts =>
        obtain ⟨pieces, rest, begins, _⟩ := MemberLine.exists_begins_of_read? found
        exact absurd ⟨pieces, rest, begins⟩ other
  rw [readLine, role]
  simp only [refused]

/-- In a text that is read each member line begins with the pieces of one, in one way only, and then
ends or goes on with a blank.  A member line that does not begin so is the failure of its text if
no line above it is.  One that does adds what its pieces say to the class above, and nothing else
of the line does. -/
theorem memberLines_read_to_new_name (text : String) :
    (∀ mapping, read text = .ok mapping →
      ∀ line ∈ lines text.toList, LineRole.of line = .memberLine →
        ∃! split : Pieces × List Char, split.1.Begins line split.2) ∧
    ∀ above line below, lines text.toList = above ++ line :: below →
      LineRole.of line = .memberLine →
        ((¬ ∃ pieces rest, Pieces.Begins pieces line rest) →
          ∃ failure, read text = .error failure ∧
            (({} : Progress).readLines 1 above = .error failure ∨
              failure =
                { line := above.length + 1, role := .memberLine, text := String.ofList line })) ∧
        ∀ pieces rest, Pieces.Begins pieces line rest →
          ∀ progress renamed entry, ({} : Progress).readLines 1 above = .ok progress →
            progress.current = some (renamed, entry) →
              ({} : Progress).readLines 1 (above ++ [line]) =
                .ok { progress with current := some (renamed, entry.insert pieces.parts) } := by
  constructor
  · intro mapping readable line member role
    rw [read_eq_map] at readable
    obtain ⟨progress, run, _⟩ := eq_ok_of_map_eq_ok readable
    obtain ⟨before, place, after, step⟩ := Progress.exists_readLine_of_readLines run member
    obtain ⟨pieces, rest, begins⟩ := Progress.exists_begins_of_readLine role step
    refine ⟨(pieces, rest), begins, ?_⟩
    rintro ⟨other, behind⟩ same
    obtain ⟨rfl, rfl⟩ := begins.unique same
    rfl
  · intro above line below split role
    constructor
    · intro other
      have failed := Progress.readLine_of_not_begins role other
      rw [read_eq_map, split, Progress.readLines_append]
      cases run : ({} : Progress).readLines 1 above with
      | error failure => exact ⟨failure, rfl, Or.inl rfl⟩
      | ok progress =>
          rw [Except.ok_bind, Progress.readLines_cons, failed, Nat.add_comm]
          exact ⟨_, rfl, Or.inr rfl⟩
    · intro pieces rest begins progress renamed entry run current
      rw [Progress.readLines_append, run, Except.ok_bind, Progress.readLines_cons,
        Progress.readLine_of_begins role begins current]
      rfl

def fieldPieces : Pieces where
  indent := "    ".toList
  newLines := []
  type := "int".toList
  original := ['x']
  parameters := none
  oldLines := []
  renamed := ['c']
  indented := ⟨by decide, List.all_eq_true.mp (by decide)⟩
  ranged := Or.inl rfl
  typed := by decide
  named := ⟨by decide, List.forall_mem_singleton.mpr (by decide)⟩
  closed := nofun
  numbered := Or.inl rfl
  given := ⟨by decide, List.forall_mem_singleton.mpr (by decide)⟩

/-- The line of a field goes on behind the new name; with another arrow it is not read. -/
theorem memberLines_read_to_new_name_field :
    let other := "geo.Point -> a:\n    int x => c"
    let start := "geo.Point -> a:".toList
    let point : ClassEntry := { original := .object "geo/Point" }
    (∃! split : Pieces × List Char, split.1.Begins "    int x -> c junk".toList split.2) ∧
    ({} : Progress).readLines 1 [start, "    int x -> c junk".toList] =
      .ok { current := some (.object "a", point.insert fieldPieces.parts) } ∧
    ∃ failure, read other = .error failure ∧
      (({} : Progress).readLines 1 [start] = .error failure ∨
        failure = { line := 2, role := .memberLine, text := "    int x => c" }) := by
  intro other start point
  let text := "geo.Point -> a:\n    int x -> c junk"
  let classes : Dictionary Descriptor ClassEntry :=
    ({} : Dictionary Descriptor ClassEntry).insert (.object "a") (point.insert fieldPieces.parts)
  have readable : read text = .ok { classes } := by decide +kernel
  have begins : fieldPieces.Begins "    int x -> c junk".toList " junk".toList :=
    { line_eq := by decide
      leftmost := .of_unmarked (Text.stopsAt_cons (by decide)) (by decide)
      ended := Text.stopsAt_cons (by decide) }
  have refused : ¬ ∃ pieces rest, Pieces.Begins pieces "    int x => c".toList rest := by
    rintro ⟨pieces, rest, begins⟩
    have found := begins.read?_eq
    have missing : MemberLine.read? "    int x => c".toList = none := by decide
    rw [missing] at found
    cases found
  refine ⟨(memberLines_read_to_new_name text).1 _ readable _ (by decide) (by decide), ?_, ?_⟩
  · exact ((memberLines_read_to_new_name text).2 [start] _ [] (by decide) (by decide)).2 _ _ begins
      { current := some (.object "a", point) } _ _ (by decide) rfl
  · exact ((memberLines_read_to_new_name other).2 [start] _ [] (by decide) (by decide)).1 refused

/-- A line is read although no pieces make it up: it goes on behind the new name. -/
theorem memberLine_with_tail_is_read :
    let text := "geo.Point -> a:\n    int x -> c junk"
    let line := "    int x -> c junk".toList
    (∃ mapping, read text = .ok mapping) ∧ line ∈ lines text.toList ∧
      LineRole.of line = .memberLine ∧ ∀ pieces : Pieces, line ≠ pieces.text := by
  intro text line
  let point : ClassEntry := { original := .object "geo/Point" }
  let classes : Dictionary Descriptor ClassEntry :=
    ({} : Dictionary Descriptor ClassEntry).insert (.object "a") (point.insert fieldPieces.parts)
  have readable : read text = .ok { classes } := by decide +kernel
  refine ⟨⟨_, readable⟩, by decide, by decide, ?_⟩
  intro pieces same
  obtain ⟨front, whole⟩ := pieces.exists_text_eq
  have unspaced : ' ' ∉ pieces.renamed :=
    fun member => absurd (pieces.given.2 ' ' member) (by decide)
  have cut : Text.splitLast? ' ' ((front ++ " ->".toList) ++ ' ' :: pieces.renamed) =
      some (front ++ " ->".toList, pieces.renamed) := Text.splitLast?_append unspaced
  rw [← whole, ← same] at cut
  have found : Text.splitLast? ' ' line = some ("    int x -> c".toList, "junk".toList) := by decide
  rw [found, Option.some.injEq, Prod.mk.injEq] at cut
  have last : "    int x -> c".toList.getLast? = " ->".toList.getLast? := by
    rw [cut.1, List.getLast?_append_of_ne_nil _ (by decide)]
  exact absurd last (by decide)

end DexMembers.Mapping
