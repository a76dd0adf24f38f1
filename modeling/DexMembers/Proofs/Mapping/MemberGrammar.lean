import DexMembers.Mapping.Line
import DexMembers.Proofs.Text.Span
import Mathlib.Data.List.TakeWhile

/-!
# The grammar of member lines

A member line is read from its indentation to the end of its new name, piece by piece.  The reader
accepts exactly the lines that begin with such pieces; the indentation and the new line numbers are
taken when they can be, so a line has one such beginning at most.  What follows the new name does
not matter.
-/

set_option autoImplicit false

namespace DexMembers

namespace Text

def IsNumber (text : List Char) : Prop :=
  text ≠ [] ∧ ∀ c ∈ text, c.isDigit = true

end Text

open Text (IsNumber StopsAt)

namespace MemberLine

/-! ### Pieces -/

/-- The lines on which a member now stands, `a:b:`. -/
inductive IsRange : List Char → Prop
  | mk {first last : List Char} (number : IsNumber first) (other : IsNumber last) :
      IsRange (first ++ ':' :: (last ++ [':']))

/-- The line or lines on which a method stood, `:x` or `:x:y`. -/
inductive IsOldLines : List Char → Prop
  | one {first : List Char} (number : IsNumber first) : IsOldLines (':' :: first)
  | two {first last : List Char} (number : IsNumber first) (other : IsNumber last) :
      IsOldLines (':' :: (first ++ ':' :: last))

/-- The pieces of a member line, in the order in which they stand. -/
@[ext]
structure Pieces where
  indent : List Char
  /-- Empty, or a range. -/
  newLines : List Char
  type : List Char
  original : List Char
  parameters : Option (List Char)
  /-- Empty, or line numbers. -/
  oldLines : List Char
  renamed : List Char
  indented : indent ≠ [] ∧ ∀ c ∈ indent, isIndent c = true
  ranged : newLines = [] ∨ IsRange newLines
  typed : type ≠ [] ∧ ' ' ∉ type
  named : original ≠ [] ∧ ∀ c ∈ original, isNameChar c = true
  closed : ∀ list, parameters = some list → ')' ∉ list
  numbered : oldLines = [] ∨ IsOldLines oldLines
  given : renamed ≠ [] ∧ ∀ c ∈ renamed, Text.isBlank c = false

def parametersText : Option (List Char) → List Char
  | some list => '(' :: (list ++ [')'])
  | none => []

namespace Pieces

def tail (pieces : Pieces) : List Char :=
  parametersText pieces.parameters ++ (pieces.oldLines ++ (arrow ++ pieces.renamed))

def body (pieces : Pieces) : List Char :=
  pieces.newLines ++ (pieces.type ++ ' ' :: (pieces.original ++ pieces.tail))

def text (pieces : Pieces) : List Char :=
  pieces.indent ++ pieces.body

def parts (pieces : Pieces) : MemberLine :=
  { type := pieces.type
    original := pieces.original
    parameters := pieces.parameters
    renamed := pieces.renamed }

/-- What could be indentation or a range is, and no part of the type. -/
structure Leftmost (pieces : Pieces) : Prop where
  indent : pieces.newLines = [] → StopsAt isIndent pieces.type
  newLines : pieces.newLines = [] → ∀ range rest, IsRange range → pieces.type ≠ range ++ rest

/-- The line begins with the pieces; the rest is empty or begins with a blank. -/
structure Begins (pieces : Pieces) (line rest : List Char) : Prop where
  line_eq : line = pieces.text ++ rest
  leftmost : pieces.Leftmost
  ended : StopsAt (fun c => !Text.isBlank c) rest

end Pieces

/-! ### Readers of pieces -/

theorem afterDigits?_eq_some_iff {text rest : List Char} :
    afterDigits? text = some rest ↔
      ∃ number, IsNumber number ∧ text = number ++ rest ∧ StopsAt Char.isDigit rest := by
  constructor
  · intro read
    rw [afterDigits?] at read
    split at read
    · cases read
    · rename_i nonempty
      cases read
      exact ⟨text.takeWhile Char.isDigit, ⟨nonempty, fun c => List.mem_takeWhile_imp⟩,
        List.takeWhile_append_dropWhile.symm, Text.stopsAt_dropWhile _ text⟩
  · rintro ⟨number, ⟨nonempty, digits⟩, rfl, stop⟩
    rw [afterDigits?, Text.takeWhile_run digits stop, Text.dropWhile_run digits stop,
      if_neg nonempty]

theorem afterDigits?_number {number rest : List Char} (isNumber : IsNumber number)
    (stop : StopsAt Char.isDigit rest) : afterDigits? (number ++ rest) = some rest :=
  afterDigits?_eq_some_iff.mpr ⟨number, isNumber, rfl, stop⟩

theorem afterChar?_eq_some_iff {c : Char} {text rest : List Char} :
    afterChar? c text = some rest ↔ text = c :: rest := by
  cases text with
  | nil => simp [afterChar?]
  | cons first others => simp [afterChar?]

theorem afterText?_eq_some_iff {expected text rest : List Char} :
    afterText? expected text = some rest ↔ text = expected ++ rest := by
  induction expected generalizing text with
  | nil => simp [afterText?]
  | cons c expected ih =>
      simp only [afterText?, Option.bind_eq_some_iff, afterChar?_eq_some_iff, ih, List.cons_append]
      constructor
      · rintro ⟨behind, rfl, rfl⟩
        rfl
      · rintro rfl
        exact ⟨_, rfl, rfl⟩

theorem stopsAt_digit_colon (rest : List Char) : StopsAt Char.isDigit (':' :: rest) :=
  Text.stopsAt_cons (by decide)

theorem stopsAt_digit_arrow (rest : List Char) : StopsAt Char.isDigit (arrow ++ rest) :=
  Text.stopsAt_cons (by decide)

@[simp] theorem afterChar?_cons (c : Char) (rest : List Char) :
    afterChar? c (c :: rest) = some rest :=
  afterChar?_eq_some_iff.mpr rfl

theorem afterText?_append (expected rest : List Char) :
    afterText? expected (expected ++ rest) = some rest :=
  afterText?_eq_some_iff.mpr rfl

theorem skipRange_range {range : List Char} (isRange : IsRange range) (rest : List Char) :
    skipRange (range ++ rest) = rest := by
  obtain ⟨number, other⟩ := isRange
  simp only [skipRange, List.append_assoc, List.cons_append, List.nil_append,
    afterDigits?_number number (stopsAt_digit_colon _), Option.bind_eq_bind, Option.bind_some,
    afterDigits?_number other (stopsAt_digit_colon _), afterChar?_cons, Option.getD_some]

theorem skipRange_of_absent {text : List Char}
    (absent : ∀ range rest, IsRange range → text ≠ range ++ rest) : skipRange text = text := by
  rw [skipRange, Option.getD_eq_iff]
  refine Or.inr ⟨?_, rfl⟩
  rw [Option.eq_none_iff_forall_ne_some]
  intro rest found
  simp only [Option.bind_eq_bind, Option.bind_eq_some_iff, afterDigits?_eq_some_iff,
    afterChar?_eq_some_iff] at found
  obtain ⟨_, ⟨first, number, rfl, _⟩, _, rfl, _, ⟨last, other, rfl, _⟩, rfl⟩ := found
  exact absent _ rest (.mk number other) (by simp)

/-- What is skipped is a range, or nothing if the text does not begin with one. -/
theorem exists_skipRange (text : List Char) :
    ∃ range, text = range ++ skipRange text ∧
      (IsRange range ∨
        range = [] ∧ ∀ other rest, IsRange other → skipRange text ≠ other ++ rest) := by
  by_cases begins : ∃ range rest, IsRange range ∧ text = range ++ rest
  · obtain ⟨range, rest, isRange, rfl⟩ := begins
    exact ⟨range, by rw [skipRange_range isRange], Or.inl isRange⟩
  · have absent : ∀ range rest, IsRange range → text ≠ range ++ rest :=
      fun range rest isRange same => begins ⟨range, rest, isRange, same⟩
    rw [skipRange_of_absent absent]
    exact ⟨[], rfl, Or.inr ⟨rfl, absent⟩⟩

theorem skipLineNumbers_of_arrow {numbers : List Char}
    (numbered : numbers = [] ∨ IsOldLines numbers) (rest : List Char) :
    skipLineNumbers (numbers ++ (arrow ++ rest)) = arrow ++ rest := by
  have unnumbered : (afterChar? ':' (arrow ++ rest)).bind afterDigits? = none := rfl
  rcases numbered with rfl | ⟨number⟩ | ⟨number, other⟩
  · simp only [skipLineNumbers, List.nil_append, unnumbered]
  · simp only [skipLineNumbers, List.cons_append, afterChar?_cons, Option.bind_some,
      afterDigits?_number number (stopsAt_digit_arrow _), unnumbered, Option.getD_none]
  · simp only [skipLineNumbers, List.cons_append, List.append_assoc, afterChar?_cons,
      Option.bind_some, afterDigits?_number number (stopsAt_digit_colon _),
      afterDigits?_number other (stopsAt_digit_arrow _), Option.getD_some]

theorem exists_skipLineNumbers (text : List Char) :
    ∃ numbers, text = numbers ++ skipLineNumbers text ∧
      (numbers = [] ∨ IsOldLines numbers) := by
  have number_iff : ∀ {text rest : List Char},
      (afterChar? ':' text).bind afterDigits? = some rest ↔
        ∃ number, IsNumber number ∧ text = ':' :: (number ++ rest) ∧
          StopsAt Char.isDigit rest := by
    intro text rest
    simp only [Option.bind_eq_some_iff, afterChar?_eq_some_iff, afterDigits?_eq_some_iff]
    constructor
    · rintro ⟨_, rfl, number, isNumber, rfl, stop⟩
      exact ⟨number, isNumber, rfl, stop⟩
    · rintro ⟨number, isNumber, rfl, stop⟩
      exact ⟨_, rfl, number, isNumber, rfl, stop⟩
  rw [skipLineNumbers]
  dsimp only
  cases once : (afterChar? ':' text).bind afterDigits? with
  | none => exact ⟨[], rfl, Or.inl rfl⟩
  | some rest =>
      obtain ⟨first, number, rfl, _⟩ := number_iff.mp once
      dsimp only
      cases twice : (afterChar? ':' rest).bind afterDigits? with
      | none => exact ⟨':' :: first, rfl, Or.inr (.one number)⟩
      | some others =>
          obtain ⟨last, other, rfl, _⟩ := number_iff.mp twice
          exact ⟨':' :: (first ++ ':' :: last), by simp, Or.inr (.two number other)⟩

theorem takeParameters_of_closed {list : List Char} (closed : ')' ∉ list)
    (rest : List Char) : takeParameters ('(' :: (list ++ ')' :: rest)) = (some list, rest) := by
  have inside : ∀ c ∈ list, decide (c ≠ ')') = true := by
    intro c member
    simpa using fun close : c = ')' => closed (close ▸ member)
  have stop : StopsAt (fun c => decide (c ≠ ')')) (')' :: rest) := Text.stopsAt_cons (by simp)
  rw [takeParameters, if_pos rfl, Text.takeWhile_run inside stop, Text.dropWhile_run inside stop]

theorem exists_takeParameters {text rest : List Char} {parameters : Option (List Char)}
    (taken : takeParameters text = (parameters, rest)) :
    text = parametersText parameters ++ rest ∧ ∀ list, parameters = some list → ')' ∉ list := by
  cases text with
  | nil =>
      cases taken
      exact ⟨rfl, nofun⟩
  | cons c behind =>
      rw [takeParameters] at taken
      split at taken
      · rename_i opened
        split at taken
        · rename_i close after found
          cases taken
          have stop := Text.stopsAt_dropWhile (fun c => decide (c ≠ ')')) behind
          rw [found] at stop
          obtain rfl : close = ')' := by simpa using stop close rfl
          refine ⟨?_, ?_⟩
          · rw [opened, parametersText, List.cons_append, List.append_assoc, List.singleton_append,
              ← found, List.takeWhile_append_dropWhile]
          · rintro _ ⟨⟩ member
            simpa using List.mem_takeWhile_imp member
        · cases taken
          exact ⟨rfl, nofun⟩
      · cases taken
        exact ⟨rfl, nofun⟩

theorem space_not_mem_of_isNumber {number : List Char} (isNumber : IsNumber number) :
    ' ' ∉ number :=
  fun member => absurd (isNumber.2 ' ' member) (by decide)

theorem IsRange.ne_nil {range : List Char} (isRange : IsRange range) : range ≠ [] := by
  obtain ⟨_, _⟩ := isRange
  simp

theorem IsRange.colon_mem {range : List Char} (isRange : IsRange range) : ':' ∈ range := by
  obtain ⟨_, _⟩ := isRange
  simp

theorem IsRange.space_not_mem {range : List Char} (isRange : IsRange range) : ' ' ∉ range := by
  obtain ⟨number, other⟩ := isRange
  simp [space_not_mem_of_isNumber number, space_not_mem_of_isNumber other]

theorem IsRange.stopsAt_isIndent {range : List Char} (isRange : IsRange range) (rest : List Char) :
    StopsAt isIndent (range ++ rest) := by
  obtain ⟨number, _⟩ := isRange
  rename_i first last _
  cases first with
  | nil => exact absurd rfl number.1
  | cons c others =>
      have digit := number.2 c List.mem_cons_self
      apply Text.stopsAt_cons
      simp only [isIndent, Bool.or_eq_false_iff, decide_eq_false_iff_not]
      constructor
      · rintro rfl
        cases digit
      · rintro rfl
        cases digit

theorem exists_cons_of_numbered {numbers : List Char}
    (numbered : numbers = [] ∨ IsOldLines numbers) (rest : List Char) :
    ∃ c others, numbers ++ (arrow ++ rest) = c :: others ∧ (c = ' ' ∨ c = ':') := by
  rcases numbered with rfl | ⟨_⟩ | ⟨_, _⟩
  · exact ⟨' ', _, rfl, Or.inl rfl⟩
  · exact ⟨':', _, rfl, Or.inr rfl⟩
  · exact ⟨':', _, rfl, Or.inr rfl⟩

namespace Pieces

variable {pieces : Pieces} {rest : List Char}

theorem body_append (pieces : Pieces) (rest : List Char) :
    pieces.body ++ rest = pieces.newLines ++
      (pieces.type ++ ' ' :: (pieces.original ++ (pieces.tail ++ rest))) := by
  simp only [body, List.append_assoc, List.cons_append]

theorem tail_append (pieces : Pieces) (rest : List Char) :
    pieces.tail ++ rest = parametersText pieces.parameters ++
      (pieces.oldLines ++ (arrow ++ (pieces.renamed ++ rest))) := by
  simp only [tail, List.append_assoc]

theorem unspaced (pieces : Pieces) : ∀ c ∈ pieces.type, decide (c ≠ ' ') = true := by
  intro c member
  simpa using fun space : c = ' ' => pieces.typed.2 (space ▸ member)

theorem stopsAt_space (rest : List Char) : StopsAt (fun c => decide (c ≠ ' ')) (' ' :: rest) :=
  Text.stopsAt_cons (by simp)

theorem unblank (pieces : Pieces) : ∀ c ∈ pieces.renamed, (!Text.isBlank c) = true := by
  intro c member
  simp [pieces.given.2 c member]

theorem exists_text_eq (pieces : Pieces) :
    ∃ front, pieces.text = (front ++ " ->".toList) ++ ' ' :: pieces.renamed :=
  ⟨pieces.indent ++ (pieces.newLines ++ (pieces.type ++ ' ' :: (pieces.original ++
    (parametersText pieces.parameters ++ pieces.oldLines)))), by
      simp [text, body, tail, arrow]⟩

theorem Leftmost.of_unmarked (unindented : StopsAt isIndent pieces.type)
    (colonless : ':' ∉ pieces.type) : pieces.Leftmost := by
  constructor
  · intro _
    exact unindented
  · intro _ range rest isRange same
    exact colonless (same ▸ List.mem_append_left rest isRange.colon_mem)

theorem Leftmost.stopsAt_body (leftmost : pieces.Leftmost) (rest : List Char) :
    StopsAt isIndent (pieces.body ++ rest) := by
  rw [body_append]
  rcases pieces.ranged with none | isRange
  · rw [none, List.nil_append]
    have stop := leftmost.indent none
    cases type : pieces.type with
    | nil => exact absurd type pieces.typed.1
    | cons c others =>
        rw [type] at stop
        exact Text.stopsAt_cons (stop c rfl)
  · exact isRange.stopsAt_isIndent _

theorem Leftmost.skipRange_body (leftmost : pieces.Leftmost) (rest : List Char) :
    skipRange (pieces.body ++ rest) =
      pieces.type ++ ' ' :: (pieces.original ++ (pieces.tail ++ rest)) := by
  rw [body_append]
  rcases pieces.ranged with none | isRange
  · rw [none, List.nil_append]
    apply skipRange_of_absent
    intro range behind isRange same
    rcases List.append_eq_append_iff.mp same with ⟨further, whole, others⟩ | ⟨further, whole, _⟩
    · -- no range has a space inside, so it cannot go on behind the type
      cases further with
      | nil =>
          rw [List.append_nil] at whole
          exact leftmost.newLines none range [] isRange (by rw [whole, List.append_nil])
      | cons c further =>
          obtain ⟨rfl, _⟩ := List.cons.inj others
          exact isRange.space_not_mem (by simp [whole])
    · exact leftmost.newLines none range further isRange whole
  · rw [skipRange_range isRange]

theorem stopsAt_tail (pieces : Pieces) (rest : List Char) :
    StopsAt isNameChar (pieces.tail ++ rest) := by
  rw [tail_append]
  cases pieces.parameters with
  | some list => exact Text.stopsAt_cons (by decide)
  | none =>
      obtain ⟨c, others, first, mark⟩ := exists_cons_of_numbered pieces.numbered
        (pieces.renamed ++ rest)
      rw [parametersText, List.nil_append, first]
      rcases mark with rfl | rfl
      · exact Text.stopsAt_cons (by decide)
      · exact Text.stopsAt_cons (by decide)

theorem takeParameters_tail (pieces : Pieces) (rest : List Char) :
    takeParameters (pieces.tail ++ rest) =
      (pieces.parameters, pieces.oldLines ++ (arrow ++ (pieces.renamed ++ rest))) := by
  rw [tail_append]
  cases list : pieces.parameters with
  | some inside =>
      rw [parametersText, List.cons_append, List.append_assoc, List.singleton_append,
        takeParameters_of_closed (pieces.closed inside list)]
  | none =>
      obtain ⟨c, others, first, mark⟩ := exists_cons_of_numbered pieces.numbered
        (pieces.renamed ++ rest)
      rw [parametersText, List.nil_append, first]
      rcases mark with rfl | rfl
      · rfl
      · rfl

theorem Begins.read?_eq {line : List Char} (begins : pieces.Begins line rest) :
    read? line = some pieces.parts := by
  obtain ⟨rfl, leftmost, ended⟩ := begins
  simp only [read?, text, List.append_assoc,
    Text.takeWhile_run pieces.indented.2 (leftmost.stopsAt_body rest),
    Text.dropWhile_run pieces.indented.2 (leftmost.stopsAt_body rest),
    leftmost.skipRange_body rest, Text.takeWhile_run pieces.unspaced (stopsAt_space _),
    Text.dropWhile_run pieces.unspaced (stopsAt_space _)]
  rw [if_neg pieces.indented.1, if_neg pieces.typed.1]
  simp only [afterChar?_cons, Option.bind_eq_bind, Option.bind_some,
    Text.takeWhile_run pieces.named.2 (pieces.stopsAt_tail rest),
    Text.dropWhile_run pieces.named.2 (pieces.stopsAt_tail rest), pieces.takeParameters_tail rest,
    skipLineNumbers_of_arrow pieces.numbered, afterText?_append,
    Text.takeWhile_run pieces.unblank ended]
  rw [if_neg pieces.named.1, if_neg pieces.given.1]
  rfl

end Pieces

theorem exists_tail_of_read {text behind : List Char}
    (pointed : afterText? arrow (skipLineNumbers (takeParameters text).2) = some behind) :
    ∃ oldLines, (oldLines = [] ∨ IsOldLines oldLines) ∧
      text = parametersText (takeParameters text).1 ++ (oldLines ++ (arrow ++ behind)) ∧
      ∀ list, (takeParameters text).1 = some list → ')' ∉ list := by
  obtain ⟨opened, closed⟩ := exists_takeParameters (rfl : takeParameters text = (_, _))
  obtain ⟨oldLines, numbers, numbered⟩ := exists_skipLineNumbers (takeParameters text).2
  refine ⟨oldLines, numbered, ?_, closed⟩
  rw [← afterText?_eq_some_iff.mp pointed, ← numbers]
  exact opened

/-- The indentation and the range are as long as possible if the readers took them. -/
theorem Pieces.leftmost_of_skipped {pieces : Pieces} {others : List Char}
    (stop : StopsAt isIndent (pieces.newLines ++ (pieces.type ++ others)))
    (skipped : IsRange pieces.newLines ∨ pieces.newLines = [] ∧
      ∀ range rest, IsRange range → pieces.type ++ others ≠ range ++ rest) : pieces.Leftmost := by
  constructor
  · intro none c first
    rw [none, List.nil_append] at stop
    exact stop c (by rw [List.head?_append, first, Option.some_or])
  · intro none range rest isRange same
    rcases skipped with isOther | ⟨_, absent⟩
    · rw [none] at isOther
      exact isOther.ne_nil rfl
    · exact absent range (rest ++ others) isRange (by rw [same, List.append_assoc])

/-- What the reader finds in a line, step by step: indentation, behind an optional range the type
and the original name, then parameters and line numbers, and behind the arrow the new name. -/
theorem exists_steps_of_read? {line : List Char} {parts : MemberLine}
    (read : read? line = some parts) :
    ∃ text rest, line.takeWhile isIndent ≠ [] ∧
      (parts.type ≠ [] ∧ ' ' ∉ parts.type) ∧
      (parts.original ≠ [] ∧ ∀ c ∈ parts.original, isNameChar c = true) ∧
      (parts.renamed ≠ [] ∧ ∀ c ∈ parts.renamed, Text.isBlank c = false) ∧
      skipRange (line.dropWhile isIndent) = parts.type ++ ' ' :: (parts.original ++ text) ∧
      (takeParameters text).1 = parts.parameters ∧
      afterText? arrow (skipLineNumbers (takeParameters text).2) = some (parts.renamed ++ rest) ∧
      StopsAt (fun c => !Text.isBlank c) rest := by
  rw [read?] at read
  dsimp only at read
  split at read
  · cases read
  rename_i indented
  generalize skipRange (line.dropWhile isIndent) = typed at read
  split at read
  · cases read
  rename_i typeNonempty
  obtain ⟨named, space, read⟩ := Option.bind_eq_some_iff.mp read
  split at read
  · cases read
  rename_i nameNonempty
  obtain ⟨behind, pointed, read⟩ := Option.bind_eq_some_iff.mp read
  split at read
  · cases read
  rename_i givenNonempty
  cases read
  refine ⟨named.dropWhile isNameChar, behind.dropWhile fun c => !Text.isBlank c, indented,
    ⟨typeNonempty, ?_⟩, ⟨nameNonempty, fun _ => List.mem_takeWhile_imp⟩, ⟨givenNonempty, ?_⟩, ?_,
    rfl, ?_, Text.stopsAt_dropWhile _ behind⟩
  · intro member
    simpa using List.mem_takeWhile_imp member
  · intro c member
    simpa using List.mem_takeWhile_imp member
  · rw [List.takeWhile_append_dropWhile, ← afterChar?_eq_some_iff.mp space,
      List.takeWhile_append_dropWhile]
  · rw [List.takeWhile_append_dropWhile]
    exact pointed

theorem exists_begins_of_read? {line : List Char} {parts : MemberLine}
    (read : read? line = some parts) :
    ∃ pieces rest, Pieces.Begins pieces line rest ∧ pieces.parts = parts := by
  obtain ⟨text, rest, indented, typed, named, given, front, list, pointed, ended⟩ :=
    exists_steps_of_read? read
  obtain ⟨newLines, ranged, skipped⟩ := exists_skipRange (line.dropWhile isIndent)
  obtain ⟨oldLines, numbered, tail, closed⟩ := exists_tail_of_read pointed
  rw [list] at tail closed
  rw [front] at ranged skipped
  let pieces : Pieces :=
    { indent := line.takeWhile isIndent
      newLines
      type := parts.type
      original := parts.original
      parameters := parts.parameters
      oldLines
      renamed := parts.renamed
      indented := ⟨indented, fun _ => List.mem_takeWhile_imp⟩
      ranged := skipped.symm.imp_left And.left
      typed
      named
      closed
      numbered
      given }
  refine ⟨pieces, rest, ⟨?_, ?_, ended⟩, rfl⟩
  · calc
      line = line.takeWhile isIndent ++ line.dropWhile isIndent :=
        List.takeWhile_append_dropWhile.symm
      _ = pieces.indent ++ (pieces.body ++ rest) := by
        rw [ranged, tail, pieces.body_append, pieces.tail_append]
      _ = pieces.text ++ rest := by rw [Pieces.text, List.append_assoc]
  · have stop := Text.stopsAt_dropWhile isIndent line
    rw [ranged] at stop
    exact Pieces.leftmost_of_skipped stop skipped

theorem Pieces.Begins.unique {pieces other : Pieces} {line rest behind : List Char}
    (begins : pieces.Begins line rest) (same : other.Begins line behind) :
    pieces = other ∧ rest = behind := by
  -- what the reader keeps is the same; the pieces it skips are what is left between
  have kept : pieces.parts = other.parts :=
    Option.some.inj (begins.read?_eq.symm.trans same.read?_eq)
  obtain ⟨type, original, parameters, renamed⟩ := MemberLine.mk.inj kept
  have whole : pieces.indent ++ (pieces.body ++ rest) = other.indent ++ (other.body ++ behind) := by
    simpa [text] using begins.line_eq.symm.trans same.line_eq
  obtain ⟨indent, bodies⟩ := Text.run_append_inj pieces.indented.2 other.indented.2
    (begins.leftmost.stopsAt_body rest) (same.leftmost.stopsAt_body behind) whole
  have typed := congrArg skipRange bodies
  rw [body_append, body_append, ← begins.leftmost.skipRange_body,
    ← same.leftmost.skipRange_body, typed] at bodies
  have newLines := List.append_cancel_right bodies
  rw [begins.leftmost.skipRange_body, same.leftmost.skipRange_body, type, original] at typed
  have tails := List.append_cancel_left (List.cons.inj (List.append_cancel_left typed)).2
  rw [tail_append, tail_append, parameters] at tails
  have numbered := List.append_cancel_left tails
  have arrows := congrArg skipLineNumbers numbered
  rw [skipLineNumbers_of_arrow pieces.numbered, skipLineNumbers_of_arrow other.numbered] at arrows
  rw [arrows] at numbered
  have oldLines := List.append_cancel_right numbered
  rw [renamed] at arrows
  exact ⟨Pieces.ext indent newLines type original parameters oldLines renamed,
    List.append_cancel_left (List.append_cancel_left arrows)⟩

end MemberLine

end DexMembers
