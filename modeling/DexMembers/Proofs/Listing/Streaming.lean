import DexMembers.Listing.Writer
import DexMembers.Proofs.Listing.InTurn

/-!
# What a failing sink keeps of a listing

Writing a listing can end early for three reasons: a source that cannot be listed, bytes that find
no room, and a flush that fails.  The blocks of the sources up to the first that cannot be listed,
or up to the flush that fails, are sent to the sink one after the other; it keeps as many of their
bytes as fit, and the run reports whichever failure comes first.
-/

set_option autoImplicit false

namespace DexMembers

/-! ### Blocks -/

/-- The bytes that the lines of a source take in a listing. -/
def block : ListingOutcome → List UInt8
  | .ok lines => lines.flatMap fun line => Text.utf8Bytes line ++ [0x0A]
  | .error _ => []

/-- The number of sources whose blocks are sent to a sink that fails at the given flush. -/
def sentCount (badFlush : Option Nat) (listed : List ListingOutcome) : Nat :=
  match badFlush with
  | some flush => min (listableCount listed) (flush + 1)
  | none => listableCount listed

def sentBlocks (badFlush : Option Nat) (listed : List ListingOutcome) : List (List UInt8) :=
  (listed.take (sentCount badFlush listed)).map block

/-- The number of blocks that find room as a whole, each behind all those before it. -/
def wholeBlocks (room : Nat) (blocks : List (List UInt8)) : Nat :=
  (List.range blocks.length).countP fun i => (blocks.take (i + 1)).flatten.length ≤ room

theorem wholeBlocks_cons (room : Nat) (first : List UInt8) (rest : List (List UInt8)) :
    wholeBlocks room (first :: rest) =
      if first.length ≤ room then wholeBlocks (room - first.length) rest + 1 else 0 := by
  have later : ∀ i, (((first :: rest).take (i + 1 + 1)).flatten.length ≤ room) ↔
      first.length ≤ room ∧ (rest.take (i + 1)).flatten.length ≤ room - first.length := by
    intro i
    simp only [List.take_succ_cons, List.flatten_cons, List.length_append]
    omega
  simp only [wholeBlocks, List.length_cons, List.range_succ_eq_map, List.countP_cons,
    List.countP_map, Function.comp_def, later]
  by_cases fits : first.length ≤ room
  · simp [fits]
  · simp [fits]

/-! ### One step of the sink -/

namespace Sink

def HasRoom (sink : Sink) (size : Nat) : Prop :=
  ∀ room, sink.room = some room → size ≤ room

def fitting (sink : Sink) (bytes : List UInt8) : List UInt8 :=
  match sink.room with
  | some room => bytes.take room
  | none => bytes

def filled (sink : Sink) (bytes : List UInt8) : Sink :=
  { sink with
    taken := sink.taken ++ sink.fitting bytes
    room := sink.room.map (· - bytes.length) }

@[simp] theorem taken_filled (sink : Sink) (bytes : List UInt8) :
    (sink.filled bytes).taken = sink.taken ++ sink.fitting bytes := rfl

@[simp] theorem room_filled (sink : Sink) (bytes : List UInt8) :
    (sink.filled bytes).room = sink.room.map (· - bytes.length) := rfl

theorem hasRoom_of_unbounded {sink : Sink} (unbounded : sink.room = none) (size : Nat) :
    sink.HasRoom size := by
  simp [HasRoom, unbounded]

theorem hasRoom_iff {sink : Sink} {room : Nat} (limit : sink.room = some room) (size : Nat) :
    sink.HasRoom size ↔ size ≤ room := by
  simp [HasRoom, limit]

theorem fitting_append_of_full {sink : Sink} {bytes : List UInt8}
    (full : ¬ sink.HasRoom bytes.length) (more : List UInt8) :
    sink.fitting (bytes ++ more) = sink.fitting bytes := by
  cases limit : sink.room with
  | none => exact absurd (hasRoom_of_unbounded limit _) full
  | some room =>
      have short : room < bytes.length := by
        rw [hasRoom_iff limit] at full
        exact Nat.lt_of_not_le full
      simp only [fitting, limit]
      exact List.take_append_of_le_length (Nat.le_of_lt short)

theorem fitting_append (sink : Sink) (bytes more : List UInt8) :
    sink.fitting (bytes ++ more) = sink.fitting bytes ++ (sink.filled bytes).fitting more := by
  cases limit : sink.room with
  | none => simp [fitting, limit]
  | some room => simp [fitting, limit, List.take_append]

theorem hasRoom_append (sink : Sink) (bytes more : List UInt8) :
    sink.HasRoom (bytes ++ more).length ↔
      sink.HasRoom bytes.length ∧ (sink.filled bytes).HasRoom more.length := by
  cases limit : sink.room with
  | none => simp [HasRoom, limit]
  | some room =>
      have behind : (sink.filled bytes).room = some (room - bytes.length) := by
        rw [room_filled, limit, Option.map_some]
      rw [hasRoom_iff limit, hasRoom_iff limit, hasRoom_iff behind, List.length_append]
      omega

theorem write_of_hasRoom {sink : Sink} {bytes : List UInt8} (enough : sink.HasRoom bytes.length) :
    sink.write bytes = (.ok (), sink.filled bytes) := by
  cases limit : sink.room with
  | none => simp [write, filled, fitting, limit]
  | some room => simp [write, filled, fitting, limit, enough room limit]

theorem write_of_full {sink : Sink} {bytes : List UInt8} (full : ¬ sink.HasRoom bytes.length) :
    sink.write bytes = (.error .full, sink.filled bytes) := by
  cases limit : sink.room with
  | none => exact absurd (hasRoom_of_unbounded limit _) full
  | some room =>
      have short : ¬ bytes.length ≤ room := mt (hasRoom_iff limit _).mpr full
      simp [write, filled, fitting, limit, short]

theorem filled_append (sink : Sink) (bytes more : List UInt8) :
    sink.filled (bytes ++ more) = (sink.filled bytes).filled more := by
  have rooms : sink.room.map (· - (bytes ++ more).length) =
      (sink.room.map (· - bytes.length)).map (· - more.length) := by
    cases sink.room with
    | none => rfl
    | some room => simp [Nat.sub_sub]
  simp only [filled, rooms, fitting_append, List.append_assoc]

theorem filled_nil (sink : Sink) : sink.filled [] = sink := by
  obtain ⟨room, badFlush, taken, flushes⟩ := sink
  cases room <;> simp [filled, fitting]

/-- Lines written one by one fill the sink like their bytes written at once. -/
theorem writeLines_of_hasRoom {lines : List String} {sink : Sink}
    (enough : sink.HasRoom (lines.flatMap lineBytes).length) :
    sink.writeLines lines = (.ok (), sink.filled (lines.flatMap lineBytes)) := by
  induction lines generalizing sink with
  | nil => rw [writeLines, List.flatMap_nil, filled_nil]
  | cons line rest ih =>
      rw [List.flatMap_cons] at enough ⊢
      obtain ⟨before, behind⟩ := (hasRoom_append sink _ _).mp enough
      rw [writeLines, write_of_hasRoom before]
      exact (ih behind).trans (by rw [filled_append])

theorem writeLines_of_full {lines : List String} {sink : Sink}
    (full : ¬ sink.HasRoom (lines.flatMap lineBytes).length) :
    ∃ left, sink.writeLines lines = (.error .full, left) ∧
      left.taken = sink.taken ++ sink.fitting (lines.flatMap lineBytes) ∧
      left.flushes = sink.flushes := by
  induction lines generalizing sink with
  | nil => exact absurd (fun room _ => Nat.zero_le room) full
  | cons line rest ih =>
      rw [List.flatMap_cons] at full ⊢
      rw [writeLines]
      by_cases before : sink.HasRoom (lineBytes line).length
      · rw [write_of_hasRoom before]
        have behind : ¬ (sink.filled (lineBytes line)).HasRoom (rest.flatMap lineBytes).length :=
          fun behind => full ((hasRoom_append sink _ _).mpr ⟨before, behind⟩)
        obtain ⟨left, result, taken, flushes⟩ := ih behind
        refine ⟨left, result, ?_, flushes⟩
        rw [taken, taken_filled, List.append_assoc, fitting_append]
      · rw [write_of_full before]
        refine ⟨_, rfl, ?_, rfl⟩
        rw [taken_filled, fitting_append_of_full before]

/-- The number of flushes that succeed before the one that fails. -/
def goodFlushes (sink : Sink) : Option Nat :=
  match sink.badFlush with
  | some flush => if sink.flushes ≤ flush then some (flush - sink.flushes) else none
  | none => none

theorem flush_of_bad {sink : Sink} (bad : sink.goodFlushes = some 0) :
    sink.flush = (.error .flushFailed, { sink with flushes := sink.flushes + 1 }) := by
  simp only [goodFlushes] at bad
  cases limit : sink.badFlush with
  | none => simp [limit] at bad
  | some flush =>
      simp only [limit] at bad
      split at bad
      · rename_i ahead
        have now : flush = sink.flushes := by
          have := Option.some.inj bad
          omega
        simp [Sink.flush, limit, now]
      · cases bad

theorem flush_of_good {sink : Sink} (good : sink.goodFlushes ≠ some 0) :
    sink.flush = (.ok (), { sink with flushes := sink.flushes + 1 }) := by
  have later : sink.badFlush ≠ some sink.flushes := by
    intro now
    exact good (by simp [goodFlushes, now])
  simp [Sink.flush, later]

theorem goodFlushes_succ {sink : Sink} (good : sink.goodFlushes ≠ some 0) :
    ({ sink with flushes := sink.flushes + 1 } : Sink).goodFlushes =
      sink.goodFlushes.map (· - 1) := by
  cases limit : sink.badFlush with
  | none => simp [goodFlushes, limit]
  | some flush =>
      simp only [goodFlushes, limit] at good ⊢
      by_cases ahead : sink.flushes ≤ flush
      · have more : sink.flushes + 1 ≤ flush := by
          apply Nat.lt_of_le_of_ne ahead
          intro now
          simp [now] at good
        rw [if_pos ahead, if_pos more, Option.map_some, Nat.sub_sub]
      · rw [if_neg ahead, if_neg (by omega)]
        rfl

end Sink

/-! ### The run -/

section Run

variable {lines : List String} {failure : ListingError} {rest listed : List ListingOutcome}

theorem block_ok : block (.ok lines) = lines.flatMap lineBytes := rfl

theorem sentBlocks_error (good : Option Nat) : sentBlocks good (.error failure :: rest) = [] := by
  cases good <;> simp [sentBlocks, sentCount, listableCount_error]

theorem sentBlocks_of_bad :
    sentBlocks (some 0) (.ok lines :: rest) = [lines.flatMap lineBytes] := by
  simp [sentBlocks, sentCount, listableCount_ok, block_ok]

theorem sentBlocks_of_good {good : Option Nat} (later : good ≠ some 0) :
    sentBlocks good (.ok lines :: rest) =
      lines.flatMap lineBytes :: sentBlocks (good.map (· - 1)) rest := by
  cases good with
  | none => simp [sentBlocks, sentCount, listableCount_ok, block_ok]
  | some flush =>
      obtain ⟨flush, rfl⟩ : ∃ before, flush = before + 1 :=
        Nat.exists_eq_succ_of_ne_zero fun zero => later (by rw [zero])
      simp only [sentBlocks, sentCount, listableCount_ok, Option.map_some, Nat.add_sub_cancel,
        Nat.succ_min_succ, List.take_succ_cons, List.map_cons, block_ok]

/-- What a run over sources with the given outcomes leaves behind that started with the given
sink. -/
structure Streamed (listed : List ListingOutcome) (before : Nat) (sink : Sink)
    (written : Written) : Prop where
  taken : written.sink.taken =
    sink.taken ++ sink.fitting (sentBlocks sink.goodFlushes listed).flatten
  flushes : ∀ room, sink.room = some room → written.sink.flushes =
    sink.flushes + wholeBlocks room (sentBlocks sink.goodFlushes listed)
  full : ¬ sink.HasRoom (sentBlocks sink.goodFlushes listed).flatten.length →
    written.outcome = .error (.output .full)
  flushFailed : sink.HasRoom (sentBlocks sink.goodFlushes listed).flatten.length →
    ∀ flush, sink.goodFlushes = some flush → flush < listableCount listed →
      written.outcome = .error (.output .flushFailed)
  finished : sink.HasRoom (sentBlocks sink.goodFlushes listed).flatten.length →
    (∀ flush, sink.goodFlushes = some flush → listableCount listed ≤ flush) →
      written.outcome = (gathered listed).map (before + ·.length)

theorem Streamed.of_nothing {before : Nat} {sink : Sink} {written : Written}
    (none : listableCount listed = 0) (blocks : sentBlocks sink.goodFlushes listed = [])
    (same : written.sink = sink)
    (outcome : written.outcome = (gathered listed).map (before + ·.length)) :
    Streamed listed before sink written where
  taken := by
    rw [same, blocks]
    cases limit : sink.room <;> simp [Sink.fitting, limit]
  flushes := by
    intro room _
    rw [same, blocks]
    simp [wholeBlocks]
  full := by
    intro full
    rw [blocks] at full
    exact absurd (fun room _ => Nat.zero_le room) full
  flushFailed := by
    intro _ flush _ ahead
    rw [none] at ahead
    exact absurd ahead (Nat.not_lt_zero flush)
  finished := fun _ _ => outcome

theorem Streamed.of_full {before : Nat} {sink left : Sink} {written : Written}
    (full : ¬ sink.HasRoom (lines.flatMap lineBytes).length)
    (same : written.sink = left)
    (taken : left.taken = sink.taken ++ sink.fitting (lines.flatMap lineBytes))
    (flushes : left.flushes = sink.flushes)
    (outcome : written.outcome = .error (.output .full)) :
    Streamed (.ok lines :: rest) before sink written := by
  obtain ⟨more, blocks⟩ : ∃ more, sentBlocks sink.goodFlushes (.ok lines :: rest) =
      lines.flatMap lineBytes :: more := by
    by_cases bad : sink.goodFlushes = some 0
    · exact ⟨[], by rw [bad, sentBlocks_of_bad]⟩
    · exact ⟨_, sentBlocks_of_good bad⟩
  have overfull : ¬ sink.HasRoom
      (sentBlocks sink.goodFlushes (.ok lines :: rest)).flatten.length := by
    rw [blocks, List.flatten_cons]
    exact fun enough => full ((Sink.hasRoom_append sink _ _).mp enough).1
  constructor
  case taken =>
    rw [same, taken, blocks, List.flatten_cons, Sink.fitting_append_of_full full]
  case flushes =>
    intro room limit
    have short : ¬ (lines.flatMap lineBytes).length ≤ room :=
      mt (Sink.hasRoom_iff limit _).mpr full
    rw [same, flushes, blocks, wholeBlocks_cons, if_neg short, Nat.add_zero]
  case full => exact fun _ => outcome
  case flushFailed => exact fun enough => absurd enough overfull
  case finished => exact fun enough => absurd enough overfull

theorem Streamed.of_flushFailed {before : Nat} {sink : Sink} {written : Written}
    (enough : sink.HasRoom (lines.flatMap lineBytes).length)
    (bad : sink.goodFlushes = some 0)
    (same : written.sink =
      { sink.filled (lines.flatMap lineBytes) with flushes := sink.flushes + 1 })
    (outcome : written.outcome = .error (.output .flushFailed)) :
    Streamed (.ok lines :: rest) before sink written := by
  have blocks : sentBlocks sink.goodFlushes (.ok lines :: rest) = [lines.flatMap lineBytes] := by
    rw [bad, sentBlocks_of_bad]
  constructor
  case taken => rw [same, blocks, List.flatten_singleton]; rfl
  case flushes =>
    intro room limit
    rw [same, blocks, wholeBlocks_cons, if_pos (enough room limit)]
    rfl
  case full =>
    intro full
    rw [blocks, List.flatten_singleton] at full
    exact absurd enough full
  case flushFailed => exact fun _ _ _ _ => outcome
  case finished =>
    intro _ behind
    have none := behind 0 bad
    rw [listableCount_ok] at none
    exact absurd none (Nat.not_succ_le_zero _)

theorem Streamed.cons {before : Nat} {sink : Sink} {written : Written}
    (enough : sink.HasRoom (lines.flatMap lineBytes).length)
    (good : sink.goodFlushes ≠ some 0)
    (later : Streamed rest (before + lines.length)
      { sink.filled (lines.flatMap lineBytes) with flushes := sink.flushes + 1 } written) :
    Streamed (.ok lines :: rest) before sink written := by
  have flushesLeft : ({ sink.filled (lines.flatMap lineBytes) with
      flushes := sink.flushes + 1 } : Sink).goodFlushes = sink.goodFlushes.map (· - 1) :=
    @Sink.goodFlushes_succ (sink.filled (lines.flatMap lineBytes)) good
  have blocks : sentBlocks sink.goodFlushes (.ok lines :: rest) =
      lines.flatMap lineBytes :: sentBlocks (sink.goodFlushes.map (· - 1)) rest :=
    sentBlocks_of_good good
  obtain ⟨taken, flushes, full, flushFailed, finished⟩ := later
  rw [flushesLeft] at taken flushes full flushFailed finished
  have whole : sink.HasRoom (sentBlocks sink.goodFlushes (.ok lines :: rest)).flatten.length ↔
      (sink.filled (lines.flatMap lineBytes)).HasRoom
        (sentBlocks (sink.goodFlushes.map (· - 1)) rest).flatten.length := by
    rw [blocks, List.flatten_cons, Sink.hasRoom_append]
    exact and_iff_right enough
  constructor
  case taken =>
    rw [taken, blocks, List.flatten_cons, Sink.fitting_append, ← List.append_assoc]
    rfl
  case flushes =>
    intro room limit
    have behind := flushes (room - (lines.flatMap lineBytes).length) (by simp [limit])
    rw [behind, blocks, wholeBlocks_cons, if_pos (enough room limit)]
    simp only [Nat.add_assoc, Nat.add_comm 1]
  case full => exact fun short => full ((not_congr whole).mp short)
  case flushFailed =>
    intro room flush ahead before
    refine flushFailed (whole.mp room) (flush - 1) (by rw [ahead]; rfl) ?_
    rw [listableCount_ok] at before
    have : flush ≠ 0 := fun zero => good (by rw [ahead, zero])
    omega
  case finished =>
    intro room behind
    rw [finished (whole.mp room), gathered_cons]
    · cases gathered rest with
      | error failure => rfl
      | ok others => simp [Except.map, Nat.add_assoc]
    · intro flush ahead
      obtain ⟨flushes, left, rfl⟩ := Option.map_eq_some_iff.mp ahead
      have := behind flushes left
      rw [listableCount_ok] at this
      omega

theorem streamed_writeSources (inputs : Inputs) (options : ListingOptions)
    (sources : List Source) (before : Nat) (sink : Sink) :
    Streamed (listedInTurn inputs options sources) before sink
      (writeSources inputs options before sink sources) := by
  induction sources generalizing inputs before sink with
  | nil =>
      refine Streamed.of_nothing rfl ?_ rfl rfl
      cases sink.goodFlushes <;> rfl
  | cons source rest ih =>
      simp only [writeSources, listedInTurn]
      rw [← listedAlone_eq]
      cases listedAlone inputs options source with
      | error failure =>
          refine Streamed.of_nothing listableCount_error (sentBlocks_error _) rfl ?_
          rw [gathered_cons]
          rfl
      | ok lines =>
          by_cases enough : sink.HasRoom (lines.flatMap lineBytes).length
          · simp only [Sink.writeLines_of_hasRoom enough]
            by_cases bad : sink.goodFlushes = some 0
            · have flushed := @Sink.flush_of_bad (sink.filled (lines.flatMap lineBytes)) bad
              simp only [flushed]
              exact Streamed.of_flushFailed enough bad rfl rfl
            · have flushed := @Sink.flush_of_good (sink.filled (lines.flatMap lineBytes)) bad
              simp only [flushed]
              -- the run is the rest's but for its events, so only the fields carry over
              obtain ⟨taken, flushes, full, flushFailed, finished⟩ :=
                ih (inputs.after source) (before + lines.length) _
              exact Streamed.cons enough bad ⟨taken, flushes, full, flushFailed, finished⟩
          · obtain ⟨left, result, taken, flushes⟩ := Sink.writeLines_of_full enough
            simp only [result]
            exact Streamed.of_full enough rfl taken flushes rfl

theorem streamed_writeListing (inputs : Inputs) (options : ListingOptions)
    (sources : List Source) (sink : Sink) :
    Streamed (listedInTurn inputs options sources) 0 sink
      (writeListing inputs options sources sink) := by
  obtain ⟨taken, flushes, full, flushFailed, finished⟩ :=
    streamed_writeSources inputs options sources 0 sink
  rw [writeListing]
  split
  · rename_i lines done
    exact ⟨taken, flushes, full, flushFailed, finished⟩
  · exact ⟨taken, flushes, full, flushFailed, finished⟩

/-- A run that ends early without blaming the sink ends as the listing itself does. -/
theorem Streamed.gathered_eq_error {before : Nat} {sink : Sink} {written : Written}
    (streamed : Streamed listed before sink written)
    (failed : written.outcome = .error failure) (other : ∀ error, failure ≠ .output error) :
    gathered listed = .error failure := by
  by_cases enough : sink.HasRoom (sentBlocks sink.goodFlushes listed).flatten.length
  · by_cases behind : ∀ flush, sink.goodFlushes = some flush → listableCount listed ≤ flush
    · rw [streamed.finished enough behind] at failed
      exact eq_error_of_map_eq_error failed
    · simp only [Classical.not_forall, Nat.not_le] at behind
      obtain ⟨flush, ahead, early⟩ := behind
      rw [streamed.flushFailed enough flush ahead early] at failed
      cases failed
      exact absurd rfl (other _)
  · rw [streamed.full enough] at failed
    cases failed
    exact absurd rfl (other _)

/-- A sink without bounds takes every block that is sent, and the run ends as the listing does. -/
theorem writeListing_unbounded {inputs : Inputs} {options : ListingOptions} {sources : List Source}
    {sink : Sink} (room : sink.room = none) (flushes : sink.goodFlushes = none) :
    (writeListing inputs options sources sink).sink.taken =
      sink.taken ++ (sentBlocks none (listedInTurn inputs options sources)).flatten ∧
    (writeListing inputs options sources sink).outcome =
      (list inputs options sources).outcome.map List.length := by
  obtain ⟨taken, _, _, _, finished⟩ := streamed_writeListing inputs options sources sink
  refine ⟨?_, ?_⟩
  · rw [taken, flushes, Sink.fitting, room]
  · have behind : ∀ flush, sink.goodFlushes = some flush →
        listableCount (listedInTurn inputs options sources) ≤ flush := by
      simp [flushes]
    rw [finished (Sink.hasRoom_of_unbounded room _) behind, outcome_list]
    simp only [Nat.zero_add]

end Run

/-- Writing a listing into a sink that takes `room` bytes and whose flush number `badFlush` fails:
the sink holds the blocks sent to it as far as there was room, and was flushed once for each block
that found room as a whole.  Lack of room is reported before a failed flush, and either before a
source that cannot be listed; otherwise the run ends as the listing itself does.  A source is listed
as on its own where those before it have been read, which matters to standard input alone: if it is
named once, each source is listed as on its own. -/
theorem writeListing_streams (inputs : Inputs) (options : ListingOptions) (sources : List Source)
    (room : Nat) (badFlush : Option Nat) :
    let listed := listedInTurn inputs options sources
    let listable := listableCount listed
    let blocks := sentBlocks badFlush listed
    let written := writeListing inputs options sources { room := some room, badFlush }
    written.sink.taken = blocks.flatten.take room ∧
    written.sink.flushes = wholeBlocks room blocks ∧
    (written.outcome =
      if room < blocks.flatten.length then .error (.output .full)
      else if badFlush.any (· < listable) then .error (.output .flushFailed)
      else (list inputs options sources).outcome.map List.length) ∧
    (∀ source, sources[listable]? = some source →
      ∃ failure, listedAlone (inputs.afterAll (sources.take listable)) options source =
          .error failure ∧
        (list inputs options sources).outcome = .error failure) ∧
    (listable = sources.length → ∃ lines, (list inputs options sources).outcome = .ok lines) ∧
    listed.length = sources.length ∧
    (∀ i source, sources[i]? = some source →
      listed[i]? = some (listedAlone (inputs.afterAll (sources.take i)) options source)) ∧
    (sources.count .standardInput ≤ 1 →
      listed = sources.map (listedAlone inputs options)) := by
  intro listed listable blocks written
  have start : ({ room := some room, badFlush } : Sink).goodFlushes = badFlush := by
    cases badFlush <;> simp [Sink.goodFlushes]
  obtain ⟨taken, flushes, full, flushFailed, finished⟩ :=
    streamed_writeListing inputs options sources { room := some room, badFlush }
  rw [start] at taken flushes full flushFailed finished
  refine ⟨?taken, ?flushes, ?outcome, ?unlisted, ?all, length_listedInTurn .., ?turn,
    listedInTurn_of_once⟩
  case taken => simpa [Sink.fitting] using taken
  case flushes => simpa using flushes room rfl
  case outcome =>
    by_cases short : room < blocks.flatten.length
    · rw [if_pos short]
      exact full fun enough => absurd (enough room rfl) (Nat.not_le_of_lt short)
    · have enough : ({ room := some room, badFlush } : Sink).HasRoom blocks.flatten.length :=
        (Sink.hasRoom_iff rfl _).mpr (Nat.le_of_not_lt short)
      rw [if_neg short]
      by_cases bad : badFlush.any (· < listable) = true
      · rw [if_pos bad]
        cases limit : badFlush with
        | none => simp [limit] at bad
        | some flush => exact flushFailed enough flush limit (by simpa [limit] using bad)
      · rw [if_neg bad, finished enough, outcome_list]
        · simp only [Nat.zero_add]
        · intro flush limit
          rw [limit] at bad
          simpa using bad
  case unlisted =>
    intro source first
    have turn : listed[listable]? = _ := getElem?_listedInTurn first
    obtain ⟨failure, unlisted⟩ := exists_failure_of_getElem?_listableCount turn
    rw [unlisted] at turn
    exact ⟨failure, unlisted, (outcome_list ..).trans (gathered_eq_error_iff.mpr turn)⟩
  case all =>
    intro all
    rw [outcome_list]
    exact listableCount_eq_length_iff.mp (all.trans (length_listedInTurn ..).symm)
  case turn => exact fun _ _ => getElem?_listedInTurn

/-- Standard input holds an image and is named twice.  The first time its line is written, and the
second time nothing is left to read. -/
theorem writeListing_streams_input_twice :
    let image := oneFieldImage
    let inputs : Inputs := { openFile := fun _ => .error .notFound, standardInput := .ok image }
    let options : ListingOptions := { selection := .fields }
    let sources : List Source := [.standardInput, .standardInput]
    let written := writeListing inputs options sources { room := some 9 }
    written.sink.taken = [0x41, 0x20, 0x6E, 0x3A, 0x20, 0x41, 0x0A] ∧
      written.sink.flushes = 1 ∧
      written.outcome = .error (.read "<stdin>" none (.archive .noEndRecord)) := by
  intro image inputs options sources written
  have turn : listedInTurn inputs options sources =
      [.ok ["A n: A"], .error (.read "<stdin>" none (.archive .noEndRecord))] := by decide +kernel
  obtain ⟨taken, flushes, outcome, unlisted, _⟩ :=
    writeListing_streams inputs options sources 9 none
  rw [turn] at taken flushes outcome unlisted
  have listed : (list inputs options sources).outcome =
      .error (.read "<stdin>" none (.archive .noEndRecord)) := by
    rw [outcome_list, turn]
    rfl
  refine ⟨?_, ?_, ?_⟩
  · rw [taken]
    decide +kernel
  · rw [flushes]
    decide +kernel
  · rw [outcome, listed]
    decide +kernel

end DexMembers
