import DexMembers.Proofs.Listing.ImageLines

/-!
# Sources listed in turn

A listing of several sources comes down to what each of them gives on its own, where those before it
have been read.  The only source that another one can leave with less is standard input: it is read
to its end, and nothing at all is no listing, so a listing that succeeds names it at most once.
-/

set_option autoImplicit false

namespace DexMembers

/-! ### Sources in turn -/

abbrev ListingOutcome := Except ListingError (List String)

section Turns

variable {inputs others : Inputs} {options : ListingOptions} {sources : List Source}

def listedAlone (inputs : Inputs) (options : ListingOptions) (source : Source) : ListingOutcome :=
  (list inputs options [source]).outcome

def canList (inputs : Inputs) (options : ListingOptions) (source : Source) : Bool :=
  (listedAlone inputs options source).isOk

/-- What is left to read behind the sources. -/
def Inputs.afterAll (inputs : Inputs) (sources : List Source) : Inputs :=
  sources.foldl Inputs.after inputs

/-- What each source gives on its own, where those before it have been read. -/
def listedInTurn (inputs : Inputs) (options : ListingOptions) : List Source → List ListingOutcome
  | [] => []
  | source :: rest =>
      listedAlone inputs options source :: listedInTurn (inputs.after source) options rest

def gathered (listed : List ListingOutcome) : ListingOutcome :=
  (listed.mapM id).map List.flatten

theorem listedAlone_eq (inputs : Inputs) (options : ListingOptions) (source : Source) :
    listedAlone inputs options source = (source.lines inputs options).outcome := by
  simp only [listedAlone, list, Traced.outcome_bind, Traced.outcome_pure]
  cases (source.lines inputs options).outcome with
  | error failure => rfl
  | ok lines => simp [bind, Except.bind]

theorem gathered_cons (first : ListingOutcome) (rest : List ListingOutcome) :
    gathered (first :: rest) =
      match first with
      | .error failure => .error failure
      | .ok lines => (gathered rest).map (lines ++ ·) := by
  rw [gathered, List.mapM_cons]
  cases first with
  | error failure => rfl
  | ok lines =>
      rw [gathered]
      cases rest.mapM id <;> rfl

theorem outcome_list (inputs : Inputs) (options : ListingOptions) (sources : List Source) :
    (list inputs options sources).outcome = gathered (listedInTurn inputs options sources) := by
  induction sources generalizing inputs with
  | nil => rfl
  | cons source rest ih =>
      rw [listedInTurn, gathered_cons, ← ih, listedAlone_eq]
      simp only [list, Traced.outcome_bind, Traced.outcome_pure]
      cases (source.lines inputs options).outcome with
      | error failure => rfl
      | ok lines => cases (list (inputs.after source) options rest).outcome <;> rfl

theorem length_listedInTurn (inputs : Inputs) (options : ListingOptions) (sources : List Source) :
    (listedInTurn inputs options sources).length = sources.length := by
  induction sources generalizing inputs with
  | nil => rfl
  | cons source rest ih => rw [listedInTurn, List.length_cons, List.length_cons, ih]

theorem getElem?_listedInTurn {i : Nat} {source : Source} (named : sources[i]? = some source) :
    (listedInTurn inputs options sources)[i]? =
      some (listedAlone (inputs.afterAll (sources.take i)) options source) := by
  induction sources generalizing inputs i with
  | nil => cases named
  | cons first rest ih =>
      cases i with
      | zero =>
          cases named
          rfl
      | succ i =>
          rw [List.getElem?_cons_succ] at named
          exact ih named

theorem listedInTurn_append (inputs : Inputs) (first second : List Source) :
    listedInTurn inputs options (first ++ second) =
      listedInTurn inputs options first ++
        listedInTurn (inputs.afterAll first) options second := by
  induction first generalizing inputs with
  | nil => rfl
  | cons source rest ih => exact congrArg _ (ih (inputs.after source))

/-! ### Standard input is read once -/

theorem Inputs.openFile_afterAll (inputs : Inputs) (sources : List Source) :
    (inputs.afterAll sources).openFile = inputs.openFile := by
  induction sources generalizing inputs with
  | nil => rfl
  | cons source rest ih => exact (ih (inputs.after source)).trans (by cases source <;> rfl)

theorem Inputs.standardInput_afterAll (inputs : Inputs) (sources : List Source) :
    (inputs.afterAll sources).standardInput =
      if .standardInput ∈ sources then inputs.standardInput.map fun _ => []
      else inputs.standardInput := by
  induction sources generalizing inputs with
  | nil => rfl
  | cons source rest ih =>
      refine (ih (inputs.after source)).trans ?_
      cases source with
      | standardInput =>
          -- what has been read to its end is read to its end again
          rw [if_pos List.mem_cons_self]
          cases found : inputs.standardInput <;> simp [Inputs.after, found, Except.map]
      | file path => simp [Inputs.after]
      | bytes name content => simp [Inputs.after]

theorem Inputs.afterAll_of_not_mem (inputs : Inputs) (other : .standardInput ∉ sources) :
    inputs.afterAll sources = inputs := by
  induction sources with
  | nil => rfl
  | cons source rest ih =>
      obtain ⟨first, later⟩ := not_or.mp (mt List.mem_cons.mpr other)
      cases source with
      | standardInput => exact absurd rfl first
      | file path => exact ih later
      | bytes name content => exact ih later

theorem Source.content_congr {source : Source} (other : source ≠ .standardInput)
    (files : inputs.openFile = others.openFile) :
    source.content inputs = source.content others := by
  cases source with
  | standardInput => exact absurd rfl other
  | file path => exact congrFun files path
  | bytes name content => rfl

theorem listedAlone_congr {source : Source}
    (same : source.content inputs = source.content others) :
    listedAlone inputs options source = listedAlone others options source := by
  simp only [listedAlone_eq, Source.lines, Source.members, same]

theorem listedInTurn_congr (other : .standardInput ∉ sources)
    (files : inputs.openFile = others.openFile) :
    listedInTurn inputs options sources = listedInTurn others options sources := by
  induction sources generalizing inputs others with
  | nil => rfl
  | cons source rest ih =>
      obtain ⟨first, later⟩ := not_or.mp (mt List.mem_cons.mpr other)
      have behind : (inputs.after source).openFile = (others.after source).openFile := by
        cases source <;> exact files
      rw [listedInTurn, listedInTurn, ih later behind,
        listedAlone_congr (Source.content_congr (Ne.symm first) files)]

/-- What follows is listed as if nothing had been read, unless standard input is named again. -/
theorem listedInTurn_afterAll {first second : List Source}
    (once : .standardInput ∉ first ∨ .standardInput ∉ second) :
    listedInTurn (inputs.afterAll first) options second = listedInTurn inputs options second := by
  rcases once with unread | unnamed
  · rw [inputs.afterAll_of_not_mem unread]
  · exact listedInTurn_congr unnamed (inputs.openFile_afterAll first)

theorem not_mem_or_not_mem_of_count_le_one {source : Source} {rest : List Source}
    (once : (source :: rest).count .standardInput ≤ 1) :
    .standardInput ∉ [source] ∨ .standardInput ∉ rest := by
  rw [List.count_cons] at once
  by_cases first : source = .standardInput
  · rw [if_pos (beq_iff_eq.mpr first)] at once
    exact Or.inr (List.count_eq_zero.mp (by omega))
  · exact Or.inl (mt List.mem_singleton.mp (Ne.symm first))

/-- Sources that name standard input at most once are listed as each of them alone. -/
theorem listedInTurn_of_once (once : sources.count .standardInput ≤ 1) :
    listedInTurn inputs options sources = sources.map (listedAlone inputs options) := by
  induction sources with
  | nil => rfl
  | cons source rest ih =>
      have behind : listedInTurn (inputs.afterAll [source]) options rest =
          listedInTurn inputs options rest :=
        listedInTurn_afterAll (not_mem_or_not_mem_of_count_le_one once)
      have later : rest.count .standardInput ≤ 1 := Nat.le_trans List.count_le_count_cons once
      rw [List.map_cons, ← ih later, ← behind]
      rfl

/-- Nothing comes on standard input any more. -/
def Inputs.Drained (inputs : Inputs) : Prop :=
  ∀ content, inputs.standardInput = .ok content → content = []

theorem Inputs.drained_after (inputs : Inputs) : (inputs.after .standardInput).Drained := by
  intro content found
  obtain ⟨_, _, rfl⟩ := eq_ok_of_map_eq_ok found
  rfl

theorem Inputs.Drained.after (drained : inputs.Drained) (source : Source) :
    (inputs.after source).Drained := by
  cases source with
  | standardInput => exact inputs.drained_after
  | file path => exact drained
  | bytes name content => exact drained

theorem Inputs.Drained.not_listed (drained : inputs.Drained) {lines : List String} :
    listedAlone inputs options .standardInput ≠ .ok lines := by
  intro listed
  rw [listedAlone_eq, outcome_lines, Source.members, Source.content] at listed
  cases found : inputs.standardInput with
  | error error =>
      rw [found] at listed
      cases listed
  | ok content =>
      obtain rfl := drained content found
      rw [found] at listed
      cases listed

theorem Inputs.Drained.not_mem_of_gathered (drained : inputs.Drained) {lines : List String}
    (done : gathered (listedInTurn inputs options sources) = .ok lines) :
    .standardInput ∉ sources := by
  induction sources generalizing inputs lines with
  | nil => exact List.not_mem_nil
  | cons source rest ih =>
      rw [listedInTurn, gathered_cons] at done
      cases listed : listedAlone inputs options source with
      | error failure =>
          rw [listed] at done
          cases done
      | ok own =>
          rw [listed] at done
          obtain ⟨others, following, _⟩ := eq_ok_of_map_eq_ok done
          have unnamed := ih (drained.after source) following
          refine fun member => (List.mem_cons.mp member).elim ?_ unnamed
          rintro rfl
          exact drained.not_listed listed

/-- A listing that succeeds has named standard input at most once. -/
theorem count_standardInput_le_one {lines : List String}
    (done : gathered (listedInTurn inputs options sources) = .ok lines) :
    sources.count .standardInput ≤ 1 := by
  induction sources generalizing inputs lines with
  | nil => exact Nat.zero_le 1
  | cons source rest ih =>
      rw [listedInTurn, gathered_cons] at done
      cases listed : listedAlone inputs options source with
      | error failure =>
          rw [listed] at done
          cases done
      | ok own =>
          rw [listed] at done
          obtain ⟨others, following, _⟩ := eq_ok_of_map_eq_ok done
          by_cases first : source = .standardInput
          · subst first
            have unnamed := inputs.drained_after.not_mem_of_gathered following
            have one : (Source.standardInput :: rest).count .standardInput = 1 := by
              rw [List.count_cons_self, List.count_eq_zero.mpr unnamed]
            exact Nat.le_of_eq one
          · rw [List.count_cons_of_ne first]
            exact ih following

end Turns

/-! ### The first source that cannot be listed -/

/-- The number of sources before the first that cannot be listed. -/
def listableCount (listed : List ListingOutcome) : Nat :=
  listed.findIdx fun outcome => !outcome.isOk

section Gathered

variable {lines : List String} {failure : ListingError} {rest listed : List ListingOutcome}

theorem listableCount_error : listableCount (.error failure :: rest) = 0 := by
  simp [listableCount, List.findIdx_cons, Except.isOk, Except.toBool]

theorem listableCount_ok : listableCount (.ok lines :: rest) = listableCount rest + 1 := by
  simp [listableCount, List.findIdx_cons, Except.isOk, Except.toBool]

theorem exists_failure_of_getElem?_listableCount {outcome : ListingOutcome}
    (first : listed[listableCount listed]? = some outcome) :
    ∃ failure, outcome = .error failure := by
  induction listed with
  | nil => cases first
  | cons head rest ih =>
      cases head with
      | error failure =>
          rw [listableCount_error, List.getElem?_cons_zero] at first
          exact ⟨failure, (Option.some.inj first).symm⟩
      | ok lines =>
          rw [listableCount_ok, List.getElem?_cons_succ] at first
          exact ih first

/-- A listing fails as its first source that cannot be listed does. -/
theorem gathered_eq_error_iff :
    gathered listed = .error failure ↔ listed[listableCount listed]? = some (.error failure) := by
  induction listed with
  | nil => exact ⟨nofun, nofun⟩
  | cons first rest ih =>
      rw [gathered_cons]
      cases first with
      | error error => rw [listableCount_error, List.getElem?_cons_zero, Option.some_inj]
      | ok lines =>
          rw [listableCount_ok, List.getElem?_cons_succ, ← ih]
          cases gathered rest <;> simp [Except.map]

theorem exists_gathered_eq_ok_iff :
    (∃ lines, gathered listed = .ok lines) ↔ ∀ outcome ∈ listed, outcome.isOk = true := by
  have parts : (∃ lines, gathered listed = .ok lines) ↔ ∃ parts, listed.mapM id = .ok parts := by
    rw [gathered]
    cases listed.mapM id <;> simp [Except.map]
  rw [parts, exists_mapM_eq_ok_iff]
  refine forall₂_congr fun outcome _ => ?_
  cases outcome <;> simp [Except.isOk, Except.toBool]

theorem listableCount_eq_length_iff :
    listableCount listed = listed.length ↔ ∃ lines, gathered listed = .ok lines := by
  rw [exists_gathered_eq_ok_iff, listableCount, List.findIdx_eq_length]
  simp only [Bool.not_eq_false']

end Gathered

theorem exists_unlisted_of_list_eq_error {inputs : Inputs} {options : ListingOptions}
    {sources : List Source} {failure : ListingError}
    (failed : (list inputs options sources).outcome = .error failure) :
    let listable := listableCount (listedInTurn inputs options sources)
    ∃ source, sources[listable]? = some source ∧
      listedAlone (inputs.afterAll (sources.take listable)) options source = .error failure := by
  intro listable
  rw [outcome_list, gathered_eq_error_iff] at failed
  have inside : listable < sources.length := by
    rw [← length_listedInTurn inputs options sources]
    exact (List.getElem?_eq_some_iff.mp failed).1
  have named : sources[listable]? = some sources[listable] := List.getElem?_eq_getElem inside
  have turn : (listedInTurn inputs options sources)[listable]? = _ := getElem?_listedInTurn named
  exact ⟨_, named, Option.some.inj (turn.symm.trans failed)⟩

section Once

variable {inputs : Inputs} {options : ListingOptions} {sources : List Source}
  (once : sources.count .standardInput ≤ 1)

include once

end Once

end DexMembers
