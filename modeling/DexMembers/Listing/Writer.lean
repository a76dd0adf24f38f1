import DexMembers.Listing.Source

/-!
# Writing a listing

The lines of each source are written as soon as the source is resolved, and the sink is flushed
after each source.  A failure ends the run; what was written before it stays written.
-/

set_option autoImplicit false

namespace DexMembers

structure Sink where
  /-- How many more bytes it takes; without a bound it takes all. -/
  room : Option Nat := none
  /-- The number of the flush that fails, counted from zero. -/
  badFlush : Option Nat := none
  taken : List UInt8 := []
  flushes : Nat := 0
deriving DecidableEq, Repr

namespace Sink

/-- The sink after an attempt to write the bytes: those that fit are taken. -/
def write (sink : Sink) (bytes : List UInt8) : Except SinkError Unit × Sink :=
  match sink.room with
  | none => (.ok (), { sink with taken := sink.taken ++ bytes })
  | some room =>
      let sink :=
        { sink with taken := sink.taken ++ bytes.take room, room := some (room - bytes.length) }
      (if bytes.length ≤ room then .ok () else .error .full, sink)

def flush (sink : Sink) : Except SinkError Unit × Sink :=
  (if sink.badFlush = some sink.flushes then .error .flushFailed else .ok (),
    { sink with flushes := sink.flushes + 1 })

end Sink

def lineBytes (line : String) : List UInt8 :=
  Text.utf8Bytes line ++ [0x0A]

/-- The sink after an attempt to write the lines one by one; nothing follows one that does not
fit. -/
def Sink.writeLines : Sink → List String → Except SinkError Unit × Sink
  | sink, [] => (.ok (), sink)
  | sink, line :: rest =>
      match sink.write (lineBytes line) with
      | (.error error, sink) => (.error error, sink)
      | (.ok (), sink) => sink.writeLines rest

/-- The outcome of writing a listing: what was reported, how many lines were written or why not all
were, and the sink as it was left. -/
structure Written where
  events : List Event
  outcome : Except ListingError Nat
  sink : Sink

/-- Writes the lines of the sources one after the other; `before` lines are written already. -/
def writeSources (inputs : Inputs) (options : ListingOptions) :
    (before : Nat) → Sink → List Source → Written
  | before, sink, [] => ⟨[], .ok before, sink⟩
  | before, sink, source :: rest =>
      let listed := source.lines inputs options
      match listed.outcome with
      | .error error => ⟨listed.events, .error error, sink⟩
      | .ok lines =>
          match sink.writeLines lines with
          | (.error error, sink) => ⟨listed.events, .error (.output error), sink⟩
          | (.ok (), sink) =>
              match sink.flush with
              | (.error error, sink) => ⟨listed.events, .error (.output error), sink⟩
              | (.ok (), sink) =>
                  let others :=
                    writeSources (inputs.after source) options (before + lines.length) sink rest
                  { others with events := listed.events ++ others.events }

def writeListing (inputs : Inputs) (options : ListingOptions) (sources : List Source)
    (sink : Sink) : Written :=
  let written := writeSources inputs options 0 sink sources
  match written.outcome with
  | .ok lines =>
      { written with events := written.events ++ [.listed lines sources.length] }
  | .error _ => written

end DexMembers
