import DexMembers.Image.Members

/-!
# The journal of a run

What a run reports beside its result: an event per step of note, with its severity and its wording.
A traced computation keeps the events of everything done before a failure.
-/

set_option autoImplicit false

namespace DexMembers

inductive Severity where
  | warning
  | info
  | debug
deriving DecidableEq, Repr

def Severity.name : Severity → String
  | warning => "WARN"
  | info => "INFO"
  | debug => "DEBUG"

def Selection.name : Selection → String
  | methods => "Methods"
  | fields => "Fields"
  | all => "All"

inductive Event where
  | mappingRead (types methods fields : Nat)
  | mappingEmpty (path : String)
  | settings (selection : Selection) (mapped : Bool)
  | checksumMismatch (stated computed : UInt32)
  | imageRead (strings types prototypes fields methods : Nat)
  | bareImage (name : String) (size : Nat)
  | archiveRead (name : String) (entries images : Nat)
  | imageListed (name : String) (lines : Nat)
  | listed (lines sources : Nat)
deriving DecidableEq, Repr

namespace Event

def severity : Event → Severity
  | mappingEmpty _ | checksumMismatch _ _ => .warning
  | listed _ _ => .info
  | _ => .debug

def text : Event → String
  | mappingRead types methods fields =>
      "mapping: " ++ types.repr ++ " types, " ++ methods.repr ++ " methods, " ++ fields.repr ++
        " fields"
  | mappingEmpty path => path ++ ": no type mappings"
  | settings selection mapped =>
      "members: " ++ selection.name ++ ", mapping: " ++ (if mapped then "true" else "false")
  | checksumMismatch stated computed =>
      "[dex] checksum mismatch: header " ++ hexWord stated ++ ", computed " ++ hexWord computed
  | imageRead strings types prototypes fields methods =>
      "[dex] " ++ strings.repr ++ " strings, " ++ types.repr ++ " types, " ++ prototypes.repr ++
        " prototypes, " ++ fields.repr ++ " field ids, " ++ methods.repr ++ " method ids"
  | bareImage name size => name ++ ": bare dex image, " ++ size.repr ++ " bytes"
  | archiveRead name entries images =>
      name ++ ": archive with " ++ entries.repr ++ " entries, " ++ images.repr ++ " dex images"
  | imageListed name lines => name ++ ": " ++ lines.repr ++ " lines"
  | listed lines sources =>
      "listed " ++ lines.repr ++ " lines from " ++ sources.repr ++ " sources"

end Event

structure Traced (ε α : Type) where
  events : List Event
  outcome : Except ε α

namespace Traced

variable {ε α β : Type}

def ofExcept (outcome : Except ε α) : Traced ε α := ⟨[], outcome⟩

def report (event : Event) : Traced ε Unit := ⟨[event], .ok ()⟩

def andThen (first : Traced ε α) (next : α → Traced ε β) : Traced ε β :=
  match first.outcome with
  | .error failure => ⟨first.events, .error failure⟩
  | .ok value =>
      let second := next value
      ⟨first.events ++ second.events, second.outcome⟩

instance : Monad (Traced ε) where
  pure value := ⟨[], .ok value⟩
  bind := andThen

def mapError {δ : Type} (reword : ε → δ) (computation : Traced ε α) : Traced δ α :=
  ⟨computation.events, computation.outcome.mapError reword⟩

@[simp] theorem outcome_pure (value : α) : (pure value : Traced ε α).outcome = .ok value := rfl

@[simp] theorem outcome_ofExcept (outcome : Except ε α) :
    (ofExcept outcome).outcome = outcome := rfl

@[simp] theorem outcome_report (event : Event) :
    (report event : Traced ε Unit).outcome = .ok () := rfl

@[simp] theorem outcome_mapError {δ : Type} (reword : ε → δ) (computation : Traced ε α) :
    (computation.mapError reword).outcome = computation.outcome.mapError reword := rfl

@[simp] theorem outcome_bind (first : Traced ε α) (next : α → Traced ε β) :
    (first >>= next).outcome = first.outcome >>= fun value => (next value).outcome := by
  obtain ⟨events, outcome⟩ := first
  cases outcome <;> rfl

end Traced

namespace Image

def checksumEvents (header : Header) (bytes : List UInt8) : List Event :=
  let computed := computedChecksum header bytes
  if computed = header.checksum then [] else [.checksumMismatch header.checksum computed]

/-- What reading an image reports: a wrong checksum once the header is read, and the sizes of the
tables once all are. -/
def readEvents (bytes : List UInt8) : List Event :=
  (match Header.read bytes with
    | .ok header => checksumEvents header bytes
    | .error _ => []) ++
  (match read bytes with
    | .ok image =>
        [.imageRead image.strings.size image.types.size image.prototypes.size image.fields.size
          image.methods.size]
    | .error _ => [])

def readTraced (bytes : List UInt8) : Traced ImageError Image :=
  ⟨readEvents bytes, read bytes⟩

end Image

end DexMembers
