import DexMembers.Listing.Writer
import DexMembers.Mapping.File
import DexMembers.Text.ControlSequence

/-!
# The command line

The options of the program, read strictly from left to right, and a run as a function from
arguments and inputs to an exit code and what goes to standard output and standard error.
-/

set_option autoImplicit false

namespace DexMembers.CommandLine

inductive Flag where
  | hideNumbers
  | fields
  | members
  | verbose
deriving DecidableEq, Repr

def Flag.name : Flag → String
  | hideNumbers => "hide-synthetic-numbers"
  | fields => "fields"
  | members => "members"
  | verbose => "verbose"

def Flag.ofName? (name : String) : Option Flag :=
  [hideNumbers, fields, members, verbose].find? fun flag => flag.name = name

structure Arguments where
  flags : List Flag := []
  mapping : Option String := none
  files : List String := []
deriving DecidableEq, Repr

inductive Request where
  | run (arguments : Arguments)
  | version
  | help
deriving DecidableEq, Repr

/-- Whether an argument can stand for an option's value: it is not empty, and it starts with a
dash only if it is nothing else. -/
def isValue (argument : String) : Bool :=
  argument ≠ "" && (argument = "-" || argument.toList.head? ≠ some '-')

def Arguments.addFlag? (arguments : Arguments) (flag : Flag) : Option Arguments :=
  if flag ∈ arguments.flags then none
  else some { arguments with flags := flag :: arguments.flags }

def Arguments.setMapping? (arguments : Arguments) (path : String) : Option Arguments :=
  if arguments.mapping.isSome ∨ path = "" then none
  else some { arguments with mapping := some path }

def Arguments.addFile? (arguments : Arguments) (path : String) : Option Arguments :=
  if path = "" then none else some { arguments with files := arguments.files ++ [path] }

def Arguments.addFiles? (arguments : Arguments) : List String → Option Arguments
  | [] => some arguments
  | path :: rest => (arguments.addFile? path).bind fun arguments => arguments.addFiles? rest

def Arguments.isConsistent (arguments : Arguments) : Bool :=
  !(arguments.flags.contains .fields && arguments.flags.contains .members)

inductive Letters where
  | flags (arguments : Arguments)
  | stop (request : Request)

def readLetters (arguments : Arguments) : List Char → Option Letters
  | [] => some (.flags arguments)
  | letter :: rest =>
      if letter = 'v' then
        (arguments.addFlag? .verbose).bind fun arguments => readLetters arguments rest
      else if letter = 'V' then some (.stop .version)
      else if letter = 'h' then some (.stop .help)
      else none

def readFrom (arguments : Arguments) : List String → Option Request
  | [] => if arguments.isConsistent then some (.run arguments) else none
  | argument :: rest =>
      match argument.toList with
      | '-' :: '-' :: [] =>
          (arguments.addFiles? rest).bind fun arguments =>
            if arguments.isConsistent then some (.run arguments) else none
      | '-' :: '-' :: long =>
          match Text.splitFirst? ['='] long with
          | some (name, value) =>
              if name = "mapping".toList then
                (arguments.setMapping? (String.ofList value)).bind fun arguments =>
                  readFrom arguments rest
              else none
          | none =>
              let name := String.ofList long
              if name = "version" then some .version
              else if name = "help" then some .help
              else if name = "mapping" then
                match rest with
                | value :: rest =>
                    if isValue value then
                      (arguments.setMapping? value).bind fun arguments => readFrom arguments rest
                    else none
                | [] => none
              else
                match Flag.ofName? name with
                | some flag =>
                    (arguments.addFlag? flag).bind fun arguments => readFrom arguments rest
                | none => none
      | '-' :: letter :: letters =>
          match readLetters arguments (letter :: letters) with
          | some (.flags arguments) => readFrom arguments rest
          | some (.stop request) => some request
          | none => none
      | _ => (arguments.addFile? argument).bind fun arguments => readFrom arguments rest

def read (arguments : List String) : Option Request :=
  readFrom {} arguments

structure Outcome where
  code : Nat
  output : List UInt8
  /-- What went to standard error; after a misuse its wording is left open. -/
  diagnostics : Option String
deriving DecidableEq, Repr

def Arguments.selection (arguments : Arguments) : Selection :=
  if Flag.members ∈ arguments.flags then .all
  else if Flag.fields ∈ arguments.flags then .fields
  else .methods

def Arguments.sources (arguments : Arguments) : List Source :=
  if arguments.files = [] then [.standardInput] else arguments.files.map .file

/-- A line of standard error for an event: a line break in the event's text is followed by an indent,
and control sequences are left out, with the end of the line if one takes it in. -/
def eventLine (event : Event) : String :=
  let name := event.severity.name
  let padded := name ++ String.ofList (List.replicate (5 - name.length) ' ')
  let text := event.text.toList.flatMap fun c =>
    if c = '\n' then ['\n', ' ', ' ', ' ', ' '] else [c]
  Text.withoutControls ("[" ++ padded ++ "] " ++ String.ofList text ++ "\n")

def eventLines (verbose : Bool) (events : List Event) : String :=
  String.join ((events.filter fun event => verbose || event.severity = .warning).map eventLine)

def Arguments.readMapping (inputs : Inputs) (arguments : Arguments) :
    Traced MappingError (Option Mapping) :=
  match arguments.mapping with
  | none => pure none
  | some path => do
      let mapping ← Mapping.ofFile inputs path
      if mapping.isEmpty then Traced.report (.mappingEmpty path)
      return some mapping

def Arguments.run (inputs : Inputs) (arguments : Arguments) : Outcome :=
  let verbose := arguments.flags.contains .verbose
  let mapped := arguments.readMapping inputs
  match mapped.outcome with
  | .error error =>
      { code := 1
        output := []
        diagnostics := some (eventLines verbose mapped.events ++ error.message ++ "\n") }
  | .ok mapping =>
      let options : ListingOptions :=
        { hideNumbers := arguments.flags.contains .hideNumbers
          selection := arguments.selection
          mapping }
      let written := writeListing inputs options arguments.sources {}
      let events :=
        mapped.events ++ .settings options.selection mapping.isSome :: written.events
      let shown := eventLines verbose events
      let output := written.sink.taken
      match written.outcome with
      | .ok _ => { code := 0, output, diagnostics := some shown }
      | .error error =>
          { code := 1, output, diagnostics := some (shown ++ error.message ++ "\n") }

def versionLine : String := "dex-method-list 0.1.0\n"

def usage : String :=
  "Usage: dex-method-list [--hide-synthetic-numbers] [--fields | --members]" ++
    " [--mapping MAPPING] [-v] [FILE]...\n"

def outcome (inputs : Inputs) (arguments : List String) : Outcome :=
  match read arguments with
  | none => { code := 2, output := [], diagnostics := none }
  | some .version => { code := 0, output := Text.utf8Bytes versionLine, diagnostics := some "" }
  | some .help => { code := 0, output := Text.utf8Bytes usage, diagnostics := some "" }
  | some (.run arguments) => arguments.run inputs

end DexMembers.CommandLine
