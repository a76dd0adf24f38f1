import DexMembers.Text.Encoding

/-!
# Text without control sequences

A terminal takes an escape character and some characters behind it as a command.  A text for a place
that is no terminal is freed of such sequences and of all control characters but blanks and line
breaks.  How far a sequence goes follows from what stands behind the escape character.
-/

set_option autoImplicit false

namespace DexMembers.Text

def escapeChar : Char := '\x1B'

inductive Stand where
  | outside
  /-- Behind an escape character. -/
  | escape
  /-- Behind an escape character and a sign that calls for one more. -/
  | longEscape
  /-- In a sequence of parameters, which a letter ends. -/
  | parameters
  /-- In a command to the system around the terminal, which a bell ends. -/
  | systemCommand
  /-- At the start of a command to the device. -/
  | deviceEntry
  /-- Among the parameters of a command to the device. -/
  | deviceParameters
  /-- Among the signs between the parameters and the name of a command to the device. -/
  | deviceSigns
  /-- In a string for the device or for nobody. -/
  | string
deriving DecidableEq, Repr

namespace Stand

def holdsTerminator (c : Char) : Bool :=
  (utf8Bytes (String.singleton c)).contains 0x9C

/-- Where the text goes on behind a printable ASCII character or a character above ASCII that
stands within a sequence.  A character above ASCII means nothing but the end of a string. -/
def after (stand : Stand) (c : Char) : Stand :=
  let code := c.toNat
  if 0x7F ≤ code then
    if stand = .string ∧ holdsTerminator c then .outside else stand
  else
    match stand with
    | .outside => .outside
    | .escape =>
        if code < 0x30 then .longEscape
        else if c = '[' then .parameters
        else if c = ']' then .systemCommand
        else if c = 'P' then .deviceEntry
        else if c = 'X' ∨ c = '^' ∨ c = '_' then .string
        else .outside
    | .longEscape => if code < 0x30 then .longEscape else .outside
    | .parameters => if code < 0x40 then .parameters else .outside
    | .systemCommand => .systemCommand
    | .deviceEntry =>
        if code < 0x30 then .deviceSigns
        else if code < 0x40 then .deviceParameters
        else .string
    | .deviceParameters =>
        if code < 0x30 then .deviceSigns
        else if code < 0x3C then .deviceParameters
        else .string
    | .deviceSigns => if code < 0x30 then .deviceSigns else .string
    | .string => .string

/-- Where the text goes on behind an ASCII control character: an escape starts anew, cancel and
substitute give up any sequence, a bell ends a system command. -/
def afterControl (stand : Stand) (c : Char) : Stand :=
  if c = escapeChar then .escape
  else if c = '\x18' ∨ c = '\x1A' then .outside
  else if c = '\x07' ∧ stand = .systemCommand then .outside
  else stand

/-- Whether a blank or line break within such a sequence is obeyed at once. -/
def obeysBlanks : Stand → Bool
  | outside | escape | longEscape | parameters => true
  | systemCommand | deviceEntry | deviceParameters | deviceSigns | string => false

end Stand

def isAsciiControl (c : Char) : Bool :=
  c.toNat < 0x20 || c.toNat = 0x7F

def isControlBlank (c : Char) : Bool :=
  c = '\t' || c = '\n' || c = '\x0C' || c = '\r'

/-- The text without control sequences.  A blank within a sequence interrupts it: while `shown`, the
text behind the blank counts as text, up to the next control character. -/
def withoutControlsFrom (stand : Stand) (shown : Bool) : List Char → List Char
  | [] => []
  | c :: rest =>
      if isAsciiControl c then
        if isControlBlank c && (shown || stand.obeysBlanks) then
          c :: withoutControlsFrom stand true rest
        else withoutControlsFrom (stand.afterControl c) false rest
      else if shown || stand = .outside then
        c :: withoutControlsFrom (if c.toNat < 0x80 then stand else .outside) true rest
      else withoutControlsFrom (stand.after c) false rest

def withoutControls (text : String) : String :=
  String.ofList (withoutControlsFrom .outside true text.toList)

end DexMembers.Text
