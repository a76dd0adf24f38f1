import DexMembers.Binary.Numbers

/-!
# Text as bytes

Three encodings.  UTF-8 has two readers: the strict one accepts well-formed sequences only, the
lenient one puts U+FFFD for each longest run of bytes that starts a sequence and cannot go on.

Modified UTF-8 is the encoding of strings in dex images: UTF-8, but U+0000 takes two bytes, so that
no zero byte occurs, and a character beyond U+FFFF is written as its two UTF-16 surrogates, three
bytes each.  Its reader takes plain UTF-8 as well.

Code page 437 is the character set of the first PCs, in which old archives write names: ASCII below
128, and above it letters with marks, box drawing, Greek and signs.
-/

set_option autoImplicit false

namespace DexMembers.Text

def utf8Bytes (text : String) : List UInt8 :=
  text.toList.flatMap String.utf8EncodeChar

def isContinuation (b : UInt8) : Bool :=
  0x80 ≤ b && b ≤ 0xBF

def continuationBits (b : UInt8) : Nat :=
  b.toNat % 64

/-- Whether a second byte may follow a first byte of a three-byte sequence: no overlong form, no
surrogate. -/
def isSecondOfThree (first second : UInt8) : Bool :=
  if first = 0xE0 then 0xA0 ≤ second && second ≤ 0xBF
  else if first = 0xED then 0x80 ≤ second && second ≤ 0x9F
  else isContinuation second

/-- Whether a second byte may follow a first byte of a four-byte sequence: no overlong form,
nothing past U+10FFFF. -/
def isSecondOfFour (first second : UInt8) : Bool :=
  if first = 0xF0 then 0x90 ≤ second && second ≤ 0xBF
  else if first = 0xF4 then 0x80 ≤ second && second ≤ 0x8F
  else isContinuation second

def charOfTwo (a b : UInt8) : Char :=
  Char.ofNat (a.toNat % 32 * 64 + continuationBits b)

def charOfThree (a b c : UInt8) : Char :=
  Char.ofNat ((a.toNat % 16 * 64 + continuationBits b) * 64 + continuationBits c)

def charOfFour (a b c d : UInt8) : Char :=
  Char.ofNat
    (((a.toNat % 8 * 64 + continuationBits b) * 64 + continuationBits c) * 64 + continuationBits d)

/-- What stands at the start of some bytes: a character and how many bytes it takes, or how many
bytes start a sequence that does not go on. -/
inductive Utf8Step where
  | char (c : Char) (length : Nat)
  | broken (length : Nat)

def utf8Step (a : UInt8) (rest : List UInt8) : Utf8Step :=
  if a < 0x80 then .char (Char.ofNat a.toNat) 1
  else if 0xC2 ≤ a && a ≤ 0xDF then
    match rest with
    | b :: _ => if isContinuation b then .char (charOfTwo a b) 2 else .broken 1
    | [] => .broken 1
  else if 0xE0 ≤ a && a ≤ 0xEF then
    match rest with
    | b :: tail =>
        if isSecondOfThree a b then
          match tail with
          | c :: _ => if isContinuation c then .char (charOfThree a b c) 3 else .broken 2
          | [] => .broken 2
        else .broken 1
    | [] => .broken 1
  else if 0xF0 ≤ a && a ≤ 0xF4 then
    match rest with
    | b :: tail =>
        if isSecondOfFour a b then
          match tail with
          | c :: tail =>
              if isContinuation c then
                match tail with
                | d :: _ => if isContinuation d then .char (charOfFour a b c d) 4 else .broken 3
                | [] => .broken 3
              else .broken 2
          | [] => .broken 2
        else .broken 1
    | [] => .broken 1
  else .broken 1

def ofUtf8? (bytes : List UInt8) : Option String :=
  String.fromUTF8? bytes.toByteArray

def replacement : Char := Char.ofNat 0xFFFD

/-- The characters of any bytes; `skip` bytes are already accounted for. -/
def utf8CharsLenientFrom : (skip : Nat) → List UInt8 → List Char
  | _, [] => []
  | skip + 1, _ :: rest => utf8CharsLenientFrom skip rest
  | 0, a :: rest =>
      match utf8Step a rest with
      | .char c length => c :: utf8CharsLenientFrom (length - 1) rest
      | .broken length => replacement :: utf8CharsLenientFrom (length - 1) rest

def ofUtf8Lenient (bytes : List UInt8) : String :=
  String.ofList (utf8CharsLenientFrom 0 bytes)

def utf16Units (c : Char) : Nat :=
  if c.toNat < 0x10000 then 1 else 2

def utf16Length (text : String) : Nat :=
  text.toList.foldl (fun units c => units + utf16Units c) 0

def threeBytes (unit : Nat) : List UInt8 :=
  [Binary.lowByte (0xE0 + unit / 4096), Binary.lowByte (0x80 + unit / 64 % 64),
    Binary.lowByte (0x80 + unit % 64)]

def modifiedChar (c : Char) : List UInt8 :=
  let code := c.toNat
  if code = 0 then [0xC0, 0x80]
  else if code < 0x80 then [Binary.lowByte code]
  else if code < 0x800 then
    [Binary.lowByte (0xC0 + code / 64), Binary.lowByte (0x80 + code % 64)]
  else if code < 0x10000 then threeBytes code
  else
    threeBytes (0xD800 + (code - 0x10000) / 1024) ++ threeBytes (0xDC00 + (code - 0x10000) % 1024)

def modifiedUtf8Bytes (text : String) : List UInt8 :=
  text.toList.flatMap modifiedChar

/-- The character of two surrogates, from the six bytes that hold them without the two lead
bytes. -/
def charOfSurrogates (b c e f : UInt8) : Char :=
  Char.ofNat
    (0x10000 + (b.toNat % 16 * 64 + continuationBits c) * 1024 +
      (e.toNat % 16 * 64 + continuationBits f))

def modifiedStep? (a : UInt8) (rest : List UInt8) : Option (Char × Nat) :=
  if a = 0 then none
  else if a < 0x80 then some (Char.ofNat a.toNat, 1)
  else
    match a, rest with
    | 0xC0, 0x80 :: _ => some (Char.ofNat 0, 2)
    | 0xED, b :: c :: rest =>
        if isContinuation c then
          if 0x80 ≤ b && b ≤ 0x9F then some (charOfThree a b c, 3)
          else if 0xA0 ≤ b && b ≤ 0xAF then
            match rest with
            | 0xED :: e :: f :: _ =>
                if 0xB0 ≤ e && e ≤ 0xBF && isContinuation f then
                  some (charOfSurrogates b c e f, 6)
                else none
            | _ => none
          else none
        else none
    | _, b :: rest =>
        if 0xC2 ≤ a && a ≤ 0xDF then
          if isContinuation b then some (charOfTwo a b, 2) else none
        else if 0xE0 ≤ a && a ≤ 0xEF && a != 0xED && isSecondOfThree a b then
          match rest with
          | c :: _ => if isContinuation c then some (charOfThree a b c, 3) else none
          | [] => none
        else none
    | _, [] => none

/-- The characters of bytes in the modified form alone; `skip` bytes belong to the character read
before. -/
def modifiedCharsFrom? : (skip : Nat) → List UInt8 → Option (List Char)
  | _, [] => some []
  | skip + 1, _ :: rest => modifiedCharsFrom? skip rest
  | 0, a :: rest =>
      match modifiedStep? a rest with
      | some (c, length) => (modifiedCharsFrom? (length - 1) rest).map (c :: ·)
      | none => none

def ofModifiedUtf8? (bytes : List UInt8) : Option String :=
  match ofUtf8? bytes with
  | some text => some text
  | none => (modifiedCharsFrom? 0 bytes).map String.ofList

def codePage437Upper : Array Char :=
  ("ÇüéâäàåçêëèïîìÄÅ" ++ "ÉæÆôöòûùÿÖÜ¢£¥₧ƒ" ++ "áíóúñÑªº¿⌐¬½¼¡«»" ++ "░▒▓│┤╡╢╖╕╣║╗╝╜╛┐" ++
    "└┴┬├─┼╞╟╚╔╩╦╠═╬╧" ++ "╨╤╥╙╘╒╓╫╪┘┌█▄▌▐▀" ++ "αßΓπΣσµτΦΘΩδ∞φε∩" ++
    "≡±≥≤⌠⌡÷≈°∙·√ⁿ²■\u00A0").toList.toArray

def codePage437Char (byte : UInt8) : Char :=
  if byte < 0x80 then Char.ofNat byte.toNat
  else codePage437Upper.getD (byte.toNat - 0x80) (Char.ofNat byte.toNat)

def ofCodePage437 (bytes : List UInt8) : String :=
  String.ofList (bytes.map codePage437Char)

end DexMembers.Text
