import DexMembers.Binary.Numbers

/-!
# Reading bytes from a position

A cursor is a buffer with a position in it.  Each reader takes what it needs from there and moves
the cursor past it, or says why it cannot.  Positions are 64-bit numbers, so a read whose end could
not be numbered fails before it looks at a byte.
-/

set_option autoImplicit false

namespace DexMembers.Binary

inductive ReadUnit where
  | u1
  | u2
  | u4
  | uleb128
deriving DecidableEq, Repr

inductive ReadFailure where
  /-- Fewer bytes are left than the unit has. -/
  | endOfBytes (unit : ReadUnit) (position : Nat)
  /-- The position after the read is no 64-bit number. -/
  | positionOverflow (position : Nat)
deriving DecidableEq, Repr

def ReadFailure.position : ReadFailure → Nat
  | endOfBytes _ position => position
  | positionOverflow position => position

/-- A buffer and a position in it, which may lie past its end. -/
structure Cursor where
  bytes : Array UInt8
  position : Nat
deriving DecidableEq, Repr

namespace Cursor

def positionLimit : Nat := 0x10000000000000000

def rest (c : Cursor) : List UInt8 :=
  c.bytes.toList.drop c.position

def seek (c : Cursor) (position : Nat) : Cursor :=
  { c with position }

def advance (c : Cursor) (count : Nat) : Cursor :=
  c.seek (c.position + count)

def peek? (c : Cursor) (count : Nat) : Option (List UInt8) :=
  if c.position + count ≤ c.bytes.size then
    some (c.bytes.extract c.position (c.position + count)).toList
  else none

def word (unit : ReadUnit) (width : Nat) (c : Cursor) : Except ReadFailure (Nat × Cursor) :=
  if positionLimit ≤ c.position + width then .error (.positionOverflow c.position)
  else
    match c.peek? width with
    | some bytes => .ok (wordValue bytes, c.advance width)
    | none => .error (.endOfBytes unit c.position)

def u2 : Cursor → Except ReadFailure (Nat × Cursor) := word .u2 2

def u4 : Cursor → Except ReadFailure (Nat × Cursor) := word .u4 4

def uleb128 (c : Cursor) : Except ReadFailure (Nat × Cursor) :=
  match readLeb? (c.bytes.extract c.position (c.position + maxLebBytes)).toList with
  | some (value, used) => .ok (value, c.advance used)
  | none => .error (.endOfBytes .uleb128 c.position)

def untilZero (c : Cursor) : Except ReadFailure (List UInt8 × Cursor) :=
  go (c.bytes.size - c.position) [] c
where
  /-- Takes bytes one by one, of which `left` are left; `taken` holds those before, the last one
  first. -/
  go : (left : Nat) → (taken : List UInt8) → Cursor → Except ReadFailure (List UInt8 × Cursor)
    | left, taken, c =>
      if positionLimit ≤ c.position + 1 then .error (.positionOverflow c.position)
      else
        match left, c.bytes[c.position]? with
        | left + 1, some byte =>
            if byte = 0 then .ok (taken.reverse, c.advance 1)
            else go left (byte :: taken) (c.advance 1)
        | _, _ => .error (.endOfBytes .u1 c.position)

/-- The given number of values, one after the other, behind those already `read`; `next` is told
the number of the value. -/
def manyOnto {ε α : Type} (next : Nat → Cursor → Except ε (α × Cursor)) :
    (count : Nat) → (read : Array α) → Cursor → Except ε (Array α × Cursor)
  | 0, read, c => .ok (read, c)
  | count + 1, read, c =>
      match next read.size c with
      | .error failure => .error failure
      | .ok (value, c) => manyOnto next count (read.push value) c

def many {ε α : Type} (next : Nat → Cursor → Except ε (α × Cursor)) (count : Nat) (c : Cursor) :
    Except ε (Array α × Cursor) :=
  manyOnto next count #[] c

end Cursor

end DexMembers.Binary
