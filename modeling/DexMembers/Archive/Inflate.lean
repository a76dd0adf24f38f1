/-!
# Inflating compressed data

The decoder of the DEFLATE format.  The data is a sequence of bits, the low bit of each byte first,
cut into blocks: stored bytes, or symbols of prefix codes that each stand for a byte or for a copy
of earlier output.  The decoder stops after the block marked as last and ignores what follows.
-/

set_option autoImplicit false

namespace DexMembers.Inflate

inductive Failure where
  /-- The data ends before its last block does. -/
  | incomplete
  /-- The data breaks a rule of the format. -/
  | corrupt
deriving DecidableEq, Repr

/-- Data from some bit of its first byte on. -/
structure Bits where
  bytes : List UInt8
  /-- How many bits of the first byte are taken already. -/
  taken : Nat := 0
deriving DecidableEq, Repr

namespace Bits

def bound (bits : Bits) : Nat :=
  8 * bits.bytes.length

def next (bits : Bits) : Except Failure (Bool × Bits) :=
  match bits.bytes with
  | [] => .error .incomplete
  | byte :: rest =>
      .ok (byte.toNat.testBit bits.taken,
        if bits.taken = 7 then { bytes := rest } else { bits with taken := bits.taken + 1 })

def wholeBytes (bits : Bits) : List UInt8 :=
  if bits.taken = 0 then bits.bytes else bits.bytes.drop 1

end Bits

/-- The number whose binary digits are the next `count` bits, the low one first. -/
def takeNumber : (count : Nat) → Bits → Except Failure (Nat × Bits)
  | 0, bits => .ok (0, bits)
  | count + 1, bits => do
      let (bit, bits) ← bits.next
      let (high, bits) ← takeNumber count bits
      return (2 * high + bit.toNat, bits)

/-! ### Prefix codes -/

/-- A prefix code: how many words have each length from one up to the longest, and the symbols in
the order of their words. -/
structure Code where
  counts : List Nat
  symbols : Array Nat

namespace Code

/-- The code in which the symbol `i` has a word of the `i`-th length, zero for none.  Words of
equal length follow the order of the symbols.  A code without words counts those of one bit. -/
def ofLengths (lengths : List Nat) : Code :=
  let longest := lengths.foldl max 1
  let sizes := (List.range longest).map (· + 1)
  let numbered := lengths.zipIdx
  { counts := sizes.map fun size => lengths.count size
    symbols :=
      (sizes.flatMap fun size => (numbered.filter (·.1 = size)).map Prod.snd).toArray }

def isComplete (code : Code) : Bool :=
  code.counts.foldl (fun filled count => 2 * (filled + count)) 0 = 1 <<< (code.counts.length + 1)

/-- Whether the code can stand where fewer than two symbols occur: it has no word, or a single one
of one bit. -/
def isTrivial (code : Code) : Bool :=
  code.counts = [0] || code.counts = [1]

def isAllowed (code : Code) : Bool :=
  code.isComplete || code.isTrivial

/-- The symbol whose word the bits start with.  `value` is the number of the bits read so far,
`first` the number of the first word of their length, and `index` the position of its symbol.  Bits
that start no word are told from the others as soon as no longer word is left. -/
def nextFrom (symbols : Array Nat) :
    (counts : List Nat) → (value first index : Nat) → Bits → Except Failure (Nat × Bits)
  | [], _, _, _, _ => .error .corrupt
  | count :: counts, value, first, index, bits => do
      let (bit, bits) ← bits.next
      let value := 2 * value + bit.toNat
      let first := 2 * first
      if value < first + count then
        match symbols[index + (value - first)]? with
        | some symbol => return (symbol, bits)
        | none => throw .corrupt
      else nextFrom symbols counts value (first + count) (index + count) bits

def next (code : Code) (bits : Bits) : Except Failure (Nat × Bits) :=
  nextFrom code.symbols code.counts 0 0 0 bits

end Code

/-! ### Copies of earlier output -/

/-- The least length of each length symbol, from 257 on, and how many bits add to it. -/
def lengthRules : Array (Nat × Nat) :=
  #[(3, 0), (4, 0), (5, 0), (6, 0), (7, 0), (8, 0), (9, 0), (10, 0), (11, 1), (13, 1), (15, 1),
    (17, 1), (19, 2), (23, 2), (27, 2), (31, 2), (35, 3), (43, 3), (51, 3), (59, 3), (67, 4),
    (83, 4), (99, 4), (115, 4), (131, 5), (163, 5), (195, 5), (227, 5), (258, 0)]

/-- The least distance of each distance symbol, and how many bits add to it. -/
def distanceRules : Array (Nat × Nat) :=
  #[(1, 0), (2, 0), (3, 0), (4, 0), (5, 1), (7, 1), (9, 2), (13, 2), (17, 3), (25, 3), (33, 4),
    (49, 4), (65, 5), (97, 5), (129, 6), (193, 6), (257, 7), (385, 7), (513, 8), (769, 8),
    (1025, 9), (1537, 9), (2049, 10), (3073, 10), (4097, 11), (6145, 11), (8193, 12), (12289, 12),
    (16385, 13), (24577, 13)]

/-- The output with `count` more bytes, each equal to the one `distance` before it; before the
start of the output there are zeros. -/
def copy (distance : Nat) : (count : Nat) → Array UInt8 → Array UInt8
  | 0, output => output
  | count + 1, output =>
      let byte := if distance ≤ output.size then output.getD (output.size - distance) 0 else 0
      copy distance count (output.push byte)

def ruleValue (rules : Array (Nat × Nat)) (symbol : Nat) (bits : Bits) :
    Except Failure (Nat × Bits) :=
  match rules[symbol]? with
  | none => .error .corrupt
  | some (least, extra) => do
      let (more, bits) ← takeNumber extra bits
      return (least + more, bits)

/-- The output after the symbols up to the end of the block.  Each symbol takes a bit at least, so
a count of the bits bounds the steps. -/
def inflateSymbols (literals distances : Code) :
    (steps : Nat) → Bits → Array UInt8 → Except Failure (Bits × Array UInt8)
  | 0, _, _ => .error .incomplete
  | steps + 1, bits, output => do
      let (symbol, bits) ← literals.next bits
      if symbol < 256 then
        inflateSymbols literals distances steps bits (output.push (UInt8.ofNat symbol))
      else if symbol = 256 then return (bits, output)
      else
        let (length, bits) ← ruleValue lengthRules (symbol - 257) bits
        let (distanceSymbol, bits) ← distances.next bits
        let (distance, bits) ← ruleValue distanceRules distanceSymbol bits
        inflateSymbols literals distances steps bits (copy distance length output)

/-! ### The codes of a block -/

def fixedLiterals : Code :=
  .ofLengths (List.replicate 144 8 ++ List.replicate 112 9 ++ List.replicate 24 7 ++
    List.replicate 8 8)

def fixedDistances : Code :=
  .ofLengths (List.replicate 32 5)

def lengthOrder : List Nat :=
  [16, 17, 18, 0, 8, 7, 9, 6, 10, 5, 11, 4, 12, 3, 13, 2, 14, 1, 15]

def takeTriples : (count : Nat) → Bits → Except Failure (List Nat × Bits)
  | 0, bits => .ok ([], bits)
  | count + 1, bits => do
      let (number, bits) ← takeNumber 3 bits
      let (numbers, bits) ← takeTriples count bits
      return (number :: numbers, bits)

/-- The word lengths of a block's two codes, run-length coded, as far as `wanted` of them; `given`
holds those read, the last one first. -/
def takeLengths (code : Code) (wanted : Nat) :
    (steps : Nat) → (given : List Nat) → Bits → Except Failure (List Nat × Bits)
  | 0, given, bits =>
      if given.length = wanted then .ok (given.reverse, bits) else .error .incomplete
  | steps + 1, given, bits =>
      if given.length = wanted then .ok (given.reverse, bits)
      else if wanted < given.length then .error .corrupt
      else do
        let (symbol, bits) ← code.next bits
        if symbol < 16 then takeLengths code wanted steps (symbol :: given) bits
        else if symbol = 16 then
          match given with
          | [] => throw .corrupt
          | last :: _ =>
              let (more, bits) ← takeNumber 2 bits
              takeLengths code wanted steps (List.replicate (3 + more) last ++ given) bits
        else
          let (least, extra) := if symbol = 17 then (3, 3) else (11, 7)
          let (more, bits) ← takeNumber extra bits
          takeLengths code wanted steps (List.replicate (least + more) 0 ++ given) bits

def takeCodes (bits : Bits) : Except Failure ((Code × Code) × Bits) := do
  let (literalCount, bits) ← takeNumber 5 bits
  let (distanceCount, bits) ← takeNumber 5 bits
  let (orderCount, bits) ← takeNumber 4 bits
  let literalCount := literalCount + 257
  let distanceCount := distanceCount + 1
  if 286 < literalCount ∨ 30 < distanceCount then throw .corrupt
  let (given, bits) ← takeTriples (orderCount + 4) bits
  let pairs := lengthOrder.zip given
  let lengths := (List.range 19).map fun symbol => (pairs.lookup symbol).getD 0
  let code := Code.ofLengths lengths
  if !code.isComplete then throw .corrupt
  let (lengths, bits) ← takeLengths code (literalCount + distanceCount) bits.bound [] bits
  let literals := Code.ofLengths (lengths.take literalCount)
  let distances := Code.ofLengths (lengths.drop literalCount)
  if literals.isAllowed && distances.isAllowed then return ((literals, distances), bits)
  else throw .corrupt

/-! ### Blocks -/

def takeBytes : (count : Nat) → List UInt8 → Array UInt8 → Except Failure (Bits × Array UInt8)
  | 0, bytes, output => .ok ({ bytes }, output)
  | _ + 1, [], _ => .error .incomplete
  | count + 1, byte :: bytes, output => takeBytes count bytes (output.push byte)

/-- The output after a block of stored bytes, which starts at the next whole byte with its length
and the length's complement. -/
def inflateStored (bits : Bits) (output : Array UInt8) : Except Failure (Bits × Array UInt8) := do
  let (length, bits) ← takeNumber 16 { bytes := bits.wholeBytes }
  let (complement, bits) ← takeNumber 16 bits
  if length + complement ≠ 65535 then throw .corrupt
  takeBytes length bits.wholeBytes output

def inflateBlock (kind : Nat) (bits : Bits) (output : Array UInt8) :
    Except Failure (Bits × Array UInt8) :=
  match kind with
  | 0 => inflateStored bits output
  | 1 => inflateSymbols fixedLiterals fixedDistances bits.bound bits output
  | 2 => do
      let ((literals, distances), bits) ← takeCodes bits
      inflateSymbols literals distances bits.bound bits output
  | _ => .error .corrupt

/-- The output after all blocks.  Each block takes a bit at least, so a count of the bits bounds
the steps. -/
def inflateBlocks : (steps : Nat) → Bits → Array UInt8 → Except Failure (Array UInt8)
  | 0, _, _ => .error .incomplete
  | steps + 1, bits, output => do
      let (last, bits) ← bits.next
      let (kind, bits) ← takeNumber 2 bits
      let (bits, output) ← inflateBlock kind bits output
      if last then return output else inflateBlocks steps bits output

def inflate (data : List UInt8) : Except Failure (List UInt8) :=
  let bits : Bits := { bytes := data }
  (inflateBlocks bits.bound bits #[]).map Array.toList

end DexMembers.Inflate
