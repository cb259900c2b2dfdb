/-
Compressed octets and what they stand for. They are a stream of bits, the lowest of an octet first,
in blocks. A block holds octets as they are, or symbols in a prefix code; a symbol is an octet, the
end of the block, or a stretch of what has been written already, which is written again. A stream
that breaks off stands for what it has written by then.
-/
import Workflows.Text.Digits

namespace Workflows.Inflate

/-! ## Streams -/

/-- Why reading stops: the stream breaks off, or something is wrong with it. -/
inductive Stop
  | short
  | bad (text : String)
deriving DecidableEq, Repr

/-- A stream that is being read: the octets ahead, the bits ahead of them, and what has been
written, the last octet first. -/
structure Flow where
  octets : List Nat
  bits : List Bool
  written : List Nat
deriving DecidableEq, Repr

/-- A reading of a stream. -/
abbrev Reading := EStateM Stop Flow

/-- Something is wrong with the stream. -/
def fail {α : Type} (text : String) : Reading α := throw (.bad text)

/-- The bits of an octet, the lowest first. -/
def octetBits (octet : Nat) : List Bool := (List.range 8).map fun place => octet.testBit place

/-- The next bit. -/
def bit : Reading Bool := do
  let flow ← get
  match flow.bits, flow.octets with
  | b :: bits, _ => set { flow with bits }; return b
  | [], octet :: octets =>
    set { flow with octets, bits := (octetBits octet).drop 1 }
    return octet.testBit 0
  | [], [] => throw .short

/-- The number that the next bits write, the lowest first. -/
def number : Nat → Reading Nat
  | 0 => return 0
  | count + 1 => do
    let b ← bit
    let rest ← number count
    return b.toNat + 2 * rest

/-- Passes over the bits up to the next octet. -/
def align : Reading Unit := modify fun flow => { flow with bits := [] }

/-- Writes an octet. -/
def write (octet : Nat) : Reading Unit :=
  modify fun flow => { flow with written := octet :: flow.written }

/-- Writes the next octets as they are. -/
def writeNext : Nat → Reading Unit
  | 0 => return ()
  | count + 1 => do
    write (← number 8)
    writeNext count

/-- Writes again so many octets from a distance back. -/
def writeAgain (distance : Nat) : Nat → Reading Unit
  | 0 => return ()
  | count + 1 => do
    match (← get).written[distance - 1]? with
    | some octet => write octet
    | none => fail "invalid distance too far back"
    writeAgain distance count

/-! ## Prefix codes -/

/-- A prefix code: how many symbols have codes of one bit, of two bits and so on, and the symbols in
the order of their codes. -/
structure PrefixCode where
  counts : List Nat
  symbols : List Nat
deriving DecidableEq, Repr

/-- The code in which every symbol has a code of a given length; none if it is zero. -/
def PrefixCode.ofLengths (lengths : List Nat) : PrefixCode :=
  let most := lengths.foldl max 1
  let withLength (length : Nat) : List Nat :=
    (List.range lengths.length).filter fun symbol => lengths[symbol]? == some length
  let groups := (List.range most).map fun shorter => withLength (shorter + 1)
  { counts := groups.map List.length, symbols := groups.flatten }

/-- The codes that are left of each length when those of some lengths are given away; none if there
are not enough. -/
def codesLeft? (left : Nat) : List Nat → Option Nat
  | [] => some left
  | count :: counts => if 2 * left < count then none else codesLeft? (2 * left - count) counts

/-- Every sequence of bits begins with a code. A lone code of one bit may be enough, and no code. -/
def PrefixCode.isUsable (code : PrefixCode) (loneIsEnough : Bool) : Bool :=
  code.symbols.isEmpty ||
    match codesLeft? 1 code.counts with
    | some 0 => true
    | some _ => loneIsEnough && code.counts.length == 1
    | none => false

/-- Reads a symbol; none if the bits are no code. `value` is what the bits so far write, `first` the
least code of their length, and `index` how many symbols have shorter codes. -/
def symbolFrom? (symbols : List Nat) (value first index : Nat) :
    List Nat → Reading (Option Nat)
  | [] => return none
  | count :: counts => do
    let value := 2 * value + (← bit).toNat
    let first := 2 * first
    if value < first + count then return symbols[index + (value - first)]?
    else symbolFrom? symbols value (first + count) (index + count) counts

/-- Reads a symbol; none if the bits are no code. -/
def PrefixCode.symbol? (code : PrefixCode) : Reading (Option Nat) :=
  symbolFrom? code.symbols 0 0 0 code.counts

/-! ## Blocks -/

/-- The least length of each symbol from 257 on, and how many bits are added to it. -/
def lengthRanges : List (Nat × Nat) := [
  (3, 0), (4, 0), (5, 0), (6, 0), (7, 0), (8, 0), (9, 0), (10, 0), (11, 1), (13, 1), (15, 1),
  (17, 1), (19, 2), (23, 2), (27, 2), (31, 2), (35, 3), (43, 3), (51, 3), (59, 3), (67, 4),
  (83, 4), (99, 4), (115, 4), (131, 5), (163, 5), (195, 5), (227, 5), (258, 0)]

/-- The least distance of each symbol, and how many bits are added to it. -/
def distanceRanges : List (Nat × Nat) := [
  (1, 0), (2, 0), (3, 0), (4, 0), (5, 1), (7, 1), (9, 2), (13, 2), (17, 3), (25, 3), (33, 4),
  (49, 4), (65, 5), (97, 5), (129, 6), (193, 6), (257, 7), (385, 7), (513, 8), (769, 8),
  (1025, 9), (1537, 9), (2049, 10), (3073, 10), (4097, 11), (6145, 11), (8193, 12), (12289, 12),
  (16385, 13), (24577, 13)]

/-- A number in the range of a symbol. -/
def inRange (ranges : List (Nat × Nat)) (index : Nat) (complaint : String) : Reading Nat :=
  match ranges[index]? with
  | some (least, bits) => return least + (← number bits)
  | none => fail complaint

/-- A symbol, or else a complaint. -/
def PrefixCode.symbol (code : PrefixCode) (complaint : String) : Reading Nat := do
  match ← code.symbol? with
  | some symbol => return symbol
  | none => fail complaint

/-- Reads at most so many symbols of a block, up to its end. -/
def symbols (main distances : PrefixCode) : Nat → Reading Unit
  | 0 => throw .short
  | most + 1 => do
    let symbol ← main.symbol "invalid literal/length code"
    if symbol = 256 then return ()
    else if symbol < 256 then write symbol
    else
      let length ← inRange lengthRanges (symbol - 257) "invalid literal/length code"
      let complaint := "invalid distance code"
      let distance ← inRange distanceRanges (← distances.symbol complaint) complaint
      writeAgain distance length
    symbols main distances most

/-- The usual code for octets and lengths. -/
def usualMain : PrefixCode :=
  .ofLengths (List.replicate 144 8 ++ List.replicate 112 9 ++ List.replicate 24 7 ++
    List.replicate 8 8)

/-- The usual code for distances. -/
def usualDistances : PrefixCode := .ofLengths (List.replicate 32 5)

/-- The order in which the lengths of the codes for lengths come. -/
def lengthOrder : List Nat := [16, 17, 18, 0, 8, 7, 9, 6, 10, 5, 11, 4, 12, 3, 13, 2, 14, 1, 15]

/-- Reads at most so many lengths until there are `count`; those so far are given, the last one
first. Some symbols repeat a length. -/
def lengthsFrom (code : PrefixCode) (count : Nat) (lengths : List Nat) : Nat → Reading (List Nat)
  | 0 => return lengths.reverse
  | most + 1 => do
    if count ≤ lengths.length then return lengths.reverse
    let symbol := (← code.symbol?).getD 0
    let again (length times : Nat) : Reading (List Nat) :=
      if count < lengths.length + times then fail "invalid bit length repeat"
      else lengthsFrom code count (List.replicate times length ++ lengths) most
    if symbol < 16 then lengthsFrom code count (symbol :: lengths) most
    else if symbol = 16 then
      let times ← number 2
      match lengths with
      | length :: _ => again length (3 + times)
      | [] => fail "invalid bit length repeat"
    else if symbol = 17 then again 0 (3 + (← number 3))
    else again 0 (11 + (← number 7))

/-- Reads the two codes of a block. -/
def blockCodes : Reading (PrefixCode × PrefixCode) := do
  let mainCount := (← number 5) + 257
  let distanceCount := (← number 5) + 1
  let orderCount := (← number 4) + 4
  if 286 < mainCount || 30 < distanceCount then fail "too many length or distance symbols"
  let given ← (List.range orderCount).mapM fun _ => number 3
  let code := PrefixCode.ofLengths ((List.range 19).map fun symbol =>
    ((lengthOrder.zip given).find? (·.1 == symbol)).elim 0 (·.2))
  if !code.isUsable false then fail "invalid code lengths set"
  let count := mainCount + distanceCount
  let lengths ← lengthsFrom code count [] count
  if lengths[256]? = some 0 then fail "invalid code -- missing end-of-block"
  let main := PrefixCode.ofLengths (lengths.take mainCount)
  if !main.isUsable true then fail "invalid literal/lengths set"
  let distances := PrefixCode.ofLengths (lengths.drop mainCount)
  if !distances.isUsable true then fail "invalid distances set"
  return (main, distances)

/-- Reads a block whose octets stand as they are. -/
def plainBlock : Reading Unit := do
  align
  let count ← number 16
  let check ← number 16
  if count + check = 0xFFFF then writeNext count else fail "invalid stored block lengths"

/-- Reads at most so many blocks, up to the last one, each with at most as many symbols. -/
def blocks (mostSymbols : Nat) : Nat → Reading Unit
  | 0 => throw .short
  | most + 1 => do
    let isLast ← bit
    match ← number 2 with
    | 0 => plainBlock
    | 1 => symbols usualMain usualDistances mostSymbols
    | 2 =>
      let (main, distances) ← blockCodes
      symbols main distances mostSymbols
    | _ => fail "invalid block type"
    if isLast then return () else blocks mostSymbols most

/-- Reads all blocks. There are no more of them, and of symbols, than there are bits. -/
def allBlocks : Reading Unit := do
  let most := 8 * (← get).octets.length + 8
  blocks most most

/-! ## Wrappings -/

/-- A step of the cyclic check sum: one more bit is divided out. -/
def cyclicStep (n : Nat) : Nat := if n % 2 = 1 then (n / 2) ^^^ 0xEDB88320 else n / 2

/-- The cyclic check sum of octets. -/
def cyclicSum (octets : List Nat) : Nat :=
  (octets.foldl (fun n octet => Nat.repeat cyclicStep 8 (n ^^^ octet)) 0xFFFFFFFF) ^^^ 0xFFFFFFFF

/-- The check sum of octets by two running sums. -/
def runningSum (octets : List Nat) : Nat :=
  let (low, high) := octets.foldl (fun (low, high) octet =>
    ((low + octet) % 65521, (high + low + octet) % 65521)) (1, 0)
  high * 0x10000 + low

/-- Passes over octets up to a zero, of which there are at most so many. -/
def passText : Nat → Reading Unit
  | 0 => throw .short
  | most + 1 => do
    if (← number 8) = 0 then return () else passText most

/-- Passes over so many octets. -/
def pass (count : Nat) : Reading Unit := do
  let _ ← number (8 * count)

/-- What has been written, the first octet first. -/
def output : Reading (List Nat) := return (← get).written.reverse

/-- Reads a stream behind a header with a time and perhaps a name, and before its check sums. -/
def filed : Reading Unit := do
  let all := (← get).octets
  if (← number 16) ≠ 0x8B1F then fail "incorrect header check"
  let method ← number 8
  let flags ← number 8
  if method ≠ 8 then fail "unknown compression method"
  if 32 ≤ flags then fail "unknown header flags set"
  pass 6
  if flags.testBit 2 then pass (← number 16)
  if flags.testBit 3 then passText all.length
  if flags.testBit 4 then passText all.length
  if flags.testBit 1 then
    let header := all.take (all.length - (← get).octets.length)
    if (← number 16) ≠ cyclicSum header % 0x10000 then fail "header crc mismatch"
  allBlocks
  align
  let octets ← output
  if (← number 32) ≠ cyclicSum octets then fail "incorrect data check"
  if (← number 32) ≠ octets.length % 0x100000000 then fail "incorrect length check"

/-- Reads a stream behind a header of two octets, and before its check sum. -/
def wrapped : Reading Unit := do
  let first ← number 8
  let second ← number 8
  if (first * 256 + second) % 31 ≠ 0 then fail "incorrect header check"
  if first % 16 ≠ 8 then fail "unknown compression method"
  if 7 < first / 16 then fail "invalid window size"
  if second.testBit 5 then
    pass 4
    fail "need dictionary"
  allBlocks
  align
  let check ← (List.range 4).mapM fun _ => number 8
  if check.foldl (· * 256 + ·) 0 ≠ runningSum (← output) then fail "incorrect data check"

/-- What octets stand for when they are read in a way, or what is wrong with them. -/
def run (reading : Reading Unit) (octets : List Nat) : Except String (List Nat) :=
  match reading.run { octets, bits := [], written := [] } with
  | .ok _ flow | .error .short flow => .ok flow.written.reverse
  | .error (.bad text) _ => .error text

end Workflows.Inflate
