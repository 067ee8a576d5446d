import ExprTree.Digest.Write

/-!
A fast fold of writes into 64 bits. Each number is added to the state, which is then multiplied by
an odd constant, all modulo 2^64; the last step rotates the state so that its well-mixed high bits
come to the bottom. A run of bytes is first compressed into one number.
-/

namespace ExprTree.Digest

set_option autoImplicit false

def multiplier : UInt64 := 0xf1357aea2e62a9c5

/-- Starting values of the two lanes of a run of bytes, and the value that keeps a block of zeros
from leaving a lane unchanged. -/
def firstSeed : UInt64 := 0x243f6a8885a308d3
def secondSeed : UInt64 := 0x13198a2e03707344
def blockSeed : UInt64 := 0xa4093822299f31d0

def mix (left right : UInt64) : UInt64 :=
  let product := left.toNat * right.toNat
  .ofNat product ^^^ .ofNat (product >>> 64)

/-- The `width` bytes from `start`, lowest first; bytes past the end count as zero. -/
def littleEndian (bytes : ByteArray) (start width : Nat) : UInt64 :=
  (List.range width).foldr
    (fun offset number => (number <<< 8) ||| (bytes.data.getD (start + offset) 0).toUInt64) 0

/-- Blocks of sixteen bytes from `start`, as long as more than sixteen remain. -/
def mixBlocks (bytes : ByteArray) (start : Nat) (first second : UInt64) : UInt64 × UInt64 :=
  if start + 16 < bytes.size then
    let mixed := mix (first ^^^ littleEndian bytes start 8)
      (blockSeed ^^^ littleEndian bytes (start + 8) 8)
    mixBlocks bytes (start + 16) second mixed
  else (first, second)
termination_by bytes.size - start

/-- One number for a run of bytes. Its two ends, which may overlap, always take part; so does the
length. -/
def compress (bytes : ByteArray) : UInt64 :=
  let size := bytes.size
  let (first, second) :=
    if size > 16 then
      let (first, second) := mixBlocks bytes 0 firstSeed secondSeed
      (first ^^^ littleEndian bytes (size - 16) 8, second ^^^ littleEndian bytes (size - 8) 8)
    else if size ≥ 8 then
      (firstSeed ^^^ littleEndian bytes 0 8, secondSeed ^^^ littleEndian bytes (size - 8) 8)
    else if size ≥ 4 then
      (firstSeed ^^^ littleEndian bytes 0 4, secondSeed ^^^ littleEndian bytes (size - 4) 4)
    else if size ≥ 1 then
      (firstSeed ^^^ littleEndian bytes 0 1,
        secondSeed ^^^
          ((littleEndian bytes (size - 1) 1 <<< 8) ||| littleEndian bytes (size / 2) 1))
    else (firstSeed, secondSeed)
  mix first second ^^^ .ofNat size

def addend : Write → UInt64
  | .byte value => value.toUInt64
  | .word16 value => value.toUInt64
  | .word32 value => value.toUInt64
  | .word64 value => value
  | .signed64 value => value.toUInt64
  | .count value => .ofNat value
  | .tag value => .ofNat value
  | .bytes value => compress value

def absorb (state : UInt64) (write : Write) : UInt64 :=
  (state + addend write) * multiplier

def finish (state : UInt64) : UInt64 :=
  (state <<< 26) ||| (state >>> 38)

def foldWrites (sequence : List Write) : UInt64 :=
  finish (sequence.foldl absorb 0)

def hash {α : Type} [Digest α] (value : α) : UInt64 :=
  foldWrites (writes value)

end ExprTree.Digest
