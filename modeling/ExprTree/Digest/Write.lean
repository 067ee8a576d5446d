/-!
What is fed to a hash, as data. Hashing a value is split into two steps: the value gives a sequence
of writes, and a fold turns the sequence into a number. So that two values share a number only by
accident of the fold, a type's writes must tell its values apart; the kind of each write is kept
although the fold may not look at it.
-/

namespace ExprTree

set_option autoImplicit false

-- Stated here, because libraries bring instances of their own.
instance decidableEqBytes : DecidableEq ByteArray := ByteArray.instDecidableEq

/-- One write: a number with its width or role, or a run of bytes. -/
inductive Write where
  | byte (value : UInt8)
  | word16 (value : UInt16)
  | word32 (value : UInt32)
  | word64 (value : UInt64)
  | signed64 (value : Int64)
  /-- A length or position. -/
  | count (value : Nat)
  /-- Which alternative of a choice follows. -/
  | tag (value : Nat)
  | bytes (value : ByteArray)
deriving DecidableEq

class Digest (α : Type) where
  writes : α → List Write

export Digest (writes)

instance : Digest Bool where
  writes value := [.byte (if value then 1 else 0)]

instance : Digest UInt16 where
  writes value := [.word16 value]

instance : Digest UInt32 where
  writes value := [.word32 value]

instance : Digest UInt64 where
  writes value := [.word64 value]

instance : Digest Int64 where
  writes value := [.signed64 value]

instance : Digest Char where
  writes value := [.word32 value.val]

/-- The byte after a string is in no string's encoding, so it marks where the string ends. -/
instance : Digest String where
  writes value := [.bytes value.toUTF8, .byte 0xFF]

instance {α : Type} [Digest α] : Digest (Option α) where
  writes
    | none => [.tag 0]
    | some value => .tag 1 :: writes value

instance {α : Type} [Digest α] : Digest (List α) where
  writes values := .count values.length :: values.flatMap writes

end ExprTree
