import ExprTree.Digest.Write
import ExprTree.Document
import ExprTree.Inspect

/-!
The numbers that trees are made of. A `NodeId` is the position of a node in its arena, a `Name`
the position of a string in an interner, and a `Span` a run of entries in a side table. Members,
methods and constructors are handles of the caller's registry, which a tree only tells apart.
-/

namespace ExprTree

set_option autoImplicit false

structure NodeId where
  raw : UInt32
deriving DecidableEq

namespace NodeId

/-- The number that says that there is no node. An arena does not keep it free: it is also the number
of the last node that fits. -/
def absent : NodeId := ⟨0xFFFFFFFF⟩

instance : Inhabited NodeId := ⟨absent⟩

def index (id : NodeId) : Nat := id.raw.toNat

def isPresent (id : NodeId) : Bool := id != absent

def present? (id : NodeId) : Option NodeId :=
  if id.isPresent then some id else none

end NodeId

instance : Inspect NodeId where
  inspect id :=
    if id.isPresent then Inspect.positional "NodeId" [inspect id.index] else "NodeId::INVALID"

instance : Codec NodeId where
  encode id := encode id.raw
  decode document := (decode document).map NodeId.mk

instance : Digest NodeId where
  writes id := writes id.raw

structure MemberId where
  raw : UInt32
deriving DecidableEq, Ord

instance : Inspect MemberId where
  inspect id := Inspect.positional "MemberId" [inspect id.raw.toNat]

instance : Codec MemberId where
  encode id := encode id.raw
  decode document := (decode document).map MemberId.mk

instance : Digest MemberId where
  writes id := writes id.raw

structure MethodId where
  raw : UInt32
deriving DecidableEq, Ord

instance : Inspect MethodId where
  inspect id := Inspect.positional "MethodId" [inspect id.raw.toNat]

instance : Codec MethodId where
  encode id := encode id.raw
  decode document := (decode document).map MethodId.mk

instance : Digest MethodId where
  writes id := writes id.raw

structure CtorId where
  raw : UInt32
deriving DecidableEq, Ord

instance : Inspect CtorId where
  inspect id := Inspect.positional "CtorId" [inspect id.raw.toNat]

instance : Codec CtorId where
  encode id := encode id.raw
  decode document := (decode document).map CtorId.mk

instance : Digest CtorId where
  writes id := writes id.raw

/-- An interned string. Names of different interners are unrelated numbers. -/
structure Name where
  raw : UInt32
deriving DecidableEq, Ord

namespace Name

/-- The empty string has this name in every interner. -/
def empty : Name := ⟨0⟩

instance : Inhabited Name := ⟨empty⟩

def index (name : Name) : Nat := name.raw.toNat

end Name

instance : Inspect Name where
  inspect name := Inspect.positional "Name" [inspect name.index]

instance : Codec Name where
  encode name := encode name.raw
  decode document := (decode document).map Name.mk

instance : Digest Name where
  writes name := writes name.raw

structure Span (α : Type) where
  start : UInt32
  length : UInt16

namespace Span

variable {α : Type}

instance : DecidableEq (Span α) := fun left right =>
  decidable_of_iff (left.start = right.start ∧ left.length = right.length) (by
    cases left
    cases right
    simp)

def empty : Span α := ⟨0, 0⟩

instance : Inhabited (Span α) := ⟨empty⟩

def isEmpty (span : Span α) : Bool := span.length == 0

def first (span : Span α) : Nat := span.start.toNat

def size (span : Span α) : Nat := span.length.toNat

/-- The position after the last entry. It can be larger than any start. -/
def stop (span : Span α) : Nat := span.first + span.size

def bounds (span : Span α) : String := inspect span.first ++ ".." ++ inspect span.stop

end Span

abbrev NodeRange := Span NodeId

abbrev MemberRange := Span MemberId

instance : Inspect NodeRange where
  inspect span := Inspect.positional "NodeRange" [span.bounds]

instance : Inspect MemberRange where
  inspect span := Inspect.positional "MemberRange" [span.bounds]

instance {α : Type} : Codec (Span α) where
  encode span := .record [("start", encode span.start), ("len", encode span.length)]
  decode := Document.readFields ["start", "len"] fun fields => do
    return ⟨← fields.read "start", ← fields.read "len"⟩

instance {α : Type} : Digest (Span α) where
  writes span := writes span.start ++ writes span.length

end ExprTree
