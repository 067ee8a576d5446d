import ExprTree.Id

/-!
Static types. The first eight numbers are primitive types, on which trees of all callers agree; the
caller's own types follow them.
-/

namespace ExprTree

set_option autoImplicit false

structure TypeId where
  raw : UInt32
deriving DecidableEq

namespace TypeId

def primitiveNames : List String :=
  ["object", "void", "bool", "int", "long", "double", "char", "string"]

def bool : TypeId := ⟨2⟩
def int : TypeId := ⟨3⟩
def double : TypeId := ⟨5⟩
def string : TypeId := ⟨7⟩

def firstUser : Nat := primitiveNames.length

/-- The caller's type number `position`, if that many types have numbers. -/
def user? (position : UInt32) : Option TypeId :=
  let number := firstUser + position.toNat
  if number < UInt32.size then some ⟨.ofNat number⟩ else none

def isPrimitive (type : TypeId) : Bool := type.raw.toNat < firstUser

def primitiveName? (type : TypeId) : Option String := primitiveNames[type.raw.toNat]?

end TypeId

instance : Inspect TypeId where
  inspect type :=
    match type.primitiveName? with
    | some name => Inspect.positional "TypeId" [name]
    | none => Inspect.positional "TypeId" ["user " ++ inspect (type.raw.toNat - TypeId.firstUser)]

instance : Codec TypeId where
  encode type := encode type.raw
  decode document := (decode document).map TypeId.mk

instance : Digest TypeId where
  writes type := writes type.raw

end ExprTree
