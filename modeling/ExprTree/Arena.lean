import ExprTree.Fault
import ExprTree.Interner
import ExprTree.ListTable

/-!
An arena holds the nodes of any number of trees, kinds and types in parallel, and the side tables
for lists of children and of members. Nodes are added and never changed. A `Forest` is an arena
together with the interner its names belong to.
-/

namespace ExprTree

set_option autoImplicit false

structure Arena where
  kinds : Array ExprKind := #[]
  types : Array TypeId := #[]
  childLists : ListTable NodeId := {}
  memberLists : ListTable MemberId := {}

namespace Arena

instance : Inhabited Arena := ⟨{}⟩

inductive PushError where
  | tooManyNodes (size : Nat)
  | childList (failure : ListTable.Failure)
  | memberList (failure : ListTable.Failure)
deriving DecidableEq

namespace PushError

def tooMany (what : String) (count : Nat) : String :=
  "too many " ++ what ++ ": " ++ inspect count ++ " exceeds u32::MAX"

def tooLong (what : String) (length : Nat) : String :=
  what ++ " too long: " ++ inspect length ++ " exceeds u16::MAX"

def message : PushError → String
  | .tooManyNodes count => tooMany "expression nodes" count
  | .childList (.full count) => tooMany "expression lists" count
  | .childList (.tooLong length) => tooLong "expression list" length
  | .memberList (.full count) => tooMany "member lists" count
  | .memberList (.tooLong length) => tooLong "member list" length

end PushError

def size (arena : Arena) : Nat := arena.kinds.size

def isEmpty (arena : Arena) : Bool := arena.kinds.isEmpty

def contains (arena : Arena) (id : NodeId) : Bool :=
  id.isPresent && id.index < arena.size

def kind (arena : Arena) (id : NodeId) : Except Fault ExprKind :=
  match arena.kinds[id.index]? with
  | some kind => .ok kind
  | none => .error (.outOfBounds .nodes)

def type (arena : Arena) (id : NodeId) : Except Fault TypeId :=
  match arena.types[id.index]? with
  | some type => .ok type
  | none => .error (.outOfBounds .types)

def node (arena : Arena) (id : NodeId) : Except Fault Node := do
  return ⟨← arena.kind id, ← arena.type id⟩

def childList (arena : Arena) (range : NodeRange) : Except Fault (List NodeId) :=
  match arena.childLists.get? range with
  | some children => .ok children
  | none => .error (.outOfBounds .childLists)

def memberList (arena : Arena) (range : MemberRange) : Except Fault (List MemberId) :=
  match arena.memberLists.get? range with
  | some members => .ok members
  | none => .error (.outOfBounds .memberLists)

/-- Adds a node and gives its number. Nothing is checked: what the node refers to may be missing. -/
def push (arena : Arena) (node : Node) : Arena × Except PushError NodeId :=
  match arena with
  | ⟨kinds, types, childLists, memberLists⟩ =>
      let count := kinds.size
      if count < UInt32.size then
        (⟨kinds.push node.kind, types.push node.type, childLists, memberLists⟩,
          .ok ⟨.ofNat count⟩)
      else (⟨kinds, types, childLists, memberLists⟩, .error (.tooManyNodes count))

def pushChildren (arena : Arena) (children : List NodeId) :
    Arena × Except PushError NodeRange :=
  match arena with
  | ⟨kinds, types, childLists, memberLists⟩ =>
      let (grown, result) := childLists.push children
      (⟨kinds, types, grown, memberLists⟩, result.mapError .childList)

def pushMembers (arena : Arena) (members : List MemberId) :
    Arena × Except PushError MemberRange :=
  match arena with
  | ⟨kinds, types, childLists, memberLists⟩ =>
      let (grown, result) := memberLists.push members
      (⟨kinds, types, childLists, grown⟩, result.mapError .memberList)

end Arena

/-- Tells interners apart. Names mean the same in two forests of one interner. -/
structure InternerId where
  number : Nat
deriving DecidableEq, Inhabited

structure Forest where
  arena : Arena := {}
  names : Interner := .fresh
  home : InternerId := default

namespace Forest

instance : Inhabited Forest := ⟨{}⟩

def sharesNames (left right : Forest) : Bool := left.home == right.home

def text (forest : Forest) (name : Name) : Except Fault String :=
  match forest.names.lookup? name with
  | some text => .ok text
  | none => .error (.outOfBounds .names)

end Forest

/-- A root of a forest. An absent root stands for no tree at all. -/
structure Tree where
  forest : Forest
  root : NodeId

namespace Tree

def absent (forest : Forest) : Tree := ⟨forest, .absent⟩

def isAbsent (tree : Tree) : Bool := !tree.root.isPresent

end Tree

end ExprTree
