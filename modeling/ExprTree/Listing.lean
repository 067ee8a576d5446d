import ExprTree.Walk

/-!
Walks that only look at a tree: its nodes in pre-order, and records of other visiting orders. A node
is listed as often as it is used. None of these walks asks whether the tree is well formed; the
first fault that a walk meets ends it.
-/

namespace ExprTree

set_option autoImplicit false

def greatest? (listing : Array NodeId) : Option NodeId :=
  listing.foldl (fun best id =>
    match best with
    | some best => some (if best.raw < id.raw then id else best)
    | none => some id) none

inductive RecordOrder where
  /-- On arrival. -/
  | before
  /-- When the node's children are done. -/
  | after
  /-- On arrival, and without going on to the children of a lambda. -/
  | outsideLambdas
deriving DecidableEq

structure Record where
  seen : Array NodeId := #[]
  /-- How many of the visited nodes are literals. -/
  constants : Nat := 0

namespace Record

def note (record : Record) (id : NodeId) : Record :=
  { record with seen := record.seen.push id }

def count (record : Record) (kind : ExprKind) : Record :=
  { record with constants := record.constants + if kind.isConstant then 1 else 0 }

def visitor (arena : Arena) (order : RecordOrder) : Visitor Record Fault where
  enter id record := do
    let counted := record.count (← arena.kind id)
    return match order with
      | .before | .outsideLambdas => counted.note id
      | .after => counted
  descends id :=
    match order with
    | .before | .after => true
    | .outsideLambdas =>
        match arena.kind id with
        | .ok kind => !kind.isLambda
        | .error _ => true
  leave id record :=
    match order with
    | .before | .outsideLambdas => record
    | .after => record.note id
  fault fault := fault

end Record

namespace Tree

def listing (tree : Tree) : Except Fault (Array NodeId) :=
  tree.walk { enter := fun id listing => .ok (listing.push id), fault := fun fault => fault } #[]

def record (tree : Tree) (order : RecordOrder) : Except Fault Record :=
  tree.walk (Record.visitor tree.forest.arena order) {}

def traverse (tree : Tree) : Except Fault Unit :=
  tree.walk { enter := fun _ _ => .ok (), fault := fun fault => fault } ()

end Tree

end ExprTree
