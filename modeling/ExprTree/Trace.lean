import ExprTree.Comparison
import ExprTree.Fingerprint

/-!
Comparing and hashing with a record of what was done. A comparison notes its two roots before it
asks whether the trees are well formed, and one outcome if it comes to one; hashing notes its root.
-/

namespace ExprTree

set_option autoImplicit false

inductive Event where
  | comparing (left right : NodeId)
  | equal (nodes : Nat)
  | differ (mismatch : Mismatch) (matched : Nat)
  | hashing (root : NodeId)
deriving DecidableEq

def Comparison.Report.event (report : Comparison.Report) : Event :=
  match report.result with
  | .ok () => .equal report.matched
  | .error mismatch => .differ mismatch report.matched

/-- A computation that notes events, which stay noted when it is refused. -/
abbrev Traced := ExceptT Refusal (StateM (Array Event))

namespace Traced

def note (event : Event) : Traced Unit := modify (·.push event)

def events {Result : Type} (computation : Traced Result) :
    Except Refusal Result × Array Event :=
  computation.run.run #[]

end Traced

namespace Tree

def compareTraced (left right : Tree) : Traced Comparison.Report := do
  Traced.note (.comparing left.root right.root)
  let report ← left.compare right
  Traced.note report.event
  return report

def isEqualTraced (left right : Tree) : Traced Bool := do
  return (← left.compareTraced right).isEqual

def hashTraced (tree : Tree) : Traced UInt64 := do
  Traced.note (.hashing tree.root)
  let hash ← tree.hash.mapError Refusal.fault
  return hash

end Tree

end ExprTree
