import ExprTree.Proofs.Uses

/-!
The abstract tree that a root of a forest stands for. Its labels hold what the nodes say, with
strings for names and lists for spans; where the nodes are stored, which of them are shared and how
names are numbered does not appear in it.
-/

namespace ExprTree

set_option autoImplicit false

inductive Literal where
  | null
  | bool (value : Bool)
  | int (value : Int64)
  | float (bits : UInt64)
  | char (value : Char)
  | text (value : String)
deriving DecidableEq

inductive Content where
  | literal (value : Literal)
  | member (id : MemberId) (targeted : Bool)
  | method (id : MethodId) (targeted : Bool)
  | parameter (name : String)
  | tested (type : TypeId)
  | operator (info : OperatorInfo)
  | creation (ctor : Option CtorId) (bound : List MemberId)
  /-- Conditionals, invocations, lambdas and arrays have nothing but children. -/
  | nothing
deriving DecidableEq

structure Label where
  kind : NodeKind
  type : TypeId
  content : Content
deriving DecidableEq

abbrev Term := OrderedTree Label

namespace Forest

def literal (forest : Forest) : ConstValue → Except Fault Literal
  | .null => .ok .null
  | .bool value => .ok (.bool value)
  | .int value => .ok (.int value)
  | .float bits => .ok (.float bits)
  | .char value => .ok (.char value)
  | .text name => (forest.text name).map .text

def content (forest : Forest) : ExprKind → Except Fault Content
  | .constant value => (forest.literal value).map .literal
  | .memberAccess target member => .ok (.member member target.isPresent)
  | .methodCall target method _ => .ok (.method method target.isPresent)
  | .parameter name => (forest.text name).map .parameter
  | .typeIs _ type => .ok (.tested type)
  | .binary _ _ _ info | .unary _ _ info => .ok (.operator info)
  | .new ctor _ members => (forest.arena.memberList members).map (.creation ctor)
  | .conditional .. | .invoke .. | .lambda .. | .newArrayInit .. | .newArrayBounds .. => .ok .nothing

def label (forest : Forest) (id : NodeId) : Except Fault Label := do
  let kind ← forest.arena.kind id
  let type ← forest.arena.type id
  return ⟨kind.nodeKind, type, ← forest.content kind⟩

/-- The tree below a node, which may be `depth` levels deep, the node included. -/
def unfold (forest : Forest) : Nat → NodeId → Except Fault Term
  | 0, _ => .error .endless
  | depth + 1, id => do
      let label ← forest.label id
      let kind ← forest.arena.kind id
      return .node label (← (forest.arena.offspring kind).mapM (forest.unfold depth))

theorem unfold_succ_ok_iff {forest : Forest} {depth : Nat} {id : NodeId} {term : Term} :
    forest.unfold (depth + 1) id = .ok term ↔
      ∃ label kind terms, forest.label id = .ok label ∧
        forest.arena.kinds[id.index]? = some kind ∧
        List.Forall₂ (fun child term => forest.unfold depth child = .ok term)
          (forest.arena.offspring kind) terms ∧
        term = .node label terms := by
  rw [unfold, bind_ok_iff]
  constructor
  · intro ⟨label, labelled, continued⟩
    obtain ⟨kind, found, continued⟩ := bind_ok_iff.1 continued
    obtain ⟨terms, unfolded, same⟩ := bind_ok_iff.1 continued
    cases same
    exact ⟨label, kind, terms, labelled, Arena.kind_ok_iff.1 found, map_m_ok_iff.1 unfolded, rfl⟩
  · intro ⟨label, kind, terms, labelled, found, unfolded, same⟩
    rw [same]
    exact ⟨label, labelled, bind_ok_iff.2 ⟨kind, Arena.kind_ok_iff.2 found,
      bind_ok_iff.2 ⟨terms, map_m_ok_iff.2 unfolded, rfl⟩⟩⟩

theorem unfold_unique {forest : Forest} {depth otherDepth : Nat} {id : NodeId} {term other : Term}
    (unfolded : forest.unfold depth id = .ok term)
    (otherUnfolded : forest.unfold otherDepth id = .ok other) : term = other := by
  induction depth generalizing otherDepth id term other with
  | zero => simp [unfold] at unfolded
  | succ depth induction =>
      cases otherDepth with
      | zero => simp [unfold] at otherUnfolded
      | succ otherDepth =>
          obtain ⟨label, kind, terms, labelled, found, each, rfl⟩ := unfold_succ_ok_iff.1 unfolded
          obtain ⟨otherLabel, otherKind, others, otherLabelled, otherFound, otherEach, rfl⟩ :=
            unfold_succ_ok_iff.1 otherUnfolded
          rw [labelled] at otherLabelled
          rw [found] at otherFound
          cases otherLabelled
          cases otherFound
          rw [results_unique each otherEach fun _ _ _ => induction]

end Forest

def Tree.unfold (tree : Tree) : Except Fault (Option Term) :=
  if tree.isAbsent then .ok none
  else (tree.forest.unfold tree.depthBound tree.root).map some

namespace Forest

def entry (forest : Forest) (id : NodeId) : Except Fault (Label × Nat) := do
  let label ← forest.label id
  let kind ← forest.arena.kind id
  return (label, (forest.arena.offspring kind).length)

end Forest

end ExprTree
