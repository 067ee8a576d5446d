import ExprTree.Attribute
import ExprTree.Listing
import ExprTree.Validity

/-!
Structural comparison of two trees. The nodes of the right tree are listed once, as candidates; a
walk through the left tree gives each node the next candidate, which has to agree with it in kind,
type and attributes. The first disagreement ends the comparison.

Because the lengths of child lists are attributes, two trees with the same listing but different
nesting are told apart before a child of the wrong parent is met.
-/

namespace ExprTree

set_option autoImplicit false

inductive Mismatch where
  /-- The right tree has ended where the left one has a node. -/
  | missingCandidate (left : NodeId)
  /-- The right tree has nodes that the left one does not reach. -/
  | extraCandidates (first : NodeId) (count : Nat)
  | kind (left right : NodeId) (leftKind rightKind : NodeKind)
  | type (left right : NodeId) (leftType rightType : TypeId)
  | attributes (left right : NodeId) (first : Attribute)
deriving DecidableEq

def Mismatch.message : Mismatch → String
  | .missingCandidate left => inspect left ++ " has no counterpart in the right tree"
  | .extraCandidates first count =>
      "right tree has " ++ inspect count ++ " unmatched node(s), starting at " ++ inspect first
  | .kind left right leftKind rightKind =>
      inspect left ++ " is " ++ leftKind.display ++ " but " ++ inspect right ++ " is " ++
        rightKind.display
  | .type left right leftType rightType =>
      inspect left ++ " has type " ++ inspect leftType ++ " but " ++ inspect right ++
        " has type " ++ inspect rightType
  | .attributes left right first =>
      inspect left ++ " and " ++ inspect right ++ " differ in " ++ first.display

structure Comparison where
  left : Forest
  right : Forest
  /-- The nodes of the right tree in pre-order. -/
  candidates : Array NodeId

namespace Comparison

/-- Why the walk ends early: a difference, after so many matched candidates, or a fault. -/
inductive Stop where
  | differ (mismatch : Mismatch) (matched : Nat)
  | fault (fault : Fault)
deriving DecidableEq

/-- Names of one interner are equal as numbers exactly if they are equal as strings. -/
def sameName (comparison : Comparison) (left right : Name) : Except Fault Bool :=
  if comparison.left.sharesNames comparison.right then .ok (left == right)
  else do return (← comparison.left.text left) == (← comparison.right.text right)

def sameValue (comparison : Comparison) : AttributeValue → AttributeValue → Except Fault Bool
  | .name left, .name right => comparison.sameName left right
  | .literal (.text left), .literal (.text right) => comparison.sameName left right
  | left, right => .ok (left == right)

/-- The first attribute in which two nodes of one kind differ. As long as no difference was met,
both lists go through the same attributes. -/
def firstDifference (comparison : Comparison) :
    List (Attribute × AttributeValue) → List (Attribute × AttributeValue) →
      Except Fault (Option Attribute)
  | (first, left) :: lefts, (_, right) :: rights => do
      if ← comparison.sameValue left right then comparison.firstDifference lefts rights
      else return some first
  | _, _ => .ok none

/-- The first attribute in which nodes of two kinds differ. The members that they bind are only
looked up if they differ in nothing before. -/
def attributeApart (comparison : Comparison) (leftKind rightKind : ExprKind) :
    Except Fault (Option Attribute) := do
  match ← comparison.firstDifference leftKind.ownAttributes rightKind.ownAttributes with
  | some first => return some first
  | none =>
      let lefts ← comparison.left.arena.boundAttributes leftKind
      let rights ← comparison.right.arena.boundAttributes rightKind
      comparison.firstDifference lefts rights

/-- A difference in attributes of two nodes, which are supposed to be of one kind. If they have not
even the same attributes, this is a difference in kind; only a conditional, which has none at all,
is held against nothing. -/
def attributeDifference (comparison : Comparison) (left right : NodeId) :
    Except Fault (Option Mismatch) := do
  let rightKind ← comparison.right.arena.kind right
  let leftKind ← comparison.left.arena.kind left
  if leftKind.isConditional then return none
  else if leftKind.ctorIdx = rightKind.ctorIdx then
    return (← comparison.attributeApart leftKind rightKind).map (.attributes left right)
  else return some (.kind left right leftKind.nodeKind rightKind.nodeKind)

def headDifference (comparison : Comparison) (left right : NodeId) :
    Except Fault (Option Mismatch) := do
  let leftKind := (← comparison.left.arena.kind left).nodeKind
  let rightKind := (← comparison.right.arena.kind right).nodeKind
  if leftKind != rightKind then return some (.kind left right leftKind rightKind)
  let leftType ← comparison.left.arena.type left
  let rightType ← comparison.right.arena.type right
  if leftType != rightType then return some (.type left right leftType rightType)
  return none

/-- Matches a left node with the next candidate. The candidate counts as matched as soon as kind and
type agree. -/
def step (comparison : Comparison) (left : NodeId) (matched : Nat) : Except Stop Nat := do
  match comparison.candidates[matched]? with
  | none => .error (.differ (.missingCandidate left) matched)
  | some right =>
      match ← (comparison.headDifference left right).mapError .fault with
      | some mismatch => .error (.differ mismatch matched)
      | none =>
          match ← (comparison.attributeDifference left right).mapError .fault with
          | some mismatch => .error (.differ mismatch (matched + 1))
          | none => .ok (matched + 1)

def visitor (comparison : Comparison) : Visitor Nat Stop where
  enter := comparison.step
  fault := .fault

def finish (comparison : Comparison) (matched : Nat) : Except Mismatch Unit :=
  match comparison.candidates[matched]? with
  | some first => .error (.extraCandidates first (comparison.candidates.size - matched))
  | none => .ok ()

structure Report where
  result : Except Mismatch Unit
  matched : Nat

def Report.isEqual (report : Report) : Bool :=
  match report.result with
  | .ok () => true
  | .error _ => false

end Comparison

def Refusal.message? : Refusal → Option String
  | .malformed defect => some ("malformed expression tree: " ++ defect.message)
  | .fault cause => cause.message?

namespace Tree

/-- Compares two trees, both of which have to be well formed. Two absent trees are equal. -/
def compare (left right : Tree) : Except Refusal Comparison.Report := do
  left.validate
  right.validate
  let candidates ← right.listing.mapError .fault
  let comparison : Comparison := ⟨left.forest, right.forest, candidates⟩
  match left.walk comparison.visitor 0 with
  | .ok matched => return ⟨comparison.finish matched, matched⟩
  | .error (.differ mismatch matched) => return ⟨.error mismatch, matched⟩
  | .error (.fault fault) => .error (.fault fault)

def isEqual (left right : Tree) : Except Refusal Bool := do
  return (← left.compare right).isEqual

end Tree

end ExprTree
