import ExprTree.Proofs.Paths
import ExprTree.Proofs.Profile

/-!
Where the children of a node stand. Which places there are, and in which order, follows from what
kind of node it is, whether it has a target and how long its list is, and the last two are
attributes. So two nodes of one kind with equal attributes have their children in the same places,
one after the other. On a node that passes its checks, looking up the children gives all of them,
and each is older than the node.
-/

namespace ExprTree

set_option autoImplicit false

def Edge.place (edge : Edge) : Slot × Nat := (edge.slot, edge.entry)

namespace ExprKind

def targetPlaces (target : NodeId) : List (Slot × Nat) :=
  if target.isPresent then [(.target, 0)] else []

def listPlaces (slot : Slot) (range : NodeRange) : List (Slot × Nat) :=
  (List.range range.size).map (slot, ·)

/-- The places of the children of a node, in order. -/
def places : ExprKind → List (Slot × Nat)
  | .constant _ | .parameter _ => []
  | .memberAccess target _ => targetPlaces target
  | .methodCall target _ args => targetPlaces target ++ listPlaces .args args
  | .typeIs .. | .unary .. => [(.operand, 0)]
  | .binary .. => [(.left, 0), (.right, 0)]
  | .conditional .. => [(.test, 0), (.ifTrue, 0), (.ifFalse, 0)]
  | .new _ args _ => listPlaces .args args
  | .invoke _ args => (.callee, 0) :: listPlaces .args args
  | .lambda _ params => (.body, 0) :: listPlaces .params params
  | .newArrayInit elements => listPlaces .elements elements
  | .newArrayBounds bounds => listPlaces .bounds bounds

end ExprKind

namespace Arena

variable {arena : Arena} {kind : ExprKind} {field : ChildField} {edge : Edge}

def inSlot (arena : Arena) : ExprKind → Slot → List NodeId
  | .memberAccess target _, .target | .methodCall target _ _, .target => [target]
  | .typeIs operand _, .operand | .unary _ operand _, .operand => [operand]
  | .binary _ left _ _, .left => [left]
  | .binary _ _ right _, .right => [right]
  | .conditional test _ _, .test => [test]
  | .conditional _ ifTrue _, .ifTrue => [ifTrue]
  | .conditional _ _ ifFalse, .ifFalse => [ifFalse]
  | .invoke callee _, .callee => [callee]
  | .lambda body _, .body => [body]
  | .methodCall _ _ list, .args | .new _ list _, .args | .invoke _ list, .args
  | .lambda _ list, .params | .newArrayInit list, .elements | .newArrayBounds list, .bounds =>
      arena.entries list
  | _, _ => []

/-! ### Children and their places -/

def occupants (arena : Arena) : ChildField → List NodeId
  | .optional _ child | .required _ child => [child]
  | .list _ range => arena.entries range

theorem in_slot_field (own : field ∈ kind.fields) :
    arena.inSlot kind field.slot = arena.occupants field := by
  cases kind <;>
    simp only [ExprKind.fields, List.mem_cons, List.not_mem_nil, or_false] at own
  -- No kind has two fields for one slot, so the slot tells which of its fields this is.
  all_goals rcases own with rfl | rfl | rfl <;> rfl

theorem standing_occupant (member : edge ∈ arena.standing field) :
    (arena.occupants field)[edge.entry]? = some edge.child := by
  cases field with
  | optional slot child =>
      obtain ⟨present, found, rfl⟩ := List.mem_map.1 member
      by_cases there : child.isPresent
      · simp [NodeId.present_eq_some there] at found
        rw [found]
        rfl
      · simp [NodeId.present_eq_none there] at found
  | required slot child =>
      cases List.mem_singleton.1 member
      rfl
  | list slot range =>
      obtain ⟨⟨child, entry⟩, found, rfl⟩ := List.mem_map.1 member
      exact List.mem_zipIdx_iff_getElem?.1 found

theorem standing_target_places (target : NodeId) :
    (arena.standing (.optional .target target)).map Edge.place = ExprKind.targetPlaces target := by
  by_cases present : target.isPresent
  · simp [standing, NodeId.present_eq_some, ExprKind.targetPlaces, present, Edge.place]
  · simp [standing, NodeId.present_eq_none, ExprKind.targetPlaces, present]

theorem standing_required_places (slot : Slot) (child : NodeId) :
    (arena.standing (.required slot child)).map Edge.place = [(slot, 0)] := rfl

theorem standing_list_places {range : NodeRange} (inside : arena.childLists.Inside range)
    (slot : Slot) :
    (arena.standing (.list slot range)).map Edge.place = ExprKind.listPlaces slot range := by
  have numbers : (arena.entries range).zipIdx.map Prod.snd = List.range range.size := by
    rw [List.zipIdx_map_snd, entries, ListTable.length_run inside, List.range_eq_range']
  rw [ExprKind.listPlaces, ← numbers, standing, List.map_map, List.map_map]
  rfl

theorem ListableAs.places (listable : arena.ListableAs kind) :
    (kind.fields.flatMap arena.standing).map Edge.place = kind.places := by
  have listed (range : NodeRange) (own : range ∈ kind.list?) (slot : Slot) :=
    standing_list_places (listable.listInside range own) slot
  cases kind <;>
    simp only [ExprKind.fields, ExprKind.list?, Option.mem_some_iff, forall_eq', List.flatMap_cons,
      List.flatMap_nil, List.map_append, List.append_nil, standing_target_places,
      standing_required_places] at listed ⊢
  case methodCall | new | invoke | lambda | newArrayInit | newArrayBounds =>
    rw [listed]
    rfl
  all_goals rfl

end Arena

namespace Comparison

variable {comparison : Comparison}

theorem first_difference_cons_none {first other : Attribute} {left right : AttributeValue}
    {lefts rights : List (Attribute × AttributeValue)} :
    comparison.firstDifference ((first, left) :: lefts) ((other, right) :: rights) = .ok none ↔
      comparison.sameValue left right = .ok true ∧
        comparison.firstDifference lefts rights = .ok none := by
  rw [firstDifference]
  cases comparison.sameValue left right with
  | error fault => simp [bind, Except.bind]
  | ok same => cases same <;> simp [bind, Except.bind, pure, Except.pure]

theorem same_flag_iff {left right : Bool} :
    comparison.sameValue (.flag left) (.flag right) = .ok true ↔ left = right := by
  simp [sameValue]

theorem same_count_iff {left right : Nat} :
    comparison.sameValue (.count left) (.count right) = .ok true ↔ left = right := by
  simp [sameValue]

/-- Among the attributes that a node gives by itself are the presence of the target and the length
of the list. -/
theorem places_of_attributes {leftKind rightKind : ExprKind}
    (kinds : leftKind.nodeKind = rightKind.nodeKind)
    (same : comparison.firstDifference leftKind.ownAttributes rightKind.ownAttributes = .ok none) :
    leftKind.places = rightKind.places := by
  -- Only two nodes of one kind are left.
  cases leftKind <;> cases rightKind <;> cases kinds
  case memberAccess.memberAccess.refl =>
    simp only [ExprKind.ownAttributes, first_difference_cons_none, same_flag_iff] at same
    simp only [ExprKind.places, ExprKind.targetPlaces, same.2.1]
  case methodCall.methodCall.refl =>
    simp only [ExprKind.ownAttributes, first_difference_cons_none, same_flag_iff, same_count_iff]
      at same
    simp only [ExprKind.places, ExprKind.targetPlaces, ExprKind.listPlaces, same.2.1, same.2.2.1]
  case new.new.refl =>
    simp only [ExprKind.ownAttributes, first_difference_cons_none, same_count_iff] at same
    simp only [ExprKind.places, ExprKind.listPlaces, same.2.1]
  case invoke.invoke.refl | lambda.lambda.refl | newArrayInit.newArrayInit.refl |
      newArrayBounds.newArrayBounds.refl =>
    simp only [ExprKind.ownAttributes, first_difference_cons_none, same_count_iff] at same
    simp only [ExprKind.places, ExprKind.listPlaces, same.1]
  all_goals rfl

theorem places_of_difference {left right : NodeId} {leftKind rightKind : ExprKind}
    (leftIs : comparison.left.arena.kind left = .ok leftKind)
    (rightIs : comparison.right.arena.kind right = .ok rightKind)
    (kinds : leftKind.nodeKind = rightKind.nodeKind)
    (same : comparison.attributeDifference left right = .ok none) :
    leftKind.places = rightKind.places := by
  rw [attribute_difference_eq leftIs rightIs kinds] at same
  obtain ⟨difference, answered, nothing⟩ := map_ok_iff.1 same
  rw [Option.map_eq_none_iff] at nothing
  obtain ⟨own, compared, onward⟩ := bind_ok_iff.1 answered
  cases own with
  | none => exact places_of_attributes kinds compared
  | some first =>
      cases onward
      cases nothing

end Comparison

namespace Forest

variable {forest : Forest} {id : NodeId}

/-- The edges are those to the children of the node, which is of the kind: looking them up gives
them, they go through the places of the kind, what stands there in the node is the child, and it is
an older node of the arena. -/
structure Placed (forest : Forest) (id : NodeId) (kind : ExprKind) (edges : List Edge) : Prop where
  ofKind : forest.arena.kind id = .ok kind
  listed : forest.arena.edges id = .ok edges
  children : forest.arena.children id = .ok (edges.map Edge.child)
  inPlaces : edges.map Edge.place = kind.places
  held : ∀ edge ∈ edges, (forest.arena.inSlot kind edge.slot)[edge.entry]? = some edge.child
  older : ∀ edge ∈ edges, edge.child.isPresent ∧ forest.arena.contains edge.child ∧
    edge.child.raw < id.raw

theorem placed_of_checked (checked : forest.checkNode id = .ok ()) :
    ∃ kind edges, forest.Placed id kind edges := by
  obtain ⟨kind, found, sound⟩ := check_node_ok_iff.1 checked
  have listable := sound.listable
  have edges := listable.edges found
  refine ⟨kind, kind.fields.flatMap forest.arena.standing, Arena.kind_ok_iff.2 found, edges,
    bind_ok_iff.2 ⟨_, edges, rfl⟩, listable.places, ?held, ?older⟩
  case held =>
    intro edge member
    obtain ⟨field, own, stands⟩ := List.mem_flatMap.1 member
    rw [Arena.standing_slot stands, Arena.in_slot_field own]
    exact Arena.standing_occupant stands
  case older =>
    intro edge member
    have offspring : edge.child ∈ forest.arena.offspring kind := by
      rw [← listable.standing_children]
      exact List.mem_map_of_mem member
    have present := (Arena.mem_offspring.1 offspring).1
    obtain ⟨inside, older⟩ := sound.childrenPrecede _ offspring
    exact ⟨present, Arena.contains_iff.2 ⟨present, inside⟩, UInt32.lt_iff_toNat_lt.2 older⟩

/-- The children of a node that passes its checks are looked up without a fault. They are all
present, and older nodes of the arena. If another such node, in whatever arena, is of the same kind
and has the same attributes, then both have equally many children, and in the same places. -/
theorem checked_children_in_places (checked : forest.checkNode id = .ok ()) :
    ∃ kind edges, forest.Placed id kind edges ∧
      ∀ (other : Forest) (otherId : NodeId) (candidates : Array NodeId),
        other.checkNode otherId = .ok () →
        ∃ otherKind otherEdges, other.Placed otherId otherKind otherEdges ∧
          (kind.nodeKind = otherKind.nodeKind →
            Comparison.attributeDifference ⟨forest, other, candidates⟩ id otherId = .ok none →
            edges.length = otherEdges.length ∧
              edges.map Edge.place = otherEdges.map Edge.place) := by
  obtain ⟨kind, edges, placed⟩ := placed_of_checked checked
  refine ⟨kind, edges, placed, fun other otherId candidates otherChecked => ?_⟩
  obtain ⟨otherKind, otherEdges, otherPlaced⟩ := placed_of_checked otherChecked
  refine ⟨otherKind, otherEdges, otherPlaced, fun kinds same => ?_⟩
  have places : edges.map Edge.place = otherEdges.map Edge.place := by
    rw [placed.inPlaces, otherPlaced.inPlaces]
    exact Comparison.places_of_difference placed.ofKind otherPlaced.ofKind kinds same
  exact ⟨by simpa using congrArg List.length places, places⟩

end Forest

/-- A call with a target and two arguments; so in `otherCalls`, with everything at other numbers. -/
def calls : Forest where
  arena :=
    { kinds :=
        #[.parameter ⟨1⟩, .constant .null, .constant (.int 1), .methodCall ⟨0⟩ ⟨7⟩ ⟨1, 2⟩]
      types := #[.int, .int, .int, .int]
      childLists := ⟨#[⟨9⟩, ⟨2⟩, ⟨1⟩]⟩ }
  names := (Interner.fresh.intern "x").1

def otherCalls : Forest where
  arena :=
    { kinds := #[.constant .null, .constant (.bool true), .methodCall ⟨1⟩ ⟨7⟩ ⟨0, 2⟩]
      types := #[.int, .int, .int]
      childLists := ⟨#[⟨0⟩, ⟨0⟩]⟩ }
  home := ⟨1⟩

theorem checked_children_in_places_calls :
    calls.checkNode ⟨3⟩ = .ok () ∧ otherCalls.checkNode ⟨2⟩ = .ok () ∧
      Comparison.attributeDifference ⟨calls, otherCalls, #[]⟩ ⟨3⟩ ⟨2⟩ = .ok none ∧
      ∃ kind edges otherKind otherEdges, calls.Placed ⟨3⟩ kind edges ∧
        otherCalls.Placed ⟨2⟩ otherKind otherEdges ∧ kind.nodeKind = otherKind.nodeKind ∧
        edges.length = otherEdges.length ∧
        edges.map Edge.place = otherEdges.map Edge.place ∧
        edges.map Edge.place = [(.target, 0), (.args, 0), (.args, 1)] := by
  have checked : calls.checkNode ⟨3⟩ = .ok () := by decide +kernel
  have otherChecked : otherCalls.checkNode ⟨2⟩ = .ok () := by decide +kernel
  have same : Comparison.attributeDifference ⟨calls, otherCalls, #[]⟩ ⟨3⟩ ⟨2⟩ = .ok none := by
    decide +kernel
  obtain ⟨kind, edges, placed, aligned⟩ := Forest.checked_children_in_places checked
  obtain ⟨otherKind, otherEdges, otherPlaced, alike⟩ := aligned otherCalls ⟨2⟩ #[] otherChecked
  have kindIs : kind = .methodCall ⟨0⟩ ⟨7⟩ ⟨1, 2⟩ := Except.ok.inj placed.ofKind.symm
  have otherKindIs : otherKind = .methodCall ⟨1⟩ ⟨7⟩ ⟨0, 2⟩ := Except.ok.inj otherPlaced.ofKind.symm
  have kinds : kind.nodeKind = otherKind.nodeKind := by rw [kindIs, otherKindIs]; rfl
  obtain ⟨sizes, places⟩ := alike kinds same
  refine ⟨checked, otherChecked, same, kind, edges, otherKind, otherEdges, placed, otherPlaced,
    kinds, sizes, places, ?_⟩
  rw [placed.inPlaces, kindIs]
  rfl

end ExprTree
