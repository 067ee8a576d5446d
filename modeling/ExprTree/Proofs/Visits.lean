import ExprTree.Proofs.Blocks
import ExprTree.Proofs.Totality

/-!
Walks that record the nodes they visit, in the three orders. All of them follow the same tree of
uses: what is recorded on arrival is the listing; what is recorded on leaving is the listing put in
another order, where each node comes right after all that was recorded below it; and what is
recorded outside lambdas is the listing without the blocks that come after the outermost lambdas.
-/

namespace ExprTree

set_option autoImplicit false

open OrderedTree (Move arrivals departures)

namespace Arena

variable {arena : Arena}

def isLiteral (arena : Arena) (id : NodeId) : Bool :=
  arena.kinds[id.index]?.any ExprKind.isConstant

def recordOf (arena : Arena) (ids : List NodeId) : Record where
  seen := ids.toArray
  constants := ids.countP arena.isLiteral

/-- What is recorded of visits to some nodes, one after the other, if each node is recorded on
leaving: the visit to a node is recorded by the visits to its children, followed by the node. -/
inductive Finishes (arena : Arena) : List NodeId → List NodeId → Prop where
  | nothing : Finishes arena [] []
  | next {id : NodeId} {children rest below others : List NodeId}
      (found : arena.children id = .ok children) (first : Finishes arena children below)
      (later : Finishes arena rest others) :
      Finishes arena (id :: rest) (below ++ id :: others)

end Arena

/-- A list of nodes without the blocks that come after its lambdas. A lambda within the block of
another one goes with the block. -/
inductive Forest.Pruned (forest : Forest) : List NodeId → List NodeId → Prop where
  | nothing : Pruned forest [] []
  | plain {id : NodeId} {kind : ExprKind} {rest kept : List NodeId}
      (found : forest.arena.kinds[id.index]? = some kind) (notLambda : kind.isLambda = false)
      (later : Pruned forest rest kept) : Pruned forest (id :: rest) (id :: kept)
  | lambda {id : NodeId} {kind : ExprKind} {below rest kept : List NodeId}
      (found : forest.arena.kinds[id.index]? = some kind) (isLambda : kind.isLambda = true)
      (block : (Tree.mk forest id).listing = .ok (id :: below).toArray)
      (later : Pruned forest rest kept) : Pruned forest (id :: (below ++ rest)) (id :: kept)

def RecordOrder.noted (order : RecordOrder) (moves : List (Move NodeId)) : List NodeId :=
  match order with
  | .before | .outsideLambdas => arrivals moves
  | .after => departures moves

theorem RecordOrder.noted_append (order : RecordOrder) (moves others : List (Move NodeId)) :
    order.noted (moves ++ others) = order.noted moves ++ order.noted others := by
  cases order <;> simp [noted]

namespace Record

variable {arena : Arena} {order : RecordOrder} {record : Record} {id : NodeId}

/-- The record after some steps of a walk. Literals are counted on arrival, whatever the order. -/
def along (arena : Arena) (order : RecordOrder) (record : Record) (moves : List (Move NodeId)) :
    Record where
  seen := record.seen ++ (order.noted moves).toArray
  constants := record.constants + (arrivals moves).countP arena.isLiteral

theorem along_append (moves others : List (Move NodeId)) :
    along arena order (along arena order record moves) others =
      along arena order record (moves ++ others) := by
  simp [along, order.noted_append, Nat.add_assoc]

theorem enter_eq {kind : ExprKind} (found : arena.kinds[id.index]? = some kind) :
    (visitor arena order).enter id record = .ok (along arena order record [.enter id]) := by
  have literal : arena.isLiteral id = kind.isConstant := by simp [Arena.isLiteral, found]
  have read := Arena.kind_ok_iff.2 found
  cases order <;>
    simp [visitor, read, along, RecordOrder.noted, count, note, literal, List.countP_cons, bind,
      Except.bind, pure, Except.pure]

theorem leave_eq :
    (visitor arena order).leave id record = along arena order record [.leave id] := by
  cases order <;> simp [visitor, along, RecordOrder.noted, note]

theorem fold_moves {moves : List (Move NodeId)}
    (known : ∀ id ∈ arrivals moves, ∃ kind, arena.kinds[id.index]? = some kind)
    (record : Record) :
    moves.foldlM (visitor arena order).move record = .ok (along arena order record moves) := by
  induction moves generalizing record with
  | nil => cases order <;> simp [along, RecordOrder.noted, pure, Except.pure]
  | cons move moves induction =>
      rw [List.foldlM_cons]
      cases move with
      | enter id =>
          rw [OrderedTree.arrivals_enter, List.forall_mem_cons] at known
          obtain ⟨⟨kind, found⟩, later⟩ := known
          rw [Visitor.move, enter_eq found]
          change moves.foldlM _ (along arena order record [.enter id]) = _
          rw [induction later, along_append]
          rfl
      | leave id =>
          rw [Visitor.move, leave_eq]
          change moves.foldlM _ (along arena order record [.leave id]) = _
          rw [induction known, along_append]
          rfl

/-- A walk is done with the nodes that it gets to, so that in each order the literals among the
noted nodes are those that were counted. -/
theorem along_tour (tree : OrderedTree NodeId) (descends : NodeId → Bool) :
    along arena order {} (tree.tour descends) =
      arena.recordOf (order.noted (tree.tour descends)) := by
  have counted := (OrderedTree.departures_perm_arrivals descends tree).countP_eq arena.isLiteral
  cases order <;> simp [along, Arena.recordOf, RecordOrder.noted, counted]

end Record

namespace Arena

variable {arena : Arena} {depth : Nat} {id : NodeId} {rest others : List NodeId}
  {tree : OrderedTree NodeId}

theorem children_of_uses (used : arena.uses depth id = .ok tree) :
    arena.children id = .ok (tree.children.map OrderedTree.label) := by
  cases depth with
  | zero => simp [uses] at used
  | succ depth =>
      obtain ⟨children, trees, found, each, rfl⟩ := uses_succ_ok_iff.1 used
      have labels : List.Forall₂ Eq children (trees.map OrderedTree.label) := by
        rw [List.forall₂_map_right_iff]
        exact each.imp fun _ _ used => (uses_label used).symm
      rw [List.forall₂_eq_eq_eq] at labels
      rw [found, OrderedTree.children, labels]

theorem finishes_all {trees : List (OrderedTree NodeId)}
    (one : ∀ tree ∈ trees, ∀ rest others, arena.Finishes rest others →
      arena.Finishes (tree.label :: rest) (departures (tree.tour fun _ => true) ++ others)) :
    arena.Finishes (trees.map OrderedTree.label)
      (departures (OrderedTree.tourAll (fun _ => true) trees)) := by
  induction trees with
  | nil => exact .nothing
  | cons tree trees induction =>
      rw [List.forall_mem_cons] at one
      rw [OrderedTree.tourAll, OrderedTree.departures_append]
      exact one.1 _ _ (induction one.2)

theorem finishes_of_children
    (each : ∀ subtree ∈ tree.subtrees,
      arena.children subtree.label = .ok (subtree.children.map OrderedTree.label))
    (later : arena.Finishes rest others) :
    arena.Finishes (tree.label :: rest) (departures (tree.tour fun _ => true) ++ others) := by
  induction tree generalizing rest others with
  | node label children induction =>
      obtain ⟨own, below⟩ := OrderedTree.forall_subtrees_iff.1 each
      rw [OrderedTree.departures_node, if_pos rfl, List.append_assoc]
      apply Finishes.next own _ later
      apply finishes_all
      intro child member rest others later
      exact induction child member (below child member) later

end Arena

namespace Forest

variable {forest : Forest} {depth : Nat} {id item : NodeId} {rest kept : List NodeId}
  {tree : OrderedTree NodeId}

theorem kind_of_uses (used : forest.arena.uses depth id = .ok tree) :
    ∃ kind, forest.arena.kinds[id.index]? = some kind := by
  obtain ⟨kind, found, _⟩ := listable_of_children (Arena.children_of_uses used)
  exact ⟨kind, found⟩

theorem pruned_all {trees : List (OrderedTree NodeId)} {descends : NodeId → Bool}
    (one : ∀ tree ∈ trees, ∀ rest kept, forest.Pruned rest kept →
      forest.Pruned (tree.preorder ++ rest) (arrivals (tree.tour descends) ++ kept))
    (later : forest.Pruned rest kept) :
    forest.Pruned (OrderedTree.preorderAll trees ++ rest)
      (arrivals (OrderedTree.tourAll descends trees) ++ kept) := by
  induction trees with
  | nil => exact later
  | cons tree trees induction =>
      rw [List.forall_mem_cons] at one
      rw [OrderedTree.preorderAll, OrderedTree.tourAll, OrderedTree.arrivals_append,
        List.append_assoc, List.append_assoc]
      exact one.1 _ _ (induction one.2)

theorem descends_outside_lambdas {kind : ExprKind}
    (found : forest.arena.kinds[id.index]? = some kind) :
    (Record.visitor forest.arena .outsideLambdas).descends id = !kind.isLambda := by
  rw [Record.visitor]
  simp only [Arena.kind_ok_iff.2 found]

theorem pruned_of_listings
    (each : ∀ subtree ∈ tree.subtrees,
      (∃ kind, forest.arena.kinds[subtree.label.index]? = some kind) ∧
        (Tree.mk forest subtree.label).listing = .ok subtree.preorder.toArray)
    (later : forest.Pruned rest kept) :
    forest.Pruned (tree.preorder ++ rest)
      (arrivals (tree.tour (Record.visitor forest.arena .outsideLambdas).descends) ++ kept) := by
  induction tree generalizing rest kept with
  | node label children induction =>
      obtain ⟨⟨⟨kind, found⟩, block⟩, below⟩ := OrderedTree.forall_subtrees_iff.1 each
      rw [OrderedTree.label] at found block
      rw [OrderedTree.arrivals_node, descends_outside_lambdas found]
      cases isLambda : kind.isLambda with
      | true =>
          -- The tour turns back here, where the listing goes on with the block.
          exact .lambda found isLambda block later
      | false =>
          apply Pruned.plain found isLambda
          apply pruned_all _ later
          intro child member rest kept later
          exact induction child member (below child member) later

end Forest

namespace Tree

variable {tree : Tree} {uses : OrderedTree NodeId}

theorem record_of_uses (present : tree.root.isPresent)
    (used : tree.forest.arena.uses tree.depthBound tree.root = .ok uses) (order : RecordOrder) :
    tree.record order = .ok (tree.forest.arena.recordOf
      (order.noted (uses.tour (Record.visitor tree.forest.arena order).descends))) := by
  rw [record, walk_present _ _ present, Arena.visit_of_uses used, Record.fold_moves,
    Record.along_tour]
  intro id met
  have member := OrderedTree.mem_preorder_of_arrivals met
  rw [← OrderedTree.map_label_subtrees] at member
  obtain ⟨subtree, inside, rfl⟩ := List.mem_map.1 member
  exact Forest.kind_of_uses (Arena.uses_of_subtree used inside)

theorem record_absent (absent : ¬tree.root.isPresent) (order : RecordOrder) :
    tree.record order = .ok {} :=
  walk_absent absent _ _

/-- On a valid tree each recording walk succeeds. On arrival it records the listing. On leaving it
records the same nodes equally often, each one right after what it records of the node's children.
Outside lambdas it records the listing without what comes below the outermost lambdas. -/
theorem records_of_valid (valid : tree.validate = .ok ()) :
    ∃ ids after outside, tree.listing = .ok ids.toArray ∧
      tree.record .before = .ok (tree.forest.arena.recordOf ids) ∧
      (tree.record .after = .ok (tree.forest.arena.recordOf after) ∧ after.Perm ids ∧
        tree.forest.arena.Finishes tree.root.present?.toList after) ∧
      tree.record .outsideLambdas = .ok (tree.forest.arena.recordOf outside) ∧
        tree.forest.Pruned ids outside := by
  by_cases present : tree.root.isPresent
  · obtain ⟨ids, met⟩ := sequence_of_validate valid
    obtain ⟨uses, used, rfl⟩ := map_ok_iff.1 ((sequence_present present).symm.trans met)
    have recorded := record_of_uses present used
    refine ⟨_, _, _, listing_of_sequence met, ?before, ⟨recorded .after, ?perm, ?finishes⟩,
      recorded .outsideLambdas, ?pruned⟩
    case before =>
      rw [recorded, ← OrderedTree.arrivals_eq_preorder]
      rfl
    case perm =>
      rw [← OrderedTree.arrivals_eq_preorder]
      exact OrderedTree.departures_perm_arrivals _ uses
    case finishes =>
      have each : ∀ subtree ∈ uses.subtrees, tree.forest.arena.children subtree.label =
          .ok (subtree.children.map OrderedTree.label) := fun subtree inside =>
        Arena.children_of_uses (Arena.uses_of_subtree used inside)
      have finishes := Arena.finishes_of_children each .nothing
      rw [Arena.uses_label used, List.append_nil] at finishes
      rw [NodeId.present?, if_pos present]
      exact finishes
    case pruned =>
      have each : ∀ subtree ∈ uses.subtrees,
          (∃ kind, tree.forest.arena.kinds[subtree.label.index]? = some kind) ∧
            (tree.below subtree.label).listing = .ok subtree.preorder.toArray :=
        fun subtree inside => ⟨Forest.kind_of_uses (Arena.uses_of_subtree used inside),
          listing_of_sequence (sequence_below present used inside)⟩
      have pruned := Forest.pruned_of_listings each .nothing
      rw [List.append_nil, List.append_nil] at pruned
      exact pruned
  · refine ⟨[], [], [], listing_of_sequence (sequence_absent present), record_absent present _,
      ⟨record_absent present _, .nil, ?_⟩, record_absent present _, .nothing⟩
    rw [NodeId.present_eq_none present]
    exact .nothing

/-- A lambda applied to itself within the body of another one, which is given the first lambda as an
argument. The parameter is the same throughout. -/
def nestedLambdas : Tree where
  forest :=
    { arena :=
        { kinds :=
            #[.parameter ⟨0⟩, .lambda ⟨0⟩ ⟨0, 1⟩, .invoke ⟨1⟩ ⟨1, 1⟩, .lambda ⟨2⟩ ⟨0, 1⟩,
              .invoke ⟨3⟩ ⟨1, 2⟩]
          types := #[.int, .int, .int, .int, .int]
          childLists := ⟨#[⟨0⟩, ⟨1⟩, ⟨0⟩]⟩ } }
  root := ⟨4⟩

theorem records_of_valid_nested_lambdas :
    nestedLambdas.validate = .ok () ∧
      nestedLambdas.listing = .ok
        #[⟨4⟩, ⟨3⟩, ⟨2⟩, ⟨1⟩, ⟨0⟩, ⟨0⟩, ⟨1⟩, ⟨0⟩, ⟨0⟩, ⟨0⟩, ⟨1⟩, ⟨0⟩, ⟨0⟩, ⟨0⟩] ∧
      nestedLambdas.forest.arena.Finishes [⟨4⟩]
        [⟨0⟩, ⟨0⟩, ⟨1⟩, ⟨0⟩, ⟨0⟩, ⟨1⟩, ⟨2⟩, ⟨0⟩, ⟨3⟩, ⟨0⟩, ⟨0⟩, ⟨1⟩, ⟨0⟩, ⟨4⟩] ∧
      nestedLambdas.forest.Pruned
        [⟨4⟩, ⟨3⟩, ⟨2⟩, ⟨1⟩, ⟨0⟩, ⟨0⟩, ⟨1⟩, ⟨0⟩, ⟨0⟩, ⟨0⟩, ⟨1⟩, ⟨0⟩, ⟨0⟩, ⟨0⟩]
        [⟨4⟩, ⟨3⟩, ⟨1⟩, ⟨0⟩] := by
  have valid : nestedLambdas.validate = .ok () := by decide +kernel
  have listing : nestedLambdas.listing = .ok
      #[⟨4⟩, ⟨3⟩, ⟨2⟩, ⟨1⟩, ⟨0⟩, ⟨0⟩, ⟨1⟩, ⟨0⟩, ⟨0⟩, ⟨0⟩, ⟨1⟩, ⟨0⟩, ⟨0⟩, ⟨0⟩] := by
    decide +kernel
  have departed : (nestedLambdas.record .after).map Record.seen = .ok
      #[⟨0⟩, ⟨0⟩, ⟨1⟩, ⟨0⟩, ⟨0⟩, ⟨1⟩, ⟨2⟩, ⟨0⟩, ⟨3⟩, ⟨0⟩, ⟨0⟩, ⟨1⟩, ⟨0⟩, ⟨4⟩] := by
    decide +kernel
  have seen : (nestedLambdas.record .outsideLambdas).map Record.seen = .ok
      #[⟨4⟩, ⟨3⟩, ⟨1⟩, ⟨0⟩] := by
    decide +kernel
  obtain ⟨ids, after, outside, listed, _, ⟨recorded, _, finishes⟩, noted, pruned⟩ :=
    records_of_valid valid
  rw [listing, Except.ok.injEq] at listed
  rw [recorded, Except.map, Except.ok.injEq] at departed
  rw [noted, Except.map, Except.ok.injEq] at seen
  obtain rfl := congrArg Array.toList listed
  obtain rfl := congrArg Array.toList departed
  obtain rfl := congrArg Array.toList seen
  exact ⟨valid, listing, finishes, pruned⟩

end Tree

end ExprTree
