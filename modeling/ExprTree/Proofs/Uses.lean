import ExprTree.Listing
import ExprTree.Proofs.NodeChecks
import ExprTree.Proofs.Tour

/-!
The tree of uses below a node: a node that is shared stands in it once for each way to it. Where it
is finite, every walk is a fold over its steps around this tree, and one that goes everywhere and
does nothing on leaving is a fold over the pre-order, so that what is shown of the fold along one
list holds of the recursion. Below a node that only reaches sound nodes it is finite, no deeper than
the number of the node, and made of what the node reaches.
-/

namespace ExprTree

set_option autoImplicit false

variable {State Error : Type}

def Visitor.move (visitor : Visitor State Error) (state : State) :
    OrderedTree.Move NodeId → Except Error State
  | .enter id => visitor.enter id state
  | .leave id => .ok (visitor.leave id state)

theorem Visitor.fold_arrivals (enter : NodeId → State → Except Error State) (fault : Fault → Error)
    (moves : List (OrderedTree.Move NodeId)) (state : State) :
    moves.foldlM (Visitor.move { enter := enter, fault := fault }) state =
      (OrderedTree.arrivals moves).foldlM (fun state id => enter id state) state := by
  induction moves generalizing state with
  | nil => rfl
  | cons move moves induction =>
      cases move with
      | enter id =>
          rw [List.foldlM_cons, OrderedTree.arrivals_enter, List.foldlM_cons, Visitor.move]
          congr 1
          funext state
          exact induction state
      | leave id => exact induction state

/-- The uses of nodes below a node, the node included, if they are not more than `depth` deep. -/
def Arena.uses (arena : Arena) : Nat → NodeId → Except Fault (OrderedTree NodeId)
  | 0, _ => .error .endless
  | depth + 1, id => do
      let children ← arena.children id
      return .node id (← children.mapM (arena.uses depth))

/-- The nodes of a tree in the order in which a walk that goes everywhere meets them. -/
def Tree.sequence (tree : Tree) : Except Fault (List NodeId) :=
  if tree.isAbsent then .ok []
  else (tree.forest.arena.uses tree.depthBound tree.root).map OrderedTree.preorder

namespace Arena

theorem uses_succ_ok_iff {arena : Arena} {depth : Nat} {id : NodeId} {tree : OrderedTree NodeId} :
    arena.uses (depth + 1) id = .ok tree ↔
      ∃ children trees, arena.children id = .ok children ∧
        List.Forall₂ (fun child tree => arena.uses depth child = .ok tree) children trees ∧
        tree = .node id trees := by
  rw [uses, bind_ok_iff]
  constructor
  · intro ⟨children, found, used⟩
    obtain ⟨trees, mapped, same⟩ := bind_ok_iff.1 used
    cases same
    exact ⟨children, trees, found, map_m_ok_iff.1 mapped, rfl⟩
  · intro ⟨children, trees, found, used, same⟩
    rw [same]
    exact ⟨children, found, bind_ok_iff.2 ⟨trees, map_m_ok_iff.2 used, rfl⟩⟩

theorem uses_label {arena : Arena} {depth : Nat} {id : NodeId} {tree : OrderedTree NodeId}
    (used : arena.uses depth id = .ok tree) : tree.label = id := by
  cases depth with
  | zero => simp [uses] at used
  | succ depth =>
      obtain ⟨children, trees, _, _, rfl⟩ := uses_succ_ok_iff.1 used
      rfl

/-- Every walk is a fold over its steps around the tree of uses. -/
theorem visit_of_uses {arena : Arena} {depth : Nat} {id : NodeId} {tree : OrderedTree NodeId}
    (used : arena.uses depth id = .ok tree) (visitor : Visitor State Error) (state : State) :
    visitor.visit arena depth id state =
      (tree.tour visitor.descends).foldlM visitor.move state := by
  induction depth generalizing id tree state with
  | zero => simp [uses] at used
  | succ depth induction =>
      obtain ⟨children, trees, found, each, rfl⟩ := uses_succ_ok_iff.1 used
      -- Visits to the children, one after the other, as their tours are joined.
      have all (state : State) :
          children.foldlM (fun state child => visitor.visit arena depth child state) state =
            (OrderedTree.tourAll visitor.descends trees).foldlM visitor.move state := by
        clear used found
        induction each generalizing state with
        | nil => rfl
        | cons head tail continued =>
            rw [List.foldlM_cons, OrderedTree.tourAll, List.foldlM_append, induction head]
            congr 1
            funext state
            exact continued state
      rw [Visitor.visit, OrderedTree.tour, List.foldlM_cons, Visitor.move]
      congr 1
      funext state
      by_cases further : visitor.descends id
      · rw [if_pos further, if_pos further, found, List.foldlM_append, ← all]
        simp [map_error_ok, Visitor.move, bind, Except.bind, pure, Except.pure]
      · rw [if_neg further, if_neg further]
        rfl

/-- Below a node that only reaches sound nodes, each level has smaller numbers than the one above. -/
theorem uses_of_sound {forest : Forest} {depth : Nat} {id : NodeId}
    (sound : ∀ below, forest.arena.Reaches id below → forest.Sound below)
    (deep : id.index < depth) :
    ∃ tree, forest.arena.uses depth id = .ok tree ∧
      ∀ item ∈ tree.preorder, forest.arena.Reaches id item := by
  induction depth generalizing id with
  | zero => omega
  | succ depth induction =>
      obtain ⟨kind, found, own⟩ := sound id .refl
      have below (child : NodeId) (member : child ∈ forest.arena.offspring kind) :
          ∃ tree, forest.arena.uses depth child = .ok tree ∧
            ∀ item ∈ tree.preorder, forest.arena.Reaches id item := by
        have step : forest.arena.ChildOf id child := ⟨kind, found, member⟩
        have older := (own.childrenPrecede child member).2
        obtain ⟨tree, used, reached⟩ := induction
          (fun item reached => sound item (.head step reached)) (by omega)
        exact ⟨tree, used, fun item inside => .head step (reached item inside)⟩
      obtain ⟨trees, used⟩ := map_m_total fun child member =>
        (below child member).imp fun _ facts => facts.1
      have each := map_m_ok_iff.1 used
      refine ⟨.node id trees, uses_succ_ok_iff.2 ⟨_, trees, own.children found, each, rfl⟩, ?_⟩
      intro item inside
      rcases OrderedTree.mem_preorder_node.1 inside with rfl | ⟨tree, member, inside⟩
      · exact .refl
      · obtain ⟨child, offspring, usedChild⟩ := exists_left_of_mem each member
        obtain ⟨other, usedOther, reached⟩ := below child offspring
        rw [usedChild] at usedOther
        cases usedOther
        exact reached item inside

end Arena

namespace Tree

theorem sequence_present {tree : Tree} (present : tree.root.isPresent) :
    tree.sequence =
      (tree.forest.arena.uses tree.depthBound tree.root).map OrderedTree.preorder := by
  rw [sequence, if_neg (by simp [isAbsent, present])]

theorem sequence_absent {tree : Tree} (absent : ¬tree.root.isPresent) :
    tree.sequence = .ok [] := by
  rw [sequence, if_pos (by simp [isAbsent, absent])]

theorem sequence_head {tree : Tree} {ids : List NodeId} (present : tree.root.isPresent)
    (met : tree.sequence = .ok ids) : ∃ rest, ids = tree.root :: rest := by
  rw [sequence_present present] at met
  obtain ⟨uses, used, rfl⟩ := map_ok_iff.1 met
  rw [← Arena.uses_label used]
  cases uses with
  | node label children => exact ⟨OrderedTree.preorderAll children, rfl⟩

theorem sequence_of_sound {tree : Tree} (present : tree.root.isPresent)
    (inside : tree.root.index < tree.forest.arena.size)
    (sound : ∀ below, tree.forest.arena.Reaches tree.root below → tree.forest.Sound below) :
    ∃ ids, tree.sequence = .ok ids ∧ ∀ id ∈ ids, tree.forest.arena.Reaches tree.root id := by
  have deep : tree.root.index < tree.depthBound := by
    rw [depthBound]
    omega
  obtain ⟨uses, used, reached⟩ := Arena.uses_of_sound sound deep
  rw [sequence_present present, used]
  exact ⟨uses.preorder, rfl, reached⟩

theorem walk_absent {tree : Tree} (absent : ¬tree.root.isPresent) (visitor : Visitor State Error)
    (state : State) : tree.walk visitor state = .ok state := by
  rw [walk, NodeId.present_eq_none absent]

theorem walk_of_sequence {tree : Tree} {ids : List NodeId} (met : tree.sequence = .ok ids)
    (enter : NodeId → State → Except Error State) (fault : Fault → Error) (state : State) :
    tree.walk { enter := enter, fault := fault } state =
      ids.foldlM (fun state id => enter id state) state := by
  by_cases present : tree.root.isPresent
  · rw [sequence_present present] at met
    obtain ⟨uses, used, rfl⟩ := map_ok_iff.1 met
    rw [walk_present _ _ present]
    rw [Arena.visit_of_uses used, Visitor.fold_arrivals, OrderedTree.arrivals_eq_preorder]
  · rw [sequence_absent present] at met
    cases met
    exact walk_absent present _ state

theorem listing_of_sequence {tree : Tree} {ids : List NodeId} (met : tree.sequence = .ok ids) :
    tree.listing = .ok ids.toArray := by
  have pushed (items : List NodeId) (listing : Array NodeId) :
      items.foldlM (fun listing id => (.ok (listing.push id) : Except Fault (Array NodeId)))
        listing = .ok (listing ++ items.toArray) := by
    induction items generalizing listing with
    | nil => simp [pure, Except.pure]
    | cons item items induction =>
        rw [List.foldlM_cons]
        change items.foldlM _ (listing.push item) = _
        rw [induction]
        simp
  rw [listing, walk_of_sequence met, pushed]
  simp

end Tree

end ExprTree
