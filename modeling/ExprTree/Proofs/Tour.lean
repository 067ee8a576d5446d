import ExprTree.Proofs.OrderedTree
import Mathlib.Data.List.Perm.Basic

/-!
Walks around ordered trees, as lists of steps: getting to a node, and being done with it. A walk may
leave out what is below some nodes. The order in which a walk that leaves out nothing gets to the
nodes is the pre-order, and every walk is done with the nodes that it gets to.
-/

namespace ExprTree.OrderedTree

set_option autoImplicit false

variable {α : Type}

inductive Move (α : Type) where
  | enter (label : α)
  /-- What is below the node is done. -/
  | leave (label : α)

namespace Move

def entered? : Move α → Option α
  | .enter label => some label
  | .leave _ => none

def left? : Move α → Option α
  | .enter _ => none
  | .leave label => some label

end Move

mutual

/-- The steps around a tree, for a walk that leaves out what is below some nodes. -/
def tour (descends : α → Bool) : OrderedTree α → List (Move α)
  | .node label children =>
      .enter label ::
        ((if descends label then tourAll descends children else []) ++ [.leave label])

def tourAll (descends : α → Bool) : List (OrderedTree α) → List (Move α)
  | [] => []
  | tree :: rest => tree.tour descends ++ tourAll descends rest

end

def arrivals (moves : List (Move α)) : List α := moves.filterMap Move.entered?

def departures (moves : List (Move α)) : List α := moves.filterMap Move.left?

@[simp]
theorem arrivals_nil : arrivals ([] : List (Move α)) = [] := rfl

@[simp]
theorem departures_nil : departures ([] : List (Move α)) = [] := rfl

@[simp]
theorem arrivals_enter (label : α) (moves : List (Move α)) :
    arrivals (.enter label :: moves) = label :: arrivals moves := rfl

@[simp]
theorem arrivals_leave (label : α) (moves : List (Move α)) :
    arrivals (.leave label :: moves) = arrivals moves := rfl

@[simp]
theorem departures_enter (label : α) (moves : List (Move α)) :
    departures (.enter label :: moves) = departures moves := rfl

@[simp]
theorem departures_leave (label : α) (moves : List (Move α)) :
    departures (.leave label :: moves) = label :: departures moves := rfl

@[simp]
theorem arrivals_append (moves others : List (Move α)) :
    arrivals (moves ++ others) = arrivals moves ++ arrivals others :=
  List.filterMap_append

@[simp]
theorem departures_append (moves others : List (Move α)) :
    departures (moves ++ others) = departures moves ++ departures others :=
  List.filterMap_append

theorem tour_all_eq (descends : α → Bool) (trees : List (OrderedTree α)) :
    tourAll descends trees = trees.flatMap (tour descends) := by
  induction trees with
  | nil => rfl
  | cons tree trees induction => simp [tourAll, induction]

theorem arrivals_all_eq (descends : α → Bool) (trees : List (OrderedTree α)) :
    arrivals (tourAll descends trees) = trees.flatMap fun tree => arrivals (tree.tour descends) := by
  rw [tour_all_eq, arrivals, List.filterMap_flatMap]
  rfl

theorem departures_all_eq (descends : α → Bool) (trees : List (OrderedTree α)) :
    departures (tourAll descends trees) =
      trees.flatMap fun tree => departures (tree.tour descends) := by
  rw [tour_all_eq, departures, List.filterMap_flatMap]
  rfl

theorem arrivals_node (descends : α → Bool) (label : α) (children : List (OrderedTree α)) :
    arrivals ((node label children).tour descends) =
      label :: if descends label then arrivals (tourAll descends children) else [] := by
  by_cases further : descends label <;> simp [tour, further]

theorem departures_node (descends : α → Bool) (label : α) (children : List (OrderedTree α)) :
    departures ((node label children).tour descends) =
      (if descends label then departures (tourAll descends children) else []) ++ [label] := by
  by_cases further : descends label <;> simp [tour, further]

theorem arrivals_eq_preorder (tree : OrderedTree α) :
    arrivals (tree.tour fun _ => true) = tree.preorder := by
  induction tree with
  | node label children induction =>
      rw [arrivals_node, if_pos rfl, arrivals_all_eq, List.flatMap_congr induction, preorder,
        preorder_all_eq]

theorem mem_preorder_of_arrivals {descends : α → Bool} {tree : OrderedTree α} {item : α}
    (met : item ∈ arrivals (tree.tour descends)) : item ∈ tree.preorder := by
  induction tree with
  | node label children induction =>
      rw [arrivals_node] at met
      apply mem_preorder_node.2
      rcases List.mem_cons.1 met with same | below
      · exact .inl same
      · by_cases further : descends label
        · rw [if_pos further, arrivals_all_eq] at below
          obtain ⟨child, member, inside⟩ := List.mem_flatMap.1 below
          exact .inr ⟨child, member, induction child member inside⟩
        · simp [further] at below

/-- A walk is done with each node as often as it gets to it. -/
theorem departures_perm_arrivals (descends : α → Bool) (tree : OrderedTree α) :
    (departures (tree.tour descends)).Perm (arrivals (tree.tour descends)) := by
  induction tree with
  | node label children induction =>
      rw [departures_node, arrivals_node]
      refine (List.perm_append_singleton _ _).trans (.cons label ?_)
      by_cases further : descends label
      · rw [if_pos further, if_pos further, departures_all_eq, arrivals_all_eq]
        exact .flatMap_left children induction
      · simp [further]

end ExprTree.OrderedTree
