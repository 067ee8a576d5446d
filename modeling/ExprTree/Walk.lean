import ExprTree.Children

/-!
Walks through a tree in depth-first order. A `Visitor` says what happens when a node is reached, and
what when its children are done. The walk keeps its open tasks in a list of its own, so that a
tree may be as deep as its arena is large; `run_enter` says that it does what the plain
recursion `visit` does.

A tree that has no node below itself is no deeper than its arena has nodes, plus one if the deepest
number is not a node at all. A walk that gets deeper has met a node below itself, and stops.
-/

namespace ExprTree

set_option autoImplicit false

structure Visitor (State Error : Type) where
  enter : NodeId → State → Except Error State
  /-- Whether the walk goes on to the children of a node. -/
  descends : NodeId → Bool := fun _ => true
  leave : NodeId → State → State := fun _ state => state
  /-- How a fault of the walk itself is reported. -/
  fault : Fault → Error

namespace Visitor

variable {State Error : Type}

inductive Task where
  /-- Walk the tree below a node, which may be so deep, the node included. -/
  | enter (depth : Nat) (id : NodeId)
  | leave (id : NodeId)

/-- More than any agenda one level deeper that a node can be replaced by. -/
def levelWeight : Nat → Nat
  | 0 => ChildField.mostChildren + 2
  | depth + 1 => (ChildField.mostChildren + 2) * levelWeight depth

def Task.weight : Task → Nat
  | .enter depth _ => levelWeight depth
  | .leave _ => 1

def agendaWeight : List Task → Nat
  | [] => 0
  | task :: rest => task.weight + agendaWeight rest

theorem one_lt_level_weight (depth : Nat) : 1 < levelWeight depth := by
  induction depth with
  | zero => simp [levelWeight]
  | succ depth induction =>
      have wider := Nat.mul_le_mul_left (ChildField.mostChildren + 2) (Nat.le_of_lt induction)
      simp only [levelWeight]
      omega

theorem agenda_weight_children (depth : Nat) (children : List NodeId) (rest : List Task) :
    agendaWeight (children.map (.enter depth) ++ rest) =
      children.length * levelWeight depth + agendaWeight rest := by
  induction children with
  | nil => simp
  | cons child children induction =>
      simp only [agendaWeight, List.map_cons, List.cons_append, Task.weight, List.length_cons,
        Nat.succ_mul] at induction ⊢
      omega

theorem agenda_weight_descend {depth : Nat} {id : NodeId} {children : List NodeId}
    (rest : List Task) (few : children.length ≤ ChildField.mostChildren) :
    agendaWeight (children.map (.enter depth) ++ .leave id :: rest) <
      agendaWeight (.enter (depth + 1) id :: rest) := by
  rw [agenda_weight_children]
  have large := one_lt_level_weight depth
  have fewer := Nat.mul_le_mul_right (levelWeight depth) few
  simp only [agendaWeight, Task.weight, levelWeight, Nat.add_mul]
  omega

theorem agenda_weight_leave (depth : Nat) (id : NodeId) (rest : List Task) :
    agendaWeight (.leave id :: rest) < agendaWeight (.enter depth id :: rest) := by
  have large := one_lt_level_weight depth
  simp only [agendaWeight, Task.weight]
  omega

def run (visitor : Visitor State Error) (arena : Arena) :
    List Task → State → Except Error State
  | [], state => .ok state
  | .leave id :: rest, state => visitor.run arena rest (visitor.leave id state)
  | .enter 0 _ :: _, _ => .error (visitor.fault .endless)
  | .enter (depth + 1) id :: rest, state =>
      match visitor.enter id state with
      | .error error => .error error
      | .ok state =>
          if visitor.descends id then
            match _found : arena.children id with
            | .error fault => .error (visitor.fault fault)
            | .ok children =>
                visitor.run arena (children.map (.enter depth) ++ .leave id :: rest) state
          else visitor.run arena (.leave id :: rest) state
termination_by agenda => agendaWeight agenda
decreasing_by
  · simp [agendaWeight, Task.weight]
  · exact agenda_weight_descend rest (Arena.children_length_le _found)
  · exact agenda_weight_leave (depth + 1) id rest

def visit (visitor : Visitor State Error) (arena : Arena) :
    Nat → NodeId → State → Except Error State
  | 0, _, _ => .error (visitor.fault .endless)
  | depth + 1, id, state => do
      let state ← visitor.enter id state
      if visitor.descends id then
        let children ← (arena.children id).mapError visitor.fault
        let state ←
          children.foldlM (fun state child => visitor.visit arena depth child state) state
        return visitor.leave id state
      else return visitor.leave id state

theorem run_enter (visitor : Visitor State Error) (arena : Arena) (depth : Nat) (id : NodeId)
    (rest : List Task) (state : State) :
    visitor.run arena (.enter depth id :: rest) state =
      (visitor.visit arena depth id state >>= visitor.run arena rest) := by
  induction depth generalizing id rest state with
  | zero => rw [run, visit]; rfl
  | succ depth induction =>
      have all (children : List NodeId) (rest : List Task) (state : State) :
          visitor.run arena (children.map (.enter depth) ++ rest) state =
            (children.foldlM (fun state child => visitor.visit arena depth child state) state >>=
              visitor.run arena rest) := by
        induction children generalizing state with
        | nil => rfl
        | cons child children continued =>
            rw [List.map_cons, List.cons_append, induction, List.foldlM_cons]
            cases visitor.visit arena depth child state with
            | error error => rfl
            | ok state => exact continued state
      rw [run, visit]
      cases visitor.enter id state with
      | error error => rfl
      | ok state =>
          by_cases descends : visitor.descends id
          · simp only [descends, if_true, bind, Except.bind]
            cases found : arena.children id with
            | error fault => rfl
            | ok children =>
                simp only [map_error_ok, all]
                cases children.foldlM
                    (fun state child => visitor.visit arena depth child state) state with
                | error error => rfl
                | ok state =>
                    change visitor.run arena (.leave id :: rest) state = _
                    rw [run]
                    rfl
          · simp only [descends, bind, Except.bind, pure, Except.pure]
            rw [if_neg (by simp), if_neg (by simp), run]

end Visitor

namespace Tree

variable {State Error : Type}

/-- How deep a tree of an arena can be if no node is below itself. -/
def depthBound (tree : Tree) : Nat := tree.forest.arena.size + 1

def walk (tree : Tree) (visitor : Visitor State Error) (state : State) : Except Error State :=
  match tree.root.present? with
  | none => .ok state
  | some root => visitor.run tree.forest.arena [.enter tree.depthBound root] state

theorem walk_present {tree : Tree} (visitor : Visitor State Error) (state : State)
    (present : tree.root.isPresent) :
    tree.walk visitor state =
      visitor.visit tree.forest.arena tree.depthBound tree.root state := by
  simp only [walk, NodeId.present?, present, if_true, Visitor.run_enter, bind, Except.bind]
  cases visitor.visit tree.forest.arena tree.depthBound tree.root state with
  | error error => rfl
  | ok state => simp [Visitor.run]

end Tree

end ExprTree
