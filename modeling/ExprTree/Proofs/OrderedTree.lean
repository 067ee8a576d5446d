import Mathlib.Data.List.Forall2

/-!
Finite trees with ordered children, and their pre-order listings, in which each subtree has a block
of its own. A listing alone does not tell how the nodes are nested; a spelling, which gives each node
the number of its children, does: no spelling goes on as the spelling of another tree.
-/

namespace ExprTree

set_option autoImplicit false

inductive OrderedTree (α : Type) where
  | node (label : α) (children : List (OrderedTree α))

namespace OrderedTree

variable {α β : Type}

@[elab_as_elim, induction_eliminator]
theorem induction {motive : OrderedTree α → Prop}
    (node : ∀ label children, (∀ child ∈ children, motive child) → motive (.node label children))
    (tree : OrderedTree α) : motive tree :=
  @OrderedTree.rec α motive (fun children => ∀ child ∈ children, motive child) node
    (by simp) (fun _ _ head tail => by simpa using ⟨head, tail⟩) tree

def label : OrderedTree α → α
  | .node label _ => label

def children : OrderedTree α → List (OrderedTree α)
  | .node _ children => children

mutual

def preorder : OrderedTree α → List α
  | .node label children => label :: preorderAll children

def preorderAll : List (OrderedTree α) → List α
  | [] => []
  | tree :: rest => tree.preorder ++ preorderAll rest

end

mutual

/-- The labels in pre-order, each with the number of its children. -/
def spelling : OrderedTree α → List (α × Nat)
  | .node label children => (label, children.length) :: spellingAll children

def spellingAll : List (OrderedTree α) → List (α × Nat)
  | [] => []
  | tree :: rest => tree.spelling ++ spellingAll rest

end

mutual

/-- The subtrees below all nodes, the tree itself included, in the pre-order of the nodes. -/
def subtrees : OrderedTree α → List (OrderedTree α)
  | .node label children => .node label children :: subtreesAll children

def subtreesAll : List (OrderedTree α) → List (OrderedTree α)
  | [] => []
  | tree :: rest => tree.subtrees ++ subtreesAll rest

end

theorem preorder_all_eq (trees : List (OrderedTree α)) :
    preorderAll trees = trees.flatMap preorder := by
  induction trees with
  | nil => rfl
  | cons tree trees induction => simp [preorderAll, induction]

theorem mem_preorder_node {label item : α} {children : List (OrderedTree α)} :
    item ∈ (node label children).preorder ↔
      item = label ∨ ∃ child ∈ children, item ∈ child.preorder := by
  simp [preorder, preorder_all_eq]

theorem subtrees_all_eq (trees : List (OrderedTree α)) :
    subtreesAll trees = trees.flatMap subtrees := by
  induction trees with
  | nil => rfl
  | cons tree trees induction => simp [subtreesAll, induction]

theorem forall_subtrees_iff {holds : OrderedTree α → Prop} {label : α}
    {children : List (OrderedTree α)} :
    (∀ subtree ∈ (node label children).subtrees, holds subtree) ↔
      holds (node label children) ∧
        ∀ child ∈ children, ∀ subtree ∈ child.subtrees, holds subtree := by
  rw [subtrees, subtrees_all_eq, List.forall_mem_cons, List.forall_mem_flatMap]

theorem map_label_subtrees (tree : OrderedTree α) : tree.subtrees.map label = tree.preorder := by
  induction tree with
  | node label children induction =>
      simp only [subtrees, preorder, subtrees_all_eq, preorder_all_eq, List.map_cons,
        List.map_flatMap]
      rw [List.flatMap_congr induction]
      rfl

theorem length_subtrees (tree : OrderedTree α) : tree.subtrees.length = tree.preorder.length := by
  rw [← map_label_subtrees, List.length_map]

theorem block_all_at {trees : List (OrderedTree α)} {subtree : OrderedTree α} {position : Nat}
    (each : ∀ tree ∈ trees, ∀ position, tree.subtrees[position]? = some subtree →
      subtree.preorder <+: tree.preorder.drop position)
    (stands : (subtreesAll trees)[position]? = some subtree) :
    subtree.preorder <+: (preorderAll trees).drop position := by
  induction trees generalizing position with
  | nil => simp [subtreesAll] at stands
  | cons tree trees induction =>
      rw [List.forall_mem_cons] at each
      rw [subtreesAll] at stands
      rw [preorderAll]
      by_cases inside : position < tree.subtrees.length
      · rw [List.getElem?_append_left inside] at stands
        rw [length_subtrees] at inside
        rw [List.drop_append_of_le_length (Nat.le_of_lt inside)]
        exact (each.1 position stands).trans (List.prefix_append _ _)
      · have behind := Nat.le_of_not_lt inside
        rw [List.getElem?_append_right behind] at stands
        rw [length_subtrees] at stands behind
        rw [List.drop_append, List.drop_eq_nil_of_le behind, List.nil_append]
        exact induction each.2 stands

/-- Where a node stands in the listing of a tree, the listing of its subtree starts. -/
theorem block_at {tree subtree : OrderedTree α} {position : Nat}
    (stands : tree.subtrees[position]? = some subtree) :
    subtree.preorder <+: tree.preorder.drop position := by
  induction tree generalizing position with
  | node label children induction =>
      cases position with
      | zero =>
          cases stands
          exact List.prefix_refl _
      | succ position =>
          rw [preorder, List.drop_succ_cons]
          exact block_all_at (fun child member _ => induction child member) stands

theorem prefix_or_prefix {lefts rights : List α}
    (agree : ∀ (position : Nat) left right, lefts[position]? = some left →
      rights[position]? = some right → left = right) : lefts <+: rights ∨ rights <+: lefts := by
  induction lefts generalizing rights with
  | nil => exact .inl (List.nil_prefix)
  | cons left lefts induction =>
      cases rights with
      | nil => exact .inr (List.nil_prefix)
      | cons right rights =>
          have heads : left = right := agree 0 left right rfl rfl
          have tails := induction fun position => agree (position + 1)
          rw [heads, List.prefix_cons_inj, List.prefix_cons_inj]
          exact tails

/-- A list of trees whose spellings can be told from what follows can so be told itself, once its
length is known. -/
theorem spelling_all_append_inj {lefts rights : List (OrderedTree α)}
    {leftRest rightRest : List (α × Nat)}
    (each : ∀ left ∈ lefts, ∀ right leftRest rightRest,
      left.spelling ++ leftRest = right.spelling ++ rightRest →
        left = right ∧ leftRest = rightRest)
    (length : lefts.length = rights.length)
    (same : spellingAll lefts ++ leftRest = spellingAll rights ++ rightRest) :
    lefts = rights ∧ leftRest = rightRest := by
  induction lefts generalizing rights with
  | nil =>
      cases rights with
      | nil => exact ⟨rfl, by simpa [spellingAll] using same⟩
      | cons right rights => simp at length
  | cons left lefts induction =>
      cases rights with
      | nil => simp at length
      | cons right rights =>
          simp only [spellingAll, List.append_assoc] at same
          obtain ⟨rfl, following⟩ := each left (by simp) right _ _ same
          obtain ⟨rfl, rest⟩ := induction (fun left member => each left (by simp [member]))
            (by simpa using length) following
          exact ⟨rfl, rest⟩

/-- How a spelling starts determines the tree, and where its spelling ends. -/
theorem spelling_append_inj {left right : OrderedTree α} {leftRest rightRest : List (α × Nat)}
    (same : left.spelling ++ leftRest = right.spelling ++ rightRest) :
    left = right ∧ leftRest = rightRest := by
  induction left generalizing right leftRest rightRest with
  | node label children induction =>
      cases right with
      | node other others =>
          simp only [spelling, List.cons_append, List.cons.injEq, Prod.mk.injEq] at same
          obtain ⟨⟨rfl, length⟩, below⟩ := same
          have childwise := spelling_all_append_inj
            (fun child member _ _ _ same => induction child member same) length below
          exact ⟨by rw [childwise.1], childwise.2⟩

theorem spelling_start_inj {left right : OrderedTree α} {entries : List (α × Nat)}
    (leftStarts : left.spelling <+: entries) (rightStarts : right.spelling <+: entries) :
    left = right := by
  obtain ⟨leftRest, leftSplit⟩ := leftStarts
  obtain ⟨rightRest, rightSplit⟩ := rightStarts
  exact (spelling_append_inj (leftSplit.trans rightSplit.symm)).1

theorem spelling_prefix_inj {left right : OrderedTree α}
    (starts : left.spelling <+: right.spelling) : left = right :=
  spelling_start_inj starts (List.prefix_refl _)

theorem spelling_agree_inj {left right : OrderedTree α}
    (agree : ∀ (position : Nat) leftEntry rightEntry, left.spelling[position]? = some leftEntry →
      right.spelling[position]? = some rightEntry → leftEntry = rightEntry) : left = right := by
  rcases prefix_or_prefix agree with shorter | longer
  · exact spelling_prefix_inj shorter
  · exact (spelling_prefix_inj longer).symm

theorem spelling_injective {left right : OrderedTree α} (same : left.spelling = right.spelling) :
    left = right :=
  spelling_prefix_inj (same ▸ List.prefix_refl _)

end OrderedTree

end ExprTree
