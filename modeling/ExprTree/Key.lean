import ExprTree.Trace

/-!
Trees as keys of a table. Two trees are one key if they are structurally equal; the hash of the key
says where in the table to look. `classify` enters trees one after the other, comparing each
only with keys of its hash.
-/

namespace ExprTree.Key

set_option autoImplicit false

def hash (tree : Tree) : Traced UInt64 := do
  return Digest.foldWrites [.word64 (← tree.hashTraced)]

structure Entry where
  hash : UInt64
  tree : Tree
  number : Nat

/-- The class of a tree, if the table has it. Keys of the hash are compared with the tree in the
order in which they came, with the key on the left, until one is equal. -/
def find? (tree : Tree) (hash : UInt64) : List Entry → Traced (Option Nat)
  | [] => return none
  | entry :: rest => do
      if entry.hash == hash then
        if ← entry.tree.isEqualTraced tree then return some entry.number
        else find? tree hash rest
      else find? tree hash rest

def enter (table : List Entry) : List Tree → Traced (List Nat)
  | [] => return []
  | tree :: rest => do
      let hash ← Key.hash tree
      match ← find? tree hash table with
      | some number => return number :: (← enter table rest)
      | none =>
          let number := table.length
          return number :: (← enter (table ++ [⟨hash, tree, number⟩]) rest)

/-- The classes of trees, numbered in the order in which they appear. -/
def classify (trees : List Tree) : Traced (List Nat) := enter [] trees

/-- Which trees equal which: a row for each tree, an entry for each that it is compared with. -/
def matrix (trees : List Tree) : Traced (List (List Bool)) :=
  trees.mapM fun left => trees.mapM fun right => left.isEqualTraced right

end ExprTree.Key
