import ExprTree.Children
import Mathlib.Logic.Relation

/-!
The order in which nodes are met, said without a bound on the depth: a walk has a list of nodes
ahead of it, and each node that it meets makes way for its children. Such walks have no choice, so
that of two walks from the same nodes one goes on where the other one stops. A search is a walk that
ends at the first node which fails.
-/

namespace ExprTree.Arena

set_option autoImplicit false

variable {arena : Arena} {ahead between left : List NodeId} {met more : List NodeId}

/-- With the first nodes ahead of it, a walk meets the second ones in pre-order, and then it has the
last ones ahead. -/
inductive Walks (arena : Arena) : List NodeId → List NodeId → List NodeId → Prop where
  | start (ahead : List NodeId) : Walks arena ahead [] ahead
  | step {id : NodeId} {children rest met left : List NodeId}
      (found : arena.children id = .ok children)
      (onward : Walks arena (children ++ rest) met left) :
      Walks arena (id :: rest) (id :: met) left

def Follows (arena : Arena) (parent child : NodeId) : Prop :=
  ∃ children, arena.children parent = .ok children ∧ child ∈ children

namespace Walks

theorem trans (first : arena.Walks ahead met between) (second : arena.Walks between more left) :
    arena.Walks ahead (met ++ more) left := by
  induction first with
  | start => exact second
  | step found _ induction => exact .step found (induction second)

/-- What stands behind the nodes ahead does not matter until these are done. -/
theorem beside (walked : arena.Walks ahead met left) (rest : List NodeId) :
    arena.Walks (ahead ++ rest) met (left ++ rest) := by
  induction walked with
  | start => exact .start _
  | step found _ induction =>
      rw [List.append_assoc] at induction
      exact .step found induction

theorem linear (first : arena.Walks ahead met between) (second : arena.Walks ahead more left) :
    (∃ rest, more = met ++ rest ∧ arena.Walks between rest left) ∨
      ∃ rest, met = more ++ rest ∧ arena.Walks left rest between := by
  induction first generalizing more left with
  | start => exact .inl ⟨more, rfl, second⟩
  | step found onward induction =>
      cases second with
      | start => exact .inr ⟨_, rfl, .step found onward⟩
      | step otherFound otherOnward =>
          -- Both walks meet the same first node, and so have the same children ahead.
          rw [found] at otherFound
          cases otherFound
          rcases induction otherOnward with ⟨rest, rfl, later⟩ | ⟨rest, rfl, later⟩
          · exact .inl ⟨rest, rfl, later⟩
          · exact .inr ⟨rest, rfl, later⟩

theorem head {id : NodeId} {later : List NodeId} (walked : arena.Walks (id :: later) met left) :
    met = [] ∧ left = id :: later ∨ id ∈ met := by
  cases walked with
  | start => exact .inl ⟨rfl, rfl⟩
  | step => exact .inr (by simp)

theorem covers (walked : arena.Walks ahead met left) : ∀ id ∈ ahead, id ∈ met ∨ id ∈ left := by
  induction walked with
  | start => exact fun id member => .inr member
  | step found _ induction =>
      intro id member
      rcases List.mem_cons.1 member with rfl | later
      · exact .inl (by simp)
      · rcases induction id (List.mem_append_right _ later) with met | left
        · exact .inl (by simp [met])
        · exact .inr left

theorem closed (walked : arena.Walks ahead met left) :
    ∀ id ∈ met, ∃ children, arena.children id = .ok children ∧
      ∀ child ∈ children, child ∈ met ∨ child ∈ left := by
  induction walked with
  | start => simp
  | @step parent children rest met left found onward induction =>
      intro id member
      rcases List.mem_cons.1 member with rfl | later
      · refine ⟨children, found, fun child below => ?_⟩
        rcases onward.covers child (List.mem_append_left _ below) with met | left
        · exact .inl (by simp [met])
        · exact .inr left
      · obtain ⟨others, otherFound, covered⟩ := induction id later
        refine ⟨others, otherFound, fun child below => ?_⟩
        rcases covered child below with met | left
        · exact .inl (by simp [met])
        · exact .inr left

theorem follows (walked : arena.Walks ahead met left) :
    ∀ id ∈ left, ∃ start ∈ ahead, Relation.ReflTransGen arena.Follows start id := by
  induction walked with
  | start => exact fun id member => ⟨id, member, .refl⟩
  | @step parent children rest met left found _ induction =>
      intro id member
      obtain ⟨start, place, reached⟩ := induction id member
      rcases List.mem_append.1 place with child | later
      · exact ⟨parent, by simp, .head ⟨children, found, child⟩ reached⟩
      · exact ⟨start, by simp [later], reached⟩

end Walks

variable {State Error : Type} {passes : NodeId → Prop} {fails : NodeId → Error → Prop}

/-- What a search through the nodes ahead and all below them comes to: it meets nodes that pass
until there are none left, or until one fails. -/
inductive Search (arena : Arena) (passes : NodeId → Prop) (fails : NodeId → Error → Prop)
    (ahead : List NodeId) : Except Error State → Prop where
  | clean {met : List NodeId} {state : State} (walked : arena.Walks ahead met [])
      (passed : ∀ id ∈ met, passes id) : Search arena passes fails ahead (.ok state)
  | stopped {before later : List NodeId} {id : NodeId} {error : Error}
      (walked : arena.Walks ahead before (id :: later))
      (passed : ∀ earlier ∈ before, passes earlier) (failed : fails id error) :
      Search arena passes fails ahead (.error error)

namespace Search

variable {first second : List NodeId} {result : Except Error State}

theorem nothing (state : State) :
    arena.Search passes fails [] (.ok state : Except Error State) :=
  .clean (.start []) (by simp)

theorem failing {id : NodeId} {error : Error} (failed : fails id error) :
    arena.Search passes fails [id] (.error error : Except Error State) :=
  .stopped (.start [id]) (by simp) failed

theorem below {id : NodeId} {children : List NodeId} (passed : passes id)
    (found : arena.children id = .ok children)
    (search : arena.Search passes fails children result) :
    arena.Search passes fails [id] result := by
  rw [← List.append_nil children] at search
  cases search with
  | clean walked others =>
      exact .clean (.step found walked) (List.forall_mem_cons.2 ⟨passed, others⟩)
  | stopped walked others failed =>
      exact .stopped (.step found walked) (List.forall_mem_cons.2 ⟨passed, others⟩) failed

theorem append {next : State → Except Error State} (search : arena.Search passes fails first result)
    (continued : ∀ state, arena.Search passes fails second (next state)) :
    arena.Search passes fails (first ++ second) (result >>= next) := by
  cases search with
  | stopped walked passed failed => exact .stopped (walked.beside second) passed failed
  | @clean met state walked passed =>
      have before := walked.beside second
      change arena.Search passes fails (first ++ second) (next state)
      cases answered : next state with
      | ok last =>
          have search := continued state
          rw [answered] at search
          cases search with
          | clean further others =>
              exact .clean (before.trans further) (List.forall_mem_append.2 ⟨passed, others⟩)
      | error error =>
          have search := continued state
          rw [answered] at search
          cases search with
          | stopped further others failed =>
              exact .stopped (before.trans further) (List.forall_mem_append.2 ⟨passed, others⟩)
                failed

theorem each {search : NodeId → State → Except Error State} {ids : List NodeId}
    (single : ∀ id ∈ ids, ∀ state, arena.Search passes fails [id] (search id state))
    (state : State) :
    arena.Search passes fails ids (ids.foldlM (fun state id => search id state) state) := by
  induction ids generalizing state with
  | nil => exact nothing state
  | cons id ids induction =>
      rw [List.forall_mem_cons] at single
      rw [List.foldlM_cons]
      exact (single.1 state).append (induction single.2)

/-- Of two nodes that end a search, where one walk goes on from the other, the errors are the same:
a node that the second walk has met would have passed. -/
theorem stopped_once {id other : NodeId} {later others before : List NodeId}
    {error otherError : Error}
    (exclusive : ∀ id error, passes id → ¬fails id error)
    (single : ∀ id error other, fails id error → fails id other → error = other)
    (walked : arena.Walks (id :: later) before (other :: others))
    (passed : ∀ earlier ∈ before, passes earlier) (failed : fails id error)
    (otherFailed : fails other otherError) : error = otherError := by
  rcases walked.head with ⟨_, same⟩ | member
  · cases same
    exact single id error otherError failed otherFailed
  · exact absurd failed (exclusive id error (passed id member))

/-- A node that fails is not behind a search in which all nodes pass. -/
theorem clean_excludes {id : NodeId} {before later all : List NodeId} {error : Error}
    (exclusive : ∀ id error, passes id → ¬fails id error) (walked : arena.Walks ahead all [])
    (passed : ∀ id ∈ all, passes id) (stopped : arena.Walks ahead before (id :: later))
    (failed : fails id error) : False := by
  rcases walked.linear stopped with ⟨rest, _, onward⟩ | ⟨rest, rfl, onward⟩
  · cases onward
  · have met : id ∈ rest := by simpa using onward.head
    exact exclusive id error (passed id (by simp [met])) failed

theorem unique {result other : Except Error Unit}
    (exclusive : ∀ id error, passes id → ¬fails id error)
    (single : ∀ id error other, fails id error → fails id other → error = other)
    (search : arena.Search passes fails ahead result)
    (otherSearch : arena.Search passes fails ahead other) : result = other := by
  cases search with
  | clean walked passed =>
      cases otherSearch with
      | clean => rfl
      | stopped stopped _ failed =>
          exact (clean_excludes exclusive walked passed stopped failed).elim
  | stopped stopped before failed =>
      cases otherSearch with
      | clean walked passed => exact (clean_excludes exclusive walked passed stopped failed).elim
      | stopped otherStopped otherBefore otherFailed =>
          apply congrArg
          rcases stopped.linear otherStopped with ⟨rest, rfl, onward⟩ | ⟨rest, rfl, onward⟩
          · exact stopped_once exclusive single onward (List.forall_mem_append.1 otherBefore).2
              failed otherFailed
          · exact (stopped_once exclusive single onward (List.forall_mem_append.1 before).2
              otherFailed failed).symm

end Search

end ExprTree.Arena
