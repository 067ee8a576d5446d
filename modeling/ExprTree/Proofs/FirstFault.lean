import ExprTree.Proofs.Hashing
import ExprTree.Proofs.Lookups
import Mathlib.Data.List.Nodup
import Mathlib.Data.List.Perm.Subperm

/-!
Listing and hashing, of any tree that has no node below itself, well formed or not. They answer
exactly if all that they look up is there; otherwise they end with the first look-up, in pre-order
and then in the order of one node, that finds nothing. The way down to a node cannot be longer than
the arena has nodes, so the bound on the depth of a walk has no part in this.
-/

namespace ExprTree

set_option autoImplicit false

theorem NodeId.index_inj {left right : NodeId} (same : left.index = right.index) :
    left = right := by
  cases left
  cases right
  exact congrArg NodeId.mk (UInt32.toNat_inj.1 same)

namespace Arena

variable {arena : Arena} {start id child : NodeId} {above : List NodeId}

/-- No node that a walk from the first one can come to is below itself. A slot that holds its own node
does no harm as long as another slot of the node keeps the walk from going on. -/
def AcyclicFrom (arena : Arena) (start : NodeId) : Prop :=
  ∀ id, Relation.ReflTransGen arena.Follows start id → ¬Relation.TransGen arena.Follows id id

/-- Where a walk has got to, with the nodes that it has on the way there, each of them once. -/
structure Trail (arena : Arena) (start id : NodeId) (above : List NodeId) : Prop where
  reached : Relation.ReflTransGen arena.Follows start id
  distinct : above.Nodup
  leads : ∀ ancestor ∈ above, Relation.TransGen arena.Follows ancestor id

theorem stored_of_children {children : List NodeId} (found : arena.children id = .ok children) :
    id.index < arena.size := by
  obtain ⟨_, edged, _⟩ := bind_ok_iff.1 found
  obtain ⟨kind, stored, _⟩ := bind_ok_iff.1 edged
  exact (Array.getElem?_eq_some_iff.1 (kind_ok_iff.1 stored)).1

/-- Nodes that get smaller in some measure from each node to its children do not come back. It is
enough to look at the nodes of the arena. -/
theorem acyclic_of_measure (measure : NodeId → Nat)
    (smaller : ∀ index < arena.size, ∀ child ∈ (arena.children ⟨.ofNat index⟩).toOption.getD [],
      measure child < measure ⟨.ofNat index⟩) : arena.AcyclicFrom start := by
  have step (parent child : NodeId) (follows : arena.Follows parent child) :
      measure child < measure parent := by
    obtain ⟨children, listed, member⟩ := follows
    have stored := smaller parent.index (stored_of_children listed)
    rw [show (⟨.ofNat parent.index⟩ : NodeId) = parent from congrArg NodeId.mk UInt32.ofNat_toNat,
      listed] at stored
    exact stored child member
  intro id _ cycle
  have shrinks {below : NodeId} (leads : Relation.TransGen arena.Follows id below) :
      measure below < measure id := by
    induction leads with
    | single follows => exact step id _ follows
    | tail _ follows induction => exact Nat.lt_trans (step _ _ follows) induction
  exact Nat.lt_irrefl _ (shrinks cycle)

namespace Trail

theorem first (arena : Arena) (start : NodeId) : arena.Trail start start [] :=
  ⟨.refl, List.nodup_nil, by simp⟩

theorem step (trail : arena.Trail start id above) (acyclic : arena.AcyclicFrom start)
    (follows : arena.Follows id child) : arena.Trail start child (id :: above) where
  reached := trail.reached.tail follows
  distinct := by
    apply List.nodup_cons.2
    refine ⟨fun member => ?_, trail.distinct⟩
    exact acyclic id trail.reached (trail.leads id member)
  leads := List.forall_mem_cons.2
    ⟨.single follows, fun ancestor member => (trail.leads ancestor member).tail follows⟩

theorem short (trail : arena.Trail start id above) : above.length ≤ arena.size := by
  have distinct : (above.map NodeId.index).Nodup :=
    List.Nodup.map (fun _ _ => NodeId.index_inj) trail.distinct
  have stored : above.map NodeId.index ⊆ List.range arena.size := by
    intro index member
    obtain ⟨ancestor, inside, rfl⟩ := List.mem_map.1 member
    obtain ⟨_, ⟨_, found, _⟩, _⟩ := Relation.TransGen.head'_iff.1 (trail.leads ancestor inside)
    exact List.mem_range.2 (stored_of_children found)
  have fewer := (distinct.subperm stored).length_le
  simpa using fewer

end Trail

end Arena

namespace Forest

variable {forest : Forest} {start id : NodeId} {fault other : Fault}
  {lookups : NodeId → List Lookup} {State : Type}

def FindsAll (forest : Forest) (lookups : NodeId → List Lookup) (id : NodeId) : Prop :=
  ∀ lookup ∈ lookups id, forest.finds id lookup

theorem not_fails_of_finds_all (id : NodeId) (fault : Fault) (found : forest.FindsAll lookups id) :
    ¬forest.FailsFirst id (lookups id) fault := by
  intro failed
  have answered := look_up_all_ok_iff.2 found
  rw [look_up_all_error_iff.2 failed] at answered
  cases answered

theorem fails_first_once (id : NodeId) (fault other : Fault)
    (failed : forest.FailsFirst id (lookups id) fault)
    (otherFailed : forest.FailsFirst id (lookups id) other) : fault = other := by
  have same := (look_up_all_error_iff.2 failed).symm.trans (look_up_all_error_iff.2 otherFailed)
  exact Except.error.inj same

/-- A walk whose look-ups at each node are known searches for the first one that finds nothing. The
induction is on the depth that is left, of which the way down has not used up more than it may. -/
theorem search_of_trail {enter : NodeId → State → Except Fault State}
    (reads : ∀ id state, verdict (enter id state >>= fun _ => forest.arena.children id) =
      forM (lookups id) (forest.lookUp id))
    (acyclic : forest.arena.AcyclicFrom start) {depth : Nat} {above : List NodeId}
    (trail : forest.arena.Trail start id above)
    (room : forest.arena.size < above.length + depth) (state : State) :
    forest.arena.Search (forest.FindsAll lookups)
      (fun id => forest.FailsFirst id (lookups id)) [id]
      (Visitor.visit { enter := enter, fault := fun fault => fault } forest.arena depth id
        state) := by
  induction depth generalizing id above state with
  | zero =>
      have short := trail.short
      omega
  | succ depth induction =>
      have looked := reads id state
      rw [Visitor.visit]
      change forest.arena.Search _ _ _ (enter id state >>= _)
      cases entered : enter id state with
      | error fault =>
          rw [entered] at looked
          apply Arena.Search.failing
          exact look_up_all_error_iff.1 looked.symm
      | ok next =>
          rw [entered] at looked
          change forest.arena.Search _ _ _ ((forest.arena.children id).mapError _ >>= _)
          cases listed : forest.arena.children id with
          | error fault =>
              rw [listed] at looked
              apply Arena.Search.failing
              exact look_up_all_error_iff.1 looked.symm
          | ok children =>
              rw [listed] at looked
              apply Arena.Search.below (look_up_all_ok_iff.1 looked.symm) listed
              change forest.arena.Search _ _ _ (_ >>= pure)
              rw [bind_pure]
              apply Arena.Search.each
              intro child member state
              apply induction (trail.step acyclic ⟨children, listed, member⟩)
              rw [List.length_cons]
              omega

theorem met_of_reaches {met : List NodeId} (walked : forest.arena.Walks [start] met [])
    (reached : forest.arena.Reaches start id) : id ∈ met := by
  induction reached with
  | refl => simpa using walked.covers start (by simp)
  | tail _ step induction =>
      obtain ⟨children, listed, covered⟩ := walked.closed _ induction
      obtain ⟨kind, stored, _, rfl⟩ := listable_of_children listed
      obtain ⟨other, otherStored, member⟩ := step
      rw [stored] at otherStored
      cases otherStored
      simpa using covered _ member

end Forest

namespace Tree

variable {tree : Tree} {lookups : NodeId → List Lookup} {first : ExprKind → List Lookup}
  {fault other : Fault} {State : Type}

def Acyclic (tree : Tree) : Prop := tree.forest.arena.AcyclicFrom tree.root

/-- The fault is the one to end with: at all nodes before some node in pre-order the look-ups find
something, and at that node the first look-up that does not has this fault. -/
inductive FirstFault (tree : Tree) (lookups : NodeId → List Lookup) : Fault → Prop where
  | node {before later : List NodeId} {id : NodeId} {fault : Fault}
      (present : tree.root.isPresent)
      (walked : tree.forest.arena.Walks [tree.root] before (id :: later))
      (found : ∀ earlier ∈ before, ∀ lookup ∈ lookups earlier, tree.forest.finds earlier lookup)
      (failed : tree.forest.FailsFirst id (lookups id) fault) : FirstFault tree lookups fault

theorem FirstFault.unique (first : tree.FirstFault lookups fault)
    (otherFirst : tree.FirstFault lookups other) : fault = other := by
  obtain ⟨_, walked, found, failed⟩ := first
  obtain ⟨_, otherWalked, otherFound, otherFailed⟩ := otherFirst
  have same := Arena.Search.unique Forest.not_fails_of_finds_all Forest.fails_first_once
    (.stopped walked found failed) (.stopped otherWalked otherFound otherFailed)
  exact Except.error.inj same

theorem FirstFault.reached (first : tree.FirstFault lookups fault) :
    tree.root.isPresent ∧
      ∃ id, tree.forest.arena.Reaches tree.root id ∧ ¬tree.forest.FindsAll lookups id := by
  obtain ⟨present, walked, _, failed⟩ := first
  obtain ⟨start, same, followed⟩ := walked.follows _ List.mem_cons_self
  cases List.mem_singleton.1 same
  refine ⟨present, _, Forest.reaches_of_follows followed, fun found => ?_⟩
  exact Forest.not_fails_of_finds_all _ _ found failed

/-- How a walk ends that makes the look-ups at each node: it answers and has found everything, or
it ends with the first fault. -/
theorem walk_ends {enter : NodeId → State → Except Fault State} (acyclic : tree.Acyclic)
    (reads : ∀ id state, verdict (enter id state >>= fun _ => tree.forest.arena.children id) =
      forM (lookups id) (tree.forest.lookUp id)) (state : State) :
    ((∃ last, tree.walk { enter := enter, fault := fun fault => fault } state = .ok last) ↔
      (tree.root.isPresent → ∀ id, tree.forest.arena.Reaches tree.root id →
        tree.forest.FindsAll lookups id)) ∧
    ∀ fault, tree.walk { enter := enter, fault := fun fault => fault } state = .error fault ↔
      tree.FirstFault lookups fault := by
  by_cases present : tree.root.isPresent
  · have room : tree.forest.arena.size < 0 + tree.depthBound := by
      rw [depthBound]
      omega
    have search := Forest.search_of_trail reads acyclic (.first _ tree.root) room state
    rw [walk_present _ _ present]
    generalize Visitor.visit _ tree.forest.arena tree.depthBound tree.root state = result
      at search ⊢
    cases search with
    | clean walked found =>
        have all : ∀ id, tree.forest.arena.Reaches tree.root id →
            tree.forest.FindsAll lookups id := fun id reached =>
          found id (Forest.met_of_reaches walked reached)
        refine ⟨iff_of_true ⟨_, rfl⟩ fun _ => all, fun fault => iff_of_false (by simp) ?_⟩
        intro first
        obtain ⟨_, id, reached, missing⟩ := first.reached
        exact missing (all id reached)
    | stopped walked found failed =>
        have first := FirstFault.node present walked found failed
        constructor
        · apply iff_of_false (by simp)
          intro all
          obtain ⟨_, id, reached, missing⟩ := first.reached
          exact missing (all present id reached)
        · intro fault
          rw [Except.error.injEq]
          constructor
          · intro same
            exact same ▸ first
          · exact first.unique
  · rw [walk_absent present]
    refine ⟨iff_of_true ⟨_, rfl⟩ fun given => absurd given present, fun fault => ?_⟩
    exact iff_of_false (by simp) fun first => present first.reached.1

theorem hash_present (present : tree.root.isPresent) :
    tree.hash =
      (tree.walk { enter := writing tree.forest, fault := fun fault => fault } #[]).map
        fun sequence => Digest.foldWrites sequence.toList := by
  rw [hash, Tree.writes, if_neg (by simp [isAbsent, present])]
  change ((tree.walk { enter := writing tree.forest, fault := fun fault => fault } #[] >>= _) >>= _)
    = _
  cases tree.walk { enter := writing tree.forest, fault := fun fault => fault } #[] <;> rfl

theorem hash_ends (acyclic : tree.Acyclic) :
    ((∃ hash, tree.hash = .ok hash) ↔
      (tree.root.isPresent → ∀ id, tree.forest.arena.Reaches tree.root id →
        tree.forest.FindsAll tree.forest.hashingLookups id)) ∧
    ∀ fault, tree.hash = .error fault ↔ tree.FirstFault tree.forest.hashingLookups fault := by
  have reads (id : NodeId) (sequence : Array Write) :
      verdict (writing tree.forest id sequence >>= fun _ => tree.forest.arena.children id) =
        forM (tree.forest.hashingLookups id) (tree.forest.lookUp id) := by
    rw [← Forest.verdict_hashing, writing]
    cases tree.forest.nodeWrites id <;> rfl
  have ends := walk_ends acyclic reads #[]
  by_cases present : tree.root.isPresent
  · rw [hash_present present]
    cases walked : tree.walk { enter := writing tree.forest, fault := fun fault => fault } #[] with
    | error fault =>
        rw [walked] at ends
        simpa [Except.map] using ends
    | ok sequence =>
        rw [walked] at ends
        simpa [Except.map] using ends
  · rw [walk_absent present] at ends
    have hashed : tree.hash = .ok (Digest.foldWrites (ExprTree.writes tree.root)) := by
      rw [hash, Tree.writes, if_pos (by simp [isAbsent, present])]
      rfl
    simpa [hashed] using ends

/-- A tree that has no node below itself is listed exactly if all its nodes can be listed, and hashed
exactly if all of them can be hashed. Where it is not, the fault is that of the first look-up, in
pre-order and then in the order of one node, that finds nothing. -/
theorem walks_end_at_first_fault (acyclic : tree.Acyclic) :
    ((∃ ids, tree.listing = .ok ids) ↔
      (tree.root.isPresent → ∀ id, tree.forest.arena.Reaches tree.root id →
        tree.forest.arena.Listable id)) ∧
    ((∃ hash, tree.hash = .ok hash) ↔
      (tree.root.isPresent → ∀ id, tree.forest.arena.Reaches tree.root id →
        tree.forest.Hashable id)) ∧
    (∀ fault, tree.listing = .error fault ↔ tree.FirstFault tree.forest.listingLookups fault) ∧
    ∀ fault, tree.hash = .error fault ↔ tree.FirstFault tree.forest.hashingLookups fault := by
  have reads (id : NodeId) (listing : Array NodeId) :
      verdict ((.ok (listing.push id) : Except Fault (Array NodeId)) >>= fun _ =>
        tree.forest.arena.children id) =
          forM (tree.forest.listingLookups id) (tree.forest.lookUp id) :=
    Forest.verdict_listing id
  have listed := walk_ends acyclic reads #[]
  have hashed := hash_ends acyclic
  simp only [Forest.FindsAll, Forest.listable_iff, Forest.hashable_iff] at listed hashed
  exact ⟨listed.1, hashed.1, listed.2, hashed.2⟩

/-- An invocation with two arguments: a sum that has itself for its left operand and no right one, and
a node that is not there. What it invokes is an object, made from a younger parameter of unknown
name, whose members are not there either. -/
def faultyInvocation : Tree where
  forest :=
    { arena :=
        { kinds :=
            #[.binary .add ⟨0⟩ .absent .builtin, .new none ⟨0, 1⟩ ⟨5, 2⟩, .parameter ⟨9⟩,
              .invoke ⟨1⟩ ⟨1, 2⟩]
          types := #[.int, .int, .int, .int]
          childLists := ⟨#[⟨2⟩, ⟨0⟩, ⟨7⟩]⟩ } }
  root := ⟨3⟩

theorem walks_end_at_first_fault_invocation :
    faultyInvocation.Acyclic ∧
      faultyInvocation.listing = .error (.missingChild ⟨0⟩ .right) ∧
      faultyInvocation.FirstFault faultyInvocation.forest.listingLookups
        (.missingChild ⟨0⟩ .right) ∧
      faultyInvocation.hash = .error (.outOfBounds .memberLists) ∧
      faultyInvocation.FirstFault faultyInvocation.forest.hashingLookups
        (.outOfBounds .memberLists) := by
  have acyclic : faultyInvocation.Acyclic :=
    Arena.acyclic_of_measure (fun id => [0, 2, 1, 3].getD id.index 0) (by decide +kernel)
  have listing : faultyInvocation.listing = .error (.missingChild ⟨0⟩ .right) := by
    decide +kernel
  have hash : faultyInvocation.hash = .error (.outOfBounds .memberLists) := by
    decide +kernel
  obtain ⟨_, _, listed, hashed⟩ := walks_end_at_first_fault acyclic
  exact ⟨acyclic, listing, (listed _).1 listing, hash, (hashed _).1 hash⟩

end Tree

end ExprTree
