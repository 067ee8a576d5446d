import ExprTree.Proofs.Blocks
import ExprTree.Proofs.TracedComparison

/-!
The left tree and the list of candidates are gone through in step. A walk through a left tree that
starts where the candidates begin with the listing of a right tree finds a candidate for each node:
the attributes of a node fix how many children it has, so as long as no difference is met, both
listings have a node more, or both are at their end. So the walk ends at the end of the right
listing, or at a difference inside it.
-/

namespace ExprTree

set_option autoImplicit false

theorem Mismatch.matched_at_bounds (mismatch : Mismatch) (position : Nat) :
    position ≤ mismatch.matchedAt position ∧ mismatch.matchedAt position ≤ position + 1 := by
  cases mismatch <;> simp [matchedAt]

namespace Comparison

variable {comparison : Comparison} {lefts rights : List Reading} {cursor : Nat}

/-- The candidates from the cursor on begin with the nodes of the readings. -/
def Queued (comparison : Comparison) (cursor : Nat) (rights : List Reading) : Prop :=
  rights.map Reading.id <+: comparison.candidates.toList.drop cursor

theorem Queued.candidate (queued : comparison.Queued cursor rights) {position : Nat}
    {right : Reading} (rightAt : rights[position]? = some right) :
    comparison.candidates[cursor + position]? = some right.id := by
  obtain ⟨more, same⟩ := queued
  have inside : position < (rights.map Reading.id).length := by
    rw [List.length_map]
    exact (List.getElem?_eq_some_iff.1 rightAt).1
  rw [← Array.getElem?_toList, ← List.getElem?_drop, ← same, List.getElem?_append_left inside,
    List.getElem?_map, rightAt]
  rfl

theorem Queued.tail {right : Reading} (queued : comparison.Queued cursor (right :: rights)) :
    comparison.Queued (cursor + 1) rights := by
  obtain ⟨more, same⟩ := queued
  refine ⟨more, ?_⟩
  rw [← List.tail_drop, ← same]
  rfl

/-- Left nodes that match the queue go through it, one candidate for each. The induction is on the
left nodes, each of which takes the head of the queue. -/
theorem scan_matching (compatible : comparison.left.Compatible comparison.right)
    (leftRead : ∀ left ∈ lefts, comparison.left.Reads left)
    (rightRead : ∀ right ∈ rights, comparison.right.Reads right)
    (queued : comparison.Queued cursor rights) (enough : lefts.length ≤ rights.length)
    (agree : ∀ position, MatchAt lefts rights position) :
    (lefts.map Reading.id).foldlM (fun matched id => comparison.step id matched) cursor =
      .ok (cursor + lefts.length) := by
  induction lefts generalizing rights cursor with
  | nil => rfl
  | cons left lefts induction =>
      cases rights with
      | nil => simp at enough
      | cons right rights =>
          rw [List.forall_mem_cons] at leftRead rightRead
          rw [List.length_cons, List.length_cons, Nat.add_le_add_iff_right] at enough
          have heads : left.mismatch? right = none := agree 0 left right rfl rfl
          have first : (right :: rights)[0]? = some right := rfl
          have candidate : comparison.candidates[cursor]? = some right.id := queued.candidate first
          obtain ⟨answer, stepped, exactly⟩ := step_reads candidate leftRead.1 rightRead.1
          rw [exactly compatible, heads] at stepped
          have later := induction leftRead.2 rightRead.2 queued.tail enough
            fun position => agree (position + 1)
          rw [List.map_cons, List.foldlM_cons, stepped, List.length_cons, Nat.add_comm lefts.length,
            ← Nat.add_assoc]
          exact later

/-- The first left node that does not match stops the walk; those before it take one candidate
each. -/
theorem scan_apart (compatible : comparison.left.Compatible comparison.right)
    (leftRead : ∀ left ∈ lefts, comparison.left.Reads left)
    (rightRead : ∀ right ∈ rights, comparison.right.Reads right)
    (queued : comparison.Queued cursor rights) {position : Nat} {left right : Reading}
    {mismatch : Mismatch} (leftAt : lefts[position]? = some left)
    (rightAt : rights[position]? = some right) (apart : left.mismatch? right = some mismatch)
    (before : ∀ earlier < position, MatchAt lefts rights earlier) :
    (lefts.map Reading.id).foldlM (fun matched id => comparison.step id matched) cursor =
      .error (.differ mismatch (mismatch.matchedAt (cursor + position))) := by
  obtain ⟨leftInside, leftIs⟩ := List.getElem?_eq_some_iff.1 leftAt
  obtain ⟨rightInside, _⟩ := List.getElem?_eq_some_iff.1 rightAt
  have length : (lefts.take position).length = position :=
    List.length_take_of_le (Nat.le_of_lt leftInside)
  have agree : ∀ earlier, MatchAt (lefts.take position) rights earlier := by
    intro earlier other candidate otherAt candidateAt
    rw [List.getElem?_take] at otherAt
    split at otherAt
    case isTrue sooner => exact before earlier sooner other candidate otherAt candidateAt
    case isFalse => cases otherAt
  have matching := scan_matching compatible
    (fun other member => leftRead other (List.mem_of_mem_take member)) rightRead queued
    (by omega) agree
  obtain ⟨answer, stepped, exactly⟩ := step_reads (queued.candidate rightAt)
    (leftRead left (List.mem_of_getElem? leftAt)) (rightRead right (List.mem_of_getElem? rightAt))
  rw [exactly compatible, apart] at stepped
  have split : lefts = lefts.take position ++ left :: lefts.drop (position + 1) := by
    rw [← leftIs, ← List.drop_eq_getElem_cons leftInside, List.take_append_drop]
  rw [split, List.map_append, List.foldlM_append, matching, length, List.map_cons]
  change (comparison.step left.id (cursor + position) >>= _) = _
  rw [stepped]
  rfl

end Comparison

namespace Tree

variable {workspace : Workspace} {leftHandle rightHandle : ArenaHandle}
  {leftRoot rightRoot : NodeId} {left right : Tree}

/-- How matching the nodes of a left tree ends if the candidates from the cursor on begin with the
nodes of a right tree: after both listings, or at the first position where they part. -/
inductive InStep (left right : Tree) (lefts rights : Array NodeId) (cursor : Nat) :
    Except Comparison.Stop Nat → Prop where
  | through (sizes : lefts.size = rights.size)
      (alike : ∀ position, left.forest.AlikeAt right.forest lefts rights position) :
      InStep left right lefts rights cursor (.ok (cursor + lefts.size))
  | apart {position : Nat} {leftId rightId : NodeId} {mismatch : Mismatch} {matched : Nat}
      (part : left.PartAt right lefts rights position leftId rightId mismatch)
      (paired : ∀ id, mismatch ≠ .missingCandidate id)
      (count : matched = mismatch.matchedAt (cursor + position)) (after : cursor ≤ matched)
      (within : matched ≤ cursor + rights.size) :
      InStep left right lefts rights cursor (.error (.differ mismatch matched))

/-- Wherever a walk gets to a node, with depth enough left, it goes through the listing of the node
before anything else. -/
theorem run_of_sequence {State Error : Type} {tree : Tree} (rooted : tree.Rooted)
    {ids : List NodeId} (met : tree.sequence = .ok ids) {depth : Nat}
    (deep : tree.root.index < depth) (enter : NodeId → State → Except Error State)
    (fault : Fault → Error) (rest : List Visitor.Task) (state : State) :
    Visitor.run { enter := enter, fault := fault } tree.forest.arena
        (.enter depth tree.root :: rest) state =
      (ids.foldlM (fun state id => enter id state) state >>=
        Visitor.run { enter := enter, fault := fault } tree.forest.arena rest) := by
  obtain ⟨uses, used, _⟩ := Arena.uses_of_sound rooted.reached deep
  rw [sequence_present rooted.present] at met
  obtain ⟨own, usedOwn, rfl⟩ := map_ok_iff.1 met
  rw [Visitor.run_enter, Arena.visit_of_uses used, Visitor.fold_arrivals,
    OrderedTree.arrivals_eq_preorder, Arena.uses_unique used usedOwn]

theorem spelled_of_reads {tree : Tree} {readings : List Reading} (valid : tree.validate = .ok ())
    (present : tree.root.isPresent) (reads : tree.Reads readings) :
    ∃ term : Term, readings.map Reading.entry = term.spelling := by
  obtain ⟨others, term, otherReads, unfolded, spelled⟩ := reads_of_validate valid reads.typed
  obtain ⟨given, rfl⟩ := unfold_present present unfolded
  rw [reads.unique otherReads]
  exact ⟨given, spelled⟩

/-- A call of the comparison, with depth enough left, at a present left node whose candidates begin
with the nodes of a present right tree. -/
theorem call_in_step {lefts rights : List Reading}
    (compatible : left.forest.Compatible right.forest) (leftValid : left.validate = .ok ())
    (rightValid : right.validate = .ok ()) (leftPresent : left.root.isPresent)
    (rightPresent : right.root.isPresent) (leftReads : left.Reads lefts)
    (rightReads : right.Reads rights) {candidates : Array NodeId} {cursor depth : Nat}
    (queued : Comparison.Queued ⟨left.forest, right.forest, candidates⟩ cursor rights)
    (deep : left.root.index < depth) :
    ∃ outcome,
      left.InStep right (lefts.map Reading.id).toArray (rights.map Reading.id).toArray cursor
        outcome ∧
      ∀ rest,
        (Comparison.visitor ⟨left.forest, right.forest, candidates⟩).run left.forest.arena
            (.enter depth left.root :: rest) cursor =
          (outcome >>=
            (Comparison.visitor ⟨left.forest, right.forest, candidates⟩).run left.forest.arena
              rest) := by
  have rooted := rooted_of_validate leftPresent leftValid
  refine ⟨_, ?_, fun rest => run_of_sequence rooted leftReads.met deep _ _ rest cursor⟩
  rcases Comparison.match_or_first_apart lefts rights with agree | apart
  · -- Neither listing can go on where the other one stops.
    obtain ⟨leftTerm, leftSpelled⟩ := spelled_of_reads leftValid leftPresent leftReads
    obtain ⟨rightTerm, rightSpelled⟩ := spelled_of_reads rightValid rightPresent rightReads
    have sizes := Reading.length_of_entries
      (Comparison.entries_of_agree leftReads.fits rightReads.fits leftSpelled rightSpelled agree)
    have counted : lefts.length = (lefts.map Reading.id).toArray.size := by simp
    rw [Comparison.scan_matching compatible leftReads.read rightReads.read queued
      (Nat.le_of_eq sizes) agree, counted]
    refine .through (by simpa using sizes) fun position => ?_
    exact (Forest.alike_at_iff leftReads.read rightReads.read position).2 (agree position)
  · obtain ⟨position, leftReading, rightReading, mismatch, leftAt, rightAt, differ, before⟩ := apart
    have part := part_of_readings leftReads rightReads leftAt rightAt differ before
    have inside : position < (rights.map Reading.id).toArray.size := by
      simpa using (List.getElem?_eq_some_iff.1 rightAt).1
    have bounds := mismatch.matched_at_bounds (cursor + position)
    rw [Comparison.scan_apart compatible leftReads.read rightReads.read queued leftAt rightAt
      differ before]
    exact .apart part (Reading.mismatch_paired differ).1 rfl (by omega) (by omega)

/-- Matching a present well-formed left node with candidates that begin, from the cursor on, with
the listing of a present well-formed right node never finds the candidates at their end. It gets to
the end of both listings, which are of one size, if they are alike, and else stops at the first
difference, which is inside the right one; so the cursor is never past the candidates. This is so at
each call of the recursion, whatever is left of the walk. For the whole comparison the candidates
are the right listing, and those that are left over are counted exactly. -/
theorem compare_in_step (reachable : workspace.Reachable)
    (leftHeld : workspace.tree? leftHandle leftRoot = some left)
    (rightHeld : workspace.tree? rightHandle rightRoot = some right)
    (leftSound : left.isAbsent ∨ left.WellFormed) (rightSound : right.isAbsent ∨ right.WellFormed) :
    ∃ report lefts rights, left.compare right = .ok report ∧ left.listing = .ok lefts ∧
      right.listing = .ok rights ∧
      (left.root.isPresent → right.root.isPresent →
        ∀ (candidates : Array NodeId) (cursor depth : Nat),
          rights.toList <+: candidates.toList.drop cursor → left.root.index < depth →
          cursor + rights.size ≤ candidates.size ∧
          ∃ outcome, left.InStep right lefts rights cursor outcome ∧
            ∀ rest,
              (Comparison.visitor ⟨left.forest, right.forest, candidates⟩).run left.forest.arena
                  (.enter depth left.root :: rest) cursor =
                (outcome >>=
                  (Comparison.visitor ⟨left.forest, right.forest, candidates⟩).run
                    left.forest.arena rest)) ∧
      report.matched ≤ rights.size ∧
      ∀ first count, report.result = .error (.extraCandidates first count) →
        report.matched + count = rights.size := by
  have compatible := reachable.compatible leftHeld rightHeld
  obtain ⟨lefts, rights, report, leftReads, rightReads, compared, ending⟩ :=
    compare_ending compatible leftSound rightSound
  refine ⟨report, _, _, compared, leftReads.listing, rightReads.listing, ?calls, ?whole⟩
  case calls =>
    intro leftPresent rightPresent candidates cursor depth queued deep
    have leftValid := (readable_of_absent_or leftSound).1
    have rightValid := (readable_of_absent_or rightSound).1
    have filled : rights ≠ [] := by
      rw [Ne, ← rightReads.absent_iff]
      simp [isAbsent, rightPresent]
    refine ⟨?_, call_in_step compatible leftValid rightValid leftPresent rightPresent leftReads
      rightReads queued deep⟩
    have some := List.length_pos_of_ne_nil filled
    have within := queued.length_le
    simp only [List.length_map, List.length_drop, Array.length_toList, List.size_toArray]
      at within ⊢
    omega
  case whole =>
    simp only [List.size_toArray, List.length_map]
    cases ending with
    | equal same =>
        refine ⟨Nat.le_of_eq (Reading.length_of_entries same), ?_⟩
        intro first count extra
        cases extra
    | missing leftIs rightIs =>
        refine ⟨Nat.zero_le _, ?_⟩
        intro first count extra
        cases extra
    | extra leftIs rightIs =>
        refine ⟨Nat.zero_le _, ?_⟩
        intro first count extra
        cases extra
        exact Nat.zero_add _
    | @differ position _ _ mismatch leftAt rightAt apart before =>
        have inside := (List.getElem?_eq_some_iff.1 rightAt).1
        have bounds := mismatch.matched_at_bounds position
        refine ⟨Nat.le_trans bounds.2 inside, ?_⟩
        intro first count extra
        cases extra
        exact absurd rfl ((Reading.mismatch_paired apart).2 first count)

theorem two_arenas_listed :
    ∃ left ∈ twoArenas.tree? ⟨0⟩ ⟨2⟩, ∃ right ∈ twoArenas.tree? ⟨1⟩ ⟨2⟩,
      left.WellFormed ∧ right.WellFormed ∧ left.root = ⟨2⟩ ∧ right.root = ⟨2⟩ ∧
        right.listing = .ok #[⟨2⟩, ⟨0⟩, ⟨1⟩] := by
  decide +kernel

/-- With other candidates before and behind those of the right tree. -/
theorem compare_in_step_two_arenas :
    ∃ left right report lefts outcome, twoArenas.Reachable ∧
      twoArenas.tree? ⟨0⟩ ⟨2⟩ = some left ∧ twoArenas.tree? ⟨1⟩ ⟨2⟩ = some right ∧
      left.WellFormed ∧ right.WellFormed ∧ left.compare right = .ok report ∧
      left.listing = .ok lefts ∧ report.matched ≤ 3 ∧
      left.InStep right lefts #[⟨2⟩, ⟨0⟩, ⟨1⟩] 1 outcome ∧
      ∀ rest,
        (Comparison.visitor ⟨left.forest, right.forest, #[⟨9⟩, ⟨2⟩, ⟨0⟩, ⟨1⟩, ⟨9⟩]⟩).run
            left.forest.arena (.enter 3 ⟨2⟩ :: rest) 1 =
          (outcome >>=
            (Comparison.visitor ⟨left.forest, right.forest, #[⟨9⟩, ⟨2⟩, ⟨0⟩, ⟨1⟩, ⟨9⟩]⟩).run
              left.forest.arena rest) := by
  obtain ⟨left, leftHeld, right, rightHeld, leftSound, rightSound, leftRoot, rightRoot, known⟩ :=
    two_arenas_listed
  obtain ⟨report, lefts, rights, compared, leftListed, rightListed, calls, matched, _⟩ :=
    compare_in_step two_arenas_reachable leftHeld rightHeld (.inr leftSound) (.inr rightSound)
  rw [known, Except.ok.injEq] at rightListed
  subst rightListed
  have leftPresent : left.root.isPresent := by rw [leftRoot]; decide
  have rightPresent : right.root.isPresent := by rw [rightRoot]; decide
  have deep : left.root.index < 3 := by rw [leftRoot]; decide
  obtain ⟨_, outcome, ends, ran⟩ := calls leftPresent rightPresent #[⟨9⟩, ⟨2⟩, ⟨0⟩, ⟨1⟩, ⟨9⟩] 1 3
    ⟨[⟨9⟩], rfl⟩ deep
  rw [leftRoot] at ran
  exact ⟨left, right, report, lefts, outcome, two_arenas_reachable, leftHeld, rightHeld, leftSound,
    rightSound, compared, leftListed, matched, ends, ran⟩

end Tree

end ExprTree
