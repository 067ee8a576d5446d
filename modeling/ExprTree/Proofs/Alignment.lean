import ExprTree.Proofs.Blocks
import ExprTree.Proofs.Equality
import ExprTree.Proofs.Totality

/-!
Equal trees are equal at every position. The subtree at a position of a listing spells a block of
what the whole tree spells, which starts at that position; no list starts with two spellings, so
that the subtrees at one position of two trees with one spelling are the same.
-/

namespace ExprTree

set_option autoImplicit false

namespace Tree

variable {tree left right : Tree} {readings lefts rights : List Reading} {reading : Reading}
  {position : Nat}

/-- What is read of a tree holds, from each position on, what is read of the subtree there. -/
theorem Reads.below (reads : tree.Reads readings) (stands : readings[position]? = some reading) :
    ∃ block, (tree.below reading.id).Reads block ∧ block <+: readings.drop position := by
  have listed : (readings.map Reading.id)[position]? = some reading.id := by
    rw [List.getElem?_map, stands]
    rfl
  obtain ⟨ids, met, starts⟩ := block_of_sequence reads.met listed
  rw [← List.map_drop] at starts
  obtain ⟨block, begins, rfl⟩ := List.prefix_map_iff.1 starts
  refine ⟨block, ⟨met, fun entry member => ?_⟩, begins⟩
  exact reads.read entry (List.mem_of_mem_drop (begins.subset member))

theorem WellFormed.below (wellFormed : tree.WellFormed) (reads : tree.Reads readings)
    (member : reading ∈ readings) : (tree.below reading.id).WellFormed := by
  have listed : reading.id ∈ readings.map Reading.id := List.mem_map_of_mem member
  refine ⟨?_, wellFormed.aligned⟩
  by_cases present : tree.root.isPresent
  · have rooted := rooted_of_validate present wellFormed.valid
    obtain ⟨ids, met, reached⟩ := rooted.sequence
    rw [reads.met, Except.ok.injEq] at met
    have reaches := reached reading.id (met ▸ listed)
    apply validate_rooted
    refine ⟨Arena.contains_iff.2 ⟨present_of_sequence reads.met _ listed, ?_⟩, ?_⟩
    · exact Nat.lt_of_le_of_lt (rooted.index_le reaches) rooted.inside
    · exact fun id further => rooted.reached id (reaches.trans further)
  · have nothing := (sequence_absent present).symm.trans reads.met
    rw [← Except.ok.inj nothing] at listed
    cases listed

theorem WellFormed.unfold_below (wellFormed : tree.WellFormed) (reads : tree.Reads readings)
    (stands : readings[position]? = some reading) :
    ∃ term, (tree.below reading.id).unfold = .ok (some term) ∧
      term.spelling <+: (readings.map Reading.entry).drop position := by
  have own := wellFormed.below reads (List.mem_of_getElem? stands)
  obtain ⟨entries, term, ownReads, unfolded, spelled⟩ := reads_of_validate own.valid own.typed
  obtain ⟨block, blockReads, starts⟩ := reads.below stands
  rw [blockReads.unique ownReads] at starts
  have begins := starts.map Reading.entry
  rw [spelled, List.map_drop] at begins
  cases term with
  | some term => exact ⟨term, unfolded, begins⟩
  | none =>
      have listed : reading.id ∈ readings.map Reading.id :=
        List.mem_map_of_mem (List.mem_of_getElem? stands)
      have present : (tree.below reading.id).root.isPresent :=
        present_of_sequence reads.met _ listed
      obtain ⟨rest, nonempty⟩ := sequence_head present ownReads.met
      rw [spelling?, List.map_eq_nil_iff] at spelled
      simp [spelled] at nonempty

theorem same_of_unfold (leftWellFormed : left.WellFormed) (rightWellFormed : right.WellFormed)
    (compatible : left.forest.Compatible right.forest) {term : Option Term}
    (leftUnfolded : left.unfold = .ok term) (rightUnfolded : right.unfold = .ok term) :
    ∃ report hash, left.compare right = .ok report ∧ report.result = .ok () ∧
      left.hash = .ok hash ∧ right.hash = .ok hash := by
  obtain ⟨report, leftTerm, rightTerm, compared, leftIs, rightIs, exactly⟩ :=
    compare_spec leftWellFormed.valid rightWellFormed.valid leftWellFormed.typed
      rightWellFormed.typed
  obtain ⟨leftGiven, leftGives, leftHash⟩ :=
    hash_spec leftWellFormed.valid leftWellFormed.typed
  obtain ⟨rightGiven, rightGives, rightHash⟩ :=
    hash_spec rightWellFormed.valid rightWellFormed.typed
  rw [leftUnfolded, Except.ok.injEq] at leftIs leftGives
  rw [rightUnfolded, Except.ok.injEq] at rightIs rightGives
  rw [← leftGives] at leftHash
  rw [← rightGives] at rightHash
  have equal := (exactly compatible).2 (leftIs.symm.trans rightIs)
  exact ⟨report, _, compared, equal, leftHash, rightHash⟩

theorem entries_of_equal (leftWellFormed : left.WellFormed) (rightWellFormed : right.WellFormed)
    (compatible : left.forest.Compatible right.forest) (leftReads : left.Reads lefts)
    (rightReads : right.Reads rights) {report : Comparison.Report}
    (compared : left.compare right = .ok report) (equal : report.result = .ok ()) :
    lefts.map Reading.entry = rights.map Reading.entry := by
  obtain ⟨other, reported, exactly⟩ :=
    compare_of_reads leftWellFormed.valid rightWellFormed.valid leftReads rightReads
  rw [compared, Except.ok.injEq] at reported
  rw [← Comparison.of_readings_ok_iff leftReads.fits rightReads.fits 0, ← exactly compatible,
    ← reported]
  exact equal

variable {workspace : Workspace} {leftHandle rightHandle : ArenaHandle}
  {leftRoot rightRoot : NodeId}

/-- Equal trees have equally long listings, and the subtrees at each position are equal trees
themselves, with one hash. -/
theorem equal_trees_aligned (reachable : workspace.Reachable)
    (leftHeld : workspace.tree? leftHandle leftRoot = some left)
    (rightHeld : workspace.tree? rightHandle rightRoot = some right)
    (leftWellFormed : left.WellFormed) (rightWellFormed : right.WellFormed)
    {report : Comparison.Report} (compared : left.compare right = .ok report)
    (equal : report.result = .ok ()) :
    ∃ lefts rights, left.listing = .ok lefts ∧ right.listing = .ok rights ∧
      lefts.size = rights.size ∧
      ∀ (position : Nat) leftId rightId, lefts[position]? = some leftId →
        rights[position]? = some rightId →
          ∃ report hash, (left.below leftId).compare (right.below rightId) = .ok report ∧
            report.result = .ok () ∧ (left.below leftId).hash = .ok hash ∧
            (right.below rightId).hash = .ok hash := by
  have compatible := reachable.compatible leftHeld rightHeld
  obtain ⟨lefts, _, leftReads, _⟩ := reads_of_validate leftWellFormed.valid leftWellFormed.typed
  obtain ⟨rights, _, rightReads, _⟩ :=
    reads_of_validate rightWellFormed.valid rightWellFormed.typed
  have entries := entries_of_equal leftWellFormed rightWellFormed compatible leftReads rightReads
    compared equal
  refine ⟨_, _, leftReads.listing, rightReads.listing, ?_, ?_⟩
  · simpa using congrArg List.length entries
  · intro position leftId rightId leftAt rightAt
    rw [List.getElem?_toArray, List.getElem?_map, Option.map_eq_some_iff] at leftAt rightAt
    obtain ⟨leftReading, leftStands, rfl⟩ := leftAt
    obtain ⟨rightReading, rightStands, rfl⟩ := rightAt
    obtain ⟨leftTerm, leftUnfolded, leftStarts⟩ :=
      leftWellFormed.unfold_below leftReads leftStands
    obtain ⟨rightTerm, rightUnfolded, rightStarts⟩ :=
      rightWellFormed.unfold_below rightReads rightStands
    -- Now both subtrees are spelled at the start of one list.
    rw [entries] at leftStarts
    have terms := OrderedTree.spelling_start_inj leftStarts rightStarts
    rw [terms] at leftUnfolded
    exact same_of_unfold (leftWellFormed.below leftReads (List.mem_of_getElem? leftStands))
      (rightWellFormed.below rightReads (List.mem_of_getElem? rightStands)) compatible
      leftUnfolded rightUnfolded

end Tree

/-- Two arenas that hold the same sum of a sum with itself: the first one with each sum and string
once, the second one with all of them apart. -/
def sharedAndApart : Workspace :=
  Workspace.performAll {}
    [.newArena none, .build ⟨0⟩ (.string "x"),
     .build ⟨0⟩ (.binary .add ⟨0⟩ ⟨0⟩ .builtin .string),
     .build ⟨0⟩ (.binary .add ⟨1⟩ ⟨1⟩ .builtin .string),
     .newArena none, .build ⟨1⟩ (.string "x"), .build ⟨1⟩ (.string "x"),
     .build ⟨1⟩ (.binary .add ⟨0⟩ ⟨1⟩ .builtin .string),
     .build ⟨1⟩ (.string "x"), .build ⟨1⟩ (.string "x"),
     .build ⟨1⟩ (.binary .add ⟨3⟩ ⟨4⟩ .builtin .string),
     .build ⟨1⟩ (.binary .add ⟨2⟩ ⟨5⟩ .builtin .string)]

theorem shared_and_apart_held :
    ∃ left ∈ sharedAndApart.tree? ⟨0⟩ ⟨2⟩, ∃ right ∈ sharedAndApart.tree? ⟨1⟩ ⟨6⟩,
      left.WellFormed ∧ right.WellFormed ∧ left.isEqual right = .ok true ∧
      left.listing = .ok #[⟨2⟩, ⟨1⟩, ⟨0⟩, ⟨0⟩, ⟨1⟩, ⟨0⟩, ⟨0⟩] ∧
      right.listing = .ok #[⟨6⟩, ⟨2⟩, ⟨0⟩, ⟨1⟩, ⟨5⟩, ⟨3⟩, ⟨4⟩] := by
  decide +kernel

namespace Tree

theorem equal_trees_aligned_shared_and_apart :
    ∃ left right report hash, sharedAndApart.Reachable ∧
      sharedAndApart.tree? ⟨0⟩ ⟨2⟩ = some left ∧ sharedAndApart.tree? ⟨1⟩ ⟨6⟩ = some right ∧
      left.WellFormed ∧ right.WellFormed ∧ left.isEqual right = .ok true ∧
      (left.below ⟨1⟩).compare (right.below ⟨5⟩) = .ok report ∧ report.result = .ok () ∧
      (left.below ⟨1⟩).hash = .ok hash ∧ (right.below ⟨5⟩).hash = .ok hash := by
  obtain ⟨left, leftHeld, right, rightHeld, leftWellFormed, rightWellFormed, same, leftListing,
    rightListing⟩ := shared_and_apart_held
  have reachable : sharedAndApart.Reachable := ⟨_, rfl⟩
  obtain ⟨whole, compared, equal⟩ := is_equal_true_iff.1 same
  obtain ⟨lefts, rights, leftListed, rightListed, _, aligned⟩ := equal_trees_aligned reachable
    leftHeld rightHeld leftWellFormed rightWellFormed compared equal
  rw [leftListing, Except.ok.injEq] at leftListed
  rw [rightListing, Except.ok.injEq] at rightListed
  obtain ⟨report, hash, subtrees⟩ := aligned 4 ⟨1⟩ ⟨5⟩ (by rw [← leftListed]; rfl)
    (by rw [← rightListed]; rfl)
  exact ⟨left, right, report, hash, reachable, leftHeld, rightHeld, leftWellFormed,
    rightWellFormed, same, subtrees⟩

end Tree

end ExprTree
