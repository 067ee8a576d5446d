import ExprTree.Proofs.FirstDifference
import ExprTree.Proofs.Unambiguity
import Mathlib.Data.Nat.Find

/-!
How the comparison of two trees ends. The attributes of a node fix how many children it has, so that
neither of two listings can go on where the other one stops: two present trees are equal, or they
part at a node that both listings have. Only an absent tree leaves nodes of the other one without a
counterpart, and then all of them.
-/

namespace ExprTree

set_option autoImplicit false

namespace Comparison

variable {lefts rights : List Reading}

def MatchAt (lefts rights : List Reading) (position : Nat) : Prop :=
  ∀ left right, lefts[position]? = some left → rights[position]? = some right →
    left.mismatch? right = none

inductive Ending (lefts rights : List Reading) : Report → Prop where
  | equal (same : lefts.map Reading.entry = rights.map Reading.entry) :
      Ending lefts rights ⟨.ok (), lefts.length⟩
  | missing {root : Reading} {rest : List Reading} (leftIs : lefts = root :: rest)
      (rightIs : rights = []) : Ending lefts rights ⟨.error (.missingCandidate root.id), 0⟩
  | extra {root : Reading} {rest : List Reading} (leftIs : lefts = [])
      (rightIs : rights = root :: rest) :
      Ending lefts rights ⟨.error (.extraCandidates root.id rights.length), 0⟩
  | differ {position : Nat} {left right : Reading} {mismatch : Mismatch}
      (leftAt : lefts[position]? = some left) (rightAt : rights[position]? = some right)
      (apart : left.mismatch? right = some mismatch)
      (before : ∀ earlier < position, MatchAt lefts rights earlier) :
      Ending lefts rights ⟨.error mismatch, mismatch.matchedAt position⟩

theorem match_or_first_apart (lefts rights : List Reading) :
    (∀ position, MatchAt lefts rights position) ∨
      ∃ position left right mismatch, lefts[position]? = some left ∧
        rights[position]? = some right ∧ left.mismatch? right = some mismatch ∧
        ∀ earlier < position, MatchAt lefts rights earlier := by
  classical
  by_cases agree : ∀ position, MatchAt lefts rights position
  · exact .inl agree
  · have parts : ∃ position, ¬MatchAt lefts rights position := not_forall.1 agree
    obtain ⟨left, right, leftAt, rightAt, apart⟩ :
        ∃ left right, lefts[Nat.find parts]? = some left ∧
          rights[Nat.find parts]? = some right ∧ left.mismatch? right ≠ none := by
      simpa [MatchAt] using Nat.find_spec parts
    obtain ⟨mismatch, differ⟩ := Option.ne_none_iff_exists'.1 apart
    refine .inr ⟨Nat.find parts, left, right, mismatch, leftAt, rightAt, differ, ?_⟩
    intro earlier sooner
    exact not_not.1 (Nat.find_min parts sooner)

theorem of_readings_equal (leftFits : ∀ left ∈ lefts, left.Fits)
    (rightFits : ∀ right ∈ rights, right.Fits)
    (same : lefts.map Reading.entry = rights.map Reading.entry) (matched : Nat) :
    Report.ofReadings lefts rights matched = ⟨.ok (), matched + lefts.length⟩ := by
  induction lefts generalizing rights matched with
  | nil =>
      have none : rights = [] := by simpa using same
      rw [none]
      rfl
  | cons left lefts induction =>
      cases rights with
      | nil => simp at same
      | cons right rights =>
          rw [List.forall_mem_cons] at leftFits rightFits
          rw [List.map_cons, List.map_cons, List.cons.injEq] at same
          have heads := (Reading.mismatch_none_iff leftFits.1 rightFits.1).2 same.1
          have later := induction leftFits.2 rightFits.2 same.2 (matched + 1)
          rw [Report.ofReadings, heads]
          rw [Nat.add_right_comm] at later
          exact later

theorem Ending.reported (leftFits : ∀ left ∈ lefts, left.Fits)
    (rightFits : ∀ right ∈ rights, right.Fits) {report : Report}
    (ending : Ending lefts rights report) : Report.ofReadings lefts rights 0 = report := by
  cases ending with
  | equal same => rw [of_readings_equal leftFits rightFits same, Nat.zero_add]
  | missing leftIs rightIs =>
      rw [leftIs, rightIs]
      rfl
  | extra leftIs rightIs =>
      rw [leftIs, rightIs]
      rfl
  | differ leftAt rightAt apart before =>
      rw [of_readings_first leftAt rightAt apart before, Nat.zero_add]

theorem readings_present {readings : List Reading} {term : Term}
    (spelled : readings.map Reading.entry = spelling? (some term)) :
    ∃ root rest, readings = root :: rest := by
  cases readings with
  | nil =>
      cases term
      simp [spelling?, OrderedTree.spelling] at spelled
  | cons root rest => exact ⟨root, rest, rfl⟩

/-- The readings of two trees bring the comparison to an end in one of these ways: where both trees
are present and one listing is used up without a difference, so is the other. -/
theorem ending_of_spelled {leftTerm rightTerm : Option Term}
    (leftFits : ∀ left ∈ lefts, left.Fits) (rightFits : ∀ right ∈ rights, right.Fits)
    (leftSpelled : lefts.map Reading.entry = spelling? leftTerm)
    (rightSpelled : rights.map Reading.entry = spelling? rightTerm) :
    ∃ report, Ending lefts rights report := by
  rcases leftTerm with _ | leftTerm <;> rcases rightTerm with _ | rightTerm
  case none.none => exact ⟨_, .equal (leftSpelled.trans rightSpelled.symm)⟩
  case some.none =>
    obtain ⟨root, rest, leftIs⟩ := readings_present leftSpelled
    exact ⟨_, .missing leftIs (List.map_eq_nil_iff.1 rightSpelled)⟩
  case none.some =>
    obtain ⟨root, rest, rightIs⟩ := readings_present rightSpelled
    exact ⟨_, .extra (List.map_eq_nil_iff.1 leftSpelled) rightIs⟩
  case some.some =>
    rcases match_or_first_apart lefts rights with agree | apart
    · -- Neither spelling is a proper beginning of the other one: both listings end together.
      exact ⟨_, .equal (entries_of_agree leftFits rightFits leftSpelled rightSpelled agree)⟩
    · obtain ⟨position, left, right, mismatch, leftAt, rightAt, differ, before⟩ := apart
      exact ⟨_, .differ leftAt rightAt differ before⟩

end Comparison

theorem Reading.mismatch_paired {left right : Reading} {mismatch : Mismatch}
    (apart : left.mismatch? right = some mismatch) :
    (∀ id, mismatch ≠ .missingCandidate id) ∧
      ∀ first count, mismatch ≠ .extraCandidates first count := by
  rcases Profile.mismatch_some apart with ⟨_, rfl⟩ | ⟨_, _, rfl⟩ | ⟨_, _, _, _, rfl⟩ <;> simp

namespace Tree

variable {workspace : Workspace} {leftHandle rightHandle : ArenaHandle}
  {leftRoot rightRoot : NodeId} {left right : Tree}

theorem Reads.absent_iff {tree : Tree} {readings : List Reading} (reads : tree.Reads readings) :
    tree.isAbsent ↔ readings = [] := by
  by_cases present : tree.root.isPresent
  · obtain ⟨rest, listed⟩ := sequence_head present reads.met
    have filled : readings ≠ [] := by
      intro none
      simp [none] at listed
    simp [isAbsent, present, filled]
  · have met := reads.met
    rw [sequence_absent present, Except.ok.injEq, eq_comm, List.map_eq_nil_iff] at met
    simp [isAbsent, present, met]

theorem Reads.first_id {tree : Tree} {first : Reading} {rest : List Reading}
    (reads : tree.Reads (first :: rest)) : first.id = tree.root := by
  have present : tree.root.isPresent := by
    have absent := reads.absent_iff
    simpa [isAbsent] using absent
  obtain ⟨others, listed⟩ := sequence_head present reads.met
  exact (List.cons.inj listed).1

theorem compare_ending (compatible : left.forest.Compatible right.forest)
    (leftSound : left.isAbsent ∨ left.WellFormed) (rightSound : right.isAbsent ∨ right.WellFormed) :
    ∃ lefts rights report, left.Reads lefts ∧ right.Reads rights ∧
      left.compare right = .ok report ∧ Comparison.Ending lefts rights report := by
  obtain ⟨leftValid, leftTyped⟩ := readable_of_absent_or leftSound
  obtain ⟨rightValid, rightTyped⟩ := readable_of_absent_or rightSound
  obtain ⟨lefts, leftTerm, leftReads, _, leftSpelled⟩ := reads_of_validate leftValid leftTyped
  obtain ⟨rights, rightTerm, rightReads, _, rightSpelled⟩ :=
    reads_of_validate rightValid rightTyped
  obtain ⟨report, compared, exactly⟩ :=
    compare_of_reads leftValid rightValid leftReads rightReads
  obtain ⟨expected, ending⟩ :=
    Comparison.ending_of_spelled leftReads.fits rightReads.fits leftSpelled rightSpelled
  rw [exactly compatible, ending.reported leftReads.fits rightReads.fits] at compared
  exact ⟨lefts, rights, expected, leftReads, rightReads, compared, ending⟩

/-- Nodes are missing or left over exactly if one of the trees is absent and the other one is not;
two present trees that are not equal part at a node of both listings. -/
theorem unpaired_iff_absent (reachable : workspace.Reachable)
    (leftHeld : workspace.tree? leftHandle leftRoot = some left)
    (rightHeld : workspace.tree? rightHandle rightRoot = some right)
    (leftSound : left.isAbsent ∨ left.WellFormed) (rightSound : right.isAbsent ∨ right.WellFormed) :
    ∃ report lefts rights, left.compare right = .ok report ∧ left.listing = .ok lefts ∧
      right.listing = .ok rights ∧
      (∀ id, report.result = .error (.missingCandidate id) ↔
        ¬left.isAbsent ∧ right.isAbsent ∧ id = left.root) ∧
      (∀ first count, report.result = .error (.extraCandidates first count) ↔
        left.isAbsent ∧ ¬right.isAbsent ∧ first = right.root ∧ count = rights.size) ∧
      (¬left.isAbsent → ¬right.isAbsent → report.result ≠ .ok () →
        ∃ (position : Nat) (leftId rightId : NodeId) (mismatch : Mismatch),
          lefts[position]? = some leftId ∧ rights[position]? = some rightId ∧
          report.result = .error mismatch ∧
          left.forest.FirstDifference right.forest leftId rightId mismatch) := by
  obtain ⟨lefts, rights, report, leftReads, rightReads, compared, ending⟩ :=
    compare_ending (reachable.compatible leftHeld rightHeld) leftSound rightSound
  refine ⟨report, _, _, compared, leftReads.listing, rightReads.listing, ?_⟩
  simp only [leftReads.absent_iff, rightReads.absent_iff]
  cases ending with
  | equal same =>
      have together : lefts = [] ↔ rights = [] := by
        rw [← List.map_eq_nil_iff, same, List.map_eq_nil_iff]
      exact ⟨by simp +contextual [together], by simp +contextual [together],
        fun _ _ differs => absurd rfl differs⟩
  | missing leftIs rightIs =>
      subst leftIs
      subst rightIs
      simp [leftReads.first_id, eq_comm]
  | extra leftIs rightIs =>
      subst leftIs
      subst rightIs
      simp [rightReads.first_id, eq_comm]
  | @differ position left' right' mismatch leftAt rightAt apart before =>
      have leftSome : lefts ≠ [] := List.ne_nil_of_mem (List.mem_of_getElem? leftAt)
      have rightSome : rights ≠ [] := List.ne_nil_of_mem (List.mem_of_getElem? rightAt)
      obtain ⟨notMissing, notExtra⟩ := Reading.mismatch_paired apart
      refine ⟨by simp [notMissing, rightSome], by simp [notExtra, leftSome], ?_⟩
      intro _ _ _
      have leftRead := leftReads.read _ (List.mem_of_getElem? leftAt)
      have rightRead := rightReads.read _ (List.mem_of_getElem? rightAt)
      exact ⟨position, left'.id, right'.id, mismatch, by simp [leftAt], by simp [rightAt], rfl,
        Forest.first_difference_of_mismatch leftRead rightRead apart⟩

theorem sum_and_absent_held :
    ∃ sum ∈ twoArenas.tree? ⟨0⟩ ⟨2⟩, ∃ absent ∈ twoArenas.tree? ⟨1⟩ .absent,
      sum.WellFormed ∧ absent.isAbsent ∧ ¬sum.isAbsent ∧ sum.root = ⟨2⟩ ∧
        sum.listing = .ok #[⟨2⟩, ⟨1⟩, ⟨1⟩] := by
  decide +kernel

theorem unpaired_iff_absent_two_arenas :
    ∃ sum absent report mirrored, twoArenas.Reachable ∧ twoArenas.tree? ⟨0⟩ ⟨2⟩ = some sum ∧
      twoArenas.tree? ⟨1⟩ .absent = some absent ∧ sum.WellFormed ∧ absent.isAbsent ∧
      sum.compare absent = .ok report ∧ report.result = .error (.missingCandidate ⟨2⟩) ∧
      absent.compare sum = .ok mirrored ∧ mirrored.result = .error (.extraCandidates ⟨2⟩ 3) := by
  obtain ⟨sum, sumHeld, absent, absentHeld, sumSound, isAbsent, present, root, listed⟩ :=
    sum_and_absent_held
  obtain ⟨report, _, _, compared, _, _, missing, _⟩ := unpaired_iff_absent two_arenas_reachable
    sumHeld absentHeld (.inr sumSound) (.inl isAbsent)
  obtain ⟨mirrored, _, rights, exchanged, _, rightListed, _, extra, _⟩ :=
    unpaired_iff_absent two_arenas_reachable absentHeld sumHeld (.inl isAbsent) (.inr sumSound)
  rw [listed, Except.ok.injEq] at rightListed
  subst rightListed
  exact ⟨sum, absent, report, mirrored, two_arenas_reachable, sumHeld, absentHeld, sumSound,
    isAbsent, compared, (missing ⟨2⟩).2 ⟨present, isAbsent, root.symm⟩, exchanged,
    (extra ⟨2⟩ 3).2 ⟨isAbsent, present, root.symm, rfl⟩⟩

end Tree

end ExprTree
