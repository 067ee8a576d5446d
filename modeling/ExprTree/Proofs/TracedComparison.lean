import ExprTree.Proofs.Mirror
import ExprTree.Trace

/-!
What a comparison notes. Apart from its roots it notes one event, when it has ended: how many nodes
two equal trees have, or the difference and how many candidates were matched by then. Where two
trees part, all nodes before are matched, and the node itself if its kind and its type agree, since
a candidate counts as matched before its attributes are compared.
-/

namespace ExprTree

set_option autoImplicit false

theorem Comparison.match_of_entries {lefts rights : List Reading}
    (leftFits : ∀ left ∈ lefts, left.Fits) (rightFits : ∀ right ∈ rights, right.Fits)
    (same : lefts.map Reading.entry = rights.map Reading.entry) (position : Nat) :
    MatchAt lefts rights position := by
  intro left right leftAt rightAt
  apply (Reading.mismatch_none_iff (leftFits left (List.mem_of_getElem? leftAt))
    (rightFits right (List.mem_of_getElem? rightAt))).2
  have entries : (lefts.map Reading.entry)[position]? = (rights.map Reading.entry)[position]? := by
    rw [same]
  simpa [leftAt, rightAt] using entries

namespace Tree

variable {workspace : Workspace} {leftHandle rightHandle : ArenaHandle}
  {leftRoot rightRoot : NodeId} {left right : Tree} {lefts rights : Array NodeId}

structure PartAt (left right : Tree) (lefts rights : Array NodeId) (position : Nat)
    (leftId rightId : NodeId) (mismatch : Mismatch) : Prop where
  leftAt : lefts[position]? = some leftId
  rightAt : rights[position]? = some rightId
  difference : left.forest.FirstDifference right.forest leftId rightId mismatch
  before : ∀ earlier < position, left.forest.AlikeAt right.forest lefts rights earlier

inductive Notes (left right : Tree) (lefts rights : Array NodeId) :
    Except Mismatch Unit → Event → Prop where
  | equal (sizes : lefts.size = rights.size)
      (alike : ∀ position, left.forest.AlikeAt right.forest lefts rights position) :
      Notes left right lefts rights (.ok ()) (.equal lefts.size)
  | missing (present : ¬left.isAbsent) (absent : right.isAbsent) :
      Notes left right lefts rights (.error (.missingCandidate left.root))
        (.differ (.missingCandidate left.root) 0)
  | extra (absent : left.isAbsent) (present : ¬right.isAbsent) :
      Notes left right lefts rights (.error (.extraCandidates right.root rights.size))
        (.differ (.extraCandidates right.root rights.size) 0)
  | kind {position : Nat} {leftId rightId : NodeId} {leftKind rightKind : NodeKind}
      (part : left.PartAt right lefts rights position leftId rightId
        (.kind leftId rightId leftKind rightKind)) :
      Notes left right lefts rights (.error (.kind leftId rightId leftKind rightKind))
        (.differ (.kind leftId rightId leftKind rightKind) position)
  | type {position : Nat} {leftId rightId : NodeId} {leftType rightType : TypeId}
      (part : left.PartAt right lefts rights position leftId rightId
        (.type leftId rightId leftType rightType)) :
      Notes left right lefts rights (.error (.type leftId rightId leftType rightType))
        (.differ (.type leftId rightId leftType rightType) position)
  | attributes {position : Nat} {leftId rightId : NodeId} {first : Attribute}
      (part : left.PartAt right lefts rights position leftId rightId
        (.attributes leftId rightId first)) :
      Notes left right lefts rights (.error (.attributes leftId rightId first))
        (.differ (.attributes leftId rightId first) (position + 1))

theorem compare_traced_run {report : Comparison.Report} (compared : left.compare right = .ok report)
    (noted : Array Event) :
    (left.compareTraced right).run.run noted =
      (.ok report, (noted.push (.comparing left.root right.root)).push report.event) := by
  rw [compareTraced, compared]
  rfl

theorem part_of_readings {lefts rights : List Reading} (leftReads : left.Reads lefts)
    (rightReads : right.Reads rights) {position : Nat} {leftReading rightReading : Reading}
    {mismatch : Mismatch} (leftAt : lefts[position]? = some leftReading)
    (rightAt : rights[position]? = some rightReading)
    (apart : leftReading.mismatch? rightReading = some mismatch)
    (before : ∀ earlier < position, Comparison.MatchAt lefts rights earlier) :
    left.PartAt right (lefts.map Reading.id).toArray (rights.map Reading.id).toArray position
      leftReading.id rightReading.id mismatch where
  leftAt := by simp [leftAt]
  rightAt := by simp [rightAt]
  difference :=
    Forest.first_difference_of_mismatch (leftReads.read _ (List.mem_of_getElem? leftAt))
      (rightReads.read _ (List.mem_of_getElem? rightAt)) apart
  before earlier sooner :=
    (Forest.alike_at_iff leftReads.read rightReads.read earlier).2 (before earlier sooner)

theorem notes_of_ending {lefts rights : List Reading} (leftReads : left.Reads lefts)
    (rightReads : right.Reads rights) {report : Comparison.Report}
    (ending : Comparison.Ending lefts rights report) :
    left.Notes right (lefts.map Reading.id).toArray (rights.map Reading.id).toArray report.result
      report.event := by
  cases ending with
  | equal same =>
      have sizes := Reading.length_of_entries same
      have counted : lefts.length = (lefts.map Reading.id).toArray.size := by simp
      have agree := Comparison.match_of_entries leftReads.fits rightReads.fits same
      rw [Comparison.Report.event, counted]
      refine .equal (by simpa using sizes) fun position => ?_
      exact (Forest.alike_at_iff leftReads.read rightReads.read position).2 (agree position)
  | missing leftIs rightIs =>
      subst leftIs
      subst rightIs
      rw [Comparison.Report.event, leftReads.first_id]
      exact .missing (by simp [leftReads.absent_iff]) (rightReads.absent_iff.2 rfl)
  | extra leftIs rightIs =>
      subst leftIs
      subst rightIs
      have counted (first : Reading) (rest : List Reading) :
          (first :: rest).length = ((first :: rest).map Reading.id).toArray.size := by simp
      rw [Comparison.Report.event, rightReads.first_id, counted]
      exact .extra (leftReads.absent_iff.2 rfl) (by simp [rightReads.absent_iff])
  | differ leftAt rightAt apart before =>
      have part := part_of_readings leftReads rightReads leftAt rightAt apart before
      rcases Profile.mismatch_some apart with ⟨_, rfl⟩ | ⟨_, _, rfl⟩ | ⟨_, _, _, _, rfl⟩
      · exact .kind part
      · exact .type part
      · exact .attributes part

/-- A comparison of two trees, each of them absent or well formed, notes its roots and after that
just one event, which says what the report says: for equal trees the size of both listings, and
otherwise the difference and how many candidates were matched. -/
theorem comparison_noted (reachable : workspace.Reachable)
    (leftHeld : workspace.tree? leftHandle leftRoot = some left)
    (rightHeld : workspace.tree? rightHandle rightRoot = some right)
    (leftSound : left.isAbsent ∨ left.WellFormed) (rightSound : right.isAbsent ∨ right.WellFormed)
    (noted : Array Event) :
    ∃ report lefts rights outcome, left.compare right = .ok report ∧ left.listing = .ok lefts ∧
      right.listing = .ok rights ∧
      (left.compareTraced right).run.run noted =
        (.ok report, (noted.push (.comparing left.root right.root)).push outcome) ∧
      left.Notes right lefts rights report.result outcome := by
  obtain ⟨lefts, rights, report, leftReads, rightReads, compared, ending⟩ :=
    compare_ending (reachable.compatible leftHeld rightHeld) leftSound rightSound
  exact ⟨report, _, _, report.event, compared, leftReads.listing, rightReads.listing,
    compare_traced_run compared noted, notes_of_ending leftReads rightReads ending⟩

theorem comparison_noted_operands_apart :
    ∃ left right report lefts rights position, operandsApart.Reachable ∧
      operandsApart.tree? ⟨0⟩ ⟨2⟩ = some left ∧ operandsApart.tree? ⟨1⟩ ⟨3⟩ = some right ∧
      left.WellFormed ∧ right.WellFormed ∧ left.compare right = .ok report ∧
      left.listing = .ok lefts ∧ right.listing = .ok rights ∧
      (left.compareTraced right).events =
        (.ok report,
          #[.comparing left.root right.root, .differ (.attributes ⟨1⟩ ⟨2⟩ .value) (position + 1)]) ∧
      left.PartAt right lefts rights position ⟨1⟩ ⟨2⟩ (.attributes ⟨1⟩ ⟨2⟩ .value) := by
  have reachable : operandsApart.Reachable := ⟨_, rfl⟩
  obtain ⟨left, leftHeld, right, rightHeld, leftSound, rightSound, differ⟩ := operands_apart_held
  obtain ⟨report, lefts, rights, outcome, compared, leftListed, rightListed, ran, notes⟩ :=
    comparison_noted reachable leftHeld rightHeld (.inr leftSound) (.inr rightSound) #[]
  rw [compared, Except.toOption, Option.map_some, Option.some.injEq] at differ
  rw [differ] at notes
  cases notes with
  | @attributes position _ _ _ part =>
      exact ⟨left, right, report, lefts, rights, position, reachable, leftHeld, rightHeld,
        leftSound, rightSound, compared, leftListed, rightListed, ran, part⟩

end Tree

end ExprTree
