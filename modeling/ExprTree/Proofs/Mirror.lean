import ExprTree.Proofs.Outcome

/-!
Comparing two trees in the other order gives the same report with the two sides exchanged, although
only one of the trees is walked through and the other one is a list. Two nodes differ in the same
way from either side: their attributes are compared in one order, which their kind fixes. So the
first position at which two listings part is the same in both orders, and so is what is found there.
-/

namespace ExprTree

set_option autoImplicit false

/-- The mismatch as it is reported in the other order, if the left tree has so many nodes: a left
node without a counterpart is then the first of all that are left over. -/
def Mismatch.exchange (leftSize : Nat) : Mismatch → Mismatch
  | .missingCandidate left => .extraCandidates left leftSize
  | .extraCandidates first _ => .missingCandidate first
  | .kind left right leftKind rightKind => .kind right left rightKind leftKind
  | .type left right leftType rightType => .type right left rightType leftType
  | .attributes left right first => .attributes right left first

theorem first_apart_symm {lefts rights : List (Attribute × Meaning)}
    (aligned : ∀ (position : Nat) left right, lefts[position]? = some left →
      rights[position]? = some right → left.1 = right.1) :
    firstApart rights lefts = firstApart lefts rights := by
  induction lefts generalizing rights with
  | nil => cases rights <;> rfl
  | cons first lefts induction =>
      cases rights with
      | nil => rfl
      | cons other rights =>
          obtain ⟨leftKey, left⟩ := first
          obtain ⟨rightKey, right⟩ := other
          have keys : leftKey = rightKey := aligned 0 _ _ rfl rfl
          have later := induction fun position => aligned (position + 1)
          rw [firstApart, firstApart, later, keys]
          simp only [eq_comm]

namespace Reading

variable {left right : Reading}

theorem first_apart_symm (leftFits : left.Fits) (rightFits : right.Fits)
    (kinds : left.label.kind = right.label.kind) :
    firstApart right.profile.traits left.profile.traits =
      firstApart left.profile.traits right.profile.traits := by
  have rightSuits := rightFits.suits
  rw [← kinds] at rightSuits
  exact ExprTree.first_apart_symm (Content.traits_aligned leftFits.suits rightSuits)

theorem mismatch_exchange (leftFits : left.Fits) (rightFits : right.Fits) (size : Nat) :
    right.mismatch? left = (left.mismatch? right).map (Mismatch.exchange size) := by
  unfold mismatch? Profile.mismatch?
  simp only [profile_kind, profile_type]
  by_cases kinds : left.label.kind = right.label.kind
  · by_cases types : left.label.type = right.label.type
    · rw [first_apart_symm leftFits rightFits kinds]
      simp only [kinds, types, ne_eq, not_true_eq_false, if_false, Option.map_map]
      rfl
    · simp [kinds, types, Ne.symm types, Mismatch.exchange]
  · simp [kinds, Ne.symm kinds, Mismatch.exchange]

end Reading

theorem Mismatch.matched_at_exchange (mismatch : Mismatch) (size position : Nat) :
    (mismatch.exchange size).matchedAt position = mismatch.matchedAt position := by
  cases mismatch <;> rfl

namespace Comparison

variable {lefts rights : List Reading} {report : Report}

def Report.exchange (leftSize : Nat) (report : Report) : Report :=
  ⟨report.result.mapError (Mismatch.exchange leftSize), report.matched⟩

theorem MatchAt.exchange {position : Nat} (leftFits : ∀ left ∈ lefts, left.Fits)
    (rightFits : ∀ right ∈ rights, right.Fits) (agree : MatchAt lefts rights position) :
    MatchAt rights lefts position := by
  intro right left rightAt leftAt
  rw [Reading.mismatch_exchange (leftFits left (List.mem_of_getElem? leftAt))
    (rightFits right (List.mem_of_getElem? rightAt)) 0, agree left right leftAt rightAt]
  rfl

theorem Ending.exchange (leftFits : ∀ left ∈ lefts, left.Fits)
    (rightFits : ∀ right ∈ rights, right.Fits) (ending : Ending lefts rights report) :
    Ending rights lefts (report.exchange lefts.length) := by
  cases ending with
  | equal same =>
      have lengths : lefts.length = rights.length := by
        simpa using congrArg List.length same
      rw [lengths]
      exact .equal same.symm
  | missing leftIs rightIs => exact .extra rightIs leftIs
  | extra leftIs rightIs => exact .missing rightIs leftIs
  | @differ position left right mismatch leftAt rightAt apart before =>
      have leftIn := leftFits left (List.mem_of_getElem? leftAt)
      have rightIn := rightFits right (List.mem_of_getElem? rightAt)
      have exchanged : right.mismatch? left = some (mismatch.exchange lefts.length) := by
        rw [Reading.mismatch_exchange leftIn rightIn lefts.length, apart]
        rfl
      have parted := Ending.differ rightAt leftAt exchanged fun earlier sooner =>
        (before earlier sooner).exchange leftFits rightFits
      rw [Mismatch.matched_at_exchange] at parted
      exact parted

end Comparison

namespace Tree

variable {workspace : Workspace} {leftHandle rightHandle : ArenaHandle}
  {leftRoot rightRoot : NodeId} {left right : Tree}

/-- The order in which two trees are compared does not matter: either report is the other one with
the sides exchanged. -/
theorem compare_exchanged (reachable : workspace.Reachable)
    (leftHeld : workspace.tree? leftHandle leftRoot = some left)
    (rightHeld : workspace.tree? rightHandle rightRoot = some right)
    (leftSound : left.isAbsent ∨ left.WellFormed) (rightSound : right.isAbsent ∨ right.WellFormed) :
    ∃ report mirrored lefts rights, left.compare right = .ok report ∧
      right.compare left = .ok mirrored ∧ left.listing = .ok lefts ∧ right.listing = .ok rights ∧
      mirrored = report.exchange lefts.size ∧ report = mirrored.exchange rights.size := by
  obtain ⟨lefts, rights, report, leftReads, rightReads, compared, ending⟩ :=
    compare_ending (reachable.compatible leftHeld rightHeld) leftSound rightSound
  obtain ⟨otherRights, otherLefts, mirrored, otherRightReads, otherLeftReads, exchanged,
    mirroredEnding⟩ := compare_ending (reachable.compatible rightHeld leftHeld) rightSound leftSound
  cases leftReads.unique otherLeftReads
  cases rightReads.unique otherRightReads
  refine ⟨report, mirrored, _, _, compared, exchanged, leftReads.listing, rightReads.listing, ?_,
    ?_⟩
  · have turned := ending.exchange leftReads.fits rightReads.fits
    rw [← mirroredEnding.reported rightReads.fits leftReads.fits,
      turned.reported rightReads.fits leftReads.fits]
    simp
  · have turned := mirroredEnding.exchange rightReads.fits leftReads.fits
    rw [← ending.reported leftReads.fits rightReads.fits,
      turned.reported leftReads.fits rightReads.fits]
    simp

/-- Two differences of constants with different second operands, at different places of two
arenas. -/
def operandsApart : Workspace :=
  Workspace.performAll {}
    [.newArena none, .build ⟨0⟩ (.int 1), .build ⟨0⟩ (.int 2),
     .build ⟨0⟩ (.binary .subtract ⟨0⟩ ⟨1⟩ .builtin .int),
     .newArena none, .build ⟨1⟩ (.string "x"), .build ⟨1⟩ (.int 1), .build ⟨1⟩ (.int 3),
     .build ⟨1⟩ (.binary .subtract ⟨1⟩ ⟨2⟩ .builtin .int)]

theorem operands_apart_held :
    ∃ left ∈ operandsApart.tree? ⟨0⟩ ⟨2⟩, ∃ right ∈ operandsApart.tree? ⟨1⟩ ⟨3⟩,
      left.WellFormed ∧ right.WellFormed ∧
        (left.compare right).toOption.map (·.result) =
          some (.error (.attributes ⟨1⟩ ⟨2⟩ .value)) := by
  decide +kernel

theorem compare_exchanged_operands_apart :
    ∃ left right report mirrored, operandsApart.Reachable ∧
      operandsApart.tree? ⟨0⟩ ⟨2⟩ = some left ∧ operandsApart.tree? ⟨1⟩ ⟨3⟩ = some right ∧
      left.WellFormed ∧ right.WellFormed ∧ left.compare right = .ok report ∧
      report.result = .error (.attributes ⟨1⟩ ⟨2⟩ .value) ∧ right.compare left = .ok mirrored ∧
      mirrored.result = .error (.attributes ⟨2⟩ ⟨1⟩ .value) := by
  have reachable : operandsApart.Reachable := ⟨_, rfl⟩
  obtain ⟨left, leftHeld, right, rightHeld, leftSound, rightSound, differ⟩ := operands_apart_held
  obtain ⟨report, mirrored, _, _, compared, exchanged, _, _, same, _⟩ := compare_exchanged reachable
    leftHeld rightHeld (.inr leftSound) (.inr rightSound)
  rw [compared, Except.toOption, Option.map_some, Option.some.injEq] at differ
  refine ⟨left, right, report, mirrored, reachable, leftHeld, rightHeld, leftSound, rightSound,
    compared, differ, exchanged, ?_⟩
  rw [same, Comparison.Report.exchange, differ]
  rfl

end Tree

end ExprTree
