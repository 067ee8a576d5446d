import ExprTree.Proofs.Reading

/-!
The comparison never walks the right tree: it matches the left nodes with the list of candidates.
On readable nodes each match gives an answer, and with compatible names it is the difference between
the two readings. A comparison of such trees thus goes through two lists of readings; it finds no
difference exactly if the readings spell the same, and then the trees are the same.
-/

namespace ExprTree

set_option autoImplicit false

namespace Comparison

/-- What is reported on two lists of readings when `matched` candidates came before them. -/
def Report.ofReadings : List Reading → List Reading → Nat → Report
  | [], [], matched => ⟨.ok (), matched⟩
  | [], right :: rights, matched =>
      ⟨.error (.extraCandidates right.id (rights.length + 1)), matched⟩
  | left :: _, [], matched => ⟨.error (.missingCandidate left.id), matched⟩
  | left :: lefts, right :: rights, matched =>
      match left.mismatch? right with
      | none => ofReadings lefts rights (matched + 1)
      | some mismatch => ⟨.error mismatch, mismatch.matchedAt matched⟩

theorem of_readings_ok_iff {lefts rights : List Reading}
    (leftFits : ∀ left ∈ lefts, left.Fits) (rightFits : ∀ right ∈ rights, right.Fits)
    (matched : Nat) :
    (Report.ofReadings lefts rights matched).result = .ok () ↔
      lefts.map Reading.entry = rights.map Reading.entry := by
  induction lefts generalizing rights matched with
  | nil => cases rights <;> simp [Report.ofReadings]
  | cons left lefts induction =>
      cases rights with
      | nil => simp [Report.ofReadings]
      | cons right rights =>
          rw [List.forall_mem_cons] at leftFits rightFits
          have exactly := Reading.mismatch_none_iff leftFits.1 rightFits.1
          have later := induction leftFits.2 rightFits.2 (matched + 1)
          rw [List.map_cons, List.map_cons, List.cons.injEq, ← exactly, ← later, Report.ofReadings]
          cases left.mismatch? right <;> simp

theorem of_readings_first {lefts rights : List Reading} {position : Nat} {left right : Reading}
    {mismatch : Mismatch} (leftAt : lefts[position]? = some left)
    (rightAt : rights[position]? = some right) (apart : left.mismatch? right = some mismatch)
    (before : ∀ earlier < position, ∀ left right, lefts[earlier]? = some left →
      rights[earlier]? = some right → left.mismatch? right = none) (matched : Nat) :
    Report.ofReadings lefts rights matched =
      ⟨.error mismatch, mismatch.matchedAt (matched + position)⟩ := by
  induction position generalizing lefts rights matched with
  | zero =>
      cases lefts with
      | nil => simp at leftAt
      | cons first lefts =>
          cases rights with
          | nil => simp at rightAt
          | cons other rights =>
              cases leftAt
              cases rightAt
              rw [Report.ofReadings, apart]
              rfl
  | succ position induction =>
      cases lefts with
      | nil => simp at leftAt
      | cons first lefts =>
          cases rights with
          | nil => simp at rightAt
          | cons other rights =>
              have heads : first.mismatch? other = none :=
                before 0 (Nat.succ_pos position) first other rfl rfl
              have later := induction leftAt rightAt
                (fun earlier sooner => before (earlier + 1) (Nat.succ_lt_succ sooner)) (matched + 1)
              rw [Report.ofReadings, heads]
              rw [Nat.add_right_comm] at later
              exact later

/-- Readings of two trees that match as far as both listings go are readings of one tree. -/
theorem entries_of_agree {lefts rights : List Reading} {leftTerm rightTerm : Term}
    (leftFits : ∀ left ∈ lefts, left.Fits) (rightFits : ∀ right ∈ rights, right.Fits)
    (leftSpelled : lefts.map Reading.entry = leftTerm.spelling)
    (rightSpelled : rights.map Reading.entry = rightTerm.spelling)
    (agree : ∀ (position : Nat) left right, lefts[position]? = some left →
      rights[position]? = some right → left.mismatch? right = none) :
    lefts.map Reading.entry = rights.map Reading.entry := by
  rw [leftSpelled, rightSpelled]
  apply congrArg OrderedTree.spelling
  apply OrderedTree.spelling_agree_inj
  intro position leftEntry rightEntry leftAt rightAt
  rw [← leftSpelled, List.getElem?_map, Option.map_eq_some_iff] at leftAt
  rw [← rightSpelled, List.getElem?_map, Option.map_eq_some_iff] at rightAt
  obtain ⟨left, leftAt, rfl⟩ := leftAt
  obtain ⟨right, rightAt, rfl⟩ := rightAt
  apply (Reading.mismatch_none_iff (leftFits left (List.mem_of_getElem? leftAt))
    (rightFits right (List.mem_of_getElem? rightAt))).1
  exact agree position left right leftAt rightAt

theorem of_readings_agree {lefts rights : List Reading} {leftTerm rightTerm : Term}
    (leftFits : ∀ left ∈ lefts, left.Fits) (rightFits : ∀ right ∈ rights, right.Fits)
    (leftSpelled : lefts.map Reading.entry = leftTerm.spelling)
    (rightSpelled : rights.map Reading.entry = rightTerm.spelling)
    (agree : ∀ (position : Nat) left right, lefts[position]? = some left →
      rights[position]? = some right → left.mismatch? right = none) (matched : Nat) :
    (Report.ofReadings lefts rights matched).result = .ok () :=
  (of_readings_ok_iff leftFits rightFits matched).2
    (entries_of_agree leftFits rightFits leftSpelled rightSpelled agree)

variable {comparison : Comparison}

def conclude (comparison : Comparison) : Except Stop Nat → Except Refusal Report
  | .ok matched => .ok ⟨comparison.finish matched, matched⟩
  | .error (.differ mismatch matched) => .ok ⟨.error mismatch, matched⟩
  | .error (.fault fault) => .error (.fault fault)

theorem step_reads {left right : Reading} {position : Nat}
    (candidate : comparison.candidates[position]? = some right.id)
    (leftRead : comparison.left.Reads left) (rightRead : comparison.right.Reads right) :
    ∃ answer : Option Mismatch,
      (comparison.step left.id position =
        match answer with
        | none => .ok (position + 1)
        | some mismatch => .error (.differ mismatch (mismatch.matchedAt position))) ∧
      (comparison.left.Compatible comparison.right → answer = left.mismatch? right) :=
  step_spec candidate leftRead.known.2.2 rightRead.known.2.2

/-- Matching left nodes with the candidates from a position on. The induction is on the left nodes;
each of them takes one candidate, or finds none left. -/
theorem conclude_scan {lefts rights : List Reading}
    (queue : comparison.candidates = (rights.map Reading.id).toArray)
    (leftRead : ∀ left ∈ lefts, comparison.left.Reads left)
    (rightRead : ∀ right ∈ rights, comparison.right.Reads right) (matched : Nat) :
    ∃ report,
      comparison.conclude ((lefts.map Reading.id).foldlM
          (fun matched id => comparison.step id matched) matched) = .ok report ∧
        (comparison.left.Compatible comparison.right →
          report = .ofReadings lefts (rights.drop matched) matched) := by
  induction lefts generalizing matched with
  | nil =>
      refine ⟨⟨comparison.finish matched, matched⟩, rfl, ?_⟩
      intro _
      by_cases inside : matched < rights.length
      · rw [List.drop_eq_getElem_cons inside]
        simp [Report.ofReadings, finish, queue, inside]
        omega
      · rw [List.drop_eq_nil_of_le (Nat.le_of_not_lt inside)]
        simp [Report.ofReadings, finish, queue, inside]
  | cons left lefts induction =>
      rw [List.forall_mem_cons] at leftRead
      by_cases inside : matched < rights.length
      · have candidate : comparison.candidates[matched]? = some rights[matched].id := by
          simp [queue, inside]
        obtain ⟨answer, stepped, exactly⟩ :=
          step_reads candidate leftRead.1 (rightRead _ (List.getElem_mem inside))
        rw [List.map_cons, List.foldlM_cons, stepped, List.drop_eq_getElem_cons inside]
        cases answer with
        | some mismatch =>
            refine ⟨⟨.error mismatch, mismatch.matchedAt matched⟩, rfl, ?_⟩
            intro compatible
            rw [Report.ofReadings, ← exactly compatible]
        | none =>
            obtain ⟨report, concluded, remaining⟩ := induction leftRead.2 (matched + 1)
            refine ⟨report, concluded, ?_⟩
            intro compatible
            rw [Report.ofReadings, ← exactly compatible]
            exact remaining compatible
      · have stepped : comparison.step left.id matched =
            .error (.differ (.missingCandidate left.id) matched) := by
          simp [step, queue, inside]
        rw [List.map_cons, List.foldlM_cons, stepped,
          List.drop_eq_nil_of_le (Nat.le_of_not_lt inside)]
        exact ⟨⟨.error (.missingCandidate left.id), matched⟩, rfl, fun _ => rfl⟩

end Comparison

namespace Tree

variable {left right : Tree}

theorem compare_eq {candidates : Array NodeId} (leftValid : left.validate = .ok ())
    (rightValid : right.validate = .ok ()) (listed : right.listing = .ok candidates) :
    left.compare right =
      Comparison.conclude ⟨left.forest, right.forest, candidates⟩
        (left.walk (Comparison.visitor ⟨left.forest, right.forest, candidates⟩) 0) := by
  rw [Tree.compare, leftValid, rightValid, listed]
  change (match left.walk (Comparison.visitor ⟨left.forest, right.forest, candidates⟩) 0 with
    | .ok matched => _
    | .error (.differ mismatch matched) => _
    | .error (.fault fault) => _) = _
  cases left.walk (Comparison.visitor ⟨left.forest, right.forest, candidates⟩) 0 with
  | ok matched => rfl
  | error stop => cases stop <;> rfl

theorem compare_of_reads {lefts rights : List Reading} (leftValid : left.validate = .ok ())
    (rightValid : right.validate = .ok ()) (leftReads : left.Reads lefts)
    (rightReads : right.Reads rights) :
    ∃ report, left.compare right = .ok report ∧
      (left.forest.Compatible right.forest → report = .ofReadings lefts rights 0) := by
  let comparison : Comparison := ⟨left.forest, right.forest, (rights.map Reading.id).toArray⟩
  have queue : comparison.candidates = (rights.map Reading.id).toArray := rfl
  have walked := walk_of_sequence leftReads.met comparison.step .fault 0
  obtain ⟨report, concluded, exactly⟩ :=
    Comparison.conclude_scan queue leftReads.read rightReads.read 0
  refine ⟨report, ?_, exactly⟩
  rw [compare_eq leftValid rightValid rightReads.listing, Comparison.visitor, walked]
  exact concluded

/-- Comparing trees that can be read gives a report, and with compatible names the trees are reported
to be equal exactly if they unfold to the same. -/
theorem compare_spec (leftValid : left.validate = .ok ()) (rightValid : right.validate = .ok ())
    (leftTyped : left.Typed) (rightTyped : right.Typed) :
    ∃ report leftTerm rightTerm, left.compare right = .ok report ∧
      left.unfold = .ok leftTerm ∧ right.unfold = .ok rightTerm ∧
      (left.forest.Compatible right.forest →
        (report.result = .ok () ↔ leftTerm = rightTerm)) := by
  obtain ⟨lefts, leftTerm, leftReads, leftUnfolded, leftSpelled⟩ :=
    reads_of_validate leftValid leftTyped
  obtain ⟨rights, rightTerm, rightReads, rightUnfolded, rightSpelled⟩ :=
    reads_of_validate rightValid rightTyped
  obtain ⟨report, compared, exactly⟩ :=
    compare_of_reads leftValid rightValid leftReads rightReads
  refine ⟨report, leftTerm, rightTerm, compared, leftUnfolded, rightUnfolded, ?_⟩
  intro compatible
  rw [exactly compatible, Comparison.of_readings_ok_iff leftReads.fits rightReads.fits,
    leftSpelled, rightSpelled]
  constructor
  · exact spelling_inj
  · intro same
    rw [same]

end Tree

end ExprTree
