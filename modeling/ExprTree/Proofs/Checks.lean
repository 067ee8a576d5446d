import ExprTree.Proofs.NodeChecks

/-!
The checks of one node as a list: what they ask for, in the order in which they ask, each with the
defect it finds. `checkNode` gives the defect of the first entry that does not hold. What such a
defect says of the node is true, and the faults of the look-ups that the checks need never occur.
-/

namespace ExprTree

set_option autoImplicit false

structure Check where
  holds : Prop
  defect : Defect

namespace Check

variable {Item : Type} {check : Check} {checks first second : List Check} {defect other : Defect}

/-- The first check of a list that does not hold finds the defect. -/
inductive Fails : List Check → Defect → Prop where
  | here {check : Check} {rest : List Check} (broken : ¬check.holds) :
      Fails (check :: rest) check.defect
  | later {check : Check} {rest : List Check} {defect : Defect} (holds : check.holds)
      (fails : Fails rest defect) : Fails (check :: rest) defect

namespace Fails

theorem prepend (holds : ∀ check ∈ first, check.holds) (fails : Fails second defect) :
    Fails (first ++ second) defect := by
  induction first with
  | nil => exact fails
  | cons check rest induction =>
      rw [List.forall_mem_cons] at holds
      exact .later holds.1 (induction holds.2)

theorem append (fails : Fails first defect) (second : List Check) :
    Fails (first ++ second) defect := by
  induction fails with
  | here broken => exact .here broken
  | later holds _ induction => exact .later holds induction

theorem of_append (fails : Fails (first ++ second) defect) :
    Fails first defect ∨ (∀ check ∈ first, check.holds) ∧ Fails second defect := by
  induction first with
  | nil => exact .inr ⟨by simp, fails⟩
  | cons check rest induction =>
      cases fails with
      | here broken => exact .inl (.here broken)
      | later holds fails =>
          rcases induction fails with fails | ⟨others, fails⟩
          · exact .inl (.later holds fails)
          · exact .inr ⟨List.forall_mem_cons.2 ⟨holds, others⟩, fails⟩

theorem of_flat_map {asked : Item → List Check} {items : List Item}
    (fails : Fails (items.flatMap asked) defect) : ∃ item ∈ items, Fails (asked item) defect := by
  induction items with
  | nil => cases fails
  | cons item items induction =>
      rw [List.flatMap_cons] at fails
      rcases fails.of_append with fails | ⟨_, fails⟩
      · exact ⟨item, by simp, fails⟩
      · obtain ⟨later, member, fails⟩ := induction fails
        exact ⟨later, by simp [member], fails⟩

theorem broken (fails : Fails checks defect) :
    ∃ check ∈ checks, ¬check.holds ∧ check.defect = defect := by
  induction fails with
  | here broken => exact ⟨_, by simp, broken, rfl⟩
  | later _ _ induction =>
      obtain ⟨check, member, found⟩ := induction
      exact ⟨check, by simp [member], found⟩

theorem unique (fails : Fails checks defect) (otherFails : Fails checks other) :
    defect = other := by
  induction fails with
  | here broken =>
      cases otherFails with
      | here => rfl
      | later holds => exact absurd holds broken
  | later holds _ induction =>
      cases otherFails with
      | here broken => exact absurd holds broken
      | later _ otherFails => exact induction otherFails

end Fails

inductive Judges (checks : List Check) : Except Refusal Unit → Prop where
  | pass (holds : ∀ check ∈ checks, check.holds) : Judges checks (.ok ())
  | fail {defect : Defect} (fails : Fails checks defect) :
      Judges checks (.error (.malformed defect))

namespace Judges

variable {result : Except Refusal Unit}

theorem nothing : Judges [] (.ok ()) := .pass (by simp)

theorem cons {rest : List Check} (broken : ¬check.holds → result = .error (.malformed check.defect))
    (onward : check.holds → Judges rest result) : Judges (check :: rest) result := by
  by_cases holds : check.holds
  · cases onward holds with
    | pass others => exact .pass (List.forall_mem_cons.2 ⟨holds, others⟩)
    | fail fails => exact .fail (.later holds fails)
  · rw [broken holds]
    exact .fail (.here holds)

theorem append {next : Unit → Except Refusal Unit} (judged : Judges first result)
    (continued : result = .ok () → Judges second (next ())) :
    Judges (first ++ second) (result >>= next) := by
  cases judged with
  | fail fails => exact .fail (fails.append second)
  | pass holds =>
      have onward := continued rfl
      change Judges (first ++ second) (next ())
      generalize next () = answer at onward ⊢
      cases onward with
      | pass others => exact .pass (List.forall_mem_append.2 ⟨holds, others⟩)
      | fail fails => exact .fail (fails.prepend holds)

theorem each {asked : Item → List Check} {f : Item → Except Refusal Unit} {items : List Item}
    (single : ∀ item ∈ items, Judges (asked item) (f item)) :
    Judges (items.flatMap asked) (items.forM f) := by
  induction items with
  | nil => exact nothing
  | cons item items induction =>
      rw [List.forall_mem_cons] at single
      rw [List.flatMap_cons]
      exact single.1.append fun _ => induction single.2

theorem ok_iff (judged : Judges checks result) :
    result = .ok () ↔ ∀ check ∈ checks, check.holds := by
  cases judged with
  | pass holds => exact iff_of_true rfl holds
  | fail fails =>
      obtain ⟨check, member, broken, _⟩ := fails.broken
      exact iff_of_false (by simp) fun holds => broken (holds check member)

end Judges

end Check

namespace Arena

/-- A present child must stand in the slot, and the given one does. -/
inductive Demands (arena : Arena) (kind : ExprKind) (slot : Slot) (child : NodeId) : Prop where
  | single (place : .required slot child ∈ kind.fields)
  | entry {range : NodeRange} {children : List NodeId} (place : .list slot range ∈ kind.fields)
      (listed : arena.childList range = .ok children) (member : child ∈ children)

inductive Places (arena : Arena) (kind : ExprKind) (slot : Slot) (child : NodeId) : Prop where
  | optional (place : .optional slot child ∈ kind.fields)
  | demanded (demands : arena.Demands kind slot child)

end Arena

namespace Forest

open Check

variable {forest : Forest} {id parent : NodeId} {kind : ExprKind} {defect : Defect}

/-- What a defect says, and that it is true of the node, which is of the kind. -/
inductive DefectOf (forest : Forest) (id : NodeId) (kind : ExprKind) : Defect → Prop where
  | dangling {slot : Slot} {child : NodeId} (placed : forest.arena.Places kind slot child)
      (present : child.isPresent) (outside : ¬forest.arena.contains child) :
      DefectOf forest id kind (.danglingNode child forest.arena.size)
  | missing {slot : Slot} (demanded : forest.arena.Demands kind slot .absent) :
      DefectOf forest id kind (.missingChild id slot)
  | forward {slot : Slot} {child : NodeId} (placed : forest.arena.Places kind slot child)
      (contained : forest.arena.contains child) (younger : id.index ≤ child.index) :
      DefectOf forest id kind (.forwardReference id child)
  | childRange {slot : Slot} {range : NodeRange} (place : .list slot range ∈ kind.fields)
      (filled : range.size ≠ 0) (past : forest.arena.childLists.size < range.stop) :
      DefectOf forest id kind (.rangeOutOfBounds id slot range.first range.stop)
  | memberRange {ctor : Option CtorId} {args : NodeRange} {members : MemberRange}
      (own : kind = .new ctor args members) (filled : members.size ≠ 0)
      (past : forest.arena.memberLists.size < members.stop) :
      DefectOf forest id kind (.rangeOutOfBounds id .members members.first members.stop)
  | arity {ctor : Option CtorId} {args : NodeRange} {members : MemberRange}
      (own : kind = .new ctor args members) (filled : members.size ≠ 0)
      (differ : members.size ≠ args.size) :
      DefectOf forest id kind (.memberArityMismatch id members.size args.size)
  | param {body param : NodeId} {params : NodeRange} {children : List NodeId} {other : ExprKind}
      (own : kind = .lambda body params) (listed : forest.arena.childList params = .ok children)
      (member : param ∈ children) (found : forest.arena.kind param = .ok other)
      (unnamed : ¬other.isParameter) :
      DefectOf forest id kind (.nonParameterParam id param)
  | name {name : Name} (own : kind = .parameter name ∨ kind = .constant (.text name))
      (unknown : forest.names.size ≤ name.index) :
      DefectOf forest id kind (.unknownName id name)

def childChecks (forest : Forest) (parent child : NodeId) : List Check :=
  [⟨forest.arena.contains child, .danglingNode child forest.arena.size⟩,
    ⟨child.index < parent.index, .forwardReference parent child⟩]

def requiredChecks (forest : Forest) (parent : NodeId) (slot : Slot) (child : NodeId) :
    List Check :=
  ⟨child.isPresent, .missingChild parent slot⟩ :: forest.childChecks parent child

def fieldChecks (forest : Forest) (parent : NodeId) : ChildField → List Check
  | .optional _ child => if child.isPresent then forest.childChecks parent child else []
  | .required slot child => forest.requiredChecks parent slot child
  | .list slot range =>
      ⟨forest.arena.childLists.Inside range,
          .rangeOutOfBounds parent slot range.first range.stop⟩ ::
        (forest.arena.entries range).flatMap (forest.requiredChecks parent slot)

def contentChecks (forest : Forest) (id : NodeId) : ExprKind → List Check
  | .constant (.text name) | .parameter name =>
      [⟨name.index < forest.names.size, .unknownName id name⟩]
  | .new _ args members =>
      [⟨forest.arena.memberLists.Inside members,
          .rangeOutOfBounds id .members members.first members.stop⟩,
        ⟨members.size = 0 ∨ members.size = args.size,
          .memberArityMismatch id members.size args.size⟩]
  | .lambda _ params =>
      (forest.arena.entries params).flatMap fun param =>
        [⟨∃ name, forest.arena.kinds[param.index]? = some (.parameter name),
          .nonParameterParam id param⟩]
  | _ => []

/-- Everything that is asked of a node of the kind: slot by slot, and then what the slots hold. -/
def checks (forest : Forest) (id : NodeId) (kind : ExprKind) : List Check :=
  kind.fields.flatMap (forest.fieldChecks id) ++ forest.contentChecks id kind

theorem judge_child (child : NodeId) :
    Judges (forest.childChecks parent child) (forest.checkChild parent child) := by
  unfold checkChild
  refine .cons (fun outside => if_pos (by simpa using outside)) fun inside => ?_
  rw [if_neg (by simpa using inside)]
  refine .cons (fun younger => ?_) fun older => ?_
  · exact if_pos (by simpa only [NodeId.index_lt_iff, not_not] using younger)
  · rw [if_neg (NodeId.index_lt_iff.1 older)]
    exact .nothing

theorem judge_required (slot : Slot) (child : NodeId) :
    Judges (forest.requiredChecks parent slot child) (forest.checkRequired parent slot child) := by
  unfold checkRequired
  refine .cons (fun absent => if_neg absent) fun present => ?_
  rw [if_pos present]
  exact judge_child child

theorem judge_field (field : ChildField) :
    Judges (forest.fieldChecks parent field) (forest.checkField parent field) := by
  cases field with
  | optional slot child =>
      simp only [fieldChecks, checkField]
      split
      · exact judge_child child
      · exact .nothing
  | required slot child => exact judge_required slot child
  | list slot range =>
      simp only [fieldChecks, checkField]
      refine .cons (fun outside => if_neg (ListTable.contains_iff.not.2 outside)) fun inside => ?_
      rw [if_pos (ListTable.contains_iff.2 inside), Arena.child_list_eq inside]
      exact .each fun child _ => judge_required slot child

theorem judge_fields (id : NodeId) (kind : ExprKind) :
    Judges (kind.fields.flatMap (forest.fieldChecks id))
      (kind.fields.forM (forest.checkField id)) :=
  .each fun field _ => judge_field field

theorem params_listed {body : NodeId} {params : NodeRange}
    (accepted : (ExprKind.lambda body params).fields.forM (forest.checkField id) = .ok ()) :
    forest.arena.childList params = .ok (forest.arena.entries params) ∧
      ∀ param ∈ forest.arena.entries params, param.index < forest.arena.size := by
  obtain ⟨_, present, precede, inside⟩ := check_fields_ok_iff.1 accepted
  refine ⟨Arena.child_list_eq (inside params rfl), fun param member => ?_⟩
  have below : param ∈ forest.arena.offspring (.lambda body params) :=
    Arena.mem_offspring.2 ⟨present params rfl param member, .inr (.inr ⟨params, rfl, member⟩)⟩
  exact (precede param below).1

theorem judge_name (name : Name) :
    Judges [⟨name.index < forest.names.size, .unknownName id name⟩]
      (forest.checkName id name) := by
  refine .cons (fun unknown => ?_) fun known => ?_
  · have refused : ¬forest.names.contains name := by
      simpa [Interner.contains, Interner.size] using unknown
    exact if_neg refused
  · rw [check_name_ok_iff.2 known]
    exact .nothing

theorem exists_parameter_iff {param : NodeId} :
    (∃ name, forest.arena.kinds[param.index]? = some (.parameter name)) ↔
      ∃ kind, forest.arena.kinds[param.index]? = some kind ∧ kind.isParameter := by
  constructor
  · intro ⟨name, found⟩
    exact ⟨_, found, rfl⟩
  · intro ⟨kind, found, isParameter⟩
    cases kind with
    | parameter name => exact ⟨name, found⟩
    | _ => cases isParameter

theorem judge_param {param : NodeId} (inside : param.index < forest.arena.size) :
    Judges [⟨∃ name, forest.arena.kinds[param.index]? = some (.parameter name),
      .nonParameterParam id param⟩] (forest.checkParam id param) := by
  refine .cons (fun other => ?_) fun named => ?_
  · have found := Array.getElem?_eq_getElem inside
    unfold checkParam
    rw [Arena.kind_ok_iff.2 found]
    exact if_neg fun isParameter => other (exists_parameter_iff.2 ⟨_, found, isParameter⟩)
  · rw [check_param_ok_iff.2 named]
    exact .nothing

theorem judge_content (accepted : kind.fields.forM (forest.checkField id) = .ok ()) :
    Judges (forest.contentChecks id kind) (forest.checkContent id kind) := by
  cases kind with
  | constant value =>
      cases value with
      | text name => exact judge_name name
      | _ => exact .nothing
  | parameter name => exact judge_name name
  | new ctor args members =>
      simp only [contentChecks, checkContent]
      refine .cons (fun outside => ?_) fun inside => ?_
      · exact if_pos (by simpa [← ListTable.contains_iff] using outside)
      · rw [if_neg (by simpa [← ListTable.contains_iff] using inside)]
        refine .cons (fun differ => ?_) fun fitting => ?_
        · exact if_pos (by simpa [ListTable.is_empty_iff, ← Bool.not_eq_true] using differ)
        · rw [if_neg (by simpa [ListTable.is_empty_iff, ← Bool.not_eq_true, imp_iff_not_or]
            using fitting)]
          exact .nothing
  | lambda body params =>
      -- The parameters have passed as children, so each of them is a node with a kind.
      obtain ⟨listed, inside⟩ := params_listed accepted
      simp only [contentChecks, checkContent, listed]
      exact Judges.each fun param member => judge_param (inside param member)
  | _ => exact .nothing

/-- The check of a node comes to the first defect of its list, and to no fault. -/
theorem judge_node (found : forest.arena.kinds[id.index]? = some kind) :
    Judges (forest.checks id kind) (forest.checkNode id) := by
  unfold checkNode checks
  rw [Arena.kind_ok_iff.2 found]
  exact (judge_fields id kind).append judge_content

theorem defect_of_child {slot : Slot} {child : NodeId}
    (placed : forest.arena.Places kind slot child) (present : child.isPresent)
    (fails : Fails (forest.childChecks id child) defect) : forest.DefectOf id kind defect := by
  cases fails with
  | here outside => exact .dangling placed present outside
  | later contained fails =>
      cases fails with
      | here younger => exact .forward placed contained (Nat.le_of_not_lt younger)
      | later _ fails => cases fails

theorem defect_of_demanded {slot : Slot} {child : NodeId}
    (demanded : forest.arena.Demands kind slot child)
    (fails : Fails (forest.requiredChecks id slot child) defect) :
    forest.DefectOf id kind defect := by
  cases fails with
  | here missing =>
      have absent : child = .absent := by simpa [NodeId.isPresent] using missing
      rw [absent] at demanded
      exact .missing demanded
  | later present fails => exact defect_of_child (.demanded demanded) present fails

theorem defect_of_field {field : ChildField} (place : field ∈ kind.fields)
    (fails : Fails (forest.fieldChecks id field) defect) : forest.DefectOf id kind defect := by
  cases field with
  | optional slot child =>
      simp only [fieldChecks] at fails
      split at fails
      case isTrue present => exact defect_of_child (.optional place) present fails
      case isFalse => cases fails
  | required slot child => exact defect_of_demanded (.single place) fails
  | list slot range =>
      cases fails with
      | here outside =>
          obtain ⟨filled, past⟩ := not_or.1 outside
          exact .childRange place filled (Nat.lt_of_not_le past)
      | later inside fails =>
          obtain ⟨child, member, fails⟩ := fails.of_flat_map
          exact defect_of_demanded (.entry place (Arena.child_list_eq inside) member) fails

theorem defect_of_content (accepted : kind.fields.forM (forest.checkField id) = .ok ())
    (fails : Fails (forest.contentChecks id kind) defect) : forest.DefectOf id kind defect := by
  cases kind with
  | constant value =>
      cases value with
      | text name =>
          cases fails with
          | here unknown => exact .name (.inr rfl) (Nat.le_of_not_lt unknown)
          | later _ fails => cases fails
      | _ => cases fails
  | parameter name =>
      cases fails with
      | here unknown => exact .name (.inl rfl) (Nat.le_of_not_lt unknown)
      | later _ fails => cases fails
  | new ctor args members =>
      cases fails with
      | here outside =>
          obtain ⟨filled, past⟩ := not_or.1 outside
          exact .memberRange rfl filled (Nat.lt_of_not_le past)
      | later inside fails =>
          cases fails with
          | here unfitting =>
              obtain ⟨filled, differ⟩ := not_or.1 unfitting
              exact .arity rfl filled differ
          | later _ fails => cases fails
  | lambda body params =>
      obtain ⟨param, member, fails⟩ := fails.of_flat_map
      cases fails with
      | here unnamed =>
          obtain ⟨listed, inside⟩ := params_listed accepted
          have found := Array.getElem?_eq_getElem (inside param member)
          refine .param rfl listed member (Arena.kind_ok_iff.2 found) fun isParameter => ?_
          exact unnamed (exists_parameter_iff.2 ⟨_, found, isParameter⟩)
      | later _ fails => cases fails
  | _ => cases fails

theorem defect_of_fails (fails : Fails (forest.checks id kind) defect) :
    forest.DefectOf id kind defect := by
  rcases fails.of_append with fails | ⟨holds, fails⟩
  · obtain ⟨field, place, fails⟩ := fails.of_flat_map
    exact defect_of_field place fails
  · exact defect_of_content ((judge_fields id kind).ok_iff.2 holds) fails

theorem SoundAs.demanded {slot : Slot} {child : NodeId} (sound : forest.SoundAs id kind)
    (demanded : forest.arena.Demands kind slot child) :
    child.isPresent ∧ forest.arena.Precedes child id := by
  cases demanded with
  | single place => exact sound.fields _ place
  | entry place listed member =>
      obtain ⟨inside, entries⟩ := sound.fields _ place
      rw [Arena.child_list_eq inside] at listed
      cases listed
      exact entries child member

theorem SoundAs.placed {slot : Slot} {child : NodeId} (sound : forest.SoundAs id kind)
    (placed : forest.arena.Places kind slot child) (present : child.isPresent) :
    forest.arena.Precedes child id := by
  cases placed with
  | optional place => exact sound.fields _ place present
  | demanded demands => exact (sound.demanded demands).2

theorem DefectOf.not_sound (shown : forest.DefectOf id kind defect) :
    ¬forest.SoundAs id kind := by
  intro sound
  cases shown with
  | dangling placed present outside =>
      exact outside (Arena.contains_iff.2 ⟨present, (sound.placed placed present).1⟩)
  | missing demanded => exact absurd (sound.demanded demanded).1 (by decide)
  | forward placed contained younger =>
      have older := (sound.placed placed (Arena.contains_iff.1 contained).1).2
      omega
  | childRange place filled past =>
      exact not_or.2 ⟨filled, Nat.not_le_of_lt past⟩ (sound.fields _ place).1
  | memberRange own filled past =>
      exact not_or.2 ⟨filled, Nat.not_le_of_lt past⟩ (sound.membersInside _ _ _ own)
  | arity own filled differ =>
      exact not_or.2 ⟨filled, differ⟩ (sound.membersMatch _ _ _ own)
  | @param body param params children other own listed member found unnamed =>
      have inside := sound.listInside params (by rw [own]; rfl)
      rw [Arena.child_list_eq inside] at listed
      cases listed
      obtain ⟨other, same, isParameter⟩ :=
        exists_parameter_iff.1 (sound.paramsNamed body params own param member)
      rw [Arena.kind_ok_iff.1 found] at same
      cases same
      exact unnamed isParameter
  | name own unknown => exact Nat.not_lt_of_le unknown (sound.namesKnown _ own)

theorem sound_iff_no_defect (found : forest.arena.kinds[id.index]? = some kind) :
    forest.Sound id ↔ ∀ defect, ¬forest.DefectOf id kind defect := by
  constructor
  · intro ⟨other, otherFound, sound⟩ defect shown
    rw [found] at otherFound
    cases otherFound
    exact shown.not_sound sound
  · intro spotless
    rw [← check_node_ok_iff]
    have judged := judge_node found
    generalize forest.checkNode id = answer at judged ⊢
    cases judged with
    | pass => rfl
    | fail fails => exact absurd (defect_of_fails fails) (spotless _)

end Forest

end ExprTree
