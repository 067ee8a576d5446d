import ExprTree.Proofs.Except
import ExprTree.Proofs.Shape

/-!
The checks of one node accept it exactly if it is sound. Looking up the children of a node cannot
fail if none of them is missing, and gives its offspring; so it is for sound nodes.
-/

namespace ExprTree

set_option autoImplicit false

theorem map_error_ok_iff {Item Error Other : Type} {result : Except Error Item}
    {f : Error → Other} {item : Item} : result.mapError f = .ok item ↔ result = .ok item := by
  cases result <;> simp

namespace NodeId

theorem present_eq_some {id : NodeId} (present : id.isPresent) : id.present? = some id := by
  simp [present?, present]

theorem present_eq_none {id : NodeId} (absent : ¬id.isPresent) : id.present? = none := by
  simp [present?, absent]

theorem index_lt_iff {id other : NodeId} : id.index < other.index ↔ ¬other.raw ≤ id.raw := by
  simp [index, UInt32.le_iff_toNat_le]

end NodeId

namespace Arena

theorem contains_iff {arena : Arena} {id : NodeId} :
    arena.contains id ↔ id.isPresent ∧ id.index < arena.size := by
  simp [contains]

theorem mem_offspring {arena : Arena} {kind : ExprKind} {child : NodeId} :
    child ∈ arena.offspring kind ↔
      child.isPresent ∧ (child ∈ kind.target? ∨ child ∈ kind.operands ∨
        ∃ range ∈ kind.list?, child ∈ arena.entries range) := by
  simp only [offspring, slots, List.mem_filter, List.mem_append, Option.mem_toList,
    List.mem_flatMap, or_assoc, Option.mem_def]
  exact and_comm

/-- What stands in one place for children, without an absent optional child. -/
def standing (arena : Arena) : ChildField → List Edge
  | .optional slot child => child.present?.toList.map fun child => ⟨slot, 0, child⟩
  | .required slot child => [⟨slot, 0, child⟩]
  | .list slot range =>
      (arena.entries range).zipIdx.map fun (child, entry) => ⟨slot, entry, child⟩

end Arena

namespace ExprKind

theorem forall_fields_iff {optional required : NodeId → Prop} {list : NodeRange → Prop}
    {holds : ChildField → Prop}
    (onOptional : ∀ slot child, holds (.optional slot child) ↔ optional child)
    (onRequired : ∀ slot child, holds (.required slot child) ↔ required child)
    (onList : ∀ slot range, holds (.list slot range) ↔ list range) (kind : ExprKind) :
    (∀ field ∈ kind.fields, holds field) ↔
      (∀ child ∈ kind.target?, optional child) ∧ (∀ child ∈ kind.operands, required child) ∧
        ∀ range ∈ kind.list?, list range := by
  cases kind <;> simp [fields, target?, operands, list?, onOptional, onRequired, onList]

end ExprKind

namespace Arena

/-- The children that the kind asks for are there, and so is its list: nothing more is needed to
look up the children of a node. -/
structure ListableAs (arena : Arena) (kind : ExprKind) : Prop where
  operandsPresent : ∀ child ∈ kind.operands, child.isPresent
  listInside : ∀ range ∈ kind.list?, arena.childLists.Inside range
  entriesPresent : ∀ range ∈ kind.list?, ∀ child ∈ arena.entries range, child.isPresent

def FieldListable (arena : Arena) : ChildField → Prop
  | .optional _ _ => True
  | .required _ child => child.isPresent
  | .list _ range =>
      arena.childLists.Inside range ∧ ∀ child ∈ arena.entries range, child.isPresent

theorem listable_as_iff {arena : Arena} {kind : ExprKind} :
    arena.ListableAs kind ↔ ∀ field ∈ kind.fields, arena.FieldListable field := by
  rw [ExprKind.forall_fields_iff (fun _ _ => Iff.rfl) (fun _ _ => Iff.rfl) (fun _ _ => Iff.rfl)]
  constructor
  · intro listable
    exact ⟨fun _ _ => trivial, listable.operandsPresent, fun range own =>
      ⟨listable.listInside range own, listable.entriesPresent range own⟩⟩
  · intro ⟨_, operands, lists⟩
    exact ⟨operands, fun range own => (lists range own).1, fun range own => (lists range own).2⟩

theorem field_edges_eq {arena : Arena} {parent : NodeId} {field : ChildField}
    (listable : arena.FieldListable field) :
    arena.fieldEdges parent field = .ok (arena.standing field) := by
  cases field with
  | optional slot child => rfl
  | required slot child =>
      have present : child.isPresent := listable
      simp only [fieldEdges, presentEdge, if_pos present]
      rfl
  | list slot range =>
      simp only [fieldEdges, child_list_eq listable.1]
      apply map_m_eq_map
      intro item member
      obtain ⟨child, entry⟩ := item
      have listed : child ∈ arena.entries range := List.fst_mem_of_mem_zipIdx member
      simp only [presentEdge, if_pos (listable.2 child listed)]

theorem standing_list_children (arena : Arena) (slot : Slot) (range : NodeRange) :
    (arena.standing (.list slot range)).map Edge.child = arena.entries range := by
  simp only [standing, List.map_map]
  exact List.zipIdx_map_fst 0 (arena.entries range)

theorem standing_optional_children (arena : Arena) (slot : Slot) (child : NodeId) :
    (arena.standing (.optional slot child)).map Edge.child = [child].filter NodeId.isPresent := by
  by_cases present : child.isPresent
  · simp [standing, NodeId.present_eq_some, present]
  · simp [standing, NodeId.present_eq_none, present]

namespace ListableAs

variable {arena : Arena} {id : NodeId} {kind : ExprKind}

theorem edges (listable : arena.ListableAs kind) (found : arena.kinds[id.index]? = some kind) :
    arena.edges id = .ok (kind.fields.flatMap arena.standing) := by
  unfold Arena.edges
  rw [kind_ok_iff.2 found]
  have each := listable_as_iff.1 listable
  have groups := map_m_eq_map (f := arena.fieldEdges id) fun field member =>
    field_edges_eq (each field member)
  change (kind.fields.mapM (arena.fieldEdges id) >>= fun groups => pure groups.flatten) = _
  rw [groups, List.flatMap]
  rfl

theorem offspring_eq (listable : arena.ListableAs kind) :
    arena.offspring kind =
      kind.target?.toList.filter NodeId.isPresent ++ kind.operands ++
        kind.list?.toList.flatMap arena.entries := by
  have operands : kind.operands.filter NodeId.isPresent = kind.operands :=
    List.filter_eq_self.2 listable.operandsPresent
  have listed : (kind.list?.toList.flatMap arena.entries).filter NodeId.isPresent =
      kind.list?.toList.flatMap arena.entries := by
    apply List.filter_eq_self.2
    intro child member
    obtain ⟨range, list, inside⟩ := List.mem_flatMap.1 member
    exact listable.entriesPresent range (Option.mem_toList.1 list) child inside
  rw [offspring, slots, List.filter_append, List.filter_append, operands, listed]

theorem standing_children (listable : arena.ListableAs kind) :
    (kind.fields.flatMap arena.standing).map Edge.child = arena.offspring kind := by
  rw [listable.offspring_eq]
  cases kind <;>
    simp only [ExprKind.fields, ExprKind.target?, ExprKind.operands, ExprKind.list?,
      List.flatMap_cons, List.flatMap_nil, List.map_append, List.map_nil, List.append_nil,
      List.nil_append, List.filter_nil, Option.toList_none, Option.toList_some,
      standing_list_children, standing_optional_children]
  all_goals rfl

theorem children (listable : arena.ListableAs kind)
    (found : arena.kinds[id.index]? = some kind) :
    arena.children id = .ok (arena.offspring kind) := by
  rw [← listable.standing_children]
  unfold Arena.children
  rw [listable.edges found]
  rfl

end ListableAs

end Arena

namespace Forest

def FieldSound (forest : Forest) (parent : NodeId) : ChildField → Prop
  | .optional _ child => child.isPresent → forest.arena.Precedes child parent
  | .required _ child => child.isPresent ∧ forest.arena.Precedes child parent
  | .list _ range =>
      forest.arena.childLists.Inside range ∧
        ∀ child ∈ forest.arena.entries range,
          child.isPresent ∧ forest.arena.Precedes child parent

theorem check_child_ok_iff {forest : Forest} {parent child : NodeId} (present : child.isPresent) :
    forest.checkChild parent child = .ok () ↔ forest.arena.Precedes child parent := by
  unfold checkChild Arena.Precedes
  rw [NodeId.index_lt_iff]
  split
  case isTrue outside =>
    have larger : ¬child.index < forest.arena.size := by
      simpa [Arena.contains, present] using outside
    simp [larger]
  case isFalse inside =>
    have within : child.index < forest.arena.size := by
      simpa [Arena.contains, present] using inside
    split <;> simp_all

theorem check_required_ok_iff {forest : Forest} {parent child : NodeId} {slot : Slot} :
    forest.checkRequired parent slot child = .ok () ↔
      child.isPresent ∧ forest.arena.Precedes child parent := by
  unfold checkRequired
  split
  case isTrue present => simp [check_child_ok_iff present, present]
  case isFalse absent => simp [absent]

theorem check_field_ok_iff {forest : Forest} {parent : NodeId} {field : ChildField} :
    forest.checkField parent field = .ok () ↔ forest.FieldSound parent field := by
  cases field with
  | optional slot child =>
      simp only [checkField, FieldSound]
      split
      case isTrue present => simp [check_child_ok_iff present, present]
      case isFalse absent => simp [absent]
  | required slot child => exact check_required_ok_iff
  | list slot range =>
      simp only [checkField, FieldSound, ← ListTable.contains_iff]
      split
      case isFalse outside => simp [outside]
      case isTrue inside =>
        simp only [Arena.child_list_eq (ListTable.contains_iff.1 inside), inside, true_and]
        change (forest.arena.entries range).forM (forest.checkRequired parent slot) = .ok () ↔ _
        simp only [List.forM_eq_forM, for_m_ok_iff, check_required_ok_iff]

theorem check_fields_ok_iff {forest : Forest} {id : NodeId} {kind : ExprKind} :
    kind.fields.forM (forest.checkField id) = .ok () ↔
      (∀ child ∈ kind.operands, child.isPresent) ∧
      (∀ range ∈ kind.list?, ∀ child ∈ forest.arena.entries range, child.isPresent) ∧
      (∀ child ∈ forest.arena.offspring kind, forest.arena.Precedes child id) ∧
      ∀ range ∈ kind.list?, forest.arena.childLists.Inside range := by
  simp only [List.forM_eq_forM, for_m_ok_iff, check_field_ok_iff]
  rw [ExprKind.forall_fields_iff (fun _ _ => Iff.rfl) (fun _ _ => Iff.rfl) (fun _ _ => Iff.rfl)]
  simp only [Arena.mem_offspring]
  grind

theorem check_name_ok_iff {forest : Forest} {id : NodeId} {name : Name} :
    forest.checkName id name = .ok () ↔ name.index < forest.names.size := by
  unfold checkName
  split <;> simp_all [Interner.contains, Interner.size]

theorem check_param_ok_iff {forest : Forest} {parent param : NodeId} :
    forest.checkParam parent param = .ok () ↔
      ∃ name, forest.arena.kinds[param.index]? = some (.parameter name) := by
  unfold checkParam
  rw [bind_ok_iff]
  simp only [map_error_ok_iff, Arena.kind_ok_iff]
  constructor
  · intro checks
    obtain ⟨kind, found, checked⟩ := checks
    cases kind <;> simp_all [ExprKind.isParameter]
  · intro named
    obtain ⟨name, found⟩ := named
    exact ⟨.parameter name, found, rfl⟩

/-- What a kind asks beyond its places for children, once its list can be read. -/
theorem check_content_ok_iff {forest : Forest} {id : NodeId} {kind : ExprKind}
    (inside : ∀ range ∈ kind.list?, forest.arena.childLists.Inside range) :
    forest.checkContent id kind = .ok () ↔
      (∀ ctor args members, kind = .new ctor args members →
        forest.arena.memberLists.Inside members) ∧
      (∀ ctor args members, kind = .new ctor args members →
        members.size = 0 ∨ members.size = args.size) ∧
      (∀ body params, kind = .lambda body params →
        ∀ param ∈ forest.arena.entries params,
          ∃ name, forest.arena.kinds[param.index]? = some (.parameter name)) ∧
      ∀ name, kind = .parameter name ∨ kind = .constant (.text name) →
        name.index < forest.names.size := by
  cases kind with
  | constant value =>
      cases value with
      | text name => simp [checkContent, check_name_ok_iff]
      | _ => simp [checkContent]
  | parameter name => simp [checkContent, check_name_ok_iff]
  | new ctor args members =>
      simp only [checkContent]
      split
      case isTrue outside =>
        have outside : ¬forest.arena.memberLists.Inside members := by
          simpa [← ListTable.contains_iff] using outside
        simp [outside]
      case isFalse inside =>
        have inside : forest.arena.memberLists.Inside members := by
          simpa [← ListTable.contains_iff] using inside
        split
        case isTrue differ =>
          have differ : members.size ≠ 0 ∧ members.size ≠ args.size := by
            simpa [ListTable.is_empty_iff, ← Bool.not_eq_true] using differ
          simp [differ]
        case isFalse alike =>
          have fitting : members.size = 0 ∨ members.size = args.size := by
            simpa [ListTable.is_empty_iff, ← Bool.not_eq_true, imp_iff_not_or] using alike
          simp [inside, fitting]
  | lambda body params =>
      have listed := Arena.child_list_eq (inside params (by simp [ExprKind.list?]))
      simp only [checkContent, listed]
      change (forest.arena.entries params).forM (forest.checkParam id) = .ok () ↔ _
      simp only [List.forM_eq_forM, for_m_ok_iff, check_param_ok_iff]
      simp
  | _ => simp [checkContent]

theorem check_node_ok_iff {forest : Forest} {id : NodeId} :
    forest.checkNode id = .ok () ↔ forest.Sound id := by
  unfold checkNode
  rw [bind_ok_iff]
  constructor
  · intro checks
    obtain ⟨kind, found, checked⟩ := checks
    obtain ⟨⟨⟩, fields, content⟩ := bind_ok_iff.1 checked
    obtain ⟨operandsPresent, entriesPresent, childrenPrecede, listInside⟩ :=
      check_fields_ok_iff.1 fields
    obtain ⟨membersInside, membersMatch, paramsNamed, namesKnown⟩ :=
      (check_content_ok_iff listInside).1 content
    exact ⟨kind, Arena.kind_ok_iff.1 (map_error_ok_iff.1 found), operandsPresent, entriesPresent,
      childrenPrecede, listInside, membersInside, membersMatch, paramsNamed, namesKnown⟩
  · intro conditions
    obtain ⟨kind, found, sound⟩ := conditions
    refine ⟨kind, map_error_ok_iff.2 (Arena.kind_ok_iff.2 found), bind_ok_iff.2 ⟨(), ?_, ?_⟩⟩
    · exact check_fields_ok_iff.2 ⟨sound.operandsPresent, sound.entriesPresent,
        sound.childrenPrecede, sound.listInside⟩
    · exact (check_content_ok_iff sound.listInside).2 ⟨sound.membersInside, sound.membersMatch,
        sound.paramsNamed, sound.namesKnown⟩

theorem SoundAs.fields {forest : Forest} {id : NodeId} {kind : ExprKind}
    (sound : forest.SoundAs id kind) : ∀ field ∈ kind.fields, forest.FieldSound id field := by
  have checked := check_fields_ok_iff.2 ⟨sound.operandsPresent, sound.entriesPresent,
    sound.childrenPrecede, sound.listInside⟩
  simpa only [List.forM_eq_forM, for_m_ok_iff, check_field_ok_iff] using checked

theorem SoundAs.listable {forest : Forest} {id : NodeId} {kind : ExprKind}
    (sound : forest.SoundAs id kind) : forest.arena.ListableAs kind :=
  ⟨sound.operandsPresent, sound.listInside, sound.entriesPresent⟩

theorem SoundAs.children {forest : Forest} {id : NodeId} {kind : ExprKind}
    (sound : forest.SoundAs id kind) (found : forest.arena.kinds[id.index]? = some kind) :
    forest.arena.children id = .ok (forest.arena.offspring kind) :=
  sound.listable.children found

end Forest

end ExprTree
