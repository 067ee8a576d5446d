import ExprTree.Proofs.Preorder
import ExprTree.Proofs.Profile

/-!
What listing and hashing look up at one node, in order, each look-up with the fault that it ends in
if there is nothing to find. Listing only asks for the children. Hashing asks first for the type of
the node and for what the kind keeps elsewhere. A node without a kind is given up at once.
-/

namespace ExprTree

set_option autoImplicit false

inductive Lookup where
  | kind
  | type
  | name (name : Name)
  | members (range : MemberRange)
  | list (range : NodeRange)
  /-- A child that must be there, or an entry of the list in the slot. -/
  | child (slot : Slot) (child : NodeId)
deriving DecidableEq

namespace Lookup

def fault (id : NodeId) : Lookup → Fault
  | .kind => .outOfBounds .nodes
  | .type => .outOfBounds .types
  | .name _ => .outOfBounds .names
  | .members _ => .outOfBounds .memberLists
  | .list _ => .outOfBounds .childLists
  | .child slot _ => .missingChild id slot

end Lookup

/-- What the kind keeps outside of the node. -/
def ExprKind.ownLookups : ExprKind → List Lookup
  | .constant (.text name) | .parameter name => [.name name]
  | .new _ _ members => [.members members]
  | _ => []

def AttributeValue.lookups : AttributeValue → List Lookup
  | .name own | .literal (.text own) => [.name own]
  | _ => []

def Arena.fieldLookups (arena : Arena) : ChildField → List Lookup
  | .optional _ _ => []
  | .required slot child => [.child slot child]
  | .list slot range => .list range :: (arena.entries range).map (.child slot)

namespace Forest

variable {forest : Forest} {id : NodeId} {kind : ExprKind} {fault : Fault}
  {first : ExprKind → List Lookup}

def finds (forest : Forest) (id : NodeId) : Lookup → Bool
  | .kind => id.index < forest.arena.kinds.size
  | .type => id.index < forest.arena.types.size
  | .name name => forest.names.contains name
  | .members range => forest.arena.memberLists.contains range
  | .list range => forest.arena.childLists.contains range
  | .child _ child => child.isPresent

def lookUp (forest : Forest) (id : NodeId) (lookup : Lookup) : Except Fault Unit :=
  if forest.finds id lookup then .ok () else .error (lookup.fault id)

/-- All look-ups at a node. `first` are those that its kind comes with, before the children. -/
def lookups (forest : Forest) (first : ExprKind → List Lookup) (id : NodeId) : List Lookup :=
  .kind ::
    match forest.arena.kinds[id.index]? with
    | none => []
    | some kind => first kind ++ kind.fields.flatMap forest.arena.fieldLookups

def listingLookups (forest : Forest) (id : NodeId) : List Lookup :=
  forest.lookups (fun _ => []) id

def hashingLookups (forest : Forest) (id : NodeId) : List Lookup :=
  forest.lookups (fun kind => .type :: kind.ownLookups) id

inductive FailsFirst (forest : Forest) (id : NodeId) (lookups : List Lookup) : Fault → Prop where
  | at {before after : List Lookup} {lookup : Lookup} (order : lookups = before ++ lookup :: after)
      (found : ∀ earlier ∈ before, forest.finds id earlier) (nothing : ¬forest.finds id lookup) :
      FailsFirst forest id lookups (lookup.fault id)

theorem look_up_ok_iff {lookup : Lookup} :
    forest.lookUp id lookup = .ok () ↔ forest.finds id lookup := by
  unfold lookUp
  split <;> simp_all

theorem look_up_error_iff {lookup : Lookup} :
    forest.lookUp id lookup = .error fault ↔
      ¬forest.finds id lookup ∧ fault = lookup.fault id := by
  unfold lookUp
  split
  case isTrue found => simp [found]
  case isFalse nothing => simp [nothing, eq_comm]

theorem look_up_all_ok_iff {lookups : List Lookup} :
    forM lookups (forest.lookUp id) = .ok () ↔ ∀ lookup ∈ lookups, forest.finds id lookup := by
  rw [for_m_ok_iff]
  simp only [look_up_ok_iff]

theorem look_up_all_error_iff {lookups : List Lookup} :
    forM lookups (forest.lookUp id) = .error fault ↔ forest.FailsFirst id lookups fault := by
  rw [for_m_error_iff]
  simp only [look_up_ok_iff, look_up_error_iff]
  constructor
  · intro ⟨before, lookup, after, order, found, nothing, same⟩
    rw [same]
    exact .at order found nothing
  · intro failed
    obtain ⟨order, found, nothing⟩ := failed
    exact ⟨_, _, _, order, found, nothing, rfl⟩

/-! ### Looking up the children -/

theorem verdict_eq_look_up {Item : Type} {result : Except Fault Item} {lookup : Lookup}
    (answers : forest.finds id lookup → ∃ item, result = .ok item)
    (fails : ¬forest.finds id lookup → result = .error (lookup.fault id)) :
    verdict result = forest.lookUp id lookup := by
  by_cases found : forest.finds id lookup
  · rw [look_up_ok_iff.2 found]
    exact verdict_ok_iff.2 (answers found)
  · rw [look_up_error_iff.2 ⟨found, rfl⟩]
    exact verdict_error_iff.2 (fails found)

theorem verdict_child_list (range : NodeRange) :
    verdict (forest.arena.childList range) = forest.lookUp id (.list range) := by
  apply verdict_eq_look_up
  · intro found
    exact ⟨_, Arena.child_list_eq (ListTable.contains_iff.1 found)⟩
  · intro nothing
    rw [Arena.childList, ListTable.get_eq_none (ListTable.contains_iff.not.1 nothing)]
    rfl

theorem verdict_present_edge (forest : Forest) (slot : Slot) (entry : Nat) (child : NodeId) :
    verdict (Arena.presentEdge id slot entry child) = forest.lookUp id (.child slot child) := by
  unfold Arena.presentEdge lookUp finds
  split <;> rfl

theorem verdict_field_edges (field : ChildField) :
    verdict (forest.arena.fieldEdges id field) =
      forM (forest.arena.fieldLookups field) (forest.lookUp id) := by
  cases field with
  | optional slot child => rfl
  | required slot child =>
      rw [Arena.fieldEdges, Arena.fieldLookups, List.forM_cons, ← verdict_present_edge forest slot 0]
      cases Arena.presentEdge id slot 0 child <;> rfl
  | list slot range =>
      rw [Arena.fieldEdges, Arena.fieldLookups, List.forM_cons, ← verdict_child_list]
      by_cases inside : forest.arena.childLists.Inside range
      · rw [Arena.child_list_eq inside]
        change verdict ((forest.arena.entries range).zipIdx.mapM _) =
          forM ((forest.arena.entries range).map _) _
        simp only [verdict_map_m, verdict_present_edge forest, List.forM_map]
        -- The positions of the entries play no part any more.
        have children := List.zipIdx_map_fst 0 (forest.arena.entries range)
        conv_rhs => rw [← children, List.forM_map]
      · have outside : forest.lookUp id (.list range) = .error (.outOfBounds .childLists) :=
          look_up_error_iff.2 ⟨ListTable.contains_iff.not.2 inside, rfl⟩
        rw [← verdict_child_list, verdict_error_iff] at outside
        rw [outside]
        rfl

theorem children_of_missing (missing : forest.arena.kinds[id.index]? = none) :
    forest.arena.children id = .error (.outOfBounds .nodes) := by
  unfold Arena.children Arena.edges Arena.kind
  rw [missing]
  rfl

theorem verdict_children (found : forest.arena.kinds[id.index]? = some kind) :
    verdict (forest.arena.children id) =
      forM (kind.fields.flatMap forest.arena.fieldLookups) (forest.lookUp id) := by
  unfold Arena.children Arena.edges
  rw [Arena.kind_ok_iff.2 found, for_m_flat_map]
  simp only [← verdict_field_edges, ← verdict_map_m]
  change verdict ((kind.fields.mapM (forest.arena.fieldEdges id) >>= _) >>= _) = _
  cases kind.fields.mapM (forest.arena.fieldEdges id) <;> rfl

/-! ### Looking up what is hashed -/

theorem node_writes_of_missing (missing : forest.arena.kinds[id.index]? = none) :
    forest.nodeWrites id = .error (.outOfBounds .nodes) := by
  unfold nodeWrites Arena.kind
  rw [missing]
  rfl

theorem verdict_type : verdict (forest.arena.type id) = forest.lookUp id .type := by
  apply verdict_eq_look_up
  · intro found
    exact ⟨_, Arena.type_typed (of_decide_eq_true found)⟩
  · intro nothing
    have untyped : ¬id.index < forest.arena.types.size := by simpa [finds] using nothing
    exact Arena.type_untyped (Nat.le_of_not_lt untyped)

theorem verdict_text (name : Name) :
    verdict (forest.text name) = forest.lookUp id (.name name) := by
  apply verdict_eq_look_up
  · intro found
    have known : name.index < forest.names.strings.size := by
      simpa [finds, Interner.contains] using found
    exact ⟨_, text_ok_iff.2 (Array.getElem?_eq_getElem known)⟩
  · intro nothing
    have unknown : forest.names.strings.size ≤ name.index := by
      simpa [finds, Interner.contains] using nothing
    rw [text, Interner.lookup?, Array.getElem?_eq_none unknown]
    rfl

theorem verdict_member_list (range : MemberRange) :
    verdict (forest.arena.memberList range) = forest.lookUp id (.members range) := by
  apply verdict_eq_look_up
  · intro found
    exact ⟨_, Arena.member_list_eq (ListTable.contains_iff.1 found)⟩
  · intro nothing
    rw [Arena.memberList, ListTable.get_eq_none (ListTable.contains_iff.not.1 nothing)]
    rfl

theorem verdict_value (id : NodeId) (value : AttributeValue) :
    verdict (forest.valueWrites value) = forM value.lookups (forest.lookUp id) := by
  have named (name : Name) :
      verdict (forest.text name) = forM [.name name] (forest.lookUp id) := by
    rw [List.forM_cons, ← verdict_text]
    cases forest.text name <;> rfl
  rw [value_writes_eq, verdict_map]
  cases value with
  | literal value =>
      cases value with
      | text name => exact (verdict_map _ _).trans (named name)
      | _ => rfl
  | name name => exact (verdict_map _ _).trans (named name)
  | _ => rfl

theorem verdict_values (id : NodeId) (attributes : List (Attribute × AttributeValue)) :
    verdict (attributes.mapM fun (_, value) => forest.valueWrites value) =
      forM (attributes.flatMap fun (_, value) => value.lookups) (forest.lookUp id) := by
  rw [verdict_map_m, for_m_flat_map]
  simp only [verdict_value id]

theorem verdict_attributes (kind : ExprKind) :
    verdict (forest.arena.attributes kind >>= fun attributes =>
        attributes.mapM fun (_, value) => forest.valueWrites value) =
      forM kind.ownLookups (forest.lookUp id) := by
  have plain (attributes : List (Attribute × AttributeValue))
      (listed : forest.arena.attributes kind = .ok attributes)
      (same : (attributes.flatMap fun (_, value) => value.lookups) = kind.ownLookups) :
      verdict (forest.arena.attributes kind >>= fun attributes =>
          attributes.mapM fun (_, value) => forest.valueWrites value) =
        forM kind.ownLookups (forest.lookUp id) := by
    rw [listed, ← same]
    exact verdict_values id attributes
  cases kind with
  | new ctor args members =>
      rw [ExprKind.ownLookups, List.forM_cons, ← verdict_member_list, Arena.attributes,
        Arena.boundAttributes]
      cases forest.arena.memberList members with
      | error fault => rfl
      | ok bound =>
          have unread : (bound.mapIdx fun index member => (Attribute.boundMember index,
              AttributeValue.member member)).flatMap (fun (_, value) => value.lookups) = [] := by
            rw [List.flatMap_eq_nil_iff]
            intro trait member
            obtain ⟨index, inside, rfl⟩ := List.mem_mapIdx.1 member
            rfl
          refine (verdict_values id _).trans ?_
          rw [List.flatMap_append, List.flatMap_cons, unread]
          rfl
  | constant value => cases value <;> exact plain _ rfl rfl
  | _ => exact plain _ rfl rfl

/-! ### Both together -/

theorem look_up_all_of_missing (missing : forest.arena.kinds[id.index]? = none) :
    forM (forest.lookups first id) (forest.lookUp id) = .error (.outOfBounds .nodes) := by
  have outside : ¬forest.finds id .kind := by simpa [finds] using missing
  rw [lookups, List.forM_cons, look_up_error_iff.2 ⟨outside, rfl⟩]
  rfl

theorem look_up_all_of_found (found : forest.arena.kinds[id.index]? = some kind) :
    forM (forest.lookups first id) (forest.lookUp id) =
      forM (first kind) (forest.lookUp id) >>= fun _ => verdict (forest.arena.children id) := by
  have inside : forest.finds id .kind := by
    simpa [finds] using (Array.getElem?_eq_some_iff.1 found).1
  rw [lookups, found, List.forM_cons, look_up_ok_iff.2 inside, verdict_children found]
  exact List.forM_append

/-- Whether a node can be listed, together with its children, depends on the look-ups of listing. -/
theorem verdict_listing (id : NodeId) :
    verdict (forest.arena.children id) = forM (forest.listingLookups id) (forest.lookUp id) := by
  cases found : forest.arena.kinds[id.index]? with
  | none =>
      rw [listingLookups, look_up_all_of_missing found, children_of_missing found]
      rfl
  | some kind =>
      rw [listingLookups, look_up_all_of_found found]
      rfl

theorem verdict_node_writes (found : forest.arena.kinds[id.index]? = some kind) :
    verdict (forest.nodeWrites id) = forM (.type :: kind.ownLookups) (forest.lookUp id) := by
  rw [List.forM_cons, ← verdict_type, ← verdict_attributes, nodeWrites,
    Arena.kind_ok_iff.2 found]
  cases forest.arena.type id with
  | error fault => rfl
  | ok type =>
      change verdict (forest.arena.attributes kind >>= _) =
        verdict (forest.arena.attributes kind >>= _)
      cases forest.arena.attributes kind with
      | error fault => rfl
      | ok attributes =>
          change verdict (attributes.mapM (fun (_, value) => forest.valueWrites value) >>= _) =
            verdict (attributes.mapM fun (_, value) => forest.valueWrites value)
          cases attributes.mapM fun (_, value) => forest.valueWrites value <;> rfl

theorem verdict_hashing (id : NodeId) :
    verdict (forest.nodeWrites id >>= fun _ => forest.arena.children id) =
      forM (forest.hashingLookups id) (forest.lookUp id) := by
  cases found : forest.arena.kinds[id.index]? with
  | none =>
      rw [hashingLookups, look_up_all_of_missing found, node_writes_of_missing found]
      rfl
  | some kind =>
      rw [hashingLookups, look_up_all_of_found found, verdict_then, verdict_node_writes found]

/-! ### When nothing is missing -/

theorem finds_field_iff {field : ChildField} :
    (∀ lookup ∈ forest.arena.fieldLookups field, forest.finds id lookup) ↔
      forest.arena.FieldListable field := by
  cases field with
  | optional slot child => simp [Arena.fieldLookups, Arena.FieldListable]
  | required slot child => simp [Arena.fieldLookups, Arena.FieldListable, finds]
  | list slot range =>
      simp [Arena.fieldLookups, Arena.FieldListable, finds, ← ListTable.contains_iff]

theorem finds_own_iff :
    (∀ lookup ∈ kind.ownLookups, forest.finds id lookup) ↔
      (∀ name, kind = .parameter name ∨ kind = .constant (.text name) →
        name.index < forest.names.size) ∧
      ∀ ctor args members, kind = .new ctor args members →
        forest.arena.memberLists.Inside members := by
  cases kind with
  | constant value =>
      cases value <;> simp [ExprKind.ownLookups, finds, Interner.contains, Interner.size]
  | new ctor args members => simp [ExprKind.ownLookups, finds, ← ListTable.contains_iff]
  | _ => simp [ExprKind.ownLookups, finds, Interner.contains, Interner.size]

theorem finds_all_iff :
    (∀ lookup ∈ forest.lookups first id, forest.finds id lookup) ↔
      ∃ kind, forest.arena.kinds[id.index]? = some kind ∧
        (∀ lookup ∈ first kind, forest.finds id lookup) ∧ forest.arena.ListableAs kind := by
  cases found : forest.arena.kinds[id.index]? with
  | none =>
      have outside : ¬forest.finds id .kind := by simpa [finds] using found
      simp [lookups, outside]
  | some kind =>
      have inside : forest.finds id .kind := by
        simpa [finds] using (Array.getElem?_eq_some_iff.1 found).1
      have fields : (∀ lookup ∈ kind.fields.flatMap forest.arena.fieldLookups,
          forest.finds id lookup) ↔ forest.arena.ListableAs kind := by
        simp only [List.forall_mem_flatMap, finds_field_iff, Arena.listable_as_iff]
      simp only [lookups, found, List.forall_mem_cons, List.forall_mem_append, fields, inside,
        true_and, Option.some.injEq, exists_eq_left']

end Forest

def Arena.Listable (arena : Arena) (id : NodeId) : Prop :=
  ∃ kind, arena.kinds[id.index]? = some kind ∧ arena.ListableAs kind

namespace Forest

structure HashableAs (forest : Forest) (id : NodeId) (kind : ExprKind) : Prop where
  listable : forest.arena.ListableAs kind
  typed : id.index < forest.arena.types.size
  namesKnown : ∀ name, kind = .parameter name ∨ kind = .constant (.text name) →
    name.index < forest.names.size
  membersInside : ∀ ctor args members, kind = .new ctor args members →
    forest.arena.memberLists.Inside members

def Hashable (forest : Forest) (id : NodeId) : Prop :=
  ∃ kind, forest.arena.kinds[id.index]? = some kind ∧ forest.HashableAs id kind

variable {forest : Forest} {id parent child : NodeId} {children : List NodeId}

theorem listable_iff :
    (∀ lookup ∈ forest.listingLookups id, forest.finds id lookup) ↔ forest.arena.Listable id := by
  rw [listingLookups, finds_all_iff, Arena.Listable]
  simp

theorem hashable_iff :
    (∀ lookup ∈ forest.hashingLookups id, forest.finds id lookup) ↔ forest.Hashable id := by
  rw [hashingLookups, finds_all_iff, Hashable]
  simp only [List.forall_mem_cons, finds_own_iff]
  apply exists_congr
  intro kind
  apply and_congr_right
  intro _
  constructor
  · intro ⟨⟨typed, names, members⟩, listable⟩
    exact ⟨listable, of_decide_eq_true typed, names, members⟩
  · intro hashable
    exact ⟨⟨decide_eq_true hashable.typed, hashable.namesKnown, hashable.membersInside⟩,
      hashable.listable⟩

theorem listable_of_children (found : forest.arena.children id = .ok children) :
    ∃ kind, forest.arena.kinds[id.index]? = some kind ∧ forest.arena.ListableAs kind ∧
      children = forest.arena.offspring kind := by
  have looked : forM (forest.listingLookups id) (forest.lookUp id) = .ok () := by
    rw [← verdict_listing]
    exact verdict_ok_iff.2 ⟨children, found⟩
  obtain ⟨kind, stored, listable⟩ := listable_iff.1 (look_up_all_ok_iff.1 looked)
  rw [listable.children stored, Except.ok.injEq] at found
  exact ⟨kind, stored, listable, found.symm⟩

theorem present_of_follows (follows : forest.arena.Follows parent child) : child.isPresent := by
  obtain ⟨children, listed, member⟩ := follows
  obtain ⟨_, _, _, rfl⟩ := listable_of_children listed
  exact (Arena.mem_offspring.1 member).1

theorem reaches_of_follows (followed : Relation.ReflTransGen forest.arena.Follows parent child) :
    forest.arena.Reaches parent child := by
  refine Relation.ReflTransGen.mono (fun parent child follows => ?_) _ _ followed
  obtain ⟨children, listed, member⟩ := follows
  obtain ⟨kind, stored, _, rfl⟩ := listable_of_children listed
  exact ⟨kind, stored, member⟩

end Forest

end ExprTree
