import ExprTree.Arena
import ExprTree.Except

/-!
The children of a node, looked up in its arena: what stands in its slots, in order, without absent
optional children. The look-up fails at the first slot that is at fault. No node has more than
`mostChildren` children, because only one of its slots is a list.
-/

namespace ExprTree

set_option autoImplicit false

/-- A child with its place in the parent: the slot, and within a list the entry. -/
structure Edge where
  slot : Slot
  entry : Nat
  child : NodeId
deriving DecidableEq

namespace Arena

def presentEdge (parent : NodeId) (slot : Slot) (entry : Nat) (child : NodeId) :
    Except Fault Edge :=
  if child.isPresent then .ok ⟨slot, entry, child⟩ else .error (.missingChild parent slot)

def fieldEdges (arena : Arena) (parent : NodeId) : ChildField → Except Fault (List Edge)
  | .optional slot child => .ok (child.present?.toList.map fun child => ⟨slot, 0, child⟩)
  | .required slot child => do return [← presentEdge parent slot 0 child]
  | .list slot range => do
      let children ← arena.childList range
      children.zipIdx.mapM fun (child, entry) => presentEdge parent slot entry child

def edges (arena : Arena) (id : NodeId) : Except Fault (List Edge) := do
  let kind ← arena.kind id
  let groups ← kind.fields.mapM (arena.fieldEdges id)
  return groups.flatten

def children (arena : Arena) (id : NodeId) : Except Fault (List NodeId) := do
  return (← arena.edges id).map Edge.child

end Arena

namespace ChildField

def width : ChildField → Nat
  | .optional .. | .required .. => 1
  | .list _ range => range.size

/-- A target and a list as long as a span can be. -/
def mostChildren : Nat := UInt16.size

def totalWidth : List ChildField → Nat
  | [] => 0
  | field :: rest => field.width + totalWidth rest

theorem total_width_le (kind : ExprKind) : totalWidth kind.fields ≤ mostChildren := by
  have short (range : NodeRange) : range.size < UInt16.size := range.length.toNat_lt
  cases kind with
  | methodCall _ _ list | new _ list _ | invoke _ list | lambda _ list | newArrayInit list
  | newArrayBounds list =>
      have := short list
      simp only [ExprKind.fields, totalWidth, width, mostChildren]
      omega
  | _ =>
      simp [ExprKind.fields, totalWidth, width, mostChildren, UInt16.size]

end ChildField

namespace Arena

theorem child_list_length {arena : Arena} {range : NodeRange} {children : List NodeId}
    (found : arena.childList range = .ok children) : children.length = range.size := by
  unfold childList at found
  split at found
  case h_2 => simp at found
  case h_1 list lookedUp =>
    simp only [Except.ok.injEq] at found
    subst found
    unfold ListTable.get? at lookedUp
    split at lookedUp
    case isTrue empty =>
      have nothing : range.size = 0 := by
        simpa [Span.isEmpty, Span.size, ← UInt16.toNat_inj] using empty
      simp only [Option.some.injEq] at lookedUp
      simp [← lookedUp, nothing]
    case isFalse =>
      split at lookedUp
      case isFalse => simp at lookedUp
      case isTrue inside =>
        simp only [Option.some.injEq] at lookedUp
        simp only [ListTable.size] at inside
        simp only [← lookedUp, Array.length_toList, Array.size_extract, Span.stop] at inside ⊢
        omega

theorem field_edges_length {arena : Arena} {parent : NodeId} {field : ChildField}
    {found : List Edge} (lookedUp : arena.fieldEdges parent field = .ok found) :
    found.length ≤ field.width := by
  cases field with
  | optional slot child =>
      simp only [fieldEdges, Except.ok.injEq] at lookedUp
      rw [← lookedUp]
      cases child.present? <;> simp [ChildField.width]
  | required slot child =>
      obtain ⟨edge, _, same⟩ := bind_ok_iff.1 lookedUp
      simp only [pure, Except.pure, Except.ok.injEq] at same
      simp [← same, ChildField.width]
  | list slot range =>
      obtain ⟨children, listed, mapped⟩ := bind_ok_iff.1 lookedUp
      rw [map_m_length mapped, List.length_zipIdx, child_list_length listed]
      exact Nat.le_refl _

theorem groups_length {arena : Arena} {parent : NodeId} {fields : List ChildField}
    {groups : List (List Edge)} (lookedUp : fields.mapM (arena.fieldEdges parent) = .ok groups) :
    groups.flatten.length ≤ ChildField.totalWidth fields := by
  induction fields generalizing groups with
  | nil =>
      simp only [List.mapM_nil, pure, Except.pure, Except.ok.injEq] at lookedUp
      simp [← lookedUp]
  | cons field fields induction =>
      rw [List.mapM_cons, bind_ok_iff] at lookedUp
      obtain ⟨group, first, lookedUp⟩ := lookedUp
      obtain ⟨rest, others, same⟩ := bind_ok_iff.1 lookedUp
      simp only [pure, Except.pure, Except.ok.injEq] at same
      have firstShort := field_edges_length first
      have othersShort := induction others
      simp only [← same, List.flatten_cons, List.length_append, ChildField.totalWidth]
      omega

theorem children_length_le {arena : Arena} {id : NodeId} {children : List NodeId}
    (found : arena.children id = .ok children) : children.length ≤ ChildField.mostChildren := by
  obtain ⟨edges, lookedUp, same⟩ := bind_ok_iff.1 found
  obtain ⟨kind, _, lookedUp⟩ := bind_ok_iff.1 lookedUp
  obtain ⟨groups, grouped, flattened⟩ := bind_ok_iff.1 lookedUp
  simp only [pure, Except.pure, Except.ok.injEq] at same flattened
  have short := groups_length grouped
  have narrow := ChildField.total_width_le kind
  simp only [← same, ← flattened, List.length_map]
  omega

end Arena

end ExprTree
