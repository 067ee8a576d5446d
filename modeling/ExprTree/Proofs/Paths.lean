import ExprTree.Proofs.Lookups
import ExprTree.Proofs.Uses
import Mathlib.Data.List.Nodup
import Mathlib.Data.Set.Card

/-!
The ways down from a node, slot by slot. The places for children of a node are all different, so that
a node which is shared is reached on several paths. In the tree of uses each path has a node of its
own: the listing has a node as often as there are paths to it.
-/

namespace ExprTree

set_option autoImplicit false

def ChildField.slot : ChildField → Slot
  | .optional slot _ | .required slot _ | .list slot _ => slot

namespace Arena

variable {arena : Arena} {id target other : NodeId} {edge : Edge} {path : List Edge}

def EdgeOf (arena : Arena) (parent : NodeId) (edge : Edge) : Prop :=
  ∃ kind, arena.kinds[parent.index]? = some kind ∧ edge ∈ kind.fields.flatMap arena.standing

inductive Path (arena : Arena) : NodeId → List Edge → NodeId → Prop where
  | here (id : NodeId) : Path arena id [] id
  | down {parent target : NodeId} {edge : Edge} {path : List Edge}
      (first : arena.EdgeOf parent edge) (onward : Path arena edge.child path target) :
      Path arena parent (edge :: path) target

theorem Path.target_unique (leads : arena.Path id path target)
    (otherLeads : arena.Path id path other) : target = other := by
  induction leads with
  | here => cases otherLeads; rfl
  | down _ _ induction =>
      cases otherLeads with
      | down _ onward => exact induction onward

/-! ### Places for children -/

theorem standing_slot {field : ChildField} (member : edge ∈ arena.standing field) :
    edge.slot = field.slot := by
  cases field with
  | optional slot child =>
      obtain ⟨_, _, rfl⟩ := List.mem_map.1 member
      rfl
  | required slot child =>
      cases List.mem_singleton.1 member
      rfl
  | list slot range =>
      obtain ⟨_, _, rfl⟩ := List.mem_map.1 member
      rfl

theorem standing_distinct (field : ChildField) : (arena.standing field).Nodup := by
  cases field with
  | optional slot child => cases present : child.present? <;> simp [standing, present]
  | required slot child => simp [standing]
  | list slot range =>
      apply List.Nodup.of_map Edge.entry
      have entries : (arena.standing (.list slot range)).map Edge.entry =
          List.range' 0 (arena.entries range).length := by
        simp only [standing, List.map_map]
        exact List.zipIdx_map_snd 0 (arena.entries range)
      rw [entries]
      exact List.nodup_range' 1

theorem places_distinct (kind : ExprKind) : (kind.fields.flatMap arena.standing).Nodup := by
  have slots : (kind.fields.map ChildField.slot).Nodup := by
    cases kind <;> simp [ExprKind.fields, ChildField.slot]
  apply List.nodup_flatMap.2
  refine ⟨fun field _ => standing_distinct field, ?_⟩
  refine (List.pairwise_map.1 slots).imp fun apart edge member otherMember => ?_
  exact apart ((standing_slot member).symm.trans (standing_slot otherMember))

/-! ### Paths and uses -/

/-- The paths down from a node, each one once, in the order of the nodes that they lead to. -/
structure PathsFrom (arena : Arena) (id : NodeId) (paths : List (List Edge))
    (targets : List NodeId) : Prop where
  distinct : paths.Nodup
  lead : List.Forall₂ (arena.Path id) paths targets
  all : ∀ path target, arena.Path id path target → path ∈ paths

/-- Likewise for the paths that start with one of several places. -/
structure PathsThrough (arena : Arena) (edges : List Edge) (paths : List (List Edge))
    (targets : List NodeId) : Prop where
  distinct : paths.Nodup
  lead : List.Forall₂ (fun path target => ∃ edge ∈ edges, ∃ rest, path = edge :: rest ∧
    arena.Path edge.child rest target) paths targets
  all : ∀ edge ∈ edges, ∀ rest target, arena.Path edge.child rest target → edge :: rest ∈ paths

theorem PathsThrough.nil : arena.PathsThrough [] [] [] :=
  ⟨List.nodup_nil, .nil, by simp⟩

theorem PathsThrough.cons {edges : List Edge} {below paths : List (List Edge)}
    {targets others : List NodeId} (fresh : edge ∉ edges)
    (first : arena.PathsFrom edge.child below targets)
    (onward : arena.PathsThrough edges paths others) :
    arena.PathsThrough (edge :: edges) (below.map (edge :: ·) ++ paths) (targets ++ others) where
  distinct := by
    apply List.nodup_append'.2
    refine ⟨first.distinct.map fun _ _ => List.tail_eq_of_cons_eq, onward.distinct, ?_⟩
    intro path member otherMember
    obtain ⟨rest, _, rfl⟩ := List.mem_map.1 member
    obtain ⟨target, _, other, inside, _, same, _⟩ :=
      exists_left_of_mem onward.lead.flip otherMember
    -- A path in both parts would start with the new place and with one of the others.
    exact fresh ((List.cons.inj same).1 ▸ inside)
  lead := by
    apply List.rel_append
    · rw [List.forall₂_map_left_iff]
      exact first.lead.imp fun path target leads => ⟨edge, by simp, path, rfl, leads⟩
    · apply onward.lead.imp
      intro path target ⟨other, inside, rest, same, leads⟩
      exact ⟨other, by simp [inside], rest, same, leads⟩
  all := by
    intro other member rest target leads
    rcases List.mem_cons.1 member with rfl | inside
    · exact List.mem_append_left _ (List.mem_map_of_mem (first.all rest target leads))
    · exact List.mem_append_right _ (onward.all other inside rest target leads)

/-- The paths through all places of a node, with the empty path, are all paths from the node. -/
theorem PathsThrough.from {kind : ExprKind} {paths : List (List Edge)} {targets : List NodeId}
    (found : arena.kinds[id.index]? = some kind)
    (through : arena.PathsThrough (kind.fields.flatMap arena.standing) paths targets) :
    arena.PathsFrom id ([] :: paths) (id :: targets) where
  distinct := by
    apply List.nodup_cons.2
    refine ⟨fun member => ?_, through.distinct⟩
    obtain ⟨_, _, _, _, _, same, _⟩ := exists_left_of_mem through.lead.flip member
    cases same
  lead := by
    apply List.Forall₂.cons (.here id)
    apply through.lead.imp
    intro path target ⟨edge, member, rest, same, leads⟩
    rw [same]
    exact .down ⟨kind, found, member⟩ leads
  all := by
    intro path target leads
    cases leads with
    | here => simp
    | @down _ _ edge rest first onward =>
        obtain ⟨other, otherFound, member⟩ := first
        rw [found] at otherFound
        cases otherFound
        exact List.mem_cons_of_mem _ (through.all edge member rest target onward)

end Arena

namespace Forest

variable {forest : Forest} {id : NodeId} {depth : Nat} {tree : OrderedTree NodeId}

theorem paths_through_uses {edges : List Edge} {trees : List (OrderedTree NodeId)}
    (one : ∀ child tree, forest.arena.uses depth child = .ok tree →
      ∃ paths, forest.arena.PathsFrom child paths tree.preorder)
    (distinct : edges.Nodup)
    (each : List.Forall₂ (fun child tree => forest.arena.uses depth child = .ok tree)
      (edges.map Edge.child) trees) :
    ∃ paths, forest.arena.PathsThrough edges paths (OrderedTree.preorderAll trees) := by
  rw [List.forall₂_map_left_iff] at each
  induction each with
  | nil => exact ⟨[], .nil⟩
  | @cons edge tree edges trees used _ induction =>
      obtain ⟨fresh, others⟩ := List.nodup_cons.1 distinct
      obtain ⟨below, first⟩ := one edge.child tree used
      obtain ⟨paths, onward⟩ := induction others
      exact ⟨_, .cons fresh first onward⟩

theorem paths_from_uses (used : forest.arena.uses depth id = .ok tree) :
    ∃ paths, forest.arena.PathsFrom id paths tree.preorder := by
  induction depth generalizing id tree with
  | zero => simp [Arena.uses] at used
  | succ depth induction =>
      obtain ⟨children, trees, listed, each, rfl⟩ := Arena.uses_succ_ok_iff.1 used
      obtain ⟨kind, found, listable, rfl⟩ := listable_of_children listed
      rw [← listable.standing_children] at each
      obtain ⟨paths, through⟩ :=
        paths_through_uses (fun _ _ => induction) (Arena.places_distinct kind) each
      exact ⟨_, through.from found⟩

end Forest

/-- Of the items of a list without repetition, as many are related to a value as the value occurs
opposite them, if no item is related to two values. -/
theorem encard_related {Item Other : Type} [DecidableEq Other] {related : Item → Other → Prop}
    (single : ∀ item other another, related item other → related item another → other = another)
    {items : List Item} {others : List Other} (distinct : items.Nodup)
    (each : List.Forall₂ related items others) (other : Other) :
    {item | item ∈ items ∧ related item other}.encard = others.count other := by
  induction each with
  | nil => simp
  | @cons item opposite items others relates _ induction =>
      obtain ⟨fresh, distinct⟩ := List.nodup_cons.1 distinct
      by_cases same : opposite = other
      · have all : {entry | entry ∈ item :: items ∧ related entry other} =
            insert item {entry | entry ∈ items ∧ related entry other} := by
          ext entry
          constructor
          · intro ⟨member, found⟩
            rcases List.mem_cons.1 member with first | later
            · exact .inl first
            · exact .inr ⟨later, found⟩
          · intro member
            rcases member with rfl | ⟨later, found⟩
            · exact ⟨List.mem_cons_self, same ▸ relates⟩
            · exact ⟨List.mem_cons_of_mem _ later, found⟩
        rw [all, Set.encard_insert_of_notMem (fun inside => fresh inside.1), induction distinct]
        simp [same]
      · have all : {entry | entry ∈ item :: items ∧ related entry other} =
            {entry | entry ∈ items ∧ related entry other} := by
          ext entry
          constructor
          · intro ⟨member, found⟩
            rcases List.mem_cons.1 member with rfl | later
            · exact absurd (single entry opposite other relates found) same
            · exact ⟨later, found⟩
          · intro ⟨later, found⟩
            exact ⟨List.mem_cons_of_mem _ later, found⟩
        rw [all, induction distinct, List.count_cons_of_ne same]

theorem Arena.PathsFrom.encard {arena : Arena} {id : NodeId} {paths : List (List Edge)}
    {targets : List NodeId} (enumerated : arena.PathsFrom id paths targets) (target : NodeId) :
    {path | arena.Path id path target}.encard = targets.count target := by
  have unique (path : List Edge) (target other : NodeId) (leads : arena.Path id path target)
      (otherLeads : arena.Path id path other) : target = other :=
    leads.target_unique otherLeads
  rw [← encard_related unique enumerated.distinct enumerated.lead target]
  congr 1
  ext path
  constructor
  · intro leads
    exact ⟨enumerated.all path target leads, leads⟩
  · intro leads
    exact leads.2

end ExprTree
