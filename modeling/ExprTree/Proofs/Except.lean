import ExprTree.Except
import Mathlib.Data.List.Forall2

/-!
Lists of computations that may fail, as a whole: all of them succeed exactly if each of them does,
they fail as the first one does that fails, and a fold that succeeds can be cut anywhere.
-/

namespace ExprTree

set_option autoImplicit false

variable {Item Other State Error : Type}

theorem map_ok_iff {result : Except Error Item} {f : Item → Other} {other : Other} :
    result.map f = .ok other ↔ ∃ item, result = .ok item ∧ f item = other := by
  cases result <;> simp [Except.map]

/-- A computation that fails in one way only, and then exactly without the condition. -/
theorem answers_iff {result : Except Error Item} {condition : Prop} {fault : Error}
    (answers : condition → ∃ item, result = .ok item)
    (fails : ¬condition → result = .error fault) :
    ((∃ item, result = .ok item) ↔ condition) ∧
      ∀ error, result = .error error → error = fault := by
  by_cases holds : condition
  · obtain ⟨item, answered⟩ := answers holds
    simp [answered, holds]
  · simp [fails holds, holds, eq_comm]

theorem exists_left_of_mem {related : Item → Other → Prop} {items : List Item} {others : List Other}
    {other : Other} (each : List.Forall₂ related items others) (member : other ∈ others) :
    ∃ item ∈ items, related item other := by
  induction each with
  | nil => simp at member
  | cons head tail induction =>
      rcases List.mem_cons.1 member with rfl | later
      · exact ⟨_, by simp, head⟩
      · obtain ⟨item, inside, found⟩ := induction later
        exact ⟨item, by simp [inside], found⟩

theorem results_unique {related otherRelated : Item → Other → Prop} {items : List Item}
    {results others : List Other} (each : List.Forall₂ related items results)
    (otherEach : List.Forall₂ otherRelated items others)
    (unique : ∀ item result other, related item result → otherRelated item other →
      result = other) : results = others := by
  induction each generalizing others with
  | nil =>
      cases otherEach
      rfl
  | cons head tail induction =>
      cases otherEach with
      | cons otherHead otherTail =>
          rw [unique _ _ _ head otherHead, induction otherTail]

theorem map_m_ok_iff {f : Item → Except Error Other} {items : List Item} {others : List Other} :
    items.mapM f = .ok others ↔
      List.Forall₂ (fun item other => f item = .ok other) items others := by
  induction items generalizing others with
  | nil => cases others <;> simp [pure, Except.pure]
  | cons item items induction =>
      rw [List.mapM_cons, bind_ok_iff]
      constructor
      · intro ⟨other, first, mapped⟩
        obtain ⟨rest, remaining, same⟩ := bind_ok_iff.1 mapped
        cases same
        exact .cons first (induction.1 remaining)
      · intro each
        cases each with
        | cons first remaining =>
            exact ⟨_, first, bind_ok_iff.2 ⟨_, induction.2 remaining, rfl⟩⟩

theorem for_m_ok_iff {f : Item → Except Error Unit} {items : List Item} :
    forM items f = .ok () ↔ ∀ item ∈ items, f item = .ok () := by
  induction items with
  | nil => simp [pure, Except.pure]
  | cons item items induction =>
      rw [List.forM_cons, bind_ok_iff, List.forall_mem_cons]
      constructor
      · intro ⟨_, first, remaining⟩
        exact ⟨first, induction.1 remaining⟩
      · intro ⟨first, remaining⟩
        exact ⟨(), first, induction.2 remaining⟩

theorem fold_unit_ok_iff {f : Item → Unit → Except Error Unit} {items : List Item} :
    items.foldlM (fun state item => f item state) () = .ok () ↔
      ∀ item ∈ items, f item () = .ok () := by
  induction items with
  | nil => simp [pure, Except.pure]
  | cons item items induction =>
      rw [List.foldlM_cons, bind_ok_iff, List.forall_mem_cons]
      constructor
      · intro ⟨_, first, remaining⟩
        exact ⟨first, induction.1 remaining⟩
      · intro ⟨first, remaining⟩
        exact ⟨(), first, induction.2 remaining⟩

theorem fold_cons_ok {f : State → Item → Except Error State} {first next last : State} {item : Item}
    {items : List Item} (stepped : f first item = .ok next)
    (remaining : items.foldlM f next = .ok last) : (item :: items).foldlM f first = .ok last := by
  rw [List.foldlM_cons, bind_ok_iff]
  exact ⟨next, stepped, remaining⟩

theorem fold_ok_invariant {f : State → Item → Except Error State} {holds : State → Prop}
    (step : ∀ state item next, holds state → f state item = .ok next → holds next)
    {items : List Item} {first last : State} (start : holds first)
    (folded : items.foldlM f first = .ok last) : holds last := by
  induction items generalizing first with
  | nil =>
      cases folded
      exact start
  | cons item items induction =>
      rw [List.foldlM_cons, bind_ok_iff] at folded
      obtain ⟨next, stepped, remaining⟩ := folded
      exact induction (step first item next start stepped) remaining

theorem map_m_eq_map {f : Item → Except Error Other} {results : Item → Other} {items : List Item}
    (each : ∀ item ∈ items, f item = .ok (results item)) :
    items.mapM f = .ok (items.map results) := by
  rw [map_m_ok_iff, List.forall₂_map_right_iff, List.forall₂_same]
  exact each

theorem map_m_map {Third : Type} (f : Item → Except Error Other) (g : Other → Third)
    (items : List Item) :
    (items.mapM fun item => (f item).map g) = (items.mapM f).map (List.map g) := by
  induction items with
  | nil => rfl
  | cons item items induction =>
      rw [List.mapM_cons, List.mapM_cons, induction]
      cases f item with
      | error error => rfl
      | ok other => cases items.mapM f <;> rfl

theorem map_m_total {f : Item → Except Error Other} {items : List Item}
    (total : ∀ item ∈ items, ∃ other, f item = .ok other) :
    ∃ others, items.mapM f = .ok others := by
  induction items with
  | nil => exact ⟨[], rfl⟩
  | cons item items induction =>
      obtain ⟨other, first⟩ := total item (by simp)
      obtain ⟨others, remaining⟩ := induction fun item member => total item (by simp [member])
      exact ⟨other :: others, map_m_ok_iff.2 (.cons first (map_m_ok_iff.1 remaining))⟩

theorem for_m_error_iff {f : Item → Except Error Unit} {items : List Item} {error : Error} :
    forM items f = .error error ↔
      ∃ before item after, items = before ++ item :: after ∧
        (∀ earlier ∈ before, f earlier = .ok ()) ∧ f item = .error error := by
  induction items with
  | nil => simp [pure, Except.pure]
  | cons first rest induction =>
      rw [List.forM_cons]
      cases answered : f first with
      | error other =>
          constructor
          · intro failed
            exact ⟨[], first, rest, rfl, by simp, answered.trans failed⟩
          · intro ⟨before, item, after, split, passed, failed⟩
            cases before with
            | nil =>
                cases split
                exact answered.symm.trans failed
            | cons earlier before =>
                cases split
                have passedFirst := passed first (by simp)
                rw [answered] at passedFirst
                cases passedFirst
      | ok =>
          change forM rest f = .error error ↔ _
          rw [induction]
          constructor
          · intro ⟨before, item, after, split, passed, failed⟩
            refine ⟨first :: before, item, after, by rw [split]; rfl, ?_, failed⟩
            exact List.forall_mem_cons.2 ⟨answered, passed⟩
          · intro ⟨before, item, after, split, passed, failed⟩
            cases before with
            | nil =>
                cases split
                rw [answered] at failed
                cases failed
            | cons earlier before =>
                cases split
                exact ⟨before, item, after, rfl, (List.forall_mem_cons.1 passed).2, failed⟩

theorem for_m_flat_map {f : Other → Except Error Unit} {g : Item → List Other}
    {items : List Item} : forM (items.flatMap g) f = forM items fun item => forM (g item) f := by
  induction items with
  | nil => rfl
  | cons item items induction =>
      rw [List.flatMap_cons, List.forM_append, List.forM_cons, induction]

/-- Whether a computation gives an answer, and if not, its error. -/
def verdict (result : Except Error Item) : Except Error Unit := result.map fun _ => ()

theorem verdict_ok_iff {result : Except Error Item} :
    verdict result = .ok () ↔ ∃ item, result = .ok item := by
  cases result <;> simp [verdict, Except.map]

theorem verdict_error_iff {result : Except Error Item} {error : Error} :
    verdict result = .error error ↔ result = .error error := by
  cases result <;> simp [verdict, Except.map]

theorem verdict_map (f : Item → Other) (result : Except Error Item) :
    verdict (result.map f) = verdict result := by
  cases result <;> rfl

theorem verdict_bind (first : Except Error Item) (next : Item → Except Error Other) :
    verdict (first >>= next) = first >>= fun item => verdict (next item) := by
  cases first <;> rfl

theorem verdict_then (first : Except Error Item) (second : Except Error Other) :
    verdict (first >>= fun _ => second) = verdict first >>= fun _ => verdict second := by
  cases first <;> rfl

theorem verdict_map_m (f : Item → Except Error Other) (items : List Item) :
    verdict (items.mapM f) = forM items fun item => verdict (f item) := by
  induction items with
  | nil => rfl
  | cons item items induction =>
      rw [List.mapM_cons, List.forM_cons, verdict_bind, ← induction]
      cases f item with
      | error error => rfl
      | ok other =>
          change verdict (items.mapM f >>= fun others => pure (other :: others)) = _
          cases items.mapM f <;> rfl

end ExprTree
