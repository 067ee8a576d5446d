/-!
When a computation that may fail succeeds: a sequence does if both parts do, and a list of
computations if each of them does.
-/

namespace ExprTree

set_option autoImplicit false

variable {Item Other Error OtherError : Type}

@[simp]
theorem map_error_ok (f : Error → OtherError) (item : Item) :
    (Except.ok item).mapError f = .ok item := rfl

@[simp]
theorem map_error_error (f : Error → OtherError) (error : Error) :
    (Except.error error : Except Error Item).mapError f = .error (f error) := rfl

theorem bind_ok_iff {first : Except Error Item} {next : Item → Except Error Other}
    {result : Other} :
    (first >>= next) = .ok result ↔ ∃ item, first = .ok item ∧ next item = .ok result := by
  cases first with
  | error error => simp [bind, Except.bind]
  | ok item => simp [bind, Except.bind]

theorem map_m_length {f : Item → Except Error Other} {items : List Item} {others : List Other}
    (mapped : items.mapM f = .ok others) : others.length = items.length := by
  induction items generalizing others with
  | nil =>
      simp only [List.mapM_nil, pure, Except.pure, Except.ok.injEq] at mapped
      simp [← mapped]
  | cons item items induction =>
      rw [List.mapM_cons, bind_ok_iff] at mapped
      obtain ⟨other, _, mapped⟩ := mapped
      obtain ⟨rest, restMapped, mapped⟩ := bind_ok_iff.1 mapped
      simp only [pure, Except.pure, Except.ok.injEq] at mapped
      simp [← mapped, induction restMapped]

end ExprTree
