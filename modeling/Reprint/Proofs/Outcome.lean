import Mathlib.Data.List.Forall2

/-!
# Computations that may fail

What is known if a computation put together from others has succeeded: each of
them has, and the next one has gone on from what it gave.
-/

namespace Reprint

variable {ε α β : Type}

theorem exists_of_bind_eq_ok {x : Except ε α} {f : α → Except ε β} {b : β}
    (given : (x >>= f) = .ok b) : ∃ a, x = .ok a ∧ f a = .ok b := by
  cases x with
  | error e => cases given
  | ok a => exact ⟨a, rfl, given⟩

theorem of_bind_eq_error {x : Except ε α} {f : α → Except ε β} {e : ε}
    (given : (x >>= f) = .error e) : x = .error e ∨ ∃ a, x = .ok a ∧ f a = .error e := by
  cases x with
  | error e' => exact .inl (congrArg Except.error (Except.error.inj given))
  | ok a => exact .inr ⟨a, rfl, given⟩

/-- Of two lists that are related item by item, each item is related to one of the other. -/
theorem exists_of_forall₂ {R : α → β → Prop} {xs : List α} {ys : List β} (related : List.Forall₂ R xs ys) :
    (∀ x ∈ xs, ∃ y ∈ ys, R x y) ∧ ∀ y ∈ ys, ∃ x ∈ xs, R x y := by
  induction related with
  | nil => exact ⟨List.forall_mem_nil _, List.forall_mem_nil _⟩
  | @cons x y xs ys first _ ih =>
    refine ⟨List.forall_mem_cons.2 ⟨⟨y, List.mem_cons_self, first⟩, fun x member => ?_⟩,
      List.forall_mem_cons.2 ⟨⟨x, List.mem_cons_self, first⟩, fun y member => ?_⟩⟩
    · obtain ⟨y, inside, same⟩ := ih.1 x member
      exact ⟨y, List.mem_cons_of_mem _ inside, same⟩
    · obtain ⟨x, inside, same⟩ := ih.2 y member
      exact ⟨x, List.mem_cons_of_mem _ inside, same⟩

theorem map_eq_map_of_forall₂ {γ : Type} {R : α → β → Prop} {f : α → γ} {h : β → γ} {xs : List α}
    {ys : List β} (related : List.Forall₂ R xs ys) (same : ∀ x y, R x y → f x = h y) :
    xs.map f = ys.map h := by
  have equal : List.Forall₂ (· = ·) (xs.map f) (ys.map h) := by
    rw [List.forall₂_map_left_iff, List.forall₂_map_right_iff]
    exact related.imp same
  rwa [List.forall₂_eq_eq_eq] at equal

/-- A list that was made item by item from another one is related to it item by item. -/
theorem forall₂_of_mapM_eq_ok {f : α → Except ε β} {xs : List α} {ys : List β}
    (given : xs.mapM f = .ok ys) : List.Forall₂ (fun x y => f x = .ok y) xs ys := by
  induction xs generalizing ys with
  | nil =>
    obtain rfl := Except.ok.inj given
    exact .nil
  | cons x xs ih =>
    rw [List.mapM_cons] at given
    obtain ⟨y, first, given⟩ := exists_of_bind_eq_ok given
    obtain ⟨rest, others, given⟩ := exists_of_bind_eq_ok given
    obtain rfl := Except.ok.inj given
    exact .cons first (ih others)

/-- A list that was made item by item is as long as what it was made from, and each of its
items was made from one. -/
theorem exists_of_mapM_eq_ok {f : α → Except ε β} {xs : List α} {ys : List β}
    (given : xs.mapM f = .ok ys) : ys.length = xs.length ∧ ∀ y ∈ ys, ∃ x ∈ xs, f x = .ok y :=
  have related := forall₂_of_mapM_eq_ok given
  ⟨related.length_eq.symm, (exists_of_forall₂ related).2⟩

/-- Making a list item by item fails as one of its items does. -/
theorem exists_of_mapM_eq_error {f : α → Except ε β} {xs : List α} {e : ε}
    (given : xs.mapM f = .error e) : ∃ x ∈ xs, f x = .error e := by
  induction xs with
  | nil => cases given
  | cons x xs ih =>
    rw [List.mapM_cons] at given
    obtain first | ⟨y, _, given⟩ := of_bind_eq_error given
    · exact ⟨x, List.mem_cons_self, first⟩
    · obtain others | ⟨rest, _, given⟩ := of_bind_eq_error given
      · obtain ⟨x', member, failed⟩ := ih others
        exact ⟨x', List.mem_cons_of_mem _ member, failed⟩
      · cases given

/-- Where each question has an answer, so has the question whether one is answered with yes. -/
theorem anyM_eq_ok {f : α → Except ε Bool} {p : α → Bool} {xs : List α}
    (answered : ∀ x ∈ xs, f x = .ok (p x)) : xs.anyM f = .ok (xs.any p) := by
  induction xs with
  | nil => rfl
  | cons x xs ih =>
    obtain ⟨first, others⟩ := List.forall_mem_cons.1 answered
    rw [List.anyM, first, List.any_cons]
    cases p x with
    | true => rfl
    | false => exact ih others

end Reprint
