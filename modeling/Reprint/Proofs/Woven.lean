import Mathlib.Data.List.Forall2

/-!
# Woven lists

A list is woven from another one if it holds all of its elements in order, each
in a form that a relation allows, and beside them only elements that are free to
stand anywhere.
-/

namespace Reprint

variable {α β γ : Type}

/-- `Woven Kept Free xs ys`: every element of `xs` stands in `ys`, in order and
as `Kept` allows, and all other elements of `ys` are `Free`. -/
inductive Woven (Kept : α → β → Prop) (Free : β → Prop) : List α → List β → Prop
  | nil : Woven Kept Free [] []
  | keep {x : α} {y : β} {xs : List α} {ys : List β} :
      Kept x y → Woven Kept Free xs ys → Woven Kept Free (x :: xs) (y :: ys)
  | insert {y : β} {xs : List α} {ys : List β} :
      Free y → Woven Kept Free xs ys → Woven Kept Free xs (y :: ys)

namespace Woven

variable {Kept : α → β → Prop} {Free : β → Prop} {xs xs' : List α} {ys ys' : List β}

theorem append (left : Woven Kept Free xs ys) (right : Woven Kept Free xs' ys') :
    Woven Kept Free (xs ++ xs') (ys ++ ys') := by
  induction left with
  | nil => exact right
  | keep kept _ ih => exact .keep kept ih
  | insert free _ ih => exact .insert free ih

/-- Free elements may be put in front. -/
theorem insertAll {zs : List β} (free : ∀ z ∈ zs, Free z) (woven : Woven Kept Free xs ys) :
    Woven Kept Free xs (zs ++ ys) := by
  induction zs with
  | nil => exact woven
  | cons z zs ih =>
    obtain ⟨first, others⟩ := List.forall_mem_cons.1 free
    exact .insert first (ih others)

/-- Lists that agree element by element are woven without additions. -/
theorem ofForall₂ (all : List.Forall₂ Kept xs ys) : Woven Kept Free xs ys := by
  induction all with
  | nil => exact .nil
  | cons kept _ ih => exact .keep kept ih

/-- Lists put together from woven lists are woven. -/
theorem flatMap {δ : Type} {f : δ → List α} {g : δ → List β} {ds : List δ}
    (all : ∀ d ∈ ds, Woven Kept Free (f d) (g d)) :
    Woven Kept Free (ds.flatMap f) (ds.flatMap g) := by
  induction ds with
  | nil => exact .nil
  | cons d ds ih =>
    obtain ⟨first, others⟩ := List.forall_mem_cons.1 all
    exact first.append (ih others)

/-- A list is woven from itself. -/
theorem refl {Free : α → Prop} (xs : List α) : Woven Eq Free xs xs :=
  ofForall₂ (List.forall₂_same.2 fun _ _ => rfl)

/-- What is woven from nothing but free elements is free throughout, if what is
kept of a free element is free. -/
theorem free_of_free {Free' : α → Prop} (pass : ∀ x y, Free' x → Kept x y → Free y)
    (woven : Woven Kept Free xs ys) (free : ∀ x ∈ xs, Free' x) : ∀ y ∈ ys, Free y := by
  induction woven with
  | nil => exact fun y member => nomatch member
  | @keep x y _ _ kept _ ih =>
    obtain ⟨first, others⟩ := List.forall_mem_cons.1 free
    exact List.forall_mem_cons.2 ⟨pass x y first kept, ih others⟩
  | insert here _ ih => exact List.forall_mem_cons.2 ⟨here, ih free⟩

/-- Weaving with additions alone and then with changes is weaving. -/
theorem trans_eq {Free' : α → Prop} {ws : List α} (pass : ∀ x y, Free' x → Kept x y → Free y)
    (first : Woven Eq Free' ws xs) (second : Woven Kept Free xs ys) : Woven Kept Free ws ys := by
  induction second generalizing ws with
  | nil =>
    cases first
    exact .nil
  | @keep x y xs ys kept _ ih =>
    cases first with
    | keep same rest => exact same ▸ .keep kept (ih rest)
    | insert free rest => exact .insert (pass x y free kept) (ih rest)
  | insert here _ ih => exact .insert here (ih first)

/-- A woven list holds the elements as a subsequence. -/
theorem sublistForall₂ (woven : Woven Kept Free xs ys) : List.SublistForall₂ Kept xs ys := by
  induction woven with
  | nil => exact .nil
  | keep kept _ ih => exact .cons kept ih
  | insert _ _ ih => exact .cons_right ih

/-- A reading that passes over free elements and reads what is kept as before
reads a woven list as the list that it is woven from. -/
theorem flatMap_eq {f : α → List γ} {g : β → List γ} (kept : ∀ x y, Kept x y → f x = g y)
    (free : ∀ y, Free y → g y = []) (woven : Woven Kept Free xs ys) : xs.flatMap f = ys.flatMap g := by
  induction woven with
  | nil => rfl
  | keep here _ ih => rw [List.flatMap_cons, List.flatMap_cons, kept _ _ here, ih]
  | insert here _ ih => rw [List.flatMap_cons, free _ here, List.nil_append, ih]

end Woven

end Reprint
