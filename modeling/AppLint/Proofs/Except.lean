import Mathlib.Data.List.Forall2

/-! Computations that may fail: when they have a result, and how changes of it combine. -/
namespace AppLint

theorem exists_forall₂_iff {α β : Type} {R : α → β → Prop} {xs : List α} :
    (∃ ys, List.Forall₂ R xs ys) ↔ ∀ x ∈ xs, ∃ y, R x y := by
  induction xs with
  | nil => simp
  | cons x rest ih =>
    simp only [List.forall₂_cons_left_iff,List.forall_mem_cons,← ih]
    constructor
    · rintro ⟨-,y,others,hy,hothers,rfl⟩
      exact ⟨⟨y,hy⟩,others,hothers⟩
    · rintro ⟨⟨y,hy⟩,others,hothers⟩
      exact ⟨y :: others,y,others,hy,hothers,rfl⟩

end AppLint

namespace Except
variable {ε ε' α β : Type}

theorem map_eq_ok {f : α → β} {x : Except ε α} {b : β} :
    x.map f = .ok b ↔ ∃ a, x = .ok a ∧ f a = b := by
  cases x <;> simp [Except.map]

theorem mapError_eq_ok {f : ε → ε'} {x : Except ε α} {a : α} :
    x.mapError f = .ok a ↔ x = .ok a := by
  cases x with
  | ok b =>
    change ok b = ok a ↔ _
    simp
  | error e =>
    change error (f e) = ok a ↔ _
    simp

theorem bind_eq_ok {f : α → Except ε β} {x : Except ε α} {b : β} :
    x >>= f = .ok b ↔ ∃ a, x = .ok a ∧ f a = .ok b := by
  cases x <;> simp [bind,Except.bind]

theorem then_eq_ok {x : Except ε Unit} {y : Except ε β} {b : β} :
    (x >>= fun _ => y) = .ok b ↔ x = .ok () ∧ y = .ok b := by
  cases x <;> simp [bind,Except.bind]

theorem forM_eq_ok {f : α → Except ε Unit} {xs : List α} :
    forM xs f = .ok () ↔ ∀ a ∈ xs, f a = .ok () := by
  induction xs with
  | nil => simp [pure,Except.pure]
  | cons a rest ih => rw [List.forM_cons,then_eq_ok,List.forall_mem_cons,ih]

theorem mapM_eq_ok {f : α → Except ε β} {xs : List α} {ys : List β} :
    xs.mapM f = .ok ys ↔ List.Forall₂ (fun x y => f x = .ok y) xs ys := by
  induction xs generalizing ys with
  | nil => cases ys <;> simp [pure,Except.pure]
  | cons x rest ih =>
    rw [List.mapM_cons,bind_eq_ok,List.forall₂_cons_left_iff]
    simp only [bind_eq_ok,ih]
    constructor
    · rintro ⟨y,hy,others,hothers,hlast⟩
      cases hlast
      exact ⟨y,others,hy,hothers,rfl⟩
    · rintro ⟨y,others,hy,hothers,rfl⟩
      exact ⟨y,hy,others,hothers,rfl⟩

theorem exists_mapM_eq_ok {f : α → Except ε β} {xs : List α} :
    (∃ ys, xs.mapM f = .ok ys) ↔ ∀ x ∈ xs, ∃ y, f x = .ok y := by
  simp only [mapM_eq_ok,AppLint.exists_forall₂_iff]

theorem toOption_eq_some {x : Except ε α} {a : α} : x.toOption = some a ↔ x = .ok a := by
  cases x with
  | ok b =>
    change some b = some a ↔ _
    simp
  | error e =>
    change none = some a ↔ _
    simp

theorem mapError_bind_pure {f : ε → ε'} {g : α → β} (x : Except ε α) :
    (x.mapError f >>= fun a => pure (g a)) = (x.map g).mapError f := by
  cases x <;> rfl

end Except
