import Mathlib.Data.List.Forall2

/-!
# Computations that fail at their first error

What a computation that succeeds says about its steps, and what going through a list says
about the entries: all succeed (`CarrierLink.mapM_eq_ok_iff`), or the first that fails does so
with the error of the whole (`CarrierLink.mapM_eq_error_iff`).
-/

namespace CarrierLink

theorem exists_of_bind_eq_ok {ε α β : Type} {x : Except ε α} {f : α → Except ε β} {y : β}
    (h : (x >>= f) = .ok y) : ∃ a, x = .ok a ∧ f a = .ok y := by
  cases x with
  | error e => exact absurd h (by simp [bind, Except.bind])
  | ok a => exact ⟨a, rfl, h⟩

theorem exists_of_map_eq_ok {ε α β : Type} {x : Except ε α} {f : α → β} {y : β}
    (h : x.map f = .ok y) : ∃ a, x = .ok a ∧ f a = y := by
  cases x with
  | error e => exact absurd h (by simp [Except.map])
  | ok a => exact ⟨a, rfl, Except.ok.inj h⟩

theorem map_eq_error_iff {ε α β : Type} {x : Except ε α} {f : α → β} {e : ε} :
    x.map f = .error e ↔ x = .error e := by
  cases x <;> simp [Except.map]

/-- Whatever is paired with something has a partner. -/
theorem exists_of_forall₂_right {α β : Type} {R : α → β → Prop} {xs : List α} {ys : List β}
    (h : List.Forall₂ R xs ys) {y : β} (hy : y ∈ ys) : ∃ x ∈ xs, R x y := by
  induction h with
  | nil => exact absurd hy List.not_mem_nil
  | cons hxy _ ih =>
    rcases List.mem_cons.mp hy with rfl | hy
    · exact ⟨_, List.mem_cons_self, hxy⟩
    · obtain ⟨x, hx, hxy'⟩ := ih hy
      exact ⟨x, List.mem_cons_of_mem _ hx, hxy'⟩

theorem exists_of_forall₂_left {α β : Type} {R : α → β → Prop} {xs : List α} {ys : List β}
    (h : List.Forall₂ R xs ys) {x : α} (hx : x ∈ xs) : ∃ y, R x y := by
  obtain ⟨y, -, hxy⟩ := exists_of_forall₂_right h.flip hx
  exact ⟨y, hxy⟩

/-- A list is gone through without an error when every entry is. -/
theorem forall₂_of_mapM {α β ε : Type} {f : α → Except ε β} {xs : List α} {ys : List β}
    (h : xs.mapM f = .ok ys) : List.Forall₂ (fun x y => f x = .ok y) xs ys := by
  induction xs generalizing ys with
  | nil =>
    obtain rfl : ([] : List β) = ys := by simpa [pure, Except.pure] using h
    exact .nil
  | cons x xs ih =>
    rw [List.mapM_cons] at h
    cases hx : f x with
    | error e => exact absurd h (by simp [hx, bind, Except.bind])
    | ok y =>
      cases hxs : xs.mapM f with
      | error e => exact absurd h (by simp [hx, hxs, bind, Except.bind])
      | ok ys' =>
        obtain rfl : y :: ys' = ys := by
          simpa [hx, hxs, bind, Except.bind, pure, Except.pure] using h
        exact .cons hx (ih hxs)

/-- **A list is gone through exactly if every entry is.** -/
theorem mapM_eq_ok_iff {α β ε : Type} {f : α → Except ε β} {xs : List α} {ys : List β} :
    xs.mapM f = .ok ys ↔ List.Forall₂ (fun x y => f x = .ok y) xs ys := by
  refine ⟨forall₂_of_mapM, fun h => ?_⟩
  induction h with
  | nil => rfl
  | cons hxy _ ih => rw [List.mapM_cons, hxy, ih]; rfl

/-- **A list that cannot be gone through stops at its first entry that fails**, with the error
of that entry. -/
theorem mapM_eq_error_iff {α β ε : Type} {f : α → Except ε β} {xs : List α} {e : ε} :
    xs.mapM f = .error e ↔
      ∃ before x after, xs = before ++ x :: after ∧ (∀ y ∈ before, ∃ b, f y = .ok b) ∧
        f x = .error e := by
  constructor
  · intro h
    induction xs with
    | nil => exact absurd h (by simp [pure, Except.pure])
    | cons x xs ih =>
      rw [List.mapM_cons] at h
      cases hx : f x with
      | error e' =>
        obtain rfl : e' = e := by simpa [hx, bind, Except.bind] using h
        exact ⟨[], x, xs, rfl, by simp, hx⟩
      | ok b =>
        have hrest : xs.mapM f = .error e := by
          cases hxs : xs.mapM f with
          | error e' => simpa [hx, hxs, bind, Except.bind] using h
          | ok ys => exact absurd h (by simp [hx, hxs, bind, Except.bind, pure, Except.pure])
        obtain ⟨before, x', after, rfl, hbefore, hx'⟩ := ih hrest
        refine ⟨x :: before, x', after, rfl, fun y hy => ?_, hx'⟩
        rcases List.mem_cons.mp hy with rfl | hy
        · exact ⟨b, hx⟩
        · exact hbefore y hy
  · rintro ⟨before, x, after, rfl, hbefore, hx⟩
    induction before with
    | nil => rw [List.nil_append, List.mapM_cons, hx]; rfl
    | cons y before ih =>
      obtain ⟨b, hy⟩ := hbefore y List.mem_cons_self
      have hrest := ih fun y' hy' => hbefore y' (List.mem_cons_of_mem y hy')
      rw [List.cons_append, List.mapM_cons, hy, hrest]
      rfl

/-- A list that cannot be gone through has an entry at which it stops. -/
theorem exists_error_of_mapM {α β ε : Type} {f : α → Except ε β} {xs : List α} {e : ε}
    (h : xs.mapM f = .error e) : ∃ x ∈ xs, f x = .error e := by
  obtain ⟨before, x, after, rfl, -, hx⟩ := mapM_eq_error_iff.mp h
  exact ⟨x, by simp, hx⟩

/-- A list is gone through if none of its entries fails. -/
theorem mapM_map_eq_ok {α β γ ε : Type} {f : α → Except ε β} {g : γ → α} {h : γ → β}
    (hok : ∀ x, f (g x) = .ok (h x)) (xs : List γ) : (xs.map g).mapM f = .ok (xs.map h) := by
  induction xs with
  | nil => rfl
  | cons x xs ih => rw [List.map_cons, List.mapM_cons, hok, ih, List.map_cons]; rfl

end CarrierLink
