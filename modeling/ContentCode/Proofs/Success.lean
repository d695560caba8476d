import Mathlib.Data.List.Forall2
import Mathlib.Data.List.Perm.Basic
import ContentCode.Error

/-!
When a computation that can fail succeeds: each of its steps does.
-/

namespace ContentCode

variable {ε α β γ : Type}

theorem bind_eq_ok {x : Except ε α} {f : α → Except ε β} {b : β} :
    (x >>= f) = .ok b ↔ ∃ a, x = .ok a ∧ f a = .ok b := by
  cases x with
  | error e => simp [bind, Except.bind]
  | ok a => simp [bind, Except.bind]

theorem pure_eq_ok {a b : α} : (pure a : Except ε α) = .ok b ↔ a = b := by
  simp [pure, Except.pure]

theorem throw_bind {e : ε} {f : α → Except ε β} : (throw e >>= f) = .error e := rfl

theorem forM_eq_ok {xs : List α} {f : α → Except ε Unit} :
    xs.forM f = .ok () ↔ ∀ x ∈ xs, f x = .ok () := by
  induction xs with
  | nil => simp [pure, Except.pure]
  | cons x xs ih =>
      change (f x >>= fun _ => xs.forM f) = .ok () ↔ _
      rw [bind_eq_ok, List.forall_mem_cons, ← ih]
      exact ⟨fun ⟨_, hx, hxs⟩ => ⟨hx, hxs⟩, fun ⟨hx, hxs⟩ => ⟨_, hx, hxs⟩⟩

/-- A traversal succeeds if each of its steps does, and collects their results. -/
theorem mapM_eq_ok {xs : List α} {f : α → Except ε β} {ys : List β} :
    xs.mapM f = .ok ys ↔ List.Forall₂ (fun x y => f x = .ok y) xs ys := by
  induction xs generalizing ys with
  | nil => rw [List.mapM_nil, pure_eq_ok, List.forall₂_nil_left_iff, eq_comm]
  | cons x xs ih =>
      simp only [List.mapM_cons, bind_eq_ok, pure_eq_ok, ih, List.forall₂_cons_left_iff]
      constructor
      · rintro ⟨y, hx, rest, hxs, rfl⟩
        exact ⟨y, rest, hx, hxs, rfl⟩
      · rintro ⟨y, rest, hx, hxs, rfl⟩
        exact ⟨y, hx, rest, hxs, rfl⟩

theorem map_eq_map {xs : List α} {ys : List β} {f : α → γ} {g : β → γ} :
    xs.map f = ys.map g ↔ List.Forall₂ (fun x y => f x = g y) xs ys := by
  rw [← List.forall₂_map_right_iff, ← List.forall₂_map_left_iff (R := (· = ·)), List.forall₂_eq_eq_eq]

theorem exists_forall₂ {R : α → β → Prop} {xs : List α} :
    (∃ ys, List.Forall₂ R xs ys) ↔ ∀ x ∈ xs, ∃ y, R x y := by
  induction xs with
  | nil => simp
  | cons x xs ih =>
      rw [List.forall_mem_cons, ← ih]
      simp only [List.forall₂_cons_left_iff]
      constructor
      · rintro ⟨_, y, ys, hx, hxs, -⟩
        exact ⟨⟨y, hx⟩, ys, hxs⟩
      · rintro ⟨⟨y, hx⟩, ys, hxs⟩
        exact ⟨y :: ys, y, ys, hx, hxs, rfl⟩

theorem mapM_eq_ok_iff_map {xs : List α} {f : α → Except ε β} {ys : List β} :
    xs.mapM f = .ok ys ↔ xs.map f = ys.map .ok := by
  rw [mapM_eq_ok, map_eq_map]

theorem exists_of_mem_mapM {xs : List α} {f : α → Except ε β} {ys : List β} {y : β} (h : xs.mapM f = .ok ys)
    (hy : y ∈ ys) : ∃ x ∈ xs, f x = .ok y := by
  rw [← List.mem_map, mapM_eq_ok_iff_map.1 h]
  exact List.mem_map_of_mem hy

/-- A traversal in another order collects the same results, in that order. -/
theorem exists_mapM_of_perm {xs zs : List α} {f : α → Except ε β} {ys : List β}
    (hperm : (zs.map f).Perm (xs.map f)) (h : xs.mapM f = .ok ys) :
    ∃ ws, zs.mapM f = .ok ws ∧ ws.Perm ys := by
  rw [mapM_eq_ok_iff_map] at h
  rw [h] at hperm
  have hok : ∀ z ∈ zs, ∃ w, f z = .ok w := by
    intro z hz
    obtain ⟨w, -, hw⟩ := List.mem_map.1 (hperm.mem_iff.1 (List.mem_map_of_mem hz))
    exact ⟨w, hw.symm⟩
  obtain ⟨ws, hws⟩ := exists_forall₂.2 hok
  rw [← mapM_eq_ok] at hws
  refine ⟨ws, hws, ?_⟩
  rw [mapM_eq_ok_iff_map.1 hws] at hperm
  exact (List.map_perm_map_iff fun _ _ => Except.ok.inj).1 hperm

theorem forall₂_comp {R : α → β → Prop} {S : β → γ → Prop} {xs : List α} {zs : List γ} :
    List.Forall₂ (fun x z => ∃ y, R x y ∧ S y z) xs zs ↔
      ∃ ys, List.Forall₂ R xs ys ∧ List.Forall₂ S ys zs := by
  constructor
  · intro h
    induction h with
    | nil => exact ⟨[], .nil, .nil⟩
    | cons h _ ih =>
        obtain ⟨y, hxy, hyz⟩ := h
        obtain ⟨ys, hxs, hzs⟩ := ih
        exact ⟨y :: ys, .cons hxy hxs, .cons hyz hzs⟩
  · rintro ⟨ys, hxs, hzs⟩
    induction hxs generalizing zs with
    | nil =>
        cases hzs
        exact .nil
    | cons hxy _ ih =>
        cases hzs with
        | cons hyz hzs => exact .cons ⟨_, hxy, hyz⟩ (ih hzs)

end ContentCode
