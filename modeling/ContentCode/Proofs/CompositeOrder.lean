import Mathlib.Data.List.Sort
import Mathlib.Data.List.Sublists
import ContentCode.Composite
import ContentCode.Proofs.Success
import ContentCode.Proofs.UnitForm

/-!
Which units a composite code can hold, and in which order: some of the optional units, then a data
and an instance unit.
-/

namespace ContentCode

namespace MainType

def Ascending (types : List MainType) : Prop := types.Pairwise fun s t => s.number < t.number

theorem sublist_of_ascending {types : List MainType} (h : Ascending types)
    (hc : ∀ t ∈ types, t.isComposable = true) :
    types.Sublist [metadata, semantic, content, data, inst] := by
  have : Std.Antisymm fun s t : MainType => s.number < t.number := ⟨fun s t hst hts => by omega⟩
  have hnodup : types.Nodup := by
    apply List.Pairwise.imp _ h
    intro s t hlt he
    subst he
    exact Nat.lt_irrefl _ hlt
  have hsubset : types ⊆ [metadata, semantic, content, data, inst] := by
    intro t ht
    have := hc t ht
    cases t <;> simp_all [isComposable]
  exact List.sublist_of_subperm_of_pairwise (List.subperm_of_subset hnodup hsubset) h (by decide)

/-- What composable main types end with decides whether optional ones stand before it. -/
theorem exists_optional : ∀ types ∈ [metadata, semantic, content, data, inst].sublists,
    types.drop (types.length - 2) = [data, inst] →
      ∃ flags < 8, types = optional flags ++ [data, inst] := by
  decide

theorem flagsOf_optional : ∀ flags < 8, flagsOf (optional flags ++ [data, inst]) = .ok flags := by
  decide

theorem optional_eq_nil : ∀ flags < 8, optional flags = [] ↔ flags = 0 := by
  decide

theorem optional_ascending : ∀ flags < 8,
    (optional flags ++ [data, inst]).Sublist [metadata, semantic, content, data, inst] ∧
    Ascending (optional flags ++ [data, inst]) := by
  have h : ∀ flags < 8, (optional flags ++ [data, inst]).Pairwise fun s t => s.number < t.number := by
    decide
  exact fun flags hflags => ⟨by revert flags; decide, h flags hflags⟩

end MainType

namespace Composite

theorem inOrder_perm (units : List CodeUnit) : (inOrder units).Perm units :=
  List.mergeSort_perm _ _

theorem inOrder_pairwise (units : List CodeUnit) :
    ((inOrder units).map CodeUnit.maintype).Pairwise fun s t => s.number ≤ t.number := by
  have h : (inOrder units).Pairwise fun u v => decide (u.maintype.number ≤ v.maintype.number) = true :=
    List.pairwise_mergeSort (by simp; omega) (by simp; omega) units
  rw [List.pairwise_map]
  exact h.imp of_decide_eq_true

theorem inOrder_eq_self {units : List CodeUnit}
    (h : (units.map CodeUnit.maintype).Pairwise fun s t => s.number ≤ t.number) :
    inOrder units = units := by
  rw [List.pairwise_map] at h
  exact List.mergeSort_of_pairwise (h.imp decide_eq_true)

theorem inOrder_eq_of_perm {units units' : List CodeUnit} (hperm : units'.Perm units)
    (hnodup : (units.map CodeUnit.maintype).Nodup) : inOrder units' = inOrder units := by
  have hsorted (us : List CodeUnit) :
      (inOrder us).Pairwise fun u v => u.maintype.number ≤ v.maintype.number := by
    have h := inOrder_pairwise us
    rwa [List.pairwise_map] at h
  refine List.Perm.eq_of_pairwise ?_ (hsorted units') (hsorted units)
    ((inOrder_perm units').trans (hperm.trans (inOrder_perm units).symm))
  intro u v hu hv huv hvu
  rw [(inOrder_perm units').mem_iff, hperm.mem_iff] at hu
  rw [(inOrder_perm units).mem_iff] at hv
  exact List.inj_on_of_nodup_map hnodup hu hv (MainType.number_inj (Nat.le_antisymm huv hvu))

theorem repeated?_eq_none {types : List MainType} (h : types.Pairwise fun s t => s.number ≤ t.number) :
    repeated? types = none ↔ MainType.Ascending types := by
  induction types with
  | nil => simp [repeated?, MainType.Ascending]
  | cons s types ih =>
      cases types with
      | nil => simp [repeated?, MainType.Ascending]
      | cons t types =>
          obtain ⟨hle, htail⟩ := List.pairwise_cons.1 h
          have hst := hle t List.mem_cons_self
          rw [repeated?, MainType.Ascending, List.pairwise_cons, ← MainType.Ascending, ← ih htail]
          split
          next heq =>
            subst heq
            refine iff_of_false (Option.some_ne_none _) ?_
            rintro ⟨hlt, -⟩
            exact Nat.lt_irrefl _ (hlt s List.mem_cons_self)
          next hne =>
            refine ⟨fun hnone => ⟨?_, hnone⟩, fun hnone => hnone.2⟩
            have hlt : s.number < t.number := lt_of_le_of_ne hst fun heq => hne (MainType.number_inj heq)
            intro r hr
            rcases List.mem_cons.1 hr with rfl | hr
            · exact hlt
            · exact hlt.trans ((List.pairwise_cons.1 ((ih htail).1 hnone)).1 r hr)

/-- The main types that pass are some optional ones, then data and instance. -/
theorem checkTypes_eq_ok {types : List MainType} (h : types.Pairwise fun s t => s.number ≤ t.number) :
    (∀ t ∈ types, t.isComposable = true) ∧ checkTypes types = .ok () ↔
      ∃ flags < 8, types = MainType.optional flags ++ [.data, .inst] := by
  constructor
  · rintro ⟨hc, hcheck⟩
    rw [checkTypes] at hcheck
    split at hcheck
    next => simp at hcheck
    next hnone =>
      have hsub := MainType.sublist_of_ascending ((repeated?_eq_none h).1 hnone) hc
      refine MainType.exists_optional types (List.mem_sublists.2 hsub) ?_
      by_contra hlast
      simp [hlast] at hcheck
  · rintro ⟨flags, hflags, rfl⟩
    obtain ⟨hsub, hascending⟩ := MainType.optional_ascending flags hflags
    refine ⟨fun t ht => ?_, ?_⟩
    · have := hsub.subset ht
      simp only [List.mem_cons, List.not_mem_nil, or_false] at this
      rcases this with rfl | rfl | rfl | rfl | rfl <;> rfl
    · rw [checkTypes, (repeated?_eq_none h).2 hascending]
      exact if_pos (List.drop_left' (by simp))

theorem checkUnit_eq_ok {u : CodeUnit} :
    checkUnit u = .ok () ↔ u.maintype.isComposable = true ∧ 64 ≤ u.bits := by
  cases hc : u.maintype.isComposable with
  | false => simp [checkUnit, hc, throw_bind]
  | true =>
      by_cases hb : u.bits < 64
      · simp [checkUnit, hc, hb, throw, throwThe, MonadExceptOf.throw]
      · simp [checkUnit, hc, hb, pure_eq_ok]
        omega

end Composite

end ContentCode
