import Mathlib.Order.Bounds.Basic
import Mathlib.Tactic.IntervalCases
import ContentCode.Proofs.GearHash

/-!
Where a chunk ends, told without the scan: behind the first byte at which the hash of the bytes from the
minimal size on has no bit of the mask that counts there.
-/

namespace ContentCode.Chunking

section triggers

variable (p : Parameters) (bytes : List UInt8)

def hashStart : Nat := min p.minSize bytes.length

def strictStop : Nat := max (hashStart p bytes) (min p.centerSize bytes.length)

/-- The offset at which a chunk ends for want of a better one. -/
def relaxedStop : Nat := max (strictStop p bytes) (min p.maxSize bytes.length)

def hashAt (k : Nat) : UInt32 := gearHash ((bytes.take (k + 1)).drop (hashStart p bytes))

/-- The byte at offset `k` can end the chunk. -/
def Triggers (k : Nat) : Prop :=
  (hashStart p bytes ≤ k ∧ k < strictStop p bytes ∧ hashAt p bytes k &&& p.strictMask = 0) ∨
  (strictStop p bytes ≤ k ∧ k < relaxedStop p bytes ∧ hashAt p bytes k &&& p.relaxedMask = 0)

instance : DecidablePred (Triggers p bytes) := fun _ => inferInstanceAs (Decidable (_ ∨ _))

end triggers

variable {p : Parameters} {bytes : List UInt8} {k : Nat}

theorem relaxedStop_le : relaxedStop p bytes ≤ bytes.length := by
  simp only [relaxedStop, strictStop, hashStart]
  omega

theorem Triggers.lt_relaxedStop (h : Triggers p bytes k) : k < relaxedStop p bytes := by
  rw [relaxedStop]
  rcases h with ⟨-, hlt, -⟩ | ⟨-, hlt, -⟩
  · omega
  · rwa [relaxedStop] at hlt

theorem lt_relaxedStop_iff (hmin : p.minSize ≤ k) (hlt : k < bytes.length) :
    k < relaxedStop p bytes ↔ (p.maskAt k).isSome := by
  simp only [relaxedStop, strictStop, hashStart, Parameters.maskAt]
  split
  next => simp; omega
  next =>
    split
    next => simp; omega
    next => simp; omega

theorem triggers_iff : Triggers p bytes k ↔ p.minSize ≤ k ∧ k < bytes.length ∧
    ∃ mask, p.maskAt k = some mask ∧ gearHash ((bytes.take (k + 1)).drop p.minSize) &&& mask = 0 := by
  by_cases hk : p.minSize ≤ k ∧ k < bytes.length
  · have hstart : hashStart p bytes = p.minSize := Nat.min_eq_left (by omega)
    have hstrict : k < strictStop p bytes ↔ k < p.centerSize := by
      rw [strictStop, hstart]
      omega
    have hbehind : strictStop p bytes ≤ k ↔ ¬ k < p.centerSize := by
      rw [← hstrict, Nat.not_lt]
    have hrelaxed : k < relaxedStop p bytes ↔ k < p.centerSize ∨ k < p.maxSize := by
      rw [relaxedStop, strictStop, hstart]
      omega
    rw [Triggers, hstrict, hbehind, hrelaxed, hashAt, hstart, Parameters.maskAt]
    by_cases hcenter : k < p.centerSize
    · simp [hk, hcenter]
    · by_cases hmax : k < p.maxSize
      · simp [hk, hcenter, hmax]
      · simp [hcenter, hmax]
  · have hle : relaxedStop p bytes ≤ bytes.length := relaxedStop_le
    simp only [Triggers, relaxedStop, strictStop, hashStart] at hle ⊢
    constructor
    · rintro (⟨hge, hlt, -⟩ | ⟨hge, hlt, -⟩)
      · omega
      · omega
    · rintro ⟨hge, hlt, -⟩
      exact absurd ⟨hge, hlt⟩ hk

theorem scan_step {front rest : List UInt8} {b : UInt8} (hbytes : front ++ b :: rest = bytes) :
    scan p front.length (gearHash (front.drop p.minSize)) (b :: rest) =
      if Triggers p bytes front.length then front.length + 1
      else if front.length < relaxedStop p bytes then
        scan p (front ++ [b]).length (gearHash ((front ++ [b]).drop p.minSize)) rest
      else front.length := by
  have hlt : front.length < bytes.length := by
    rw [← hbytes, List.length_append, List.length_cons]
    omega
  have htake : bytes.take (front.length + 1) = front ++ [b] := by
    rw [← hbytes, List.take_length_add_append]
    rfl
  have htrigger : Triggers p bytes front.length ↔ _ := triggers_iff
  rw [htake] at htrigger
  rw [scan, List.length_append, List.length_singleton]
  split
  next hmin =>
    have hno : ¬ Triggers p bytes front.length := fun h => Nat.not_le_of_lt hmin (htrigger.1 h).1
    have hstop : front.length < relaxedStop p bytes := by
      rw [relaxedStop, strictStop, hashStart]
      omega
    have hdrop : (front ++ [b]).drop p.minSize = front.drop p.minSize := by
      rw [List.drop_eq_nil_of_le (Nat.le_of_lt hmin), List.drop_eq_nil_of_le]
      rw [List.length_append, List.length_singleton]
      omega
    rw [if_neg hno, if_pos hstop, hdrop]
  next hmin =>
    rw [Nat.not_lt] at hmin
    have hhash : gearHash ((front ++ [b]).drop p.minSize) = roll (gearHash (front.drop p.minSize)) b := by
      rw [List.drop_append_of_le_length hmin, gearHash_concat]
    have hstop := lt_relaxedStop_iff hmin hlt
    rw [hhash] at htrigger ⊢
    cases hmask : p.maskAt front.length with
    | none =>
        simp only [hmask, Option.isSome_none, Bool.false_eq_true, iff_false] at hstop
        rw [if_neg fun h => hstop h.lt_relaxedStop, if_neg hstop]
    | some mask =>
        simp only [hmask, Option.isSome_some, iff_true] at hstop
        simp only [hmask, hmin, hlt, Option.some.injEq, exists_eq_left', true_and] at htrigger
        simp only [htrigger, hstop, if_true]

variable (p bytes) in
/-- A scan has gone over `front` without a trigger, and not beyond the last possible end. -/
structure Passed (front rest : List UInt8) : Prop where
  whole : front ++ rest = bytes
  none : ∀ k < front.length, ¬ Triggers p bytes k
  le : front.length ≤ relaxedStop p bytes

theorem passed_start (p : Parameters) (bytes : List UInt8) : Passed p bytes [] bytes where
  whole := rfl
  none k hk := absurd hk (Nat.not_lt_zero k)
  le := Nat.zero_le _

theorem Passed.step {front rest : List UInt8} {b : UInt8} (h : Passed p bytes front (b :: rest))
    (hno : ¬ Triggers p bytes front.length) (hstop : front.length < relaxedStop p bytes) :
    Passed p bytes (front ++ [b]) rest := by
  have hlength : (front ++ [b]).length = front.length + 1 := List.length_append
  refine ⟨by rw [List.append_assoc]; exact h.whole, fun k hk => ?_, by omega⟩
  rcases Nat.lt_or_eq_of_le (Nat.le_of_lt_succ (hlength ▸ hk)) with hk | rfl
  · exact h.none k hk
  · exact hno

variable (p bytes) in
/-- A chunk ends behind its first trigger, or where it has to if there is none. -/
def EndsAt (n : Nat) : Prop :=
  (∃ k, IsLeast {k | Triggers p bytes k} k ∧ n = k + 1) ∨
  (∀ k, ¬ Triggers p bytes k) ∧ n = relaxedStop p bytes

theorem Passed.endsAt_scan {front rest : List UInt8} (h : Passed p bytes front rest) :
    EndsAt p bytes (scan p front.length (gearHash (front.drop p.minSize)) rest) := by
  induction rest generalizing front with
  | nil =>
      obtain ⟨rfl, hnone, hle⟩ := h
      rw [List.append_nil] at hnone hle ⊢
      exact .inr ⟨fun k hk => hnone k (triggers_iff.1 hk).2.1 hk, Nat.le_antisymm hle relaxedStop_le⟩
  | cons b rest ih =>
      rw [scan_step h.whole]
      split
      next htrigger =>
        refine .inl ⟨front.length, ⟨htrigger, fun k hk => ?_⟩, rfl⟩
        exact Nat.le_of_not_lt fun hlt => h.none k hlt hk
      next hno =>
        split
        next hstop => exact ih (h.step hno hstop)
        next hstop =>
          have hend : front.length = relaxedStop p bytes := Nat.le_antisymm h.le (Nat.le_of_not_lt hstop)
          exact .inr ⟨fun k hk => h.none k (hend ▸ hk.lt_relaxedStop) hk, hend⟩

theorem endsAt_scan_start (p : Parameters) (bytes : List UInt8) : EndsAt p bytes (scan p 0 0 bytes) := by
  have h := (passed_start p bytes).endsAt_scan
  rwa [List.drop_nil] at h

theorem cut_eq_max_scan : cut p bytes = max (scan p 0 0 bytes) (min 1 bytes.length) := by
  cases bytes with
  | nil => rfl
  | cons b bytes =>
      have hmin : min 1 (b :: bytes).length = 1 := Nat.min_eq_left (Nat.succ_pos _)
      rw [hmin]
      exact Nat.max_comm _ _

theorem cut_of_isLeast (h : IsLeast {k | Triggers p bytes k} k) : cut p bytes = k + 1 := by
  rcases endsAt_scan_start p bytes with ⟨k', hk', hscan⟩ | ⟨hnone, -⟩
  · rw [cut_eq_max_scan, hscan, hk'.unique h]
    omega
  · exact absurd h.1 (hnone k)

theorem cut_of_forall_not_triggers (h : ∀ k, ¬ Triggers p bytes k) :
    cut p bytes = max (relaxedStop p bytes) (min 1 bytes.length) := by
  rcases endsAt_scan_start p bytes with ⟨k, hk, -⟩ | ⟨-, hscan⟩
  · exact absurd hk.1 (h k)
  · rw [cut_eq_max_scan, hscan]

theorem isLeast_triggers_congr {bytes' : List UInt8} (h : IsLeast {k | Triggers p bytes k} k)
    (hsame : ∀ i, hashStart p bytes ≤ i → i ≤ k → bytes'[i]? = bytes[i]?) :
    IsLeast {k | Triggers p bytes' k} k := by
  obtain ⟨hmin, hlt, -⟩ := triggers_iff.1 h.1
  rw [show hashStart p bytes = p.minSize from Nat.min_eq_left (by omega)] at hsame
  have hlt' : k < bytes'.length := by
    have hk := hsame k hmin (Nat.le_refl k)
    rw [List.getElem?_eq_getElem hlt] at hk
    exact (List.getElem?_eq_some_iff.1 hk).1
  have hiff {j : Nat} (hj : j ≤ k) : Triggers p bytes' j ↔ Triggers p bytes j := by
    have hhashed : (bytes'.take (j + 1)).drop p.minSize = (bytes.take (j + 1)).drop p.minSize := by
      refine List.ext_getElem? fun i => ?_
      rw [List.getElem?_drop, List.getElem?_drop, List.getElem?_take, List.getElem?_take]
      split
      next hi => exact hsame _ (Nat.le_add_right _ i) (by omega)
      next => rfl
    have hin : j < bytes.length ↔ j < bytes'.length := by omega
    rw [triggers_iff, triggers_iff, hhashed, hin]
  refine ⟨(hiff (Nat.le_refl k)).2 h.1, fun j hj => Nat.le_of_not_lt fun hjk => ?_⟩
  exact Nat.not_le_of_lt hjk (h.2 ((hiff (Nat.le_of_lt hjk)).1 hj))

/-- A cut is behind the first trigger, whatever stands before the bytes that are hashed up to it and
behind it, and as late as it can be if there is no trigger. -/
theorem cut_behind_first_trigger (p : Parameters) (bytes : List UInt8) :
    (∀ k, IsLeast {k | Triggers p bytes k} k → cut p bytes = k + 1 ∧
      ∀ bytes', (∀ i, hashStart p bytes ≤ i → i ≤ k → bytes'[i]? = bytes[i]?) → cut p bytes' = k + 1) ∧
    ((∀ k, ¬ Triggers p bytes k) → cut p bytes = max (relaxedStop p bytes) (min 1 bytes.length)) :=
  ⟨fun _ h => ⟨cut_of_isLeast h, fun _ hsame => cut_of_isLeast (isLeast_triggers_congr h hsame)⟩,
    cut_of_forall_not_triggers⟩

theorem cut_behind_relaxed_trigger :
    IsLeast {k | Triggers (.derive 4) [9, 1, 2, 3] k} 2 ∧ cut (.derive 4) [9, 1, 2, 3] = 3 ∧
    cut (.derive 4) [200, 1, 2, 77, 78] = 3 ∧
    (∀ k, ¬ Triggers (.derive 4) [9, 1] k) ∧ cut (.derive 4) [9, 1] = 2 := by
  have hleast : IsLeast {k | Triggers (.derive 4) [9, 1, 2, 3] k} 2 := by
    have hfirst : ∀ k < 2, ¬ Triggers (.derive 4) [9, 1, 2, 3] k := by decide +kernel
    refine ⟨show Triggers _ _ 2 by decide +kernel, fun k hk => Nat.le_of_not_lt fun hlt => hfirst k hlt hk⟩
  have hsame : ∀ i, hashStart (.derive 4) [9, 1, 2, 3] ≤ i → i ≤ 2 →
      ([200, 1, 2, 77, 78] : List UInt8)[i]? = ([9, 1, 2, 3] : List UInt8)[i]? := by
    intro i hge hle
    have hi : 1 ≤ i := hge
    interval_cases i
    · rfl
    · rfl
  have hnone : ∀ k, ¬ Triggers (.derive 4) [9, 1] k := by
    have hshort : ∀ k < 2, ¬ Triggers (.derive 4) [9, 1] k := by decide +kernel
    exact fun k hk => hshort k hk.lt_relaxedStop hk
  obtain ⟨hcut, hother⟩ := (cut_behind_first_trigger (.derive 4) [9, 1, 2, 3]).1 2 hleast
  exact ⟨hleast, hcut, hother _ hsame, hnone, (cut_behind_first_trigger (.derive 4) [9, 1]).2 hnone⟩

end ContentCode.Chunking
