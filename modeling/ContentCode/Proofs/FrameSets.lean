import Mathlib.Algebra.BigOperators.Group.List.Basic
import Mathlib.Data.List.Nodup
import Mathlib.Data.List.Perm.Subperm
import ContentCode.Proofs.GeneratorDomain

/-!
Video codes depend on the set of frames only. Each sum is taken over the frames that differ, so that it
is the same in any order and with any repetitions, and one constant more in every value makes all sums
larger by the same amount, which no comparison sees. The sums of less than 2 ^ 32 frames fit into words
of 64 bits, and so do all that arise on the way to them.
-/

namespace ContentCode

theorem nodup_eraseDups {α : Type} [BEq α] [LawfulBEq α] : ∀ xs : List α, xs.eraseDups.Nodup
  | [] => List.nodup_nil
  | x :: xs => by
      rw [List.eraseDups_cons, List.nodup_cons, List.mem_eraseDups]
      exact ⟨by simp, nodup_eraseDups (xs.filter fun y => !y == x)⟩
termination_by xs => xs.length
decreasing_by exact Nat.lt_succ_of_le (List.length_filter_le _ _)

namespace WinnerTakesAll

theorem hash_map {vector : List Int} (h : width ≤ vector.length) {f : Int → Int} (hf : ∀ a b, f a < f b ↔ a < b)
    (bits : Nat) : hash (vector.map f) bits = hash vector bits := by
  have hvalue {i : Nat} (hi : i < width) : (vector.map f).toArray.getD i 0 = f (vector.toArray.getD i 0) := by
    have hlt : i < vector.length := by omega
    simp [hlt]
  rw [hash, hash]
  congr 1
  refine List.map_congr_left fun p hp => ?_
  obtain ⟨hfirst, hsecond⟩ := pairs_lt p (List.mem_of_mem_take hp)
  simp only [hvalue hfirst, hvalue hsecond, hf]

end WinnerTakesAll

namespace VideoCode

variable {width bits n j : Nat} {c : Int} {f g : Frame} {fs gs frames : List Frame}

section sums

def column (j : Nat) (f : Frame) : Int := (f.getD j 0).toInt

theorem getElem?_columnSums (h : ∀ f ∈ frames, f.length = width) (hj : j < width) :
    (columnSums width frames)[j]? = some (frames.map (column j)).sum := by
  -- whatever the sums begin with, since each frame leaves others behind
  have hfold : ∀ sums : List Int,
      (frames.foldl (fun sums f => List.zipWith (fun s v => s + v.toInt) sums f) sums)[j]? =
        sums[j]?.map (· + (frames.map (column j)).sum) := by
    induction frames with
    | nil => simp
    | cons f frames ih =>
        rw [List.forall_mem_cons] at h
        intro sums
        have hvalue : f[j]? = some (f.getD j 0) := by
          rw [List.getD_eq_getElem?_getD, List.getElem?_eq_getElem (h.1 ▸ hj), Option.getD_some]
        rw [List.foldl_cons, ih h.2, List.getElem?_zipWith, hvalue, List.map_cons, List.sum_cons]
        cases sums[j]? with
        | none => rfl
        | some s => exact congrArg some (Int.add_assoc s (column j f) _)
  rw [columnSums, hfold, List.getElem?_replicate_of_lt hj, Option.map_some, Int.zero_add]

theorem columnSums_of_perm (h : fs.Perm gs) (hfs : ∀ f ∈ fs, f.length = width) :
    columnSums width fs = columnSums width gs := by
  have hgs : ∀ g ∈ gs, g.length = width := fun g hg => hfs g (h.mem_iff.2 hg)
  apply List.ext_getElem?
  intro j
  by_cases hj : j < width
  · rw [getElem?_columnSums hfs hj, getElem?_columnSums hgs hj, (h.map (column j)).sum_eq]
  · rw [List.getElem?_eq_none (by rw [length_columnSums hfs]; omega),
      List.getElem?_eq_none (by rw [length_columnSums hgs]; omega)]

theorem nodup_distinct (frames : List Frame) : (distinct frames).Nodup := nodup_eraseDups frames

theorem mem_distinct : f ∈ distinct frames ↔ f ∈ frames := List.mem_eraseDups

theorem distinct_perm (h : ∀ f, f ∈ fs ↔ f ∈ gs) : (distinct fs).Perm (distinct gs) := by
  rw [List.perm_ext_iff_of_nodup (nodup_distinct fs) (nodup_distinct gs)]
  intro f
  rw [mem_distinct, mem_distinct, h f]

theorem distinct_map_perm {raise : Frame → Frame} (h : raise.Injective) (frames : List Frame) :
    (distinct (frames.map raise)).Perm ((distinct frames).map raise) := by
  rw [List.perm_ext_iff_of_nodup (nodup_distinct _) (List.Nodup.map h (nodup_distinct frames))]
  intro f
  simp only [mem_distinct, List.mem_map]

end sums

section raised

/-- `g` is `f` with `c` added to each value, none of which leaves 32 bits. -/
def Raised (c : Int) (f g : Frame) : Prop := List.Forall₂ (fun v w => w.toInt = v.toInt + c) f g

def raise (c : Int) (f : Frame) : Frame := f.map (· + Int32.ofInt c)

theorem length_raise (c : Int) (f : Frame) : (raise c f).length = f.length := List.length_map _

theorem length_of_mem_map_raise (c : Int) (h : ∀ f ∈ frames, f.length = width) :
    ∀ g ∈ frames.map (raise c), g.length = width := by
  intro g hg
  obtain ⟨f, hf, rfl⟩ := List.mem_map.1 hg
  rw [length_raise, h f hf]

theorem raise_injective (c : Int) : (raise c).Injective :=
  List.map_injective_iff.2 fun v w hvw => by simpa using hvw

theorem Raised.raise_eq (h : Raised c f g) : raise c f = g := by
  induction h with
  | nil => rfl
  | @cons v w f g hvw _ ih =>
      have hw : v + Int32.ofInt c = w := by
        rw [← Int32.ofInt_toInt w, hvw, Int32.ofInt_add, Int32.ofInt_toInt]
      rw [raise, List.map_cons, hw, ← ih, raise]

theorem exists_raise (h : List.Forall₂ (Raised c) fs gs) : gs = fs.map (raise c) ∧ ∀ f ∈ fs, Raised c f (raise c f) := by
  have hgs : gs = fs.map (raise c) := by
    have heach : fs.map (raise c) = gs.map id := map_eq_map.2 (h.imp fun f g hfg => hfg.raise_eq)
    rw [heach, List.map_id]
  rw [hgs, List.forall₂_map_right_iff, List.forall₂_same] at h
  exact ⟨hgs, h⟩

theorem Raised.column_eq (h : Raised c f g) (hj : j < f.length) : column j g = column j f + c := by
  have hj' : j < g.length := h.length_eq ▸ hj
  have hvalue := h.get hj hj'
  simp only [column, List.getD_eq_getElem?_getD, List.getElem?_eq_getElem hj, List.getElem?_eq_getElem hj',
    Option.getD_some]
  exact hvalue

theorem columnSums_raised (h : List.Forall₂ (Raised c) fs gs) (hfs : ∀ f ∈ fs, f.length = width) :
    columnSums width (distinct gs) = (columnSums width (distinct fs)).map (· + (distinct fs).length * c) := by
  obtain ⟨rfl, hraised⟩ := exists_raise h
  have hdistinct : ∀ f ∈ distinct fs, f.length = width := fun f hf => hfs f (mem_distinct.1 hf)
  have hmapped := length_of_mem_map_raise c hdistinct
  -- frames that differ still do so when they are raised
  have hperm := distinct_map_perm (raise_injective c) fs
  rw [columnSums_of_perm hperm fun f hf => hmapped f (hperm.mem_iff.1 hf)]
  apply List.ext_getElem?
  intro j
  by_cases hj : j < width
  · have hcolumns : ((distinct fs).map (raise c)).map (column j) = (distinct fs).map fun f => column j f + c := by
      rw [List.map_map]
      exact List.map_congr_left fun f hf =>
        (hraised f (mem_distinct.1 hf)).column_eq (by rwa [hdistinct f hf])
    rw [getElem?_columnSums hmapped hj, hcolumns, List.sum_map_add, List.map_const', List.sum_replicate,
      List.getElem?_map, getElem?_columnSums hdistinct hj, Option.map_some, nsmul_eq_mul]
  · rw [List.getElem?_eq_none (by rw [length_columnSums hmapped]; omega),
      List.getElem?_eq_none (by rw [List.length_map, length_columnSums hdistinct]; omega)]

end raised

section words

/-- The sums as words of 64 bits have them, which begin again from below when they become too large. -/
def wordSums (width : Nat) (frames : List Frame) : List Int64 :=
  frames.foldl (fun sums f => List.zipWith (fun s v => s + v.toInt64) sums f) (List.replicate width 0)

theorem natAbs_le (v : Int32) : v.toInt.natAbs ≤ 2 ^ 31 := by
  have hlow := v.le_toInt
  have hhigh := v.toInt_lt
  omega

/-- Sums over `n` frames are no further from zero than `n` values can be, and words have them exactly. -/
def Fits (n : Nat) (words : List Int64) (sums : List Int) : Prop :=
  List.Forall₂ (fun word sum => word.toInt = sum ∧ sum.natAbs ≤ n * 2 ^ 31) words sums

theorem toInt_add {word : Int64} {v : Int32} (h : word.toInt.natAbs ≤ n * 2 ^ 31) (hn : n + 1 < 2 ^ 32) :
    (word + v.toInt64).toInt = word.toInt + v.toInt ∧ (word.toInt + v.toInt).natAbs ≤ (n + 1) * 2 ^ 31 := by
  have hv := natAbs_le v
  have hsum : (word.toInt + v.toInt).natAbs ≤ (n + 1) * 2 ^ 31 := by omega
  refine ⟨?_, hsum⟩
  rw [Int64.toInt_add, Int32.toInt_toInt64, Int.bmod_eq_of_le_mul_two (by omega) (by omega)]

theorem Fits.add {words : List Int64} {sums : List Int} (h : Fits n words sums) (hn : n + 1 < 2 ^ 32) (f : Frame) :
    Fits (n + 1) (List.zipWith (fun s v => s + v.toInt64) words f)
      (List.zipWith (fun s v => s + v.toInt) sums f) := by
  induction h generalizing f with
  | nil => exact .nil
  | @cons word sum words sums hword _ ih =>
      obtain ⟨rfl, hsum⟩ := hword
      cases f with
      | nil => exact .nil
      | cons v f => exact .cons (toInt_add hsum hn) (ih f)

theorem Fits.foldl {words : List Int64} {sums : List Int} (h : Fits n words sums)
    (hn : n + frames.length < 2 ^ 32) :
    Fits (n + frames.length)
      (frames.foldl (fun sums f => List.zipWith (fun s v => s + v.toInt64) sums f) words)
      (frames.foldl (fun sums f => List.zipWith (fun s v => s + v.toInt) sums f) sums) := by
  induction frames generalizing n words sums with
  | nil => exact h
  | cons f frames ih =>
      rw [List.length_cons] at hn ⊢
      have hnext := ih (h.add (by omega) f) (by omega)
      rwa [Nat.add_assoc, Nat.add_comm 1] at hnext

theorem fits_sums (width : Nat) (h : frames.length < 2 ^ 32) :
    Fits frames.length (wordSums width frames) (columnSums width frames) := by
  have hzero : Fits 0 (List.replicate width 0) (List.replicate width 0) := by
    induction width with
    | zero => exact .nil
    | succ width ih => exact .cons ⟨rfl, Nat.zero_le _⟩ ih
  have hall : Fits (0 + frames.length) (wordSums width frames) (columnSums width frames) := hzero.foldl (by omega)
  rwa [Nat.zero_add] at hall

theorem Fits.map_toInt {words : List Int64} {sums : List Int} (h : Fits n words sums) :
    words.map Int64.toInt = sums := by
  induction h with
  | nil => rfl
  | cons hword _ ih => rw [List.map_cons, hword.1, ih]

theorem Fits.bounds {words : List Int64} {sums : List Int} (h : Fits n words sums) (hn : n < 2 ^ 32) :
    ∀ s ∈ sums, -2 ^ 63 ≤ s ∧ s < 2 ^ 63 := by
  induction h with
  | nil => exact List.forall_mem_nil _
  | cons hword _ ih =>
      have hsum := hword.2
      exact List.forall_mem_cons.2 ⟨by omega, ih⟩

end words

section codes

theorem generate_eq (h : ∀ f ∈ frames, f.length = width) (hne : frames ≠ []) (bits : Nat) :
    generate frames bits = do
      Code.checkBits bits
      if width < 380 then throw (.frameTooShort width)
      return ⟨← Code.generate .content .video bits
        (WinnerTakesAll.hash (columnSums width (distinct frames)) bits)⟩ := by
  cases frames with
  | nil => exact absurd rfl hne
  | cons f frames =>
      obtain rfl := h f List.mem_cons_self
      have hsame := findIdx?_length_eq_none.2 h
      simp only [generate, hsame]
      rfl

theorem generate_unequal {i : Nat} (h : ((f :: fs).map List.length).findIdx? (· ≠ f.length) = some i) (bits : Nat) :
    generate (f :: fs) bits = (do
      Code.checkBits bits
      if f.length < 380 then throw (.frameTooShort f.length)
      throw (.frameLength i (((f :: fs).map List.length).getD i 0) f.length)) := by
  simp only [generate, h]
  rfl

theorem generate_of_mem_iff (hfs : ∀ f ∈ fs, f.length = width) (h : ∀ f, f ∈ fs ↔ f ∈ gs) (bits : Nat) :
    generate fs bits = generate gs bits := by
  have hgs : ∀ g ∈ gs, g.length = width := fun g hg => hfs g ((h g).2 hg)
  by_cases hne : fs = []
  · subst hne
    obtain rfl : gs = [] := List.eq_nil_iff_forall_not_mem.2 fun g hg => List.not_mem_nil ((h g).2 hg)
    rfl
  · have hne' : gs ≠ [] := by
      obtain ⟨f, hf⟩ := List.exists_mem_of_ne_nil fs hne
      exact List.ne_nil_of_mem ((h f).1 hf)
    have hsums : columnSums width (distinct fs) = columnSums width (distinct gs) :=
      columnSums_of_perm (distinct_perm h) fun f hf => hfs f (mem_distinct.1 hf)
    rw [generate_eq hfs hne, generate_eq hgs hne', hsums]

theorem generate_raised_of_length (h : List.Forall₂ (Raised c) fs gs) (hne : fs ≠ [])
    (hfs : ∀ f ∈ fs, f.length = width) (bits : Nat) : generate gs bits = generate fs bits := by
  have hsums := columnSums_raised h hfs
  obtain ⟨rfl, -⟩ := exists_raise h
  have hne' : fs.map (raise c) ≠ [] := by simpa using hne
  rw [generate_eq hfs hne, generate_eq (length_of_mem_map_raise c hfs) hne', hsums]
  by_cases hshort : width < 380
  · simp only [if_pos hshort]
    rfl
  · have hwide : 380 ≤ (columnSums width (distinct fs)).length := by
      rw [length_columnSums fun f hf => hfs f (mem_distinct.1 hf)]
      exact Nat.not_lt.1 hshort
    rw [WinnerTakesAll.hash_map hwide fun _ _ => Int.add_lt_add_iff_right _]

theorem generate_raised (h : List.Forall₂ (Raised c) fs gs) (bits : Nat) : generate gs bits = generate fs bits := by
  cases h with
  | nil => rfl
  | @cons f g fs gs hfg hrest =>
      cases hfind : ((f :: fs).map List.length).findIdx? (· ≠ f.length) with
      | some i =>
          have hlen : f.length = g.length := hfg.length_eq
          have hlens : (f :: fs).map List.length = (g :: gs).map List.length :=
            map_eq_map.2 (.cons hlen (hrest.imp fun f g hfg => hfg.length_eq))
          have hfind' : ((g :: gs).map List.length).findIdx? (· ≠ g.length) = some i := by
            rw [← hlens, ← hlen, hfind]
          rw [generate_unequal hfind, generate_unequal hfind', hlens, hlen]
      | none =>
          exact generate_raised_of_length (.cons hfg hrest) (List.cons_ne_nil f fs)
            (findIdx?_length_eq_none.1 hfind) bits

/-- A code is the same for all lists of frames of one length in which the same frames are, and for frames
that are raised all alike; there is one for all frames of one length that is not too short. For less than
2 ^ 32 distinct frames, added up in whatever order and however far, the sums keep to 64 bits. -/
theorem frames_as_set :
    (∀ width fs gs, (∀ f ∈ fs, f.length = width) → (∀ f, f ∈ fs ↔ f ∈ gs) →
      ∀ bits, generate fs bits = generate gs bits) ∧
    (∀ c fs gs, List.Forall₂ (Raised c) fs gs → ∀ bits, generate gs bits = generate fs bits) ∧
    (∀ width fs, 380 ≤ width → fs ≠ [] → (∀ f ∈ fs, f.length = width) →
      ∀ bits ∈ Code.supportedBits, ∃ r, generate fs bits = .ok r) ∧
    ∀ width frames, (distinct frames).length < 2 ^ 32 → ∀ seen, seen.Subperm (distinct frames) →
      (∀ s ∈ columnSums width seen, -2 ^ 63 ≤ s ∧ s < 2 ^ 63) ∧
      (wordSums width seen).map Int64.toInt = columnSums width seen := by
  refine ⟨fun width fs gs => generate_of_mem_iff, fun c fs gs => generate_raised, ?_, ?_⟩
  · intro width fs hwidth hne hfs bits hbits
    exact ((generates fs).exists_iff bits).2 ⟨hbits, hne, width, hwidth, hfs⟩
  · intro width frames hfew seen hseen
    have hlen := hseen.length_le.trans_lt hfew
    have hfits := fits_sums width hlen
    exact ⟨hfits.bounds hlen, hfits.map_toInt⟩

theorem frames_as_set_repeated :
    let low := List.replicate 380 (-2147483648)
    let ramp := (List.range 380).map Int32.ofNat
    let raised := (List.range 380).map fun v => Int32.ofNat v + 5
    (∃ r, generate [low, ramp, low] 64 = .ok r ∧ generate [ramp, low] 64 = .ok r) ∧
    generate [raised] 256 = generate [ramp] 256 ∧
    ∀ s ∈ columnSums 380 [ramp, low], -2 ^ 63 ≤ s ∧ s < 2 ^ 63 := by
  have hsame (a b : Frame) : ∀ f, f ∈ [a, b, a] ↔ f ∈ [b, a] := by
    intro f
    simp only [List.mem_cons, List.not_mem_nil, or_false]
    tauto
  intro low ramp raised
  have hlow : low.length = 380 := List.length_replicate
  have hramp : ramp.length = 380 := by rw [List.length_map, List.length_range]
  have hlens : ∀ f ∈ [low, ramp, low], f.length = 380 := by simp [hlow, hramp]
  have hraised : List.Forall₂ (Raised 5) [ramp] [raised] := by
    refine .cons ?_ .nil
    delta Raised
    decide +kernel
  have hdistinct : distinct [ramp, low] = [ramp, low] := by decide +kernel
  obtain ⟨r, hr⟩ := frames_as_set.2.2.1 380 [low, ramp, low] (Nat.le_refl 380) (List.cons_ne_nil _ _) hlens 64
    (by decide)
  refine ⟨⟨r, hr, ?_⟩, frames_as_set.2.1 5 _ _ hraised 256, ?_⟩
  · rw [← hr, frames_as_set.1 380 _ _ hlens (hsame low ramp) 64]
  · have hseen : [ramp, low].Subperm (distinct [ramp, low]) := hdistinct ▸ List.Subperm.refl _
    exact (frames_as_set.2.2.2 380 _ (by rw [hdistinct]; decide) _ hseen).1

end codes

end VideoCode

end ContentCode
