import ContentCode.Proofs.EvenParts
import ContentCode.Proofs.GeneratorDomain

/-!
What the order of the features changes in an audio code. The four bytes in front and the last twelve are
the same in any order, and each slice between depends on the features of one quarter, again in any order.
-/

namespace ContentCode.AudioCode

variable {features features' part part' : List Int32} {q : Nat}

section digest

theorem partBytes_of_perm (h : part'.Perm part) : partBytes part' = partBytes part := by
  rw [partBytes, partBytes, h.isEmpty_eq,
    SimHash.majority_of_perm (h.map featureBytes) (length_of_mem_map_featureBytes part)]

theorem sorted_of_perm (h : features'.Perm features) : sorted features' = sorted features := by
  have hpairwise (features : List Int32) : (sorted features).Pairwise fun x y => decide (x ≤ y) = true := by
    apply List.pairwise_mergeSort
    · intro x y z hxy hyz
      rw [decide_eq_true_iff] at hxy hyz ⊢
      exact Int32.le_trans hxy hyz
    · intro x y
      rw [Bool.or_eq_true, decide_eq_true_iff, decide_eq_true_iff]
      exact Int32.le_total x y
  have hperm : (sorted features').Perm (sorted features) :=
    (List.mergeSort_perm features' _).trans (h.trans (List.mergeSort_perm features _).symm)
  -- no two features are equal in the order but different, so sorted rows of the same ones are the same
  refine hperm.eq_of_pairwise (fun x y _ _ hxy hyx => ?_) (hpairwise features') (hpairwise features)
  exact Int32.le_antisymm (of_decide_eq_true hxy) (of_decide_eq_true hyx)

theorem take_digestBytes (features : List Int32) : (digestBytes features).take 4 = partBytes features :=
  take_drop_flatten_of_length (i := 0) (length_of_mem_blocks features) rfl

theorem drop_digestBytes (features : List Int32) :
    (digestBytes features).drop 20 = ((splitEven 3 (sorted features)).map partBytes).flatten := by
  have hfive : (features :: splitEven 4 features).length = 5 := by
    rw [List.length_cons, length_splitEven]
  rw [digestBytes, drop_flatten_of_length (k := 5) (length_of_mem_blocks features), ← List.map_drop,
    digestParts, List.drop_left' hfive]

/-- The `q`-th of the four consecutive parts into which the features are split. -/
def quarter (q : Nat) (features : List Int32) : List Int32 := (splitEven 4 features).getD q []

theorem getElem?_splitEven (hq : q < 4) (features : List Int32) :
    (splitEven 4 features)[q]? = some (quarter q features) := by
  have hlen : q < (splitEven 4 features).length := by rwa [length_splitEven]
  rw [quarter, List.getD_eq_getElem?_getD, List.getElem?_eq_getElem hlen, Option.getD_some]

theorem map_quarter (features : List Int32) : (List.range 4).map (quarter · features) = splitEven 4 features := by
  apply List.ext_getElem?
  intro q
  by_cases hq : q < 4
  · rw [List.getElem?_map, List.getElem?_range hq, getElem?_splitEven hq, Option.map_some]
  · rw [List.getElem?_eq_none (by simpa using hq),
      List.getElem?_eq_none (by rw [length_splitEven]; omega)]

theorem slice_digestBytes (hq : q < 4) (features : List Int32) :
    ((digestBytes features).drop (4 + 4 * q)).take 4 = partBytes (quarter q features) := by
  have hlen : q < (splitEven 4 features).length := by rwa [length_splitEven]
  have hblock : ((digestParts features).map partBytes)[q + 1]? = some (partBytes (quarter q features)) := by
    rw [List.getElem?_map, digestParts, List.cons_append, List.getElem?_cons_succ,
      List.getElem?_append_left hlen, getElem?_splitEven hq, Option.map_some]
  have hplace : 4 + 4 * q = 4 * (q + 1) := by omega
  rw [hplace, digestBytes, take_drop_flatten_of_length (length_of_mem_blocks features) hblock]

end digest

section codes

variable {bits : Nat}

theorem generate_eq (hbits : bits ∈ Code.supportedBits) (features : List Int32) :
    generate features bits = (Code.generate .content .audio bits (digestBytes features)).map AudioCode.mk := by
  simp only [generate, Code.checkBits_of_mem hbits, digest_eq, bind, Except.bind, digestBytes]
  rfl

def Decodes (features : List Int32) (u : CodeUnit) : Prop :=
  ∃ r, generate features 256 = .ok r ∧ Code.decode r.iscc = .ok u ∧ u.bits = 256

theorem exists_decodes (features : List Int32) : ∃ u, Decodes features u ∧ u.digest = digestBytes features := by
  have hbits : 256 ∈ Code.supportedBits := by decide
  have hsize := length_digestBytes features
  obtain ⟨code, hcode⟩ := Code.exists_generate .audio (t := .content) (by decide) (by decide) hbits hsize
  obtain ⟨u, hu, -, -, -, hubits, hdigest⟩ := Code.decode_of_generate (by decide) (by decide) hcode
  refine ⟨u, ⟨⟨code⟩, ?_, hu, hubits⟩, ?_⟩
  · rw [generate_eq hbits, hcode]
    rfl
  · rw [hdigest, List.take_of_length_le (by rw [hsize])]

theorem exists_generate_of_perm (h : features'.Perm features) :
    ∃ r, generate features 32 = .ok r ∧ generate features' 32 = .ok r := by
  have hbits : 32 ∈ Code.supportedBits := by decide
  have hshort (features : List Int32) : Code.generate .content .audio 32 (digestBytes features) =
      Code.generate .content .audio 32 (partBytes features) := by
    rw [← Code.generate_take .audio (by decide) (by decide) hbits (length_digestBytes features)]
    exact congrArg _ (take_digestBytes features)
  obtain ⟨r, hr⟩ := ((generates features).exists_iff 32).2 ⟨hbits, trivial⟩
  refine ⟨r, hr, ?_⟩
  rw [← hr, generate_eq hbits, generate_eq hbits, hshort, hshort, partBytes_of_perm h]

/-- In another order the features make the same four bytes in front and the same last twelve, and the same
code of 32 bits. The slices between come from four consecutive parts of the row, about equally long: two
rows, however different, make the same slice if they have the same features in that part, in any order. -/
theorem order_of_features (features features' : List Int32) :
    (∃ u u', Decodes features u ∧ Decodes features' u' ∧ u.digest.length = 32 ∧ u'.digest.length = 32 ∧
      (features'.Perm features →
        u'.digest.take 4 = u.digest.take 4 ∧ u'.digest.drop 20 = u.digest.drop 20) ∧
      ∀ q < 4, (quarter q features').Perm (quarter q features) →
        (u'.digest.drop (4 + 4 * q)).take 4 = (u.digest.drop (4 + 4 * q)).take 4) ∧
    (features'.Perm features → ∃ r, generate features 32 = .ok r ∧ generate features' 32 = .ok r) ∧
    (List.range 4).flatMap (quarter · features) = features ∧
    ∀ p < 4, ∀ q < 4, (quarter p features).length ≤ (quarter q features).length + 1 := by
  obtain ⟨u, hu, hdigest⟩ := exists_decodes features
  obtain ⟨u', hu', hdigest'⟩ := exists_decodes features'
  refine ⟨⟨u, u', hu, hu', ?_, ?_, fun hperm => ⟨?_, ?_⟩, fun q hq hperm => ?_⟩, exists_generate_of_perm, ?_, ?_⟩
  · rw [hdigest, length_digestBytes]
  · rw [hdigest', length_digestBytes]
  · rw [hdigest, hdigest', take_digestBytes, take_digestBytes, partBytes_of_perm hperm]
  · rw [hdigest, hdigest', drop_digestBytes, drop_digestBytes, sorted_of_perm hperm]
  · rw [hdigest, hdigest', slice_digestBytes hq, slice_digestBytes hq, partBytes_of_perm hperm]
  · rw [List.flatMap_def, map_quarter, flatten_splitEven (by decide)]
  · intro p hp q hq
    exact length_le_of_mem_splitEven (by decide) (List.mem_of_getElem? (getElem?_splitEven hp features))
      (List.mem_of_getElem? (getElem?_splitEven hq features))

theorem order_of_features_reversed :
    (∃ u u', Decodes [1, -2, 3, 4, 5] u ∧ Decodes [5, 4, 3, -2, 1] u' ∧
      u'.digest.take 4 = u.digest.take 4 ∧ u'.digest.drop 20 = u.digest.drop 20) ∧
    (∃ r, generate [1, -2, 3, 4, 5] 32 = .ok r ∧ generate [5, 4, 3, -2, 1] 32 = .ok r) ∧
    ∃ u u', Decodes [1, -2, 3, 4, 5] u ∧ Decodes [-2, 1, 7, 8, 9, 10] u' ∧
      (u'.digest.drop 4).take 4 = (u.digest.drop 4).take 4 := by
  obtain ⟨⟨u, u', hu, hu', -, -, hends, -⟩, hshort, -⟩ := order_of_features [1, -2, 3, 4, 5] [5, 4, 3, -2, 1]
  obtain ⟨⟨v, v', hv, hv', -, -, -, hslices⟩, -⟩ := order_of_features [1, -2, 3, 4, 5] [-2, 1, 7, 8, 9, 10]
  have hreversed : [5, 4, 3, -2, 1].Perm [1, -2, 3, 4, (5 : Int32)] := by decide
  exact ⟨⟨u, u', hu, hu', hends hreversed⟩, hshort hreversed, v, v', hv, hv', hslices 0 (by decide) (by decide)⟩

end codes

end ContentCode.AudioCode
