import ContentCode.Generator.Audio
import ContentCode.Generator.Image
import ContentCode.Generator.Meta
import ContentCode.Similarity.WinnerTakesAll
import ContentCode.Proofs.BitMajority
import ContentCode.Proofs.Success

/-!
Every digest has a fixed size, 32 bytes for the longest code, and nothing on the way to it can fail.
Where the length of the code decides how far a digest is worked out, a shorter one is the beginning
of a longer one.
-/

namespace ContentCode

theorem MinHash.length_minima (features : List UInt32) : (minima features).length = 64 := by
  rw [minima, List.length_map]
  rfl

theorem MinHash.length_digest (features : List UInt32) : (digest features).length = 32 := by
  rw [digest, Bits.length_toBytes, List.length_flatMap]
  simp [length_minima]

theorem Hash.Blake3.length_finalize (h : Blake3) : h.finalize.length = 32 := by
  simp [finalize, wordBytes, List.length_flatMap]

theorem WinnerTakesAll.pairs_lt : ∀ p ∈ pairs, p.1 < width ∧ p.2 < width := by decide +kernel

theorem WinnerTakesAll.hash_take (vector : List Int) {bits : Nat} (h : 8 ∣ bits) (hle : bits ≤ 256) :
    hash vector bits = (hash vector 256).take (bits / 8) := by
  rw [hash, hash, ← Bits.toBytes_take, Nat.mul_div_cancel' h, ← List.map_take, List.take_take,
    Nat.min_eq_left hle]

theorem WinnerTakesAll.length_hash (vector : List Int) : (hash vector 256).length = 32 := by
  have hpairs : pairs.length = 256 := by decide +kernel
  rw [hash, Bits.length_toBytes, List.length_map, List.length_take, hpairs,
    Nat.min_self]

theorem Windows.exists_windows {α : Type} {width : Nat} (h : 2 ≤ width) (xs : List α) :
    ∃ ws, windows width xs = .ok ws := by
  simp only [windows, if_neg (not_lt.2 h)]
  split <;> exact ⟨_, rfl⟩

theorem Windows.exists_ofText {width : Nat} (h : 2 ≤ width) (text : String) :
    ∃ ws, ofText width text = .ok ws := by
  obtain ⟨ws, hws⟩ := exists_windows h text.toList
  exact ⟨_, bind_eq_ok.2 ⟨ws, hws, rfl⟩⟩

namespace MetaCode

theorem length_interleave {a b : List UInt8} (ha : 16 ≤ a.length) (hb : 16 ≤ b.length) :
    (interleave a b).length = 32 := by
  have hpieces : ∀ piece ∈ (List.range 4).map fun i => (a.drop (4 * i)).take 4 ++ (b.drop (4 * i)).take 4,
      piece.length = 8 := by
    intro piece hpiece
    obtain ⟨i, hi, rfl⟩ := List.mem_map.1 hpiece
    rw [List.mem_range] at hi
    rw [List.length_append, List.length_take, List.length_drop, List.length_take, List.length_drop]
    omega
  rw [interleave, List.flatMap_def, length_flatten_of_length hpieces, List.length_map, List.length_range]

theorem exists_textHash (text : String) : ∃ hash, textHash text = .ok hash ∧ hash.length = 32 := by
  obtain ⟨windows, hwindows⟩ := Windows.exists_ofText (show 2 ≤ 3 by decide) (Text.collapse text)
  have hsizes : ∀ d ∈ windows.map fun w => Hash.Blake3.hash (Text.utf8 w), d.length = 32 := by
    intro d hd
    obtain ⟨w, -, rfl⟩ := List.mem_map.1 hd
    exact Hash.Blake3.length_finalize _
  obtain ⟨hash, hhash, hsize⟩ := SimHash.exists_simhash hsizes
  exact ⟨hash, bind_eq_ok.2 ⟨windows, hwindows, hhash⟩, hsize⟩

theorem exists_bytesHash (bytes : List UInt8) :
    ∃ hash, bytesHash bytes = .ok hash ∧ hash.length = 32 := by
  obtain ⟨windows, hwindows⟩ := Windows.exists_windows (show 2 ≤ 4 by decide) bytes
  have hsizes : ∀ d ∈ windows.map Hash.Blake3.hash, d.length = 32 := by
    intro d hd
    obtain ⟨w, -, rfl⟩ := List.mem_map.1 hd
    exact Hash.Blake3.length_finalize _
  obtain ⟨hash, hhash, hsize⟩ := SimHash.exists_simhash hsizes
  exact ⟨hash, bind_eq_ok.2 ⟨windows, hwindows, hhash⟩, hsize⟩

theorem exists_digest (name description : String) (document : Option Document) :
    ∃ d, digest name description document = .ok d ∧ d.length = 32 := by
  obtain ⟨a, ha, hsize⟩ := exists_textHash name
  cases document with
  | some document =>
      obtain ⟨b, hb, hsize'⟩ := exists_bytesHash document.bytes
      exact ⟨interleave a b, by simp only [digest, ha, hb, bind, Except.bind, pure, Except.pure],
        length_interleave (by omega) (by omega)⟩
  | none =>
      by_cases hempty : description.isEmpty
      · exact ⟨a, by simp only [digest, ha, hempty, bind, Except.bind, pure, Except.pure, if_true], hsize⟩
      · obtain ⟨b, hb, hsize'⟩ := exists_textHash description
        refine ⟨interleave a b, ?_, length_interleave (by omega) (by omega)⟩
        simp only [digest, ha, hb, hempty, bind, Except.bind, pure, Except.pure, if_false,
          Bool.false_eq_true]

end MetaCode

namespace AudioCode

variable {α : Type}

theorem length_splitEven (n : Nat) (xs : List α) : (splitEven n xs).length = n := by
  have hsizes : ∀ (sizes : List Nat) (xs : List α), (splitSizes sizes xs).length = sizes.length := by
    intro sizes
    induction sizes with
    | nil => exact fun _ => rfl
    | cons n sizes ih => exact fun xs => congrArg (· + 1) (ih (xs.drop n))
  rw [splitEven, hsizes, List.length_map, List.length_range]

theorem length_of_mem_map_featureBytes (part : List Int32) : ∀ d ∈ part.map featureBytes, d.length = 4 := by
  intro d hd
  obtain ⟨v, -, rfl⟩ := List.mem_map.1 hd
  rw [featureBytes, Bits.length_toBytes, Bits.length_ofNat]

def partBytes (part : List Int32) : List UInt8 :=
  if part.isEmpty then List.replicate 4 0 else SimHash.majority 4 (part.map featureBytes)

theorem partHash_eq (part : List Int32) : partHash part = .ok (partBytes part) := by
  rw [partHash, partBytes]
  by_cases hempty : part.isEmpty
  · rw [if_pos hempty, if_pos hempty]
  · rw [if_neg hempty, if_neg hempty]
    exact SimHash.simhash_of_sizes (by simpa using hempty) (length_of_mem_map_featureBytes part)

theorem length_partBytes (part : List Int32) : (partBytes part).length = 4 := by
  rw [partBytes]
  by_cases hempty : part.isEmpty
  · rw [if_pos hempty, List.length_replicate]
  · rw [if_neg hempty, SimHash.length_majority (length_of_mem_map_featureBytes part)]

def sorted (features : List Int32) : List Int32 := features.mergeSort fun x y => x ≤ y

/-- The parts that make a digest: the row, its quarters, and the thirds of the sorted row. -/
def digestParts (features : List Int32) : List (List Int32) :=
  features :: splitEven 4 features ++ splitEven 3 (sorted features)

def digestBytes (features : List Int32) : List UInt8 := ((digestParts features).map partBytes).flatten

theorem length_of_mem_blocks (features : List Int32) :
    ∀ block ∈ (digestParts features).map partBytes, block.length = 4 := by
  intro block hblock
  obtain ⟨part, -, rfl⟩ := List.mem_map.1 hblock
  exact length_partBytes part

theorem length_digestBytes (features : List Int32) : (digestBytes features).length = 32 := by
  rw [digestBytes, length_flatten_of_length (length_of_mem_blocks features), List.length_map, digestParts,
    List.length_append, List.length_cons, length_splitEven, length_splitEven]

theorem digest_eq (features : List Int32) : digest features = .ok (digestBytes features) := by
  have hparts : (digestParts features).mapM partHash = .ok ((digestParts features).map partBytes) := by
    rw [mapM_eq_ok_iff_map, List.map_map]
    exact List.map_congr_left fun part _ => partHash_eq part
  by_cases hempty : features = []
  · subst hempty
    have hnone : digestParts [] = List.replicate 8 [] := by
      rw [digestParts, sorted, List.mergeSort_nil]
      rfl
    rw [digestBytes, hnone]
    rfl
  · rw [digest, if_neg (by simpa using hempty)]
    exact bind_eq_ok.2 ⟨_, hparts, rfl⟩

theorem exists_digest (features : List Int32) : ∃ d, digest features = .ok d ∧ d.length = 32 :=
  ⟨digestBytes features, digest_eq features, length_digestBytes features⟩

end AudioCode

namespace Transform

variable {α : Type} [Arithmetic α]

theorem length_combine {even odd : List α} (h : even.length = odd.length) :
    (combine even odd).length = even.length + odd.length := by
  fun_induction combine even odd with
  | case1 a even b b' odd ih =>
      have := ih (by simpa using h)
      simp only [List.length_cons] at this ⊢
      omega
  | case2 a even b =>
      obtain rfl : even = [] := by simpa using h
      rfl
  | case3 odd even hmany hone =>
      cases odd with
      | nil => rfl
      | cons b odd =>
          obtain ⟨a, even, rfl⟩ := List.exists_cons_of_length_eq_add_one h
          cases odd with
          | nil => exact (hone a even b rfl rfl).elim
          | cons b' odd => exact (hmany a even b b' odd rfl rfl).elim

theorem length_transform {m : Nat} {v : List α} (h : v.length = 2 ^ m) :
    (transform m v).length = 2 ^ m := by
  induction m generalizing v with
  | zero => exact h
  | succ m ih =>
      rw [Nat.pow_succ] at h
      have hfront : (v.take (Nat.pow 2 m)).length = 2 ^ m := by
        rw [List.length_take, Nat.pow_eq]
        omega
      have hback : ((v.drop (Nat.pow 2 m)).reverse).length = 2 ^ m := by
        rw [List.length_reverse, List.length_drop, Nat.pow_eq]
        omega
      have heven := ih (v := sums (v.take (Nat.pow 2 m)) (v.drop (Nat.pow 2 m)).reverse) (by
        rw [sums, List.length_zipWith, hfront, hback, Nat.min_self])
      have hodd := ih (v := differences (Nat.pow 2 (m + 1)) (v.take (Nat.pow 2 m))
          (v.drop (Nat.pow 2 m)).reverse) (by
        rw [differences, List.length_mapIdx, List.length_zip, hfront, hback, Nat.min_self])
      rw [transform, length_combine (heven.trans hodd.symm), heven, hodd, Nat.pow_succ]
      omega

theorem dct_of_length {m : Nat} {v : List α} (h : v.length = 2 ^ m) : dct v = .ok (transform m v) := by
  rw [dct, h, Nat.log2_two_pow]
  exact if_pos rfl

end Transform

namespace ImageCode

def IsSquare (n : Nat) (rows : List (List Float)) : Prop :=
  rows.length = n ∧ ∀ row ∈ rows, row.length = n

theorem isSquare_rowsFrom {pixels : List UInt8} (h : pixels.length = side * side) :
    IsSquare side (rowsFrom side pixels) := by
  have hrows : ∀ n (pixels : List UInt8), pixels.length = side * n →
      (rowsFrom n pixels).length = n ∧ ∀ row ∈ rowsFrom n pixels, row.length = side := by
    intro n
    induction n with
    | zero => exact fun _ _ => ⟨rfl, fun _ hrow => absurd hrow List.not_mem_nil⟩
    | succ n ih =>
        intro pixels hp
        rw [Nat.mul_succ] at hp
        obtain ⟨hlen, hrest⟩ := ih (pixels.drop side) (by rw [List.length_drop]; omega)
        refine ⟨congrArg (· + 1) hlen, ?_⟩
        rw [rowsFrom, List.forall_mem_cons]
        refine ⟨?_, hrest⟩
        rw [List.length_map, List.length_take]
        omega
  exact hrows side pixels h

theorem isSquare_transpose {n : Nat} {rows : List (List Float)} (h : IsSquare n rows) :
    IsSquare n (transpose n rows) := by
  refine ⟨by rw [transpose, List.length_map, List.length_range], fun row hrow => ?_⟩
  obtain ⟨i, -, rfl⟩ := List.mem_map.1 hrow
  rw [List.length_map, h.1]

theorem exists_transformed {m : Nat} {rows : List (List Float)} (h : IsSquare (2 ^ m) rows) :
    ∃ rows', rows.mapM Transform.dct = .ok rows' ∧ IsSquare (2 ^ m) rows' := by
  refine ⟨rows.map (Transform.transform m), ?_, by rw [List.length_map, h.1], fun row' hrow' => ?_⟩
  · rw [mapM_eq_ok, List.forall₂_map_right_iff, List.forall₂_same]
    exact fun row hrow => Transform.dct_of_length (h.2 row hrow)
  · obtain ⟨row, hrow, rfl⟩ := List.mem_map.1 hrow'
    exact Transform.length_transform (h.2 row hrow)

theorem exists_coefficients {pixels : List UInt8} (h : pixels.length = side * side) :
    ∃ rows, coefficients pixels = .ok rows ∧ IsSquare side rows := by
  obtain ⟨rows, hrows, hsquare⟩ := exists_transformed (m := 5) (isSquare_rowsFrom h)
  obtain ⟨columns, hcolumns, hsquare'⟩ := exists_transformed (m := 5) (isSquare_transpose hsquare)
  refine ⟨transpose side columns, ?_, isSquare_transpose hsquare'⟩
  exact bind_eq_ok.2 ⟨rows, hrows, bind_eq_ok.2 ⟨columns, hcolumns, rfl⟩⟩

theorem length_block {rows : List (List Float)} (h : IsSquare side rows) :
    ∀ corner ∈ corners, (block rows corner).length = 64 := by
  intro corner hcorner
  have hnear : corner.1 ≤ 1 ∧ corner.2 ≤ 1 := by
    revert corner
    decide
  have hrow : ∀ row ∈ (rows.drop corner.2).take blockSide,
      ((row.drop corner.1).take blockSide).length = 8 := by
    intro row hmem
    rw [List.length_take, List.length_drop, h.2 row (List.mem_of_mem_drop (List.mem_of_mem_take hmem)),
      side, blockSide]
    omega
  rw [block, List.length_flatMap, List.map_congr_left hrow, List.map_const', List.sum_replicate_nat,
    List.length_take, List.length_drop, h.1, side, blockSide]
  omega

theorem length_bitsFrom {rows : List (List Float)} (h : IsSquare side rows) :
    (bitsFrom rows 256 corners).length = 256 := by
  have hblocks := length_block h
  simp only [corners, List.forall_mem_cons] at hblocks
  obtain ⟨h₁, h₂, h₃, h₄, -⟩ := hblocks
  simp [bitsFrom, corners, h₁, h₂, h₃, h₄]

/-- The bits that come before the loops are left do not depend on when they are left. -/
theorem bitsFrom_take (rows : List (List Float)) {count count' : Nat} (h : count ≤ count')
    (corners : List (Nat × Nat)) :
    (bitsFrom rows count' corners).take count = bitsFrom rows count corners := by
  induction corners generalizing count count' with
  | nil => exact List.take_nil
  | cons corner corners ih =>
      by_cases hzero : count = 0
      · rw [hzero, List.take_zero, bitsFrom, if_pos rfl]
      · have hrest := ih (Nat.sub_le_sub_right h (block rows corner).length)
        rw [bitsFrom, bitsFrom, if_neg hzero, if_neg (by omega)]
        dsimp only
        rw [List.take_append, ← List.map_take, List.take_take, Nat.min_eq_left h, List.length_map,
          List.length_take]
        by_cases hfits : (block rows corner).length ≤ count'
        · rw [Nat.min_eq_right hfits, hrest]
        · have hdone : count - (block rows corner).length = 0 := by omega
          rw [← hrest, hdone, List.take_zero, Nat.min_eq_left (by omega), Nat.sub_eq_zero_of_le h,
            List.take_zero]

theorem digest_take (rows : List (List Float)) {bits : Nat} (h : 8 ∣ bits) (hle : bits ≤ 256) :
    digest rows bits = (digest rows 256).take (bits / 8) := by
  rw [digest, digest, ← Bits.toBytes_take, Nat.mul_div_cancel' h, bitsFrom_take rows hle]

theorem length_digest {rows : List (List Float)} (h : IsSquare side rows) :
    (digest rows 256).length = 32 := by
  rw [digest, Bits.length_toBytes, length_bitsFrom h]

end ImageCode

end ContentCode
