import Mathlib.Algebra.Group.Nat.Defs
import Mathlib.Data.List.Induction
import ContentCode.Chunking.Cut

/-!
The gear hash fits its word. Half a hash and an entry of the table are less than two to the 31 each, so
that nothing is ever carried out of the sum, and cutting is the same in exact arithmetic.
-/

namespace ContentCode.Chunking

def gearHash (bytes : List UInt8) : UInt32 := bytes.foldl roll 0

theorem gearHash_concat (bytes : List UInt8) (b : UInt8) : gearHash (bytes ++ [b]) = roll (gearHash bytes) b := by
  rw [gearHash, List.foldl_append]
  rfl

theorem forall_mem_gearTable : ∀ entry ∈ gearTable, entry.toNat < 2 ^ 31 := by
  have hall : gearTable.all (fun entry => entry.toNat < 2 ^ 31) = true := by decide +kernel
  intro entry hentry
  exact of_decide_eq_true (Array.all_eq_true'.1 hall entry hentry)

theorem gear_lt (b : UInt8) : (gear b).toNat < 2 ^ 31 := by
  rw [gear, Array.getD_eq_getD_getElem?]
  cases h : gearTable[b.toNat]? with
  | none => exact Nat.two_pow_pos 31
  | some entry => exact forall_mem_gearTable entry (Array.mem_of_getElem? h)

def exactRoll (hash : Nat) (b : UInt8) : Nat := hash / 2 + (gear b).toNat

theorem exactRoll_lt {hash : Nat} (h : hash < 2 ^ 32) (b : UInt8) : exactRoll hash b < 2 ^ 32 := by
  have hb := gear_lt b
  rw [exactRoll]
  omega

theorem toNat_shiftRight_one (hash : UInt32) : (hash >>> 1).toNat = hash.toNat / 2 := by
  rw [UInt32.toNat_shiftRight, Nat.shiftRight_eq_div_pow]
  rfl

theorem toNat_roll (hash : UInt32) (b : UInt8) : (roll hash b).toNat = exactRoll hash.toNat b := by
  have hlt := exactRoll_lt hash.toNat_lt b
  rw [roll, UInt32.toNat_add, toNat_shiftRight_one]
  exact Nat.mod_eq_of_lt hlt

variable (p : Parameters)

/-- `scan` with hashes that are numbers of any size. -/
def exactScan (i hash : Nat) : List UInt8 → Nat
  | [] => i
  | b :: bytes =>
    if i < p.minSize then exactScan (i + 1) hash bytes
    else match p.maskAt i with
      | none => i
      | some mask =>
        let hash := exactRoll hash b
        if hash &&& mask.toNat = 0 then i + 1 else exactScan (i + 1) hash bytes

def exactCut (bytes : List UInt8) : Nat :=
  match bytes with
  | [] => 0
  | _ => max 1 (exactScan p 0 0 bytes)

theorem and_eq_zero_iff_toNat (hash mask : UInt32) : hash &&& mask = 0 ↔ hash.toNat &&& mask.toNat = 0 := by
  rw [← UInt32.toNat_inj, UInt32.toNat_and]
  rfl

theorem exactScan_toNat (i : Nat) (hash : UInt32) (bytes : List UInt8) :
    exactScan p i hash.toNat bytes = scan p i hash bytes := by
  induction bytes generalizing i hash with
  | nil => rfl
  | cons b bytes ih =>
      rw [exactScan, scan]
      split
      next => exact ih (i + 1) hash
      next =>
        cases p.maskAt i with
        | none => rfl
        | some mask =>
            dsimp only
            rw [← toNat_roll, ih (i + 1) (roll hash b)]
            simp only [and_eq_zero_iff_toNat]

theorem exactCut_eq (bytes : List UInt8) : exactCut p bytes = cut p bytes := by
  cases bytes with
  | nil => rfl
  | cons b bytes => exact congrArg (max 1) (exactScan_toNat p 0 0 (b :: bytes))

theorem toNat_gearHash (bytes : List UInt8) : (gearHash bytes).toNat = bytes.foldl exactRoll 0 := by
  induction bytes using List.reverseRecOn with
  | nil => rfl
  | append_singleton bytes b ih =>
      rw [gearHash_concat, toNat_roll, ih, List.foldl_append]
      rfl

/-- No step of the hash carries anything out of its word, so the hash of bytes is what exact arithmetic
gives, and so is every cut. -/
theorem gear_sums_exact :
    (∀ bytes b, (gearHash bytes >>> 1).toNat + (gear b).toNat < 2 ^ 32 ∧
      (gearHash (bytes ++ [b])).toNat = (gearHash bytes >>> 1).toNat + (gear b).toNat) ∧
    (∀ bytes, bytes.foldl exactRoll 0 < 2 ^ 32 ∧ (gearHash bytes).toNat = bytes.foldl exactRoll 0) ∧
    ∀ p bytes, cut p bytes = exactCut p bytes := by
  refine ⟨fun bytes b => ?_, fun bytes => ⟨?_, toNat_gearHash bytes⟩, fun p bytes => (exactCut_eq p bytes).symm⟩
  · have hhash : (gearHash bytes >>> 1).toNat + (gear b).toNat = exactRoll (gearHash bytes).toNat b := by
      rw [toNat_shiftRight_one, exactRoll]
    rw [hhash, gearHash_concat]
    exact ⟨exactRoll_lt (gearHash bytes).toNat_lt b, toNat_roll _ b⟩
  · rw [← toNat_gearHash]
    exact (gearHash bytes).toNat_lt

end ContentCode.Chunking
