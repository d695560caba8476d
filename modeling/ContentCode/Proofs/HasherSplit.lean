import ContentCode.Stream.Hasher
import ContentCode.Proofs.ChunkLocality
import ContentCode.Proofs.CodeForm
import ContentCode.Proofs.DigestSize

/-!
A data hasher does not see where its input is split. At any time its state is that of the chunks of
all bytes so far, so it gives out the code that these bytes have as a whole.
-/

namespace ContentCode

namespace DataCode

theorem chunks_append (bytes more : List UInt8) : chunks (bytes ++ more) =
    (chunks bytes).dropLast ++ chunks ((chunks bytes).getLastD [] ++ more) :=
  Chunking.chunks_append .default bytes more

theorem chunks_ne_nil (bytes : List UInt8) : chunks bytes ≠ [] :=
  Chunking.chunks_ne_nil .default false bytes

theorem length_le_of_mem_chunks {bytes : List UInt8} : ∀ c ∈ chunks bytes, c.length ≤ 8192 :=
  Chunking.length_le_of_mem_chunks .default false
    (Chunking.cut_le_of_sizes .default (by decide) (by decide) (by decide) (by decide)) bytes

theorem dropLast_append_getLastD (bytes : List UInt8) :
    (chunks bytes).dropLast ++ [(chunks bytes).getLastD []] = chunks bytes := by
  have hne := chunks_ne_nil bytes
  rw [List.getLastD_eq_getLast?, List.getLast?_eq_some_getLast hne]
  exact List.dropLast_append_getLast hne

theorem getLastD_mem (bytes : List UInt8) : (chunks bytes).getLastD [] ∈ chunks bytes := by
  have h : (chunks bytes).getLastD [] ∈ (chunks bytes).dropLast ++ [(chunks bytes).getLastD []] := by simp
  rwa [dropLast_append_getLastD] at h

theorem exists_ofFeatures (features : List UInt32) {bits : Nat} (h : bits ∈ Code.supportedBits) :
    ∃ c, ofFeatures features bits = .ok c := by
  obtain ⟨code, hcode⟩ := Code.exists_generate (t := .data) .plain (by decide) (by decide) h
    (MinHash.length_digest features)
  exact ⟨⟨code⟩, by rw [ofFeatures, hcode]; rfl⟩

theorem generate_of_mem {bits : Nat} (bytes : List UInt8) (h : bits ∈ Code.supportedBits) :
    generate bytes bits = ofFeatures ((chunks bytes).map Hash.XxHash32.hash) bits := by
  rw [generate, Code.checkBits_of_mem h]
  rfl

end DataCode

namespace DataState

/-- The state that a hasher has after `bytes`. -/
structure Covers (s : DataState) (bytes : List UInt8) : Prop where
  features : s.features = (DataCode.chunks bytes).dropLast.map Hash.XxHash32.hash
  tail : s.tail = (DataCode.chunks bytes).getLastD []

theorem covers_new : new.Covers [] := ⟨rfl, rfl⟩

theorem Covers.absorb {s : DataState} {bytes : List UInt8} (h : s.Covers bytes) (more : List UInt8) :
    (s.absorb more).Covers (bytes ++ more) := by
  by_cases hmore : more = []
  · simpa [DataState.absorb, hmore] using h
  · have hne := DataCode.chunks_ne_nil (s.tail ++ more)
    have hall : DataCode.chunks (bytes ++ more) =
        (DataCode.chunks bytes).dropLast ++ DataCode.chunks (s.tail ++ more) := by
      rw [h.tail, ← DataCode.chunks_append]
    rw [DataState.absorb, if_neg (by simpa using hmore)]
    refine ⟨?_, ?_⟩
    · rw [hall, List.dropLast_append_of_ne_nil hne, List.map_append, h.features]
    · change (DataCode.chunks (s.tail ++ more)).getLastD [] = _
      rw [hall, List.getLastD_eq_getLast?, List.getLastD_eq_getLast?,
        List.getLast?_append_of_ne_nil _ hne]

/-- The last hash is left out only if some bytes came and no tail was kept, which never happens. -/
theorem Covers.lastFeature? {s : DataState} {bytes : List UInt8} (h : s.Covers bytes) :
    s.lastFeature? = some (Hash.XxHash32.hash s.tail) := by
  refine if_neg ?_
  rintro ⟨htail, hfeatures⟩
  by_cases hbytes : bytes = []
  · subst hbytes
    exact hfeatures h.features
  · have hlast := Chunking.ne_nil_of_mem_chunks .default false hbytes _ (DataCode.getLastD_mem bytes)
    exact hlast (h.tail ▸ htail)

theorem Covers.finish {s : DataState} {bytes : List UInt8} (h : s.Covers bytes) {bits : Nat}
    (hbits : bits ∈ Code.supportedBits) :
    ∃ c, DataCode.generate bytes bits = .ok c ∧ (s.finish bits).1 = .ok c := by
  have hfeatures : s.features ++ s.lastFeature?.toList =
      (DataCode.chunks bytes).map Hash.XxHash32.hash := by
    conv_rhs => rw [← DataCode.dropLast_append_getLastD bytes]
    rw [h.lastFeature?, h.features, h.tail, List.map_append]
    rfl
  obtain ⟨c, hc⟩ := DataCode.exists_ofFeatures ((DataCode.chunks bytes).map Hash.XxHash32.hash) hbits
  refine ⟨c, by rw [DataCode.generate_of_mem bytes hbits, hc], ?_⟩
  simp only [DataState.finish, Code.checkBits_of_mem hbits, hfeatures, hc]

theorem finish_of_not_mem (s : DataState) {bits : Nat} (h : bits ∉ Code.supportedBits) :
    s.finish bits = (.error (.unsupportedBits bits), s) := by
  simp only [finish, Code.checkBits, if_neg h]

end DataState

namespace Hasher

variable {σ κ : Type} (m : Method σ κ)

def Operation.bytes : Operation → List UInt8
  | .update bytes | .write bytes => bytes
  | .flush | .finalize _ => []

def run (h : Hasher σ κ) (ops : List Operation) : Hasher σ κ :=
  ops.foldl (fun h op => (h.step m op).2) h

end Hasher

namespace DataHasher

open Hasher

theorem step_covers {h : DataHasher} {bytes : List UInt8} (hphase : h.phase = .active)
    (hstate : h.state.Covers bytes) (op : Operation)
    (hop : ∀ bits, op = .finalize bits → bits ∉ Code.supportedBits) :
    (h.step method op).2.phase = .active ∧
      (h.step method op).2.state.Covers (bytes ++ op.bytes) := by
  rcases h with ⟨phase, s, code⟩
  subst hphase
  cases op with
  | update more | write more => exact ⟨rfl, hstate.absorb more⟩
  | flush =>
      rw [Operation.bytes, List.append_nil]
      exact ⟨rfl, hstate⟩
  | finalize bits =>
      have hs := s.finish_of_not_mem (hop bits rfl)
      have hstep : (step method ⟨.active, s, code⟩ (.finalize bits)).2 = ⟨.active, s, code⟩ := by
        simp only [step, finalize, method, hs]
      rw [hstep, Operation.bytes, List.append_nil]
      exact ⟨rfl, hstate⟩

theorem run_covers {h : DataHasher} {bytes : List UInt8} (hphase : h.phase = .active)
    (hstate : h.state.Covers bytes) (ops : List Operation)
    (hops : ∀ bits, .finalize bits ∈ ops → bits ∉ Code.supportedBits) :
    (h.run method ops).phase = .active ∧
      (h.run method ops).state.Covers (bytes ++ ops.flatMap Operation.bytes) := by
  induction ops generalizing h bytes with
  | nil =>
      rw [List.flatMap_nil, List.append_nil]
      exact ⟨hphase, hstate⟩
  | cons op ops ih =>
      obtain ⟨hphase', hstate'⟩ := step_covers hphase hstate op
        fun bits hop => hops bits (by simp [hop])
      have := ih hphase' hstate' fun bits hmem => hops bits (List.mem_cons_of_mem op hmem)
      rwa [List.append_assoc] at this

/-- However the bytes are split over updates and writes, and whatever finalizations were refused in
between, the state and the code are those of all bytes at once. -/
theorem split_invariant (ops : List Operation)
    (hops : ∀ bits, .finalize bits ∈ ops → bits ∉ Code.supportedBits) :
    let h := (new method).run method ops
    let bytes := ops.flatMap Operation.bytes
    h.phase = .active ∧
      (bytes ≠ [] → ∃ chunks, Chunking.chunksOfAverage 1024 false bytes = .ok chunks ∧
        h.state.features = chunks.dropLast.map Hash.XxHash32.hash ∧
        chunks.getLast? = some h.state.tail ∧ h.state.tail.length ≤ 8192) ∧
      ∀ bits ∈ Code.supportedBits, ∃ c, DataCode.generate bytes bits = .ok c ∧
        (h.finalize method bits).1 = .ok c := by
  intro h bytes
  obtain ⟨hphase, hstate⟩ : h.phase = .active ∧ h.state.Covers ([] ++ bytes) :=
    run_covers (h := new method) rfl DataState.covers_new ops hops
  rw [List.nil_append] at hstate
  refine ⟨hphase, fun _ => ⟨DataCode.chunks bytes, rfl, hstate.features, ?_, ?_⟩, fun bits hbits => ?_⟩
  · rw [hstate.tail, List.getLastD_eq_getLast?,
      List.getLast?_eq_some_getLast (DataCode.chunks_ne_nil bytes)]
    rfl
  · rw [hstate.tail]
    exact DataCode.length_le_of_mem_chunks _ (DataCode.getLastD_mem bytes)
  · obtain ⟨c, hc, hfinish⟩ := hstate.finish hbits
    refine ⟨c, hc, ?_⟩
    have hcode : (method.finish h.state bits).1 = .ok c := hfinish
    rcases hf : method.finish h.state bits with ⟨result, s⟩
    rw [hf] at hcode
    dsimp only at hcode
    simp only [finalize, hphase, hf, hcode]

theorem two_blocks_around_refusal :
    let ops : List Operation := [.update [255], .finalize 65, .flush, .write [0]]
    (∀ bits, .finalize bits ∈ ops → bits ∉ Code.supportedBits) ∧
      ∃ c, DataCode.generate [255, 0] 128 = .ok c ∧
        (((new method).run method ops).finalize method 128).1 = .ok c := by
  have hops : ∀ bits, Operation.finalize bits ∈
      [.update [255], .finalize 65, .flush, .write [0]] → bits ∉ Code.supportedBits := by
    intro bits hmem
    obtain rfl : bits = 65 := by simpa using hmem
    decide
  exact ⟨hops, (split_invariant _ hops).2.2 128 (by decide)⟩

end DataHasher

end ContentCode
