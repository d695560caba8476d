import Mathlib.Algebra.Group.Nat.Defs
import ContentCode.Proofs.Assembly
import ContentCode.Proofs.CodeCanonical
import ContentCode.Proofs.HasherLifeCycle
import ContentCode.Stream.Sum

/-!
The sum code of an input is that of its bytes as a whole. It depends on the bytes that are read
before the input ends or fails, and not on the parts in which they come. Only a buffer that no memory can
hold stops the program.
-/

namespace ContentCode

namespace Input

def bytesRead : Input → List UInt8
  | [] => []
  | .interrupted :: events => bytesRead events
  | .failure _ :: _ => []
  | .block [] :: _ => []
  | .block (b :: bytes) :: events => b :: bytes ++ bytesRead events

/-- The failure that ends the reading, if it is not the end of the input. -/
def failure? : Input → Option String
  | [] => none
  | .interrupted :: events => failure? events
  | .failure text :: _ => some text
  | .block [] :: _ => none
  | .block (_ :: _) :: events => failure? events

theorem buffer?_of_lt {size : UInt64} (h : size.toNat < 2 ^ 63) : buffer? size = some size.toNat := if_pos h

theorem buffer?_eq_none {size : UInt64} : buffer? size = none ↔ 2 ^ 63 ≤ size.toNat := by
  rw [buffer?, show Nat.pow 2 63 = 2 ^ 63 from rfl]
  split
  next h => simpa using h
  next h => simpa using h

theorem flatten_pieces {size : Nat} (h : size ≠ 0) (bytes : List UInt8) :
    (pieces size bytes).flatten = bytes := by
  fun_induction pieces size bytes with
  | case1 bytes hnone => exact (hnone.resolve_left h).symm
  | case2 bytes _ _ ih => rw [List.flatten_cons, ih, List.take_append_drop]

theorem deliver_eq {size : Nat} (h : size ≠ 0) (input : Input) :
    (input.deliver size).1.flatten = input.bytesRead ∧
      (input.deliver size).2 = input.failure?.map Error.io := by
  induction input with
  | nil => exact ⟨rfl, rfl⟩
  | cons event events ih =>
      cases event with
      | interrupted => exact ih
      | failure text => exact ⟨rfl, rfl⟩
      | block bytes =>
          cases bytes with
          | nil => exact ⟨rfl, rfl⟩
          | cons b bytes =>
              refine ⟨?_, ih.2⟩
              change (pieces size (b :: bytes) ++ (deliver size events).1).flatten = _
              rw [List.flatten_append, flatten_pieces h, ih.1, bytesRead]

theorem absorbAll_eq {σ : Type} (absorb : σ → List UInt8 → σ) {size : Nat} (h : size ≠ 0) (s : σ)
    (input : Input) : absorbAll absorb size s input = match input.failure? with
      | some text => .error (.io text)
      | none => .ok ((input.deliver size).1.foldl absorb s) := by
  have hfailure := (deliver_eq h input).2
  rw [absorbAll]
  rcases hd : input.deliver size with ⟨parts, failure⟩
  rw [hd] at hfailure
  dsimp only at hfailure
  subst hfailure
  cases input.failure? with
  | none => rfl
  | some text => rfl

section covers

variable {σ : Type} (absorb : σ → List UInt8 → σ) (Covers : σ → List UInt8 → Prop)
  (habsorb : ∀ s bytes more, Covers s bytes → Covers (absorb s more) (bytes ++ more))

include habsorb

theorem foldl_covers {s : σ} {bytes : List UInt8} (h : Covers s bytes) (parts : List (List UInt8)) :
    Covers (parts.foldl absorb s) (bytes ++ parts.flatten) := by
  induction parts generalizing s bytes with
  | nil => rwa [List.flatten_nil, List.append_nil]
  | cons part parts ih =>
      rw [List.flatten_cons, ← List.append_assoc]
      exact ih (habsorb s bytes part h)

/-- A state that keeps up with the parts it takes has all bytes in the end. -/
theorem absorbAll_covers {s : σ} (h : Covers s []) {size : Nat} (hsize : size ≠ 0) {input : Input}
    (hinput : input.failure? = none) :
    ∃ after, absorbAll absorb size s input = .ok after ∧ Covers after input.bytesRead := by
  refine ⟨_, by rw [absorbAll_eq absorb hsize, hinput], ?_⟩
  rw [← (deliver_eq hsize input).1]
  exact foldl_covers absorb Covers habsorb h _

end covers

end Input

namespace InstanceState

def Covers (s : InstanceState) (bytes : List UInt8) : Prop :=
  s.hash = Hash.Blake3.new.update bytes ∧ s.filesize = bytes.length

variable {s : InstanceState} {bytes : List UInt8}

theorem Covers.absorb (h : s.Covers bytes) (more : List UInt8) :
    (s.absorb more).Covers (bytes ++ more) := by
  refine ⟨?_, ?_⟩
  · rw [Hash.Blake3.update_append, ← h.1]
    rfl
  · rw [List.length_append, ← h.2]
    rfl

theorem Covers.finish (h : s.Covers bytes) (bits : Nat) :
    (s.finish bits).1 = InstanceCode.generate bytes bits := by
  rw [InstanceCode.generate, Hash.Blake3.hash, ← h.1, ← h.2]
  rfl

end InstanceState

theorem DataCode.decode_of_generate {bytes : List UInt8} {bits : Nat} {c : DataCode}
    (h : generate bytes bits = .ok c) :
    ∃ u, Code.decode c.iscc = .ok u ∧ u.maintype = .data ∧ u.bits = bits := by
  simp only [generate, ofFeatures, bind_eq_ok, pure_eq_ok] at h
  obtain ⟨_, -, code, hcode, rfl⟩ := h
  obtain ⟨u, hu, ht, -, -, hbits, -⟩ := Code.decode_of_generate (by decide) (by decide) hcode
  exact ⟨u, hu, ht, hbits⟩

theorem InstanceCode.decode_of_generate {bytes : List UInt8} {bits : Nat} {c : InstanceCode}
    (h : generate bytes bits = .ok c) :
    ∃ u, Code.decode c.iscc = .ok u ∧ u.maintype = .inst ∧ u.bits = bits := by
  simp only [generate, ofHash, bind_eq_ok, pure_eq_ok] at h
  obtain ⟨code, hcode, rfl⟩ := h
  obtain ⟨u, hu, ht, -, -, hbits, -⟩ := Code.decode_of_generate (by decide) (by decide) hcode
  exact ⟨u, hu, ht, hbits⟩

theorem InstanceCode.exists_generate (bytes : List UInt8) {bits : Nat} (h : bits ∈ Code.supportedBits) :
    ∃ c, generate bytes bits = .ok c :=
  exists_ofHash (Hash.Blake3.length_finalize _) bytes.length h

namespace Composite

variable {d i : CodeUnit}

theorem ofUnits_pair_short (hd : d.maintype = .data) (hshort : d.bits < 64) (wide : Bool) :
    ofUnits [d, i] wide = .error (.shortUnit .data d.bits) := by
  have hcheck : checkUnit d = .error (.shortUnit .data d.bits) := by
    rw [checkUnit, hd, if_pos hshort]
    rfl
  have hall : [d, i].forM checkUnit = .error (.shortUnit .data d.bits) := by
    change (checkUnit d >>= fun _ => [i].forM checkUnit) = _
    rw [hcheck]
    rfl
  rw [ofUnits, hall]
  rfl

theorem exists_ofUnits_pair (hd : d.maintype = .data) (hi : i.maintype = .inst) (hdlong : 64 ≤ d.bits)
    (hilong : 64 ≤ i.bits) (wide : Bool) : ∃ u, ofUnits [d, i] wide = .ok u := by
  have hunits : [d, i].forM checkUnit = .ok () := by
    rw [forM_eq_ok]
    simp [checkUnit_eq_ok, hd, hi, hdlong, hilong, MainType.isComposable]
  have horder : inOrder [d, i] = [d, i] := by
    refine inOrder_eq_self ?_
    simp [hd, hi, MainType.number]
  have htypes : [d, i].map CodeUnit.maintype = [.data, .inst] := by simp [hd, hi]
  obtain ⟨s, hs, hsize⟩ : ∃ s, subtype [d, i] wide = .ok s ∧
      (body [d, i] wide).length = (if s = .wide then 32 else 16) := by
    cases hw : isWide [d, i] wide with
    | true =>
        have hlong : ∀ u ∈ [d, i], 128 ≤ u.bits := by
          simp only [isWide, Bool.and_eq_true, List.all_eq_true, decide_eq_true_eq] at hw
          exact hw.2
        refine ⟨.wide, if_pos hw, ?_⟩
        rw [body, hw]
        exact CodeUnit.length_flatMap_take (n := 128) hlong
    | false =>
        refine ⟨.sum, ?_, ?_⟩
        · rw [subtype, hw]
          simp [hd, hi]
        · rw [body, hw]
          exact CodeUnit.length_flatMap_take (n := 64) (by simp [hdlong, hilong])
  have hheader : ∃ h, Header.ofLength .iscc s .v0 0 = .ok h ∧ h.digestSize = (body [d, i] wide).length := by
    refine ⟨⟨.iscc, s, .v0, 0, by decide⟩, rfl, ?_⟩
    rw [hsize]
    cases s <;> rfl
  obtain ⟨h, hh, hdigest⟩ := hheader
  obtain ⟨u, hu⟩ := CodeUnit.exists_ofHeader hdigest.symm
  refine ⟨u, ?_⟩
  simp only [ofUnits, bind_eq_ok]
  rw [horder, htypes]
  exact ⟨(), hunits, (), rfl, s, hs, 0, rfl, h, hh, hu⟩

end Composite

theorem Settings.validate_eq_ok {s : Settings} :
    s.validate = .ok () ↔ s.bits ∈ Code.supportedBits ∧ s.bufferSize ≠ 0 := by
  rw [validate, Code.checkBits]
  by_cases hbits : s.bits ∈ Code.supportedBits
  · by_cases hsize : s.bufferSize = 0
    · simp [hbits, hsize, bind, Except.bind, throw, throwThe, MonadExceptOf.throw]
    · simp [hbits, hsize, bind, Except.bind, pure, Except.pure]
  · simp [hbits, bind, Except.bind]

namespace SumCode

/-- The sum code of bytes from the data and the instance code that they have as a whole. -/
def ofBytes (bytes : List UInt8) (bits : Nat) (wide : Bool) : Except Error SumCode := do
  let data ← DataCode.generate bytes bits
  let inst ← InstanceCode.generate bytes bits
  let units := [data.iscc, inst.iscc]
  return ⟨← Composite.assemble units wide, inst.datahash, inst.filesize, units⟩

theorem max_mem_supportedBits : ∀ bits ∈ Code.supportedBits, max bits 128 ∈ Code.supportedBits := by
  decide

theorem unitBits_mem {s : Settings} (h : s.validate = .ok ()) : unitBits s ∈ Code.supportedBits := by
  have hmem := (Settings.validate_eq_ok.1 h).1
  rw [unitBits]
  split
  next => exact max_mem_supportedBits _ hmem
  next => exact hmem

def absorbBoth (p : DataState × InstanceState) (bytes : List UInt8) : DataState × InstanceState :=
  (p.1.absorb bytes, p.2.absorb bytes)

theorem generateThrough_eq {room : Nat} (hroom : room ≠ 0) {s : Settings} (hbits : unitBits s ∈ Code.supportedBits)
    (input : Input) : generateThrough room input s = match input.failure? with
      | some text => .error (.io text)
      | none => ofBytes input.bytesRead (unitBits s) s.wide := by
  rw [generateThrough]
  cases hinput : input.failure? with
  | some text =>
      rw [Input.absorbAll_eq _ hroom, hinput]
      rfl
  | none =>
      obtain ⟨⟨d, i⟩, habsorb, hd, hi⟩ := Input.absorbAll_covers absorbBoth
        (fun p bytes => p.1.Covers bytes ∧ p.2.Covers bytes)
        (fun _ _ more hp => ⟨hp.1.absorb more, hp.2.absorb more⟩)
        (s := (.new, .new)) ⟨DataState.covers_new, rfl, rfl⟩ hroom hinput
      obtain ⟨c, hc, hfinish⟩ := hd.finish hbits
      change (input.absorbAll absorbBoth room (.new, .new) >>= _) = _
      simp only [habsorb, bind, Except.bind, hfinish, hi.finish, ofBytes, hc]

/-- With good settings nothing but the buffer can stop the program. -/
theorem generate_eq {s : Settings} (h : s.validate = .ok ()) (input : Input) :
    generate input s = (Input.buffer? s.bufferSize).map fun _ => match input.failure? with
      | some text => .error (.io text)
      | none => ofBytes input.bytesRead (unitBits s) s.wide := by
  have hsize : s.bufferSize.toNat ≠ 0 := fun hzero =>
    (Settings.validate_eq_ok.1 h).2 (UInt64.toNat_inj.1 hzero)
  rw [generate, h]
  by_cases hlarge : s.bufferSize.toNat < 2 ^ 63
  · rw [Input.buffer?_of_lt hlarge, Option.map_some, Option.map_some, generateThrough_eq hsize (unitBits_mem h)]
  · rw [Input.buffer?_eq_none.2 (Nat.le_of_not_lt hlarge), Option.map_none, Option.map_none]

theorem exists_units (bytes : List UInt8) {bits : Nat} (h : bits ∈ Code.supportedBits) :
    ∃ data inst d i, DataCode.generate bytes bits = .ok data ∧
      InstanceCode.generate bytes bits = .ok inst ∧
      [data.iscc, inst.iscc].mapM Code.decode = .ok [d, i] ∧
      (d.maintype = .data ∧ d.bits = bits) ∧ i.maintype = .inst ∧ i.bits = bits := by
  obtain ⟨data, hdata⟩ := DataCode.exists_ofFeatures ((DataCode.chunks bytes).map Hash.XxHash32.hash) h
  rw [← DataCode.generate_of_mem bytes h] at hdata
  obtain ⟨inst, hinst⟩ := InstanceCode.exists_generate bytes h
  obtain ⟨d, hd, hdunit⟩ := DataCode.decode_of_generate hdata
  obtain ⟨i, hi, hiunit⟩ := InstanceCode.decode_of_generate hinst
  refine ⟨data, inst, d, i, hdata, hinst, ?_, hdunit, hiunit⟩
  simp [List.mapM_cons, hd, hi, bind, Except.bind, pure, Except.pure]

theorem ofBytes_short (bytes : List UInt8) {bits : Nat} (wide : Bool) (h : bits ∈ Code.supportedBits)
    (hshort : bits < 64) : ofBytes bytes bits wide = .error (.shortUnit .data bits) := by
  obtain ⟨data, inst, d, i, hdata, hinst, hunits, ⟨hd, hdbits⟩, -⟩ := exists_units bytes h
  have hpair := Composite.ofUnits_pair_short (i := i) hd (by omega) wide
  rw [hdbits] at hpair
  simp only [ofBytes, hdata, hinst, bind, Except.bind, Composite.assemble, hunits, hpair]
  rfl

theorem ofBytes_long (bytes : List UInt8) {bits : Nat} {wide : Bool} (h : bits ∈ Code.supportedBits)
    (hlong : 64 ≤ bits) (hwide : wide = true → 128 ≤ bits) :
    ∃ data inst c, DataCode.generate bytes bits = .ok data ∧ InstanceCode.generate bytes bits = .ok inst ∧
      Composite.assemble [data.iscc, inst.iscc] wide = .ok c ∧
      ofBytes bytes bits wide = .ok ⟨c, inst.datahash, inst.filesize, [data.iscc, inst.iscc]⟩ ∧
      ∃ u, Code.decode c = .ok u ∧ (u.subtype = .wide ↔ wide = true) := by
  obtain ⟨data, inst, d, i, hdata, hinst, hunits, ⟨hd, hdbits⟩, hi, hibits⟩ := exists_units bytes h
  obtain ⟨u, hu⟩ := Composite.exists_ofUnits_pair hd hi (by omega) (by omega) wide
  have hholds := Composite.ofUnits_eq_ok.1 hu
  have hassemble : Composite.assemble [data.iscc, inst.iscc] wide = .ok (Code.withScheme u.toCode) :=
    Composite.assemble_eq_ok.2 ⟨Nat.le_refl 2, _, u, hunits, hholds, rfl⟩
  refine ⟨data, inst, Code.withScheme u.toCode, hdata, hinst, hassemble, ?_, u, hholds.decode_eq, ?_⟩
  · simp only [ofBytes, hdata, hinst, hassemble, bind, Except.bind]
    rfl
  · have hinherited : ¬ Composite.WideInherited [d, i] := by simp [Composite.WideInherited, hd, hi]
    have hgiven : Composite.WideGiven [d, i] wide ↔ wide = true := by
      simp only [Composite.WideGiven, List.map_cons, List.map_nil, hd, hi, List.Perm.refl, true_and,
        List.forall_mem_cons, List.not_mem_nil, false_implies, implies_true, and_true, hdbits, hibits,
        and_self]
      exact ⟨fun hw => hw.1, fun hw => ⟨hw, hwide hw⟩⟩
    rw [hholds.subtype_eq_wide, Composite.wideInherited_inOrder, or_iff_left hinherited,
      Composite.wideGiven_inOrder, hgiven]

end SumCode

end ContentCode
