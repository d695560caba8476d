import ContentCode.Proofs.CompositeParts

/-!
What a composite code is made of, and how its parts compare with its units: in the narrow form, in
the wide form, and where a unit claims to be wide.
-/

namespace ContentCode

namespace CodeUnit

/-- `p` is what a composite code keeps of `u`: a unit of `n` bits. -/
structure Shortens (n : Nat) (p u : CodeUnit) : Prop where
  canonical : p.IsCanonical
  maintype : p.maintype = u.maintype
  subtype : p.subtype = if u.maintype = .semantic ∨ u.maintype = .content then u.subtype else .plain
  version : p.version = .v0
  bits : p.bits = n
  digest : p.digest = u.digest.take (n / 8)

variable {u : CodeUnit} {units : List CodeUnit} {n : Nat}

theorem length_take_digest (h : n ≤ u.bits) : (u.digest.take (n / 8)).length = n / 8 := by
  have hsize : u.digest.length = u.bits / 8 := u.length_digest
  rw [List.length_take, hsize]
  omega

theorem length_flatMap_take (h : ∀ u ∈ units, n ≤ u.bits) :
    (units.flatMap fun u => u.digest.take (n / 8)).length = n / 8 * units.length := by
  induction units with
  | nil => rfl
  | cons u units ih =>
      rw [List.forall_mem_cons] at h
      rw [List.flatMap_cons, List.length_append, length_take_digest h.1, ih h.2, List.length_cons]
      ring

end CodeUnit

namespace Composite

/-- A composite code `u` is made of `units`, which are in order. -/
structure Holds (u : CodeUnit) (units : List CodeUnit) (wide : Bool) : Prop where
  canonical : u.IsCanonical
  maintype : u.maintype = .iscc
  version : u.version = .v0
  subtype : Composite.subtype units wide = .ok u.subtype
  types : units.map CodeUnit.maintype = MainType.optional u.header.length ++ [.data, .inst]
  long : ∀ v ∈ units, 64 ≤ v.bits
  digest : u.digest = body units wide

/-- The wide form is asked for, and a data and an instance unit of 128 bits or more are all there
is. -/
def WideGiven (units : List CodeUnit) (wide : Bool) : Prop :=
  wide = true ∧ (units.map CodeUnit.maintype).Perm [.data, .inst] ∧ ∀ u ∈ units, 128 ≤ u.bits

instance (units : List CodeUnit) (wide : Bool) : Decidable (WideGiven units wide) :=
  inferInstanceAs (Decidable (_ ∧ _ ∧ _))

/-- A semantic or content unit claims to be wide. -/
def WideInherited (units : List CodeUnit) : Prop :=
  ∃ u ∈ units, (u.maintype = .semantic ∨ u.maintype = .content) ∧ u.subtype = .wide

instance (units : List CodeUnit) : Decidable (WideInherited units) :=
  inferInstanceAs (Decidable (∃ u ∈ units, _))

theorem WideGiven.not_wideInherited {units : List CodeUnit} {wide : Bool} (h : WideGiven units wide) :
    ¬ WideInherited units := by
  rintro ⟨u, hu, hkind, -⟩
  have hmem := h.2.1.mem_iff.1 (List.mem_map_of_mem hu)
  rcases hkind with hkind | hkind <;> simp [hkind] at hmem

theorem ofUnits_eq_ok {units : List CodeUnit} {wide : Bool} {u : CodeUnit} :
    ofUnits units wide = .ok u ↔ Holds u (inOrder units) wide := by
  have hmem {v : CodeUnit} : v ∈ inOrder units ↔ v ∈ units := (inOrder_perm units).mem_iff
  have hcheck := checkTypes_eq_ok (inOrder_pairwise units)
  simp only [ofUnits, bind_eq_ok]
  constructor
  · rintro ⟨_, hunits, _, htypes, s, hs, flags, hflags, header, hheader, hu⟩
    have hgood : ∀ v ∈ inOrder units, v.maintype.isComposable = true ∧ 64 ≤ v.bits :=
      fun v hv => checkUnit_eq_ok.1 (forM_eq_ok.1 hunits v (hmem.1 hv))
    obtain ⟨flags', hlt, htypes'⟩ := hcheck.1 ⟨by
      intro t ht
      obtain ⟨v, hv, rfl⟩ := List.mem_map.1 ht
      exact (hgood v hv).1, htypes⟩
    rw [htypes', MainType.flagsOf_optional flags' hlt, Except.ok.injEq] at hflags
    subst hflags
    obtain ⟨ht, hs', hv, hlength⟩ := Header.ofLength_eq_ok.1 hheader
    obtain ⟨hcanonical, rfl, hdigest⟩ := CodeUnit.ofHeader_eq_ok.1 hu
    exact ⟨hcanonical, ht, hv, by rw [hs, CodeUnit.subtype, hs'], by rw [htypes', hlength],
      fun v hv => (hgood v hv).2, hdigest⟩
  · intro h
    have hlt := u.header.length_lt
    obtain ⟨hc, htypes⟩ := hcheck.2 ⟨u.header.length, hlt, h.types⟩
    refine ⟨(), forM_eq_ok.2 fun v hv => checkUnit_eq_ok.2 ⟨?_, h.long v (hmem.2 hv)⟩, (), htypes,
      u.subtype, h.subtype, u.header.length, ?_, u.header, ?_, ?_⟩
    · exact hc _ (List.mem_map_of_mem (hmem.2 hv))
    · rw [h.types, MainType.flagsOf_optional _ hlt]
    · exact Header.ofLength_eq_ok.2 ⟨h.maintype, rfl, h.version, rfl⟩
    · exact CodeUnit.ofHeader_eq_ok.2 ⟨h.canonical, rfl, h.digest⟩

theorem subtype_eq_ok {units : List CodeUnit} {wide : Bool} {s : SubType}
    (hw : isWide units wide = false) : subtype units wide = .ok s ↔
      (∀ u ∈ units, u.maintype = .semantic ∨ u.maintype = .content → u.subtype = s) ∧
      ((∀ u ∈ units, ¬ (u.maintype = .semantic ∨ u.maintype = .content)) →
        s = if units.length = 2 then .sum else .isccNone) := by
  have hmem {t : SubType} : t ∈ (units.filter fun u => u.maintype = .semantic || u.maintype = .content).map
      CodeUnit.subtype ↔ ∃ u ∈ units, (u.maintype = .semantic ∨ u.maintype = .content) ∧ u.subtype = t := by
    simp [and_assoc]
  simp only [subtype, hw, Bool.false_eq_true, if_false]
  split
  next hnil =>
    rw [hnil] at hmem
    have hno : ∀ u ∈ units, ¬ (u.maintype = .semantic ∨ u.maintype = .content) :=
      fun u hu hkind => absurd (hmem.2 ⟨u, hu, hkind, rfl⟩) List.not_mem_nil
    rw [Except.ok.injEq]
    exact ⟨fun h => ⟨fun u hu hkind => absurd hkind (hno u hu), fun _ => h.symm⟩,
      fun h => (h.2 hno).symm⟩
  next t rest hcons =>
    rw [hcons] at hmem
    obtain ⟨u, hu, hkind, rfl⟩ := hmem.1 List.mem_cons_self
    have hsome (hno : ∀ u ∈ units, ¬ (u.maintype = .semantic ∨ u.maintype = .content)) : False :=
      hno u hu hkind
    split
    next t hfind =>
      -- the first unit and the one that was found have different subtypes
      refine iff_of_false (by simp) fun h => ?_
      obtain ⟨v, hv, hkind', rfl⟩ := hmem.1 (List.mem_cons_of_mem _ (List.mem_of_find?_eq_some hfind))
      have hne := List.find?_some hfind
      rw [h.1 u hu hkind, h.1 v hv hkind'] at hne
      simp at hne
    next hnone =>
      rw [Except.ok.injEq]
      constructor
      · rintro rfl
        refine ⟨fun v hv hkind' => ?_, fun hno => (hsome hno).elim⟩
        rcases List.mem_cons.1 (hmem.2 ⟨v, hv, hkind', rfl⟩) with heq | hrest
        · exact heq
        · simpa using List.find?_eq_none.1 hnone _ hrest
      · exact fun h => h.1 u hu hkind

namespace Holds

variable {u : CodeUnit} {units : List CodeUnit} {wide : Bool}

theorem exists_mandatory (h : Holds u units wide) : ∃ optional data inst,
    units = optional ++ [data, inst] ∧ data.maintype = .data ∧ inst.maintype = .inst ∧
      optional.map CodeUnit.maintype = MainType.optional u.header.length := by
  obtain ⟨optional, mandatory, rfl, hoptional, hmandatory⟩ := List.map_eq_append_iff.1 h.types
  obtain ⟨data, rest, rfl, hdata, hrest⟩ := List.map_eq_cons_iff.1 hmandatory
  obtain ⟨inst, rest, rfl, hinst, hrest⟩ := List.map_eq_cons_iff.1 hrest
  obtain rfl := List.map_eq_nil_iff.1 hrest
  exact ⟨optional, data, inst, rfl, hdata, hinst, hoptional⟩

theorem isWide_iff (h : Holds u units wide) : isWide units wide = true ↔ WideGiven units wide := by
  simp only [isWide, WideGiven, Bool.and_eq_true, decide_eq_true_eq, List.all_eq_true, and_assoc]
  refine and_congr_right fun _ => and_congr_left fun _ => ?_
  constructor
  · intro htwo
    obtain ⟨optional, data, inst, rfl, hdata, hinst, -⟩ := h.exists_mandatory
    obtain rfl : optional = [] := by simpa using htwo
    simp [hdata, hinst]
  · intro hperm
    simpa using hperm.length_eq

theorem isWide_eq_false (h : Holds u units wide) (hw : ¬ WideGiven units wide) :
    isWide units wide = false := by
  rw [← Bool.not_eq_true, h.isWide_iff]
  exact hw

theorem subtype_eq_wide (h : Holds u units wide) :
    u.subtype = .wide ↔ WideGiven units wide ∨ WideInherited units := by
  by_cases hw : WideGiven units wide
  · have hs : Composite.subtype units wide = .ok .wide := if_pos (h.isWide_iff.2 hw)
    rw [h.subtype, Except.ok.injEq] at hs
    exact iff_of_true hs (.inl hw)
  · obtain ⟨hkinds, hnone⟩ := (subtype_eq_ok (h.isWide_eq_false hw)).1 h.subtype
    constructor
    · intro hs
      by_contra hno
      have hnokind : ∀ v ∈ units, ¬ (v.maintype = .semantic ∨ v.maintype = .content) := by
        intro v hv hkind
        exact hno (.inr ⟨v, hv, hkind, (hkinds v hv hkind).trans hs⟩)
      have := hnone hnokind
      rw [hs] at this
      split at this <;> cases this
    · rintro (hw' | ⟨v, hv, hkind, hs⟩)
      · exact absurd hw' hw
      · rw [← hkinds v hv hkind, hs]

theorem flags_eq_zero (h : Holds u units wide) (hw : WideGiven units wide) : u.header.length = 0 := by
  have htypes := congrArg List.length h.types
  rw [hw.2.1.length_eq, List.length_append] at htypes
  rw [← MainType.optional_eq_nil _ u.header.length_lt, ← List.length_eq_zero_iff]
  simpa using htypes.symm

theorem subtype_of_kind (h : Holds u units wide) {v : CodeUnit} (hv : v ∈ units)
    (hkind : v.maintype = .semantic ∨ v.maintype = .content) : v.subtype = u.subtype := by
  by_cases hw : WideGiven units wide
  · have hmem := hw.2.1.mem_iff.1 (List.mem_map_of_mem hv)
    rcases hkind with hkind | hkind <;> simp [hkind] at hmem
  · exact ((subtype_eq_ok (h.isWide_eq_false hw)).1 h.subtype).1 v hv hkind

/-- A subtype that comes from the units does not make a code wide: its body has room for four units,
two of which are optional ones, and their flags are refused. -/
theorem parts_of_inherited (h : Holds u units wide) (hinherited : WideInherited units) :
    units.length = 4 ∧ u.parts = .error (.wideWithFlags u.header.length) := by
  have hs : u.subtype = .wide := h.subtype_eq_wide.2 (.inr hinherited)
  have hw := h.isWide_eq_false fun hw => hw.not_wideInherited hinherited
  have hsize : u.digest.length = 32 := by
    have hd : u.digest.length = u.header.digestBits / 8 := u.length_digest
    have ht : u.header.maintype = .iscc := h.maintype
    have hs' : u.header.subtype = .wide := hs
    rw [hd, Header.digestBits, ht, hs']
    simp [MainType.digestBits]
  have hfour : units.length = 4 := by
    have hfront := CodeUnit.length_flatMap_take h.long
    rw [h.digest, body, hw] at hsize
    simp only [Bool.false_eq_true, if_false, Nat.reduceDiv] at hsize hfront
    omega
  refine ⟨hfour, CodeUnit.parts_wide_flags hs ?_⟩
  intro hflags
  have htypes := congrArg List.length h.types
  rw [(MainType.optional_eq_nil _ u.header.length_lt).2 hflags, List.length_map, hfour] at htypes
  simp at htypes

section Shortened

variable {parts : List CodeUnit} (h : Holds u units wide) (hno : ¬ WideInherited units)
include h hno

theorem partBits_eq : u.partBits = if WideGiven units wide then 128 else 64 := by
  simp only [CodeUnit.partBits, h.subtype_eq_wide, or_iff_left hno]

theorem partBits_le : ∀ v ∈ units, u.partBits ≤ v.bits := by
  intro v hv
  rw [h.partBits_eq hno]
  split
  next hw => exact hw.2.2 v hv
  next => exact h.long v hv

theorem digest_eq : u.digest = units.flatMap fun v => v.digest.take (u.partBits / 8) := by
  rw [h.digest, body, h.partBits_eq hno]
  simp only [h.isWide_iff]
  split <;> rfl

theorem digests_eq (hparts : CodeUnit.Divides parts u) :
    parts.map CodeUnit.digest = units.map fun v => v.digest.take (u.partBits / 8) := by
  have htypes := map_eq_map.1 (hparts.types.trans h.types.symm)
  rw [List.eq_iff_flatten_eq, ← List.flatMap_def, ← List.flatMap_def, hparts.digest,
    ← h.digest_eq hno, List.map_map, List.map_map]
  refine ⟨rfl, map_eq_map.2 (List.forall₂_iff_zip.2 ⟨htypes.length_eq, fun {p v} hmem => ?_⟩)⟩
  obtain ⟨hp, hv⟩ := List.of_mem_zip hmem
  exact (hparts.isPart p hp).length_digest.trans
    (CodeUnit.length_take_digest (h.partBits_le hno v hv)).symm

theorem forall₂_shortens (hparts : CodeUnit.Divides parts u) :
    parts.Forall₂ (CodeUnit.Shortens u.partBits) units := by
  have htypes := map_eq_map.1 (hparts.types.trans h.types.symm)
  have hdigests := map_eq_map.1 (h.digests_eq hno hparts)
  refine List.forall₂_iff_zip.2 ⟨htypes.length_eq, fun {p v} hmem => ?_⟩
  obtain ⟨hp, hv⟩ := List.of_mem_zip hmem
  have hpart := hparts.isPart p hp
  have ht := (List.forall₂_iff_zip.1 htypes).2 hmem
  refine ⟨hpart.canonical, ht, ?_, rfl, hpart.bits, (List.forall₂_iff_zip.1 hdigests).2 hmem⟩
  rw [hpart.subtype, ht]
  split
  next hkind => exact (h.subtype_of_kind hv hkind).symm
  next => rfl

theorem exists_parts : ∃ parts, u.parts = .ok parts ∧
    parts.Forall₂ (CodeUnit.Shortens (if WideGiven units wide then 128 else 64)) units := by
  have hwide : u.subtype = .wide ↔ WideGiven units wide :=
    h.subtype_eq_wide.trans (or_iff_left hno)
  obtain ⟨parts, hparts, hdivides⟩ := CodeUnit.exists_parts h.maintype fun hs =>
    h.flags_eq_zero (hwide.1 hs)
  rw [← h.partBits_eq hno]
  exact ⟨parts, hparts, h.forall₂_shortens hno hdivides⟩

end Shortened

theorem decode_eq (h : Holds u units wide) : Code.decode (Code.withScheme u.toCode) = .ok u :=
  Code.decode_withScheme_toCode h.canonical

theorem decompose_eq (h : Holds u units wide) :
    decompose (Code.withScheme u.toCode) = u.parts.map (List.map CodeUnit.toCode) :=
  decompose_of_decode h.decode_eq h.maintype

end Holds

end Composite

end ContentCode
