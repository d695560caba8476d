import ContentCode.Proofs.CompositeForm

/-!
Assembling a composite code and taking it apart again gives its units back, shortened and in order;
the one exception are semantic and content units that claim to be wide.
-/

namespace ContentCode

namespace Composite

variable {codes : List String} {units : List CodeUnit} {wide : Bool} {u : CodeUnit} {c : String}

theorem wideGiven_inOrder : WideGiven (inOrder units) wide ↔ WideGiven units wide := by
  have hperm := inOrder_perm units
  simp only [WideGiven, hperm.mem_iff, (hperm.map _).congr_left]

theorem wideInherited_inOrder : WideInherited (inOrder units) ↔ WideInherited units := by
  simp only [WideInherited, (inOrder_perm units).mem_iff]

theorem assemble_eq_ok : assemble codes wide = .ok c ↔ 2 ≤ codes.length ∧ ∃ units u,
    codes.mapM Code.decode = .ok units ∧ Holds u (inOrder units) wide ∧
      c = Code.withScheme u.toCode := by
  by_cases hlen : codes.length < 2
  · simp [assemble, hlen, throw_bind]
  · simp only [assemble, hlen, if_false, bind_eq_ok, pure_eq_ok, ofUnits_eq_ok, ← not_lt,
      not_false_eq_true, true_and, eq_comm (a := c)]
    simp

theorem holds_of_assemble (h : assemble codes wide = .ok c) (hunits : codes.mapM Code.decode = .ok units) :
    ∃ u, Holds u (inOrder units) wide ∧ c = Code.withScheme u.toCode := by
  obtain ⟨-, units', u, hunits', hu, hc⟩ := assemble_eq_ok.1 h
  rw [hunits, Except.ok.injEq] at hunits'
  subst hunits'
  exact ⟨u, hu, hc⟩

def wideUnits : List CodeUnit :=
  [⟨⟨.data, .plain, .v0, 3, by decide⟩, [48, 3] ++ (List.range 16).map UInt8.ofNat, 2, by decide⟩,
    ⟨⟨.inst, .plain, .v0, 3, by decide⟩, [64, 3] ++ (List.range' 16 16).map UInt8.ofNat, 2, by decide⟩]

theorem decode_wideUnits :
    ["GABQAAICAMCAKBQHBAEQUCYMBUHA6", "IABRAEISCMKBKFQXDAMRUGY4DUPB6"].mapM Code.decode =
      .ok wideUnits := by
  decide +kernel

theorem assemble_wideUnits :
    assemble ["GABQAAICAMCAKBQHBAEQUCYMBUHA6", "IABRAEISCMKBKFQXDAMRUGY4DUPB6"] true =
      .ok "ISCC:K4AAAAICAMCAKBQHBAEQUCYMBUHA6EARCIJRIFIWC4MBSGQ3DQOR4HY" := by
  have horder : inOrder wideUnits = wideUnits := inOrder_eq_self (by decide)
  simp only [assemble, decode_wideUnits, ofUnits, bind, Except.bind, horder]
  decide +kernel

theorem decompose_assemble (h : assemble codes wide = .ok c) (hunits : codes.mapM Code.decode = .ok units)
    (hno : ¬ WideInherited units) :
    ∃ sorted parts : List CodeUnit, sorted.Perm units ∧
      (sorted.map CodeUnit.maintype).Sublist [.metadata, .semantic, .content, .data, .inst] ∧
      parts.Forall₂ (CodeUnit.Shortens (if WideGiven units wide then 128 else 64)) sorted ∧
      decompose c = .ok (parts.map CodeUnit.toCode) := by
  obtain ⟨u, hu, rfl⟩ := holds_of_assemble h hunits
  rw [← wideInherited_inOrder] at hno
  obtain ⟨parts, hparts, hshort⟩ := hu.exists_parts hno
  simp only [wideGiven_inOrder] at hshort
  refine ⟨inOrder units, parts, inOrder_perm units, ?_, hshort, ?_⟩
  · rw [hu.types]
    exact (MainType.optional_ascending _ u.header.length_lt).1
  · rw [hu.decompose_eq, hparts]
    rfl

theorem decompose_assemble_wideUnits :
    WideGiven wideUnits true ∧ ∃ sorted parts : List CodeUnit, sorted.Perm wideUnits ∧
      (sorted.map CodeUnit.maintype).Sublist [.metadata, .semantic, .content, .data, .inst] ∧
      parts.Forall₂ (CodeUnit.Shortens (if WideGiven wideUnits true then 128 else 64)) sorted ∧
      decompose "ISCC:K4AAAAICAMCAKBQHBAEQUCYMBUHA6EARCIJRIFIWC4MBSGQ3DQOR4HY" =
        .ok (parts.map CodeUnit.toCode) :=
  ⟨by decide, decompose_assemble assemble_wideUnits decode_wideUnits (by decide)⟩

/-- What an assembled code should be: one that can be taken apart, and wide only if it is made of a
wide data and a wide instance unit. -/
structure WellFormed (units : List CodeUnit) (wide : Bool) (c : String) : Prop where
  decomposes : ∃ parts, decompose c = .ok parts
  wide_iff : ∃ u, Code.decode c = .ok u ∧ (u.subtype = .wide ↔ WideGiven units wide) ∧
    (u.subtype = .wide → u.header.length = 0)

/-- A claim to be wide that comes from a semantic or content unit is the only thing that goes wrong,
and it does so with four units only. -/
theorem wellFormed_assemble_iff (h : assemble codes wide = .ok c)
    (hunits : codes.mapM Code.decode = .ok units) :
    (WellFormed units wide c ↔ ¬ WideInherited units) ∧ (WideInherited units → units.length = 4) := by
  obtain ⟨u, hu, rfl⟩ := holds_of_assemble h hunits
  have hlen := (inOrder_perm units).length_eq
  rw [← wideInherited_inOrder]
  refine ⟨⟨?_, ?_⟩, ?_⟩
  · intro hwell hinherited
    obtain ⟨parts, hparts⟩ := hwell.decomposes
    rw [hu.decompose_eq, (hu.parts_of_inherited hinherited).2] at hparts
    cases hparts
  · intro hno
    obtain ⟨parts, hparts, -⟩ := hu.exists_parts hno
    have hwide : u.subtype = .wide ↔ WideGiven (inOrder units) wide := by
      rw [hu.subtype_eq_wide]
      exact or_iff_left hno
    refine ⟨⟨parts.map CodeUnit.toCode, ?_⟩, u, hu.decode_eq, hwide.trans wideGiven_inOrder, ?_⟩
    · rw [hu.decompose_eq, hparts]
      rfl
    · intro hs
      exact hu.flags_eq_zero (hwide.1 hs)
  · intro hinherited
    rw [← hlen]
    exact (hu.parts_of_inherited hinherited).1

theorem wellFormed_wideUnits : WellFormed wideUnits true
    "ISCC:K4AAAAICAMCAKBQHBAEQUCYMBUHA6EARCIJRIFIWC4MBSGQ3DQOR4HY" :=
  (wellFormed_assemble_iff assemble_wideUnits decode_wideUnits).1.2 (by decide)

def inheritingUnits : List CodeUnit :=
  [⟨⟨.metadata, .plain, .v0, 1, by decide⟩, [0, 1, 155, 231, 206, 167, 249, 128, 101, 12], 2, by decide⟩,
    ⟨⟨.content, .wide, .v0, 1, by decide⟩, [39, 1, 0, 0, 0, 0, 0, 0, 0, 0], 2, by decide⟩,
    ⟨⟨.data, .plain, .v0, 1, by decide⟩, [48, 1, 117, 234, 248, 103, 67, 4, 3, 59], 2, by decide⟩,
    ⟨⟨.inst, .plain, .v0, 1, by decide⟩, [64, 1, 175, 19, 73, 185, 245, 249, 161, 166], 2, by decide⟩]

theorem decode_inheritingUnits :
    ["AAAZXZ6OU74YAZIM", "E4AQAAAAAAAAAAAA", "GAAXL2XYM5BQIAZ3", "IAA26E2JXH27TING"].mapM Code.decode =
      .ok inheritingUnits := by
  decide +kernel

theorem assemble_inheritingUnits :
    assemble ["AAAZXZ6OU74YAZIM", "E4AQAAAAAAAAAAAA", "GAAXL2XYM5BQIAZ3", "IAA26E2JXH27TING"] false =
      .ok "ISCC:K4CZXZ6OU74YAZIMAAAAAAAAAAAAA5PK7BTUGBADHOXRGSNZ6X42DJQ" := by
  have horder : inOrder inheritingUnits = inheritingUnits := inOrder_eq_self (by decide)
  simp only [assemble, decode_inheritingUnits, ofUnits, bind, Except.bind, horder]
  decide +kernel

/-- A code that is wide unasked, has flags, and cannot be taken apart. -/
theorem exists_assembled_not_wellFormed : ∃ c,
    assemble ["AAAZXZ6OU74YAZIM", "E4AQAAAAAAAAAAAA", "GAAXL2XYM5BQIAZ3", "IAA26E2JXH27TING"] false =
      .ok c ∧ (Code.decode c).map CodeUnit.subtype = .ok .wide ∧
    decompose c = .error (.wideWithFlags 5) ∧ ¬ WellFormed inheritingUnits false c := by
  have herror : decompose "ISCC:K4CZXZ6OU74YAZIMAAAAAAAAAAAAA5PK7BTUGBADHOXRGSNZ6X42DJQ" =
      .error (.wideWithFlags 5) := by
    decide +kernel
  refine ⟨_, assemble_inheritingUnits, by decide +kernel, herror, ?_⟩
  intro hwell
  obtain ⟨parts, hparts⟩ := hwell.decomposes
  rw [herror] at hparts
  cases hparts

end Composite

end ContentCode
