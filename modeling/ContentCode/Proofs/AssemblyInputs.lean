import ContentCode.Proofs.AssemblyDomain

/-!
What an assembled code depends on. The order of the codes and their spelling leave no trace; and the
narrow form takes from a unit its main type, its subtype and the first 64 bits, whatever follows them.
-/

namespace ContentCode

namespace CodeUnit

/-- What the narrow form takes from a unit. -/
def essence (u : CodeUnit) : MainType × SubType × List UInt8 := (u.maintype, u.subtype, u.digest.take 8)

/-- `v` is a unit that can stand in the place of `u` in the narrow form. -/
structure Replaces (v u : CodeUnit) : Prop where
  maintype : v.maintype = u.maintype
  subtype : v.subtype = u.subtype
  long : 64 ≤ v.bits
  digest : v.digest.take 8 = u.digest.take 8

theorem Replaces.refl {u : CodeUnit} (h : 64 ≤ u.bits) : u.Replaces u := ⟨rfl, rfl, h, rfl⟩

theorem Replaces.essence_eq {v u : CodeUnit} (h : v.Replaces u) : v.essence = u.essence := by
  rw [essence, essence, h.maintype, h.subtype, h.digest]

end CodeUnit

namespace Composite

variable {codes codes' : List String} {units units' : List CodeUnit} {wide : Bool} {u : CodeUnit}
  {c : String}

theorem assemble_of_perm (hperm : (codes'.map Code.decode).Perm (codes.map Code.decode))
    (h : assemble codes wide = .ok c) : assemble codes' wide = .ok c := by
  obtain ⟨hlen, units, u, hunits, hu, rfl⟩ := assemble_eq_ok.1 h
  obtain ⟨units', hunits', hperm'⟩ := exists_mapM_of_perm hperm hunits
  have hcount : codes'.length = codes.length := by simpa using hperm.length_eq
  rw [← inOrder_eq_of_perm hperm' hu.assemblable_of_inOrder.nodup] at hu
  exact assemble_eq_ok.2 ⟨by rwa [hcount], units', u, hunits', hu, rfl⟩

section essence

variable (h : units'.map CodeUnit.essence = units.map CodeUnit.essence)
include h

theorem map_essence_inOrder :
    (inOrder units').map CodeUnit.essence = (inOrder units).map CodeUnit.essence := by
  have hsort (us : List CodeUnit) : (inOrder us).map CodeUnit.essence =
      (us.map CodeUnit.essence).mergeSort fun a b => a.1.number ≤ b.1.number :=
    List.map_mergeSort fun _ _ _ _ => rfl
  rw [hsort, hsort, h]

theorem map_maintype_congr : units'.map CodeUnit.maintype = units.map CodeUnit.maintype := by
  have htypes (us : List CodeUnit) :
      us.map CodeUnit.maintype = (us.map CodeUnit.essence).map Prod.fst := by
    rw [List.map_map]
    rfl
  rw [htypes, htypes, h]

theorem subtype_congr : subtype units' false = subtype units false := by
  have hkinds (us : List CodeUnit) :
      (us.filter fun u => u.maintype = .semantic || u.maintype = .content).map CodeUnit.subtype =
        ((us.map CodeUnit.essence).filter fun a => a.1 = .semantic || a.1 = .content).map fun a => a.2.1 := by
    rw [List.filter_map, List.map_map]
    rfl
  have hcount : units'.length = units.length := by simpa using congrArg List.length h
  have hnarrow (us : List CodeUnit) : isWide us false = false := rfl
  simp only [subtype, hnarrow, hkinds, h, hcount]

theorem body_congr : body units' false = body units false := by
  have hbody (us : List CodeUnit) :
      body us false = (us.map CodeUnit.essence).flatMap fun a => a.2.2 := by
    rw [List.flatMap_map]
    rfl
  rw [hbody, hbody, h]

theorem Holds.congr (hu : Holds u units false) (hlong : ∀ v ∈ units', 64 ≤ v.bits) :
    Holds u units' false :=
  ⟨hu.canonical, hu.maintype, hu.version, (subtype_congr h).trans hu.subtype,
    (map_maintype_congr h).trans hu.types, hlong, hu.digest.trans (body_congr h).symm⟩

end essence

def Replaced (codes codes' : List String) : Prop :=
  List.Forall₂ (fun code code' => Code.decode code' = Code.decode code ∨
    ∃ u v, Code.decode code = .ok u ∧ Code.decode code' = .ok v ∧ v.Replaces u) codes codes'

theorem Replaced.exists_units (hcodes : Replaced codes codes') (hunits : codes.mapM Code.decode = .ok units)
    (hlong : ∀ u ∈ units, 64 ≤ u.bits) : ∃ units', codes'.mapM Code.decode = .ok units' ∧
      List.Forall₂ CodeUnit.Replaces units' units := by
  have hdecode : List.Forall₂ (fun u code => 64 ≤ u.bits ∧ Code.decode code = .ok u) units codes :=
    (List.forall₂_and_left _ _).2 ⟨hlong, (mapM_eq_ok.1 hunits).flip⟩
  have hreplaces : List.Forall₂ (fun u code' => ∃ v, CodeUnit.Replaces v u ∧ Code.decode code' = .ok v)
      units codes' := by
    refine (forall₂_comp.2 ⟨codes, hdecode, hcodes⟩).imp ?_
    rintro u code' ⟨code, ⟨hlen, hu⟩, hsame | ⟨u', v, hu', hv, hr⟩⟩
    · exact ⟨u, .refl hlen, hsame.trans hu⟩
    · rw [hu, Except.ok.injEq] at hu'
      subst hu'
      exact ⟨v, hr, hv⟩
  obtain ⟨units', hr, hunits'⟩ := forall₂_comp.1 hreplaces
  exact ⟨units', mapM_eq_ok.2 hunits'.flip, hr.flip⟩

theorem assemble_of_replaced (hcodes : Replaced codes codes') (h : assemble codes false = .ok c) :
    assemble codes' false = .ok c := by
  obtain ⟨hlen, units, u, hunits, hu, rfl⟩ := assemble_eq_ok.1 h
  obtain ⟨units', hunits', hreplaces⟩ := hcodes.exists_units hunits hu.assemblable_of_inOrder.long
  have hessence : units'.map CodeUnit.essence = units.map CodeUnit.essence :=
    map_eq_map.2 (hreplaces.imp fun _ _ => CodeUnit.Replaces.essence_eq)
  have hlong' : ∀ v ∈ inOrder units', 64 ≤ v.bits := by
    intro v hv
    rw [(inOrder_perm units').mem_iff] at hv
    exact ((List.forall₂_and_left _ _).1 (hreplaces.imp fun _ _ hr => ⟨hr.long, hr⟩)).1 v hv
  have hu' := hu.congr (map_essence_inOrder hessence) hlong'
  exact assemble_eq_ok.2 ⟨by rwa [← hcodes.length_eq], units', u, hunits', hu', rfl⟩

/-- Codes in another order or spelling are assembled to the same code; in the narrow form, so are units
that agree in what it takes from them. -/
theorem assemble_congr (codes codes' : List String) (c : String) :
    ((codes'.map Code.decode).Perm (codes.map Code.decode) →
      ∀ wide, assemble codes wide = .ok c ↔ assemble codes' wide = .ok c) ∧
    (Replaced codes codes' → assemble codes false = .ok c → assemble codes' false = .ok c) := by
  refine ⟨fun hperm wide => ⟨?_, ?_⟩, assemble_of_replaced⟩
  · exact assemble_of_perm hperm
  · exact assemble_of_perm hperm.symm

def unsortedCodes : List String :=
  ["GABQAAICAMCAKBQHBAEQUCYMBUHA6", "EAASKDNZNYGUUF5A", "IABRAEISCMKBKFQXDAMRUGY4DUPB6"]

def respelledCodes : List String :=
  [" iscc:eaas-kdnz-nygu-uf5a", "GABQAAICAMCAKBQHBAEQUCYMBUHA6", "IABRAEISCMKBKFQXDAMRUGY4DUPB6"]

/-- The same units, but for a data unit that goes on in another way after the first 64 bits. -/
def replacedCodes : List String :=
  ["GADQAAICAMCAKBQH77777777777777777777777777777777777777Y", "EAASKDNZNYGUUF5A",
    "IABRAEISCMKBKFQXDAMRUGY4DUPB6"]

theorem assemble_unsortedCodes : assemble unsortedCodes false =
    .ok "ISCC:KAASKDNZNYGUUF5AAAAQEAYEAUDAOEARCIJRIFIWC4" := by
  -- the text unit comes first
  have hswap : ([unsortedUnits[1], unsortedUnits[0], unsortedUnits[2]] : List CodeUnit).Perm unsortedUnits :=
    .swap _ _ _
  have horder : inOrder unsortedUnits = [unsortedUnits[1], unsortedUnits[0], unsortedUnits[2]] := by
    rw [← inOrder_eq_of_perm hswap assemblable_unsortedUnits.nodup]
    exact inOrder_eq_self (by decide)
  simp only [assemble, unsortedCodes, decode_unsortedUnits, ofUnits, bind, Except.bind, horder]
  decide +kernel

def longUnit : CodeUnit :=
  ⟨⟨.data, .plain, .v0, 7, by decide⟩,
    [48, 7] ++ (List.range 8).map UInt8.ofNat ++ List.replicate 24 255, 2, by decide⟩

theorem replaced_replacedCodes : Replaced unsortedCodes replacedCodes := by
  have hgiven : Code.decode "GABQAAICAMCAKBQHBAEQUCYMBUHA6" = .ok wideUnits[0] := by decide +kernel
  have hlong : Code.decode "GADQAAICAMCAKBQH77777777777777777777777777777777777777Y" = .ok longUnit := by
    decide +kernel
  have hreplaces : longUnit.Replaces wideUnits[0] := by constructor <;> decide
  exact .cons (.inr ⟨_, _, hgiven, hlong, hreplaces⟩) (.cons (.inl rfl) (.cons (.inl rfl) .nil))

theorem assemble_congr_unsortedCodes :
    (respelledCodes.map Code.decode).Perm (unsortedCodes.map Code.decode) ∧
    assemble respelledCodes false = .ok "ISCC:KAASKDNZNYGUUF5AAAAQEAYEAUDAOEARCIJRIFIWC4" ∧
    Replaced unsortedCodes replacedCodes ∧
    assemble replacedCodes false = .ok "ISCC:KAASKDNZNYGUUF5AAAAQEAYEAUDAOEARCIJRIFIWC4" := by
  have hperm : (respelledCodes.map Code.decode).Perm (unsortedCodes.map Code.decode) := by
    decide +kernel
  exact ⟨hperm, ((assemble_congr _ _ _).1 hperm false).1 assemble_unsortedCodes, replaced_replacedCodes,
    (assemble_congr _ _ _).2 replaced_replacedCodes assemble_unsortedCodes⟩

end Composite

end ContentCode
