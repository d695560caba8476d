import ContentCode.Proofs.Assembly
import ContentCode.Proofs.InputErrors

/-!
Which codes can be assembled. The checks of the assembler look at units that are in order, at the last
two of them and at neighbours; together they say what a composite code may be made of in any order.
-/

namespace ContentCode

namespace Composite

variable {codes : List String} {units : List CodeUnit} {wide : Bool} {s : SubType} {flags : Nat}

/-- Units of which a composite code can be made. -/
structure Assemblable (units : List CodeUnit) : Prop where
  types : ∀ u ∈ units, u.maintype ∈ [.metadata, .semantic, .content, .data, .inst]
  long : ∀ u ∈ units, 64 ≤ u.bits
  nodup : (units.map CodeUnit.maintype).Nodup
  data : ∃ u ∈ units, u.maintype = .data
  inst : ∃ u ∈ units, u.maintype = .inst
  subtypes : ∀ u ∈ units, u.maintype = .semantic → ∀ v ∈ units, v.maintype = .content →
    u.subtype = v.subtype

theorem Assemblable.of_perm {units' : List CodeUnit} (h : Assemblable units) (hperm : units'.Perm units) :
    Assemblable units' := by
  obtain ⟨htypes, hlong, hnodup, hdata, hinst, hsubtypes⟩ := h
  simp only [← hperm.mem_iff] at htypes hlong hdata hinst hsubtypes
  exact ⟨htypes, hlong, (hperm.map _).nodup_iff.2 hnodup, hdata, hinst, hsubtypes⟩

theorem exists_flags : ∀ types ∈ [MainType.metadata, .semantic, .content, .data, .inst].sublists,
    .data ∈ types → .inst ∈ types → ∃ flags < 8, types = MainType.optional flags ++ [.data, .inst] := by
  decide

theorem isComposable_iff {t : MainType} :
    t.isComposable = true ↔ t ∈ [.metadata, .semantic, .content, .data, .inst] := by
  cases t <;> decide

theorem Assemblable.exists_flags (h : Assemblable units)
    (hsorted : (units.map CodeUnit.maintype).Pairwise fun s t => s.number ≤ t.number) :
    ∃ flags < 8, units.map CodeUnit.maintype = MainType.optional flags ++ [.data, .inst] := by
  have hascending : MainType.Ascending (units.map CodeUnit.maintype) := by
    refine (hsorted.and h.nodup).imp fun hle => ?_
    exact lt_of_le_of_ne hle.1 fun heq => hle.2 (MainType.number_inj heq)
  have hsub := MainType.sublist_of_ascending hascending (by
    intro t ht
    obtain ⟨u, hu, rfl⟩ := List.mem_map.1 ht
    exact isComposable_iff.2 (h.types u hu))
  exact Composite.exists_flags _ (List.mem_sublists.2 hsub) (List.mem_map.2 h.data) (List.mem_map.2 h.inst)

theorem Assemblable.exists_subtype (wide : Bool) (h : Assemblable units) (hno : ¬ WideInherited units) :
    ∃ s, subtype units wide = .ok s ∧ (s = .wide ↔ isWide units wide = true) := by
  cases hw : isWide units wide with
  | true => exact ⟨.wide, if_pos hw, iff_of_true rfl rfl⟩
  | false =>
      simp only [subtype_eq_ok hw, Bool.false_eq_true, iff_false]
      by_cases hkind : ∃ u ∈ units, u.maintype = .semantic ∨ u.maintype = .content
      · obtain ⟨u, hu, hut⟩ := hkind
        refine ⟨u.subtype, ⟨fun v hv hvt => ?_, fun hnone => absurd hut (hnone u hu)⟩,
          fun hs => hno ⟨u, hu, hut, hs⟩⟩
        -- two units of one main type are the same unit
        have hsame (hteq : u.maintype = v.maintype) : v.subtype = u.subtype := by
          rw [List.inj_on_of_nodup_map h.nodup hu hv hteq]
        rcases hut with hut | hut <;> rcases hvt with hvt | hvt
        · exact hsame (hut.trans hvt.symm)
        · exact (h.subtypes u hu hut v hv hvt).symm
        · exact h.subtypes v hv hvt u hu hut
        · exact hsame (hut.trans hvt.symm)
      · refine ⟨if units.length = 2 then .sum else .isccNone, ⟨fun v hv hvt => absurd ⟨v, hv, hvt⟩ hkind,
          fun _ => rfl⟩, ?_⟩
        split <;> simp

theorem length_body (hlong : ∀ u ∈ units, 64 ≤ u.bits) : (body units wide).length =
    (if isWide units wide then 16 else 8) * units.length := by
  rw [body]
  by_cases hw : isWide units wide = true
  · have hwide : ∀ u ∈ units, 128 ≤ u.bits := by
      simp only [isWide, Bool.and_eq_true, List.all_eq_true, decide_eq_true_eq] at hw
      exact hw.2
    rw [if_pos hw]
    exact CodeUnit.length_flatMap_take hwide
  · rw [if_neg hw]
    exact CodeUnit.length_flatMap_take hlong

theorem exists_holds (hflags : flags < 8)
    (htypes : units.map CodeUnit.maintype = MainType.optional flags ++ [.data, .inst])
    (hlong : ∀ u ∈ units, 64 ≤ u.bits) (hs : subtype units wide = .ok s)
    (hwide : s = .wide ↔ isWide units wide = true) : ∃ u, Holds u units wide := by
  have hcount : units.length = (MainType.optional flags).length + 2 := by
    rw [← List.length_map CodeUnit.maintype, htypes, List.length_append]
    rfl
  have hsize : (body units wide).length =
      (⟨.iscc, s, .v0, flags, Nat.le_of_lt_succ hflags⟩ : Header).digestSize := by
    rw [length_body hlong, Header.digestSize, Header.digestBits]
    simp only [MainType.digestBits, hwide]
    by_cases hw : isWide units wide = true
    · have htwo : units.length = 2 := by
        simp only [isWide, Bool.and_eq_true, decide_eq_true_eq] at hw
        exact hw.1.2
      rw [if_pos hw, if_pos hw, htwo]
    · rw [if_neg hw, if_neg hw, hcount]
      omega
  obtain ⟨u, hu⟩ := CodeUnit.exists_ofHeader hsize
  obtain ⟨hcanonical, hheader, hdigest⟩ := CodeUnit.ofHeader_eq_ok.1 hu
  refine ⟨u, hcanonical, by rw [CodeUnit.maintype, hheader], rfl, ?_, ?_, hlong, hdigest⟩
  · rw [hs, CodeUnit.subtype, hheader]
  · rw [htypes, hheader]

theorem Holds.assemblable {u : CodeUnit} (h : Holds u units wide) : Assemblable units := by
  obtain ⟨hsub, hascending⟩ := MainType.optional_ascending _ u.header.length_lt
  have hmem {t : MainType} (ht : t ∈ [MainType.data, .inst]) : ∃ v ∈ units, v.maintype = t := by
    rw [← List.mem_map, h.types]
    exact List.mem_append_right _ ht
  refine ⟨fun v hv => ?_, h.long, ?_, hmem (by decide), hmem (by decide), fun v hv hvt w hw hwt => ?_⟩
  · apply hsub.subset
    rw [← h.types]
    exact List.mem_map_of_mem hv
  · rw [h.types]
    refine hascending.imp ?_
    rintro t _ hlt rfl
    exact Nat.lt_irrefl _ hlt
  · rw [h.subtype_of_kind hv (.inl hvt), h.subtype_of_kind hw (.inr hwt)]

theorem Holds.assemblable_of_inOrder {u : CodeUnit} (h : Holds u (inOrder units) wide) :
    Assemblable units :=
  h.assemblable.of_perm (inOrder_perm units).symm

theorem exists_holds_iff (hno : ¬ WideInherited units) :
    (∃ u, Holds u (inOrder units) wide) ↔ Assemblable units := by
  constructor
  · rintro ⟨u, hu⟩
    exact hu.assemblable_of_inOrder
  · intro h
    rw [← wideInherited_inOrder] at hno
    have hsorted := h.of_perm (inOrder_perm units)
    obtain ⟨flags, hflags, htypes⟩ := hsorted.exists_flags (inOrder_pairwise units)
    obtain ⟨s, hs, hwide⟩ := hsorted.exists_subtype wide hno
    exact exists_holds hflags htypes hsorted.long hs hwide

theorem exists_decode_iff (hunits : codes.mapM Code.decode = .ok units) (u : CodeUnit) :
    (∃ code ∈ codes, Code.decode code = .ok u) ↔ u ∈ units := by
  rw [← List.mem_map, mapM_eq_ok_iff_map.1 hunits]
  simp

/-- Where no semantic or content unit claims to be wide, exactly the codes of units of which a
composite code can be made are assembled; all others are refused for what they are. -/
theorem assemble_domain (codes : List String) (wide : Bool)
    (hno : ∀ code ∈ codes, ∀ u, Code.decode code = .ok u →
      ¬ ((u.maintype = .semantic ∨ u.maintype = .content) ∧ u.subtype = .wide)) :
    ((∃ c, assemble codes wide = .ok c) ↔ 2 ≤ codes.length ∧ ∃ units,
      List.Forall₂ (fun code u => Code.decode code = .ok u) codes units ∧ Assemblable units) ∧
    ∀ e, assemble codes wide = .error e → e.kind = .invalidArgument := by
  refine ⟨?_, failsOnInput_assemble codes wide⟩
  have hplain {units : List CodeUnit} (hunits : codes.mapM Code.decode = .ok units) :
      ¬ WideInherited units := by
    rintro ⟨u, hu, hwide⟩
    obtain ⟨code, hcode, hdecode⟩ := (exists_decode_iff hunits u).2 hu
    exact hno code hcode u hdecode hwide
  simp only [assemble_eq_ok, ← mapM_eq_ok]
  constructor
  · rintro ⟨c, hlen, units, u, hunits, hu, -⟩
    exact ⟨hlen, units, hunits, (exists_holds_iff (hplain hunits)).1 ⟨u, hu⟩⟩
  · rintro ⟨hlen, units, hunits, h⟩
    obtain ⟨u, hu⟩ := (exists_holds_iff (hplain hunits)).2 h
    exact ⟨_, hlen, units, u, hunits, hu, rfl⟩

theorem one_le_maxLength_content : 1 ≤ MainType.content.maxLength := by decide

def textHeader : Header := ⟨.content, .plain, .v0, 1, one_le_maxLength_content⟩

/-- The text unit of "Hello World". -/
def textBytes : List UInt8 := [32, 1, 37, 13, 185, 110, 13, 74, 23, 160]

theorem length_textBytes : textBytes.length = 2 + textHeader.digestSize := rfl

def unsortedUnits : List CodeUnit :=
  wideUnits.take 1 ++ ⟨textHeader, textBytes, 2, length_textBytes⟩ :: wideUnits.drop 1

theorem assemblable_unsortedUnits : Assemblable unsortedUnits := by
  constructor <;> decide

theorem decode_unsortedUnits : ["GABQAAICAMCAKBQHBAEQUCYMBUHA6", "EAASKDNZNYGUUF5A",
    "IABRAEISCMKBKFQXDAMRUGY4DUPB6"].mapM Code.decode = .ok unsortedUnits := by
  decide +kernel

theorem assemble_domain_unsortedUnits :
    (∀ code ∈ ["GABQAAICAMCAKBQHBAEQUCYMBUHA6", "EAASKDNZNYGUUF5A", "IABRAEISCMKBKFQXDAMRUGY4DUPB6"],
      ∀ u, Code.decode code = .ok u →
        ¬ ((u.maintype = .semantic ∨ u.maintype = .content) ∧ u.subtype = .wide)) ∧
    ∃ c, assemble ["GABQAAICAMCAKBQHBAEQUCYMBUHA6", "EAASKDNZNYGUUF5A",
      "IABRAEISCMKBKFQXDAMRUGY4DUPB6"] true = .ok c := by
  have hplain : ∀ code ∈ ["GABQAAICAMCAKBQHBAEQUCYMBUHA6", "EAASKDNZNYGUUF5A",
      "IABRAEISCMKBKFQXDAMRUGY4DUPB6"], ∀ u, Code.decode code = .ok u →
        ¬ ((u.maintype = .semantic ∨ u.maintype = .content) ∧ u.subtype = .wide) := by
    have hunits : ∀ u ∈ unsortedUnits,
        ¬ ((u.maintype = .semantic ∨ u.maintype = .content) ∧ u.subtype = .wide) := by decide
    intro code hcode u hu
    exact hunits u ((exists_decode_iff decode_unsortedUnits u).1 ⟨code, hcode, hu⟩)
  exact ⟨hplain, (assemble_domain _ true hplain).1.2
    ⟨by decide, unsortedUnits, mapM_eq_ok.1 decode_unsortedUnits, assemblable_unsortedUnits⟩⟩

end Composite

end ContentCode
