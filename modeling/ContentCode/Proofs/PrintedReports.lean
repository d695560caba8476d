import ContentCode.CommandLine.Run
import ContentCode.Proofs.Assembly
import ContentCode.Proofs.GeneratorDomain
import ContentCode.Proofs.PrintedValues

/-!
Codes in print. Neither the codes themselves nor their hashes have characters that need an escape, so their
texts are known to the letter; read as JSON they give the fields again.
-/

namespace ContentCode

namespace Json

/-- A text that is written as it is: without quotes, backslashes and control characters. -/
def IsPlain (s : List Char) : Prop := ∀ c ∈ s, writeChar c = [c]

theorem writeString_of_isPlain {s : List Char} (h : IsPlain s) : writeString s = '"' :: s ++ ['"'] := by
  have hwrite : s.flatMap writeChar = s := by
    induction s with
    | nil => rfl
    | cons c s ih =>
        obtain ⟨hc, hs⟩ := List.forall_mem_cons.1 h
        rw [List.flatMap_cons, hc, ih hs, List.singleton_append]
  rw [writeString, hwrite]

theorem write_natCast (n : Nat) : (Number.integer n).write = Decimal.digits n := by
  rw [Number.write, if_neg (Int.not_lt.2 (Int.natCast_nonneg n)), Int.natAbs_natCast]

theorem isPlain_of_all {s : List Char} (h : s.all (fun c => decide (writeChar c = [c])) = true) : IsPlain s := by
  simpa only [IsPlain, List.all_eq_true, decide_eq_true_eq] using h

theorem IsPlain.append {s t : List Char} (hs : IsPlain s) (ht : IsPlain t) : IsPlain (s ++ t) :=
  List.forall_mem_append.2 ⟨hs, ht⟩

theorem isPlain_encode {a : Alphabet} (h : IsPlain ('?' :: a.symbols)) (bytes : List UInt8) :
    IsPlain (a.encode bytes) := by
  obtain ⟨hunknown, hsymbols⟩ := List.forall_mem_cons.1 h
  refine List.forall_mem_map.2 fun v _ => ?_
  rw [List.getD_eq_getElem?_getD]
  cases hv : a.symbols[v]? with
  | none => exact hunknown
  | some c => exact hsymbols c (List.mem_of_getElem? hv)

theorem isPlain_withScheme (u : CodeUnit) : IsPlain (Code.withScheme u.toCode).toList := by
  have hcode : u.toCode.toList = Alphabet.base32.encode u.toBytes := String.toList_ofList
  rw [Code.withScheme, String.toList_append, hcode]
  exact (isPlain_of_all (by decide +kernel)).append (isPlain_encode (isPlain_of_all (by decide +kernel)) _)

theorem isPlain_multihash (digest : List UInt8) : IsPlain (Hash.Blake3.multihash digest).toList := by
  have hdigits : (Hex.encode digest).toList = Alphabet.hex.encode digest := String.toList_ofList
  rw [Hash.Blake3.multihash, String.toList_append, hdigits]
  exact (isPlain_of_all (by decide +kernel)).append (isPlain_encode (isPlain_of_all (by decide +kernel)) _)

end Json

theorem Code.IsFor.isPlain {t : MainType} {s : SubType} {bits : Nat} {code : String}
    (h : Code.IsFor t s bits code) : Json.IsPlain code.toList := by
  obtain ⟨u, rfl, -⟩ := h
  exact Json.isPlain_withScheme u

theorem DataCode.isPlain_iscc {bytes : List UInt8} {bits : Nat} {c : DataCode}
    (h : generate bytes bits = .ok c) : Json.IsPlain c.iscc.toList :=
  ((generates bytes).isFor bits c h).isPlain

theorem InstanceCode.isPlain_iscc {bytes : List UInt8} {bits : Nat} {c : InstanceCode}
    (h : generate bytes bits = .ok c) : Json.IsPlain c.iscc.toList :=
  ((generates bytes).isFor bits c h).isPlain

theorem InstanceCode.isPlain_datahash {bytes : List UInt8} {bits : Nat} {c : InstanceCode}
    (h : generate bytes bits = .ok c) : Json.IsPlain c.datahash.toList := by
  simp only [generate, ofHash, bind_eq_ok, pure_eq_ok] at h
  obtain ⟨_, -, rfl⟩ := h
  exact Json.isPlain_multihash _

theorem InstanceCode.filesize_of_generate {bytes : List UInt8} {bits : Nat} {c : InstanceCode}
    (h : generate bytes bits = .ok c) : c.filesize = bytes.length := by
  simp only [generate, ofHash, bind_eq_ok, pure_eq_ok] at h
  obtain ⟨_, -, rfl⟩ := h
  rfl

theorem Composite.isPlain_of_assemble {codes : List String} {wide : Bool} {code : String}
    (h : assemble codes wide = .ok code) : Json.IsPlain code.toList := by
  obtain ⟨-, _, u, -, -, rfl⟩ := assemble_eq_ok.1 h
  exact Json.isPlain_withScheme u

namespace CommandLine

open Json (IsPlain)

/-- A code by itself, as it is printed. -/
def isccText (iscc : String) : String := "\x7b\n  \"iscc\": \"" ++ iscc ++ "\"\n\x7d\n"

def decimal (n : Nat) : String := .ofList (Decimal.digits n)

theorem toList_decimal (n : Nat) : (decimal n).toList = Decimal.digits n := String.toList_ofList

def instanceText (c : InstanceCode) : String :=
  "\x7b\n  \"iscc\": \"" ++ c.iscc ++ "\",\n  \"datahash\": \"" ++ c.datahash ++ "\",\n  \"filesize\": " ++
    decimal c.filesize ++ "\n\x7d\n"

def sumText (iscc datahash : String) (filesize : Nat) (data inst : String) : String :=
  "\x7b\n  \"iscc\": \"" ++ iscc ++ "\",\n  \"datahash\": \"" ++ datahash ++ "\",\n  \"filesize\": " ++
    decimal filesize ++ ",\n  \"units\": [\n    \"" ++ data ++ "\",\n    \"" ++ inst ++
    "\"\n  ]\n\x7d\n"

theorem printJson_ofIscc {iscc : String} (h : IsPlain iscc.toList) : printJson (Report.ofIscc iscc) = isccText iscc := by
  rw [← String.toList_inj]
  unfold isccText
  simp only [printJson, Report.ofIscc, Report.entry, Report.text, Json.Value.pretty, Json.prettyEntries,
    Json.writeString_of_isPlain h, String.toList_append, String.toList_ofList, List.append_assoc, List.cons_append]
  rfl

theorem printJson_ofInstance {c : InstanceCode} (hiscc : IsPlain c.iscc.toList) (hhash : IsPlain c.datahash.toList) :
    printJson (Report.ofInstance c) = instanceText c := by
  rw [← String.toList_inj]
  unfold instanceText
  simp only [printJson, Report.ofInstance, Report.entry, Report.text, Report.number, Json.Value.pretty,
    Json.prettyEntries, Json.writeString_of_isPlain hiscc, Json.writeString_of_isPlain hhash, Json.write_natCast,
    String.toList_append, String.toList_ofList, toList_decimal, List.append_assoc, List.cons_append]
  rfl

theorem printJson_ofSum (filesize : Nat) {iscc datahash data inst : String} (hiscc : IsPlain iscc.toList)
    (hhash : IsPlain datahash.toList) (hdata : IsPlain data.toList) (hinst : IsPlain inst.toList) :
    printJson (Report.ofSum ⟨iscc, datahash, filesize, [data, inst]⟩) = sumText iscc datahash filesize data inst := by
  rw [← String.toList_inj]
  unfold sumText
  simp only [printJson, Report.ofSum, Report.entry, Report.text, Report.texts, Report.number, Json.Value.pretty,
    Json.prettyEntries, Json.prettyItems, List.map_cons, List.map_nil, Json.writeString_of_isPlain hiscc,
    Json.writeString_of_isPlain hhash, Json.writeString_of_isPlain hdata, Json.writeString_of_isPlain hinst,
    Json.write_natCast, String.toList_append, String.toList_ofList, toList_decimal, List.append_assoc, List.cons_append]
  rfl

theorem read?_printJson {v : Json.Value} (h : v.Fits Json.maxDepth) :
    Json.read? (printJson v).toList = some v.sorted := by
  rw [printJson, String.toList_ofList, Json.read?_pretty h]

end CommandLine

namespace Report

open Json
open CommandLine (printJson printJson_ofIscc printJson_ofInstance printJson_ofSum isccText instanceText sumText
  read?_printJson)

theorem fits_text {n : Nat} (s : String) : (text s).Fits n := .string _

theorem fits_number {n m : Nat} (h : m < 2 ^ 64) : (number m).Fits n := .integer ⟨by omega, by omega⟩

theorem fits_texts {n : Nat} (l : List String) : (texts l).Fits (n + 1) :=
  .array (List.forall_mem_map.2 fun s _ => fits_text s)

theorem sorted_texts (l : List String) : (texts l).sorted = texts l := by
  rw [texts, Value.sorted, sortedItems_eq_self (List.forall_mem_map.2 fun s _ => by rw [text, Value.sorted])]

theorem read?_ofIscc (iscc : String) : read? (printJson (ofIscc iscc)).toList = some (ofIscc iscc) := by
  have hfits : (ofIscc iscc).Fits maxDepth := .object (n := 126) (by simp [entry, fits_text])
  exact read?_printJson hfits

theorem read?_ofInstance {c : InstanceCode} (h : c.filesize < 2 ^ 64) :
    read? (printJson (ofInstance c)).toList = some (.object
      [entry "datahash" (text c.datahash), entry "filesize" (number c.filesize), entry "iscc" (text c.iscc)]) := by
  have hfits : (ofInstance c).Fits maxDepth := .object (n := 126) (by simp [entry, fits_text, fits_number h])
  exact read?_printJson hfits

theorem read?_ofSum {c : SumCode} (h : c.filesize < 2 ^ 64) :
    read? (printJson (ofSum c)).toList = some (.object
      [entry "datahash" (text c.datahash), entry "filesize" (number c.filesize), entry "iscc" (text c.iscc),
        entry "units" (texts c.units)]) := by
  have hfits : (ofSum c).Fits maxDepth :=
    .object (n := 126) (by simp [entry, fits_text, fits_number h, fits_texts (n := 125)])
  rw [read?_printJson hfits, ← sorted_texts c.units]
  rfl

section texts

variable {iscc datahash data inst : String} {filesize : Nat} {c : InstanceCode}

theorem read?_isccText (h : IsPlain iscc.toList) : read? (isccText iscc).toList = some (ofIscc iscc) := by
  rw [← printJson_ofIscc h]
  exact read?_ofIscc iscc

theorem read?_instanceText (hiscc : IsPlain c.iscc.toList) (hhash : IsPlain c.datahash.toList)
    (h : c.filesize < 2 ^ 64) : read? (instanceText c).toList = some (.object
      [entry "datahash" (text c.datahash), entry "filesize" (number c.filesize), entry "iscc" (text c.iscc)]) := by
  rw [← printJson_ofInstance hiscc hhash]
  exact read?_ofInstance h

theorem read?_sumText (hiscc : IsPlain iscc.toList) (hhash : IsPlain datahash.toList) (hdata : IsPlain data.toList)
    (hinst : IsPlain inst.toList) (h : filesize < 2 ^ 64) :
    read? (sumText iscc datahash filesize data inst).toList = some (.object
      [entry "datahash" (text datahash), entry "filesize" (number filesize), entry "iscc" (text iscc),
        entry "units" (texts [data, inst])]) := by
  rw [← printJson_ofSum filesize hiscc hhash hdata hinst]
  exact read?_ofSum (c := ⟨iscc, datahash, filesize, [data, inst]⟩) h

end texts

end Report

end ContentCode
