import ContentCode.Code

/-!
Composite codes. Behind one header stand the first 64 bits of every unit, in the order of the main
types; or, in the wide form, 128 bits of a data and an instance unit.
-/

namespace ContentCode

namespace CodeUnit

theorem length_of_read {bytes rest : List UInt8} {u : CodeUnit} (h : read bytes = (.ok u, rest)) :
    rest.length < bytes.length := by
  simp only [read] at h
  split at h
  · simp at h
  · rename_i header reader _
    split at h
    · simp at h
    · simp only [Prod.mk.injEq, Except.ok.injEq] at h
      have := header.digestSize_pos
      rw [← h.2, List.length_drop]
      omega

/-- The units from the front of some bytes on, each with the bytes after it, until the bytes end or
one cannot be read. -/
def readAll (bytes : List UInt8) : List (Except Error CodeUnit × List UInt8) :=
  if bytes = [] then []
  else match h : read bytes with
    | (.error e, rest) => [(.error e, rest)]
    | (.ok u, rest) =>
      have := length_of_read h
      (.ok u, rest) :: readAll rest
termination_by bytes.length

/-- Optional units in the order in which they stand in a body of 64 bits each. -/
def optionalParts (s : SubType) (v : Version) :
    List MainType → List UInt8 → Except Error (List CodeUnit)
  | [], _ => .ok []
  | t :: types, body => do
    let u ← ofDigest t (if t = .metadata then .plain else s) v 64 (body.take 8)
    return u :: (← optionalParts s v types (body.drop 8))

def parts (u : CodeUnit) : Except Error (List CodeUnit) := do
  let body := u.digest
  let part t bits digest := ofDigest t .plain u.version bits digest
  if u.subtype = .wide then
    if u.header.length ≠ 0 then throw (.wideWithFlags u.header.length)
    return [← part .data 128 (body.take 16), ← part .inst 128 ((body.drop 16).take 16)]
  let types ← MainType.ofFlags u.header.length
  let size := 8 * (types.length + 2)
  if body.length < size then throw (.truncatedBody size body.length)
  let optional ← optionalParts u.subtype u.version types body
  let mandatory := body.drop (body.length - 16)
  return optional ++ [← part .data 64 (mandatory.take 8), ← part .inst 64 (mandatory.drop 8)]

end CodeUnit

namespace Composite

def decompose (code : String) : Except Error (List String) := do
  let u ← Code.decode code
  if u.maintype ≠ .iscc then throw (.notComposite u.maintype)
  return (← u.parts).map CodeUnit.toCode

/-- The codes of the units that stand one after the other in a text, where composite codes are
replaced by their units. -/
def split (code : String) : Except Error (List String) := do
  let bytes ← Code.toBytes code
  let units ← (CodeUnit.readAll bytes).mapM fun (result, _) => do
    let u ← result
    if u.maintype = .iscc then u.parts else return [u]
  return units.flatten.map CodeUnit.toCode

def checkUnit (u : CodeUnit) : Except Error Unit := do
  if !u.maintype.isComposable then throw (.notComposable u.maintype)
  if u.bits < 64 then throw (.shortUnit u.maintype u.bits)

def inOrder (units : List CodeUnit) : List CodeUnit :=
  units.mergeSort fun u v => u.maintype.number ≤ v.maintype.number

def repeated? : List MainType → Option MainType
  | s :: t :: types => if s = t then some s else repeated? (t :: types)
  | _ => none

def checkTypes (types : List MainType) : Except Error Unit :=
  match repeated? types with
  | some t => .error (.duplicateUnit t)
  | none =>
    if types.drop (types.length - 2) = [.data, .inst] then .ok () else .error .mandatoryUnits

def isWide (units : List CodeUnit) (wide : Bool) : Bool :=
  wide && units.length = 2 && units.all fun u => 128 ≤ u.bits

/-- The subtype of a composite code. The narrow form takes it from its semantic and content units,
or from the lack of them. -/
def subtype (units : List CodeUnit) (wide : Bool) : Except Error SubType :=
  if isWide units wide then .ok .wide
  else
    let kinds := (units.filter fun u => u.maintype = .semantic || u.maintype = .content).map
      CodeUnit.subtype
    match kinds with
    | [] => .ok (if units.length = 2 then .sum else .isccNone)
    | s :: rest =>
      match rest.find? (· ≠ s) with
      | some t => .error (.mixedSubTypes s t)
      | none => .ok s

def body (units : List CodeUnit) (wide : Bool) : List UInt8 :=
  units.flatMap fun u => u.digest.take (if isWide units wide then 16 else 8)

def ofUnits (units : List CodeUnit) (wide : Bool) : Except Error CodeUnit := do
  units.forM checkUnit
  let units := inOrder units
  let types := units.map CodeUnit.maintype
  checkTypes types
  let s ← subtype units wide
  let flags ← MainType.flagsOf types
  CodeUnit.ofHeader (← Header.ofLength .iscc s .v0 flags) (body units wide)

def assemble (codes : List String) (wide : Bool) : Except Error String := do
  if codes.length < 2 then throw (.fewUnits codes.length)
  let units ← codes.mapM Code.decode
  return Code.withScheme (← ofUnits units wide).toCode

end Composite

end ContentCode
