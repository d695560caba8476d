import ContentCode.Conformance
import ContentCode.Generator.Mixed
import ContentCode.Generator.Video
import ContentCode.Stream.Sum

/-!
What the generators give out, as JSON. The entries keep the order of their fields, and a field
without a value is left out.
-/

namespace ContentCode.Report

open Json

def text (s : String) : Value := .string s.toList

def number (n : Nat) : Value := .number (.integer n)

def texts (l : List String) : Value := .array (l.map text)

def entry (k : String) (v : Value) : List Char × Value := (k.toList, v)

def optionalEntry (k : String) (s : Option String) : List (List Char × Value) :=
  s.toList.map fun s => entry k (text s)

def ofIscc (iscc : String) : Value := .object [entry "iscc" (text iscc)]

def ofMeta (c : MetaCode) : Value :=
  .object (entry "iscc" (text c.iscc) :: entry "name" (text c.name) ::
    optionalEntry "description" c.description ++ optionalEntry "meta" c.document ++
    [entry "metahash" (text c.metahash)])

def ofText (c : TextCode) : Value :=
  .object [entry "iscc" (text c.iscc), entry "characters" (number c.characters)]

def ofMixed (c : MixedCode) : Value :=
  .object [entry "iscc" (text c.iscc), entry "parts" (texts c.parts)]

def ofInstance (c : InstanceCode) : Value :=
  .object [entry "iscc" (text c.iscc), entry "datahash" (text c.datahash),
    entry "filesize" (number c.filesize)]

def ofSum (c : SumCode) : Value :=
  .object [entry "iscc" (text c.iscc), entry "datahash" (text c.datahash),
    entry "filesize" (number c.filesize), entry "units" (texts c.units)]

def ofUnit (u : CodeUnit) : Value :=
  .object [entry "maintype" (text u.maintype.name), entry "subtype" (text u.subtype.name),
    entry "version" (text u.version.name), entry "length" (number u.header.length),
    entry "bits" (number u.bits), entry "digest" (text (Hex.encode u.digest)),
    entry "digest_base64" (text (Base64.encodeUrl u.digest))]

def ofChunk (offset : Nat) (chunk : List UInt8) : Value :=
  let hash := (Hash.XxHash32.hash chunk).toNat
  .object [entry "offset" (number offset), entry "size" (number chunk.length),
    entry "xxh32" (text (Hex.encode (Bits.toBytes (Bits.ofNat 32 hash))))]

def ofChunksFrom (offset : Nat) : List (List UInt8) → List Value
  | [] => []
  | c :: chunks => ofChunk offset c :: ofChunksFrom (offset + c.length) chunks

def ofChunks (chunks : List (List UInt8)) : Value := .array (ofChunksFrom 0 chunks)

def ofFailure (f : Conformance.Failure) : Value :=
  .object [entry "case" (text f.name), entry "expected" (text f.expected),
    entry "actual" (text f.actual)]

def ofConformance (r : Conformance.Report) : Value :=
  .object [entry "passed" (number r.passed),
    entry "failures" (.array (r.failures.map ofFailure))]

end ContentCode.Report
