import ContentCode.Generator.Text
import ContentCode.Hash.Blake3
import ContentCode.Json.Parser
import ContentCode.Similarity.SimHash

/-!
Meta codes, from a name and, if there is one, a description or a metadata document. Names and
descriptions are hashed by runs of three characters, documents by runs of four bytes.
-/

namespace ContentCode

/-- A meta code, the name and description in their normal form, the document as a data URL, and the
hash of what was taken into account word for word. -/
structure MetaCode where
  iscc : String
  name : String
  description : Option String
  document : Option String
  metahash : String
  deriving DecidableEq, Repr

namespace MetaCode

def maxName : Nat := 128

def maxDescription : Nat := 4096

def normalName (name : String) : String := Text.truncate (Text.joinWords (Text.clean name)) maxName

def normalDescription (description : String) : String :=
  Text.truncate (Text.clean description) maxDescription

structure Document where
  bytes : List UInt8
  url : String
  deriving DecidableEq, Repr

def linkedMediaType : String := "application/ld+json"

def plainMediaType : String := "application/json"

def Document.ofJson (v : Json.Value) : Document :=
  let bytes := Text.utf8 (.ofList v.write)
  let mediaType := if v.hasKey "@context".toList then linkedMediaType else plainMediaType
  ⟨bytes, "data:" ++ mediaType ++ ";base64," ++ Base64.encode bytes⟩

/-- The document of a data URL; an empty one counts as none. -/
def Document.ofUrl? (url : String) : Except Error (Option Document) :=
  match url.toList.dropWhile (· ≠ ',') with
  | [] => .error .dataUrlComma
  | _ :: encoded =>
    match Base64.decode (.ofList encoded) with
    | none => .error .dataUrlBase64
    | some [] => .ok none
    | some bytes => .ok (some ⟨bytes, url⟩)

def Document.read? (text : String) : Except Error (Option Document) :=
  if "data:".toList.isPrefixOf text.toList then ofUrl? text
  else match Json.read? text.toList with
    | some v => .ok (some (ofJson v))
    | none => .error .json

def textHash (text : String) : Except Error (List UInt8) := do
  let windows ← Windows.ofText 3 (Text.collapse text)
  SimHash.simhash (windows.map fun w => Hash.Blake3.hash (Text.utf8 w))

def bytesHash (bytes : List UInt8) : Except Error (List UInt8) := do
  SimHash.simhash ((← Windows.windows 4 bytes).map Hash.Blake3.hash)

/-- Four bytes of the one and four bytes of the other digest in turn, four times. -/
def interleave (a b : List UInt8) : List UInt8 :=
  (List.range 4).flatMap fun i => (a.drop (4 * i)).take 4 ++ (b.drop (4 * i)).take 4

def digest (name description : String) (document : Option Document) :
    Except Error (List UInt8) := do
  let a ← textHash name
  match document with
  | some d => return interleave a (← bytesHash d.bytes)
  | none => if description.isEmpty then return a else return interleave a (← textHash description)

/-- The bytes behind the hash in a meta code: the document, or else name and description. -/
def subject (name description : String) : (document : Option Document) → List UInt8
  | some d => d.bytes
  | none => Text.utf8 (.ofList (Unicode.trim (name ++ " " ++ description).toList))

def generate (name : String) (description document : Option String) (bits : Nat) :
    Except Error MetaCode := do
  Code.checkBits bits
  let name := normalName name
  if name.isEmpty then throw .emptyName
  let description := normalDescription (description.getD "")
  let document ← match document with
    | none => pure none
    | some text => Document.read? text
  let iscc ← Code.generate .metadata .plain bits (← digest name description document)
  return {
    iscc
    name
    description := if description.isEmpty then none else some description
    document := document.map Document.url
    metahash := Hash.Blake3.multihash (Hash.Blake3.hash (subject name description document)) }

end MetaCode

end ContentCode
