import ContentCode.HeaderField

/-!
Everything that can go wrong in the library, as causes. `Error.message` is the one place where
they are put into words.
-/

namespace ContentCode

/-- Why a text is not the base32 form of any bytes. Positions count bytes of the text. -/
inductive Base32Error where
  | length (position : Nat)
  | symbol (position : Nat)
  | trailingBits (position : Nat)
  deriving DecidableEq, Repr

def Base32Error.message : Base32Error → String
  | length p => s!"invalid length at {p}"
  | symbol p => s!"invalid symbol at {p}"
  | trailingBits p => s!"non-zero trailing bits at {p}"

inductive HasherRequest where
  | update
  | finalize
  deriving DecidableEq, Repr

def HasherRequest.name : HasherRequest → String
  | update => "update"
  | finalize => "finalize"

inductive Error where
  | unknownMainType (value : Nat)
  | unknownSubType (value : Nat)
  | unknownVersion (value : Nat)
  | unsupportedBits (bits : Nat)
  | truncatedHeader
  | varnibbleMark
  | nonzeroPadding
  | varnibbleTooLarge (value : Nat)
  | unitFlags (flags : Nat)
  | idFromBits (bits : Nat)
  | bitLength (maintype : MainType) (bits : Nat)
  | idLength (length : Nat)
  | unitLength (maintype : MainType) (length : Nat)
  | notComposable (maintype : MainType)
  | digestLength (expected actual : Nat)
  | trailingBytes (count : Nat)
  | digestTooShort (bits expected actual : Nat)
  | truncatedDigest (expected actual : Nat)
  | base32 (cause : Base32Error)
  | compositeFromDigest
  | idFromDigest
  | notComposite (maintype : MainType)
  | wideWithFlags (flags : Nat)
  | truncatedBody (expected actual : Nat)
  | unequalDigests (expected actual index : Nat)
  | narrowWindow (width : Nat)
  | averageSize (size : Nat)
  | emptyName
  | dataUrlComma
  | dataUrlBase64
  | json
  | pixelCount (count : Nat)
  | transformLength (length : Nat)
  | noFrames
  | frameTooShort (length : Nat)
  | frameLength (index length expected : Nat)
  | fewContentCodes (count : Nat)
  | notContent (maintype : MainType)
  | fewUnits (count : Nat)
  | shortUnit (maintype : MainType) (bits : Nat)
  | duplicateUnit (maintype : MainType)
  | mandatoryUnits
  | mixedSubTypes (first second : SubType)
  | emptyBuffer
  | finalized (request : HasherRequest)
  | io (text : String)
  deriving DecidableEq, Repr

namespace Error

inductive Kind where
  | invalidArgument
  | invalidState
  | io
  deriving DecidableEq, Repr

def kind : Error → Kind
  | finalized _ => .invalidState
  | io _ => .io
  | _ => .invalidArgument

def Kind.title : Kind → String
  | invalidArgument => "Invalid argument"
  | invalidState => "Invalid state"
  | io => "IO error"

def text : Error → String
  | unknownMainType v => s!"Invalid MainType: {v}"
  | unknownSubType v => s!"Invalid SubType: {v}"
  | unknownVersion v => s!"Invalid Version: {v}"
  | unsupportedBits b => s!"bits must be one of [32, 64, 96, 128, 160, 192, 224, 256], got {b}"
  | truncatedHeader => "Truncated ISCC header"
  | varnibbleMark => "Invalid varnibble prefix in ISCC header"
  | nonzeroPadding => "Non-zero padding in ISCC header"
  | varnibbleTooLarge v => s!"Varnibble value out of range (0-4679): {v}"
  | unitFlags f => s!"Invalid composite unit flags: {f}"
  | idFromBits b => s!"ISCC-IDs cannot be encoded from a bit length ({b})"
  | bitLength t b =>
    s!"Invalid bit length for {t.name}: {b} (must be a multiple of 32 in 32-256)"
  | idLength l => s!"Invalid ISCC-ID length index: {l}"
  | unitLength t l => s!"Invalid length index for {t.name}: {l}"
  | notComposable t => s!"{t.name} cannot be part of an ISCC-CODE"
  | digestLength e a => s!"Digest length mismatch: expected {e} bytes, got {a}"
  | trailingBytes n => s!"Digest length mismatch: {n} trailing bytes"
  | digestTooShort b e a =>
    s!"Digest too short for {b} bits: expected at least {e} bytes, got {a}"
  | truncatedDigest e a => s!"Truncated digest: expected {e} bytes, got {a}"
  | base32 c => s!"Invalid base32: {c.message}"
  | compositeFromDigest => "Composite ISCC-CODEs must be assembled from their units"
  | idFromDigest => "ISCC-IDs cannot be encoded as content units"
  | notComposite t => s!"Expected a composite ISCC-CODE, got {t.name}"
  | wideWithFlags f => s!"Wide ISCC-CODE must not carry unit flags, got {f}"
  | truncatedBody e a => s!"Truncated ISCC-CODE body: expected {e} bytes, got {a}"
  | unequalDigests e a i =>
    s!"All digests must have equal length: expected {e} bytes, got {a} at index {i}"
  | narrowWindow w => s!"Sliding window width must be at least 2, got {w}"
  | averageSize n => s!"Average chunk size must be in 1..=268435456, got {n}"
  | emptyName => "Name is empty after normalization"
  | dataUrlComma => "Data URL is missing the ',' separator"
  | dataUrlBase64 => "Invalid base64 in data URL"
  | json => "Invalid JSON metadata"
  | pixelCount n => s!"Expected 1024 pixels, got {n}"
  | transformLength n => s!"DCT input length must be a power of two, got {n}"
  | noFrames => "At least one frame signature is required"
  | frameTooShort w => s!"Frame signatures need at least 380 values, got {w}"
  | frameLength i n e => s!"Frame {i} has {n} values, expected {e}"
  | fewContentCodes n => s!"At least 2 Content-Codes are required, got {n}"
  | notContent t => s!"Only Content-Codes can be mixed, got {t.name}"
  | fewUnits n => s!"At least 2 unit codes are required, got {n}"
  | shortUnit t b => s!"{t.name} unit has {b} bits, at least 64 are required"
  | duplicateUnit t => s!"Duplicate {t.name} unit"
  | mandatoryUnits => "Data-Code and Instance-Code are mandatory"
  | mixedSubTypes s t =>
    s!"Semantic and Content units must share a SubType, got {s.name} and {t.name}"
  | emptyBuffer => "buffer_size must be greater than zero"
  | finalized r => s!"Cannot {r.name}: hasher is already finalized"
  | io t => t

def message (e : Error) : String := e.kind.title ++ ": " ++ e.text

end Error

end ContentCode
