/-!
The three enumerated fields of a header: what a code describes (`MainType`), of which kind the
described content is (`SubType`), and by which generation of the algorithms (`Version`).
-/

namespace ContentCode

inductive MainType where
  | metadata
  | semantic
  | content
  | data
  | inst
  | iscc
  | id
  | flake
  deriving DecidableEq, Repr

/-- The kind of content. `plain` is no kind of its own, or text beside `content` and `semantic`;
`sum`, `isccNone` and `wide` are kinds of composite codes only. -/
inductive SubType where
  | plain
  | image
  | audio
  | video
  | mixed
  | sum
  | isccNone
  | wide
  deriving DecidableEq, Repr

inductive Version where
  | v0
  deriving DecidableEq, Repr

namespace MainType

/-- All main types, each at the index of its number. -/
def all : List MainType := [metadata, semantic, content, data, inst, iscc, id, flake]

def number : MainType → Nat
  | metadata => 0
  | semantic => 1
  | content => 2
  | data => 3
  | inst => 4
  | iscc => 5
  | id => 6
  | flake => 7

def name : MainType → String
  | metadata => "Meta"
  | semantic => "Semantic"
  | content => "Content"
  | data => "Data"
  | inst => "Instance"
  | iscc => "Iscc"
  | id => "Id"
  | flake => "Flake"

def isComposable : MainType → Bool
  | metadata | semantic | content | data | inst => true
  | iscc | id | flake => false

theorem getElem?_all (t : MainType) : all[t.number]? = some t := by cases t <;> rfl

theorem number_lt (t : MainType) : t.number < 8 := by cases t <;> decide

theorem number_inj {s t : MainType} (h : s.number = t.number) : s = t := by
  have := getElem?_all s
  rw [h, getElem?_all] at this
  exact (Option.some.inj this).symm

end MainType

namespace SubType

def all : List SubType := [plain, image, audio, video, mixed, sum, isccNone, wide]

def number : SubType → Nat
  | plain => 0
  | image => 1
  | audio => 2
  | video => 3
  | mixed => 4
  | sum => 5
  | isccNone => 6
  | wide => 7

def name : SubType → String
  | plain => "None"
  | image => "Image"
  | audio => "Audio"
  | video => "Video"
  | mixed => "Mixed"
  | sum => "Sum"
  | isccNone => "IsccNone"
  | wide => "Wide"

theorem getElem?_all (t : SubType) : all[t.number]? = some t := by cases t <;> rfl

theorem number_lt (t : SubType) : t.number < 8 := by cases t <;> decide

theorem number_inj {s t : SubType} (h : s.number = t.number) : s = t := by
  have := getElem?_all s
  rw [h, getElem?_all] at this
  exact (Option.some.inj this).symm

end SubType

namespace Version

def all : List Version := [v0]

def number : Version → Nat
  | v0 => 0

def name : Version → String
  | v0 => "V0"

end Version

end ContentCode
