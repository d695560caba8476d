import ContentCode.Generator.Meta
import ContentCode.Proofs.CodeForm
import ContentCode.Proofs.DigestSize

/-!
What comes with meta codes. A code is made whenever the number of bits is one that there are codes of,
something is left of the name, and the document, if one is given, can be read.
-/

namespace ContentCode.MetaCode

variable {name : String} {description document : Option String} {bits : Nat} {r : MetaCode}

def readDocument : (document : Option String) → Except Error (Option Document)
  | none => .ok none
  | some text => Document.read? text

/-- What is given back for a name, a description, and a document that has been read. -/
def result (name : String) (description : Option String) (document : Option Document) (code : String) :
    MetaCode :=
  let description := normalDescription (description.getD "")
  { iscc := code
    name := normalName name
    description := if description.isEmpty then none else some description
    document := document.map Document.url
    metahash := Hash.Blake3.multihash (Hash.Blake3.hash (subject (normalName name) description document)) }

theorem generate_eq (hbits : bits ∈ Code.supportedBits) (hname : (normalName name).isEmpty = false) :
    generate name description document bits = (do
      let read ← readDocument document
      let d ← digest (normalName name) (normalDescription (description.getD "")) read
      let code ← Code.generate .metadata .plain bits d
      return result name description read code) := by
  cases document <;> simp only [generate, readDocument, result, Code.checkBits_of_mem hbits, hname, bind,
    Except.bind, pure, Except.pure, Bool.false_eq_true, if_false]

theorem generates_iff : generate name description document bits = .ok r ↔
    bits ∈ Code.supportedBits ∧ (normalName name).isEmpty = false ∧ ∃ read d code,
      readDocument document = .ok read ∧
      digest (normalName name) (normalDescription (description.getD "")) read = .ok d ∧
      Code.generate .metadata .plain bits d = .ok code ∧ result name description read code = r := by
  constructor
  · intro h
    have hbits : bits ∈ Code.supportedBits := by
      by_contra hno
      obtain ⟨⟨⟩, hcheck, -⟩ := bind_eq_ok.1 h
      cases (if_neg hno).symm.trans hcheck
    have hname : (normalName name).isEmpty = false := by
      by_contra hempty
      rw [Bool.not_eq_false] at hempty
      simp only [generate, Code.checkBits_of_mem hbits, hempty, if_true, throw_bind] at h
      cases h
    rw [generate_eq hbits hname] at h
    obtain ⟨read, hread, h⟩ := bind_eq_ok.1 h
    obtain ⟨d, hdigest, h⟩ := bind_eq_ok.1 h
    obtain ⟨code, hcode, h⟩ := bind_eq_ok.1 h
    exact ⟨hbits, hname, read, d, code, hread, hdigest, hcode, pure_eq_ok.1 h⟩
  · rintro ⟨hbits, hname, read, d, code, hread, hdigest, hcode, rfl⟩
    simp only [generate_eq hbits hname, hread, hdigest, hcode, bind, Except.bind, pure, Except.pure]

theorem exists_result {read : Option Document} (description : Option String)
    (hbits : bits ∈ Code.supportedBits) (hname : (normalName name).isEmpty = false)
    (hread : readDocument document = .ok read) : ∃ r, generate name description document bits = .ok r := by
  obtain ⟨d, hdigest, hsize⟩ :=
    exists_digest (normalName name) (normalDescription (description.getD "")) read
  obtain ⟨code, hcode⟩ := Code.exists_generate .plain (by decide : MainType.metadata ≠ .iscc) (by decide)
    hbits hsize
  exact ⟨_, generates_iff.2 ⟨hbits, hname, read, d, code, hread, hdigest, hcode, rfl⟩⟩

end ContentCode.MetaCode
