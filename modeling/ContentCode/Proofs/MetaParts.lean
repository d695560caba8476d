import ContentCode.Proofs.CodeCanonical
import ContentCode.Proofs.MetaResult

/-!
The parts of a meta code. The name makes every other slice of four bytes of a digest, beginning with the
first one, and what comes with the name makes the others, so that neither part shows in the slices of the
other one. A document takes the place of the description altogether.
-/

namespace ContentCode.MetaCode

variable {a b d : List UInt8} {i : Nat}

def slice (digest : List UInt8) (i : Nat) : List UInt8 := (digest.drop (4 * i)).take 4

theorem length_slice (hd : 16 ≤ d.length) (hi : i < 4) : (slice d i).length = 4 := by
  rw [slice, List.length_take, List.length_drop]
  omega

theorem slices_interleave (ha : 16 ≤ a.length) (hb : 16 ≤ b.length) (hi : i < 4) :
    slice (interleave a b) (2 * i) = slice a i ∧ slice (interleave a b) (2 * i + 1) = slice b i := by
  have hsizes : ∀ block ∈ (List.range 4).map fun j => slice a j ++ slice b j, block.length = 8 := by
    intro block hblock
    obtain ⟨j, hj, rfl⟩ := List.mem_map.1 hblock
    rw [List.mem_range] at hj
    rw [List.length_append, length_slice ha hj, length_slice hb hj]
  have hblock : ((List.range 4).map fun j => slice a j ++ slice b j)[i]? = some (slice a i ++ slice b i) := by
    rw [List.getElem?_map, List.getElem?_range hi, Option.map_some]
  have hpair : ((interleave a b).drop (8 * i)).take 8 = slice a i ++ slice b i :=
    take_drop_flatten_of_length hsizes hblock
  constructor
  · have hplace : 4 * (2 * i) = 8 * i := by omega
    have htake : slice (interleave a b) (2 * i) = (((interleave a b).drop (8 * i)).take 8).take 4 := by
      rw [slice, hplace, List.take_take, Nat.min_eq_left (by decide)]
    rw [htake, hpair, List.take_left' (length_slice ha hi)]
  · have hplace : 4 * (2 * i + 1) = 8 * i + 4 := by omega
    have hdrop : slice (interleave a b) (2 * i + 1) = (((interleave a b).drop (8 * i)).take 8).drop 4 := by
      rw [slice, hplace, List.drop_take, List.drop_drop]
    rw [hdrop, hpair, List.drop_left' (length_slice ha hi)]

inductive Companion where
  | description (text : String)
  | document (bytes : List UInt8)

namespace Companion

/-- The companion of a name: the document, or else a description that is not empty. -/
def of? (description : String) : (document : Option Document) → Option Companion
  | some d => some (.document d.bytes)
  | none => if description.isEmpty then none else some (.description description)

theorem of?_description {description : String} (h : description.isEmpty = false) :
    of? description none = some (.description description) := by
  rw [of?, h]
  rfl

def hash : Companion → Except Error (List UInt8)
  | .description text => textHash text
  | .document bytes => bytesHash bytes

theorem exists_hash (c : Companion) : ∃ hash, c.hash = .ok hash ∧ hash.length = 32 := by
  cases c with
  | description text => exact exists_textHash text
  | document bytes => exact exists_bytesHash bytes

end Companion

theorem digest_eq (name description : String) (document : Option Document) :
    digest name description document = do
      let a ← textHash name
      match Companion.of? description document with
      | none => return a
      | some c => return interleave a (← c.hash) := by
  cases document with
  | some d => rfl
  | none =>
      rw [digest, Companion.of?]
      by_cases hempty : description.isEmpty
      · simp only [hempty, if_true]
      · simp only [hempty, if_false, Bool.false_eq_true]
        rfl

theorem length_textHash {text : String} (h : textHash text = .ok a) : a.length = 32 := by
  obtain ⟨hash, hhash, hsize⟩ := exists_textHash text
  rwa [Except.ok.inj (h.symm.trans hhash)]

theorem length_digest {name description : String} {document : Option Document}
    (h : digest name description document = .ok d) : d.length = 32 := by
  obtain ⟨digest, hdigest, hsize⟩ := exists_digest name description document
  rwa [Except.ok.inj (h.symm.trans hdigest)]

theorem slices_digest {name description : String} {document : Option Document}
    (h : digest name description document = .ok d) (ha : textHash name = .ok a) :
    slice d 0 = slice a 0 ∧ ∀ c, Companion.of? description document = some c → ∀ b, c.hash = .ok b →
      ∀ i < 4, slice d (2 * i) = slice a i ∧ slice d (2 * i + 1) = slice b i := by
  have hsize := length_textHash ha
  rw [digest_eq, ha] at h
  cases hc : Companion.of? description document with
  | none =>
      rw [hc] at h
      obtain rfl := Except.ok.inj h
      exact ⟨rfl, fun c hc => by cases hc⟩
  | some c =>
      obtain ⟨b, hb, hsize'⟩ := c.exists_hash
      have hd : interleave a b = d := by
        simpa only [hc, hb, bind, Except.bind, pure, Except.pure, Except.ok.injEq] using h
      have hslices (i : Nat) (hi : i < 4) := slices_interleave (a := a) (b := b) (by omega) (by omega) hi
      rw [hd] at hslices
      refine ⟨(hslices 0 (by decide)).1, fun c' hc' b' hb' => ?_⟩
      obtain rfl := Option.some.inj hc'
      obtain rfl := Except.ok.inj (hb.symm.trans hb')
      exact hslices

section Runs

variable {name name' : String} {description description' document document' : Option String} {bits : Nat}
  {r r' : MetaCode}

/-- What comes with the name when a code is made: the document if there is one with something in it, and
otherwise the normal form of the description if that is not empty. -/
def Accompanies (description document : Option String) (c : Companion) : Prop :=
  ∃ read, readDocument document = .ok read ∧
    Companion.of? (normalDescription (description.getD "")) read = some c

theorem exists_decode (h : generate name description document 256 = .ok r) :
    ∃ u a, Code.decode r.iscc = .ok u ∧ u.digest.length = 32 ∧ textHash (normalName name) = .ok a ∧
      slice u.digest 0 = slice a 0 ∧ ∀ c, Accompanies description document c → ∀ b, c.hash = .ok b →
        ∀ i < 4, slice u.digest (2 * i) = slice a i ∧ slice u.digest (2 * i + 1) = slice b i := by
  obtain ⟨-, -, read, d, code, hread, hdigest, hcode, rfl⟩ := generates_iff.1 h
  obtain ⟨a, ha, -⟩ := exists_textHash (normalName name)
  obtain ⟨u, hu, -, -, -, -, hud⟩ := Code.decode_of_generate (by decide) (by decide) hcode
  have hsize := length_digest hdigest
  rw [List.take_of_length_le hsize.le] at hud
  obtain ⟨hfirst, hslices⟩ := slices_digest hdigest ha
  refine ⟨u, a, hu, hud ▸ hsize, ha, hud ▸ hfirst, fun c hc => ?_⟩
  obtain ⟨read', hread', hc⟩ := hc
  obtain rfl := Except.ok.inj (hread.symm.trans hread')
  rw [hud]
  exact hslices c hc

theorem generate_of_document {m : String} {d : Document} (hd : Document.read? m = .ok (some d))
    (h : generate name description (some m) bits = .ok r) (description' : Option String) :
    ∃ r', generate name description' (some m) bits = .ok r' ∧ r'.iscc = r.iscc ∧ r'.metahash = r.metahash := by
  obtain ⟨hbits, hname, read, bytes, code, hread, hdigest, hcode, rfl⟩ := generates_iff.1 h
  replace hread : Document.read? m = .ok read := hread
  rw [hd] at hread
  obtain rfl := Except.ok.inj hread
  refine ⟨result name description' (some d) code,
    generates_iff.2 ⟨hbits, hname, some d, bytes, code, hd, ?_, hcode, rfl⟩, ?_, ?_⟩
  · rw [← hdigest]
    simp only [digest]
  · simp only [result]
  · simp only [result, subject]

/-- The name and what comes with it do not interfere in the digests of two codes: equal names make the
same slices whatever comes with them, and so does what comes with the names, whatever they are. With a
document a code does not depend on the description. -/
theorem parts_apart :
    (∀ {name name' description description' document document' r r'},
      generate name description document 256 = .ok r → generate name' description' document' 256 = .ok r' →
      ∃ u u', Code.decode r.iscc = .ok u ∧ Code.decode r'.iscc = .ok u' ∧
        u.digest.length = 32 ∧ u'.digest.length = 32 ∧
        (normalName name = normalName name' → slice u.digest 0 = slice u'.digest 0) ∧
        ∀ c c', Accompanies description document c → Accompanies description' document' c' →
          (normalName name = normalName name' →
            ∀ i < 4, slice u.digest (2 * i) = slice u'.digest (2 * i)) ∧
          (c = c' → ∀ i < 4, slice u.digest (2 * i + 1) = slice u'.digest (2 * i + 1))) ∧
    ∀ {name description m bits d r}, Document.read? m = .ok (some d) →
      generate name description (some m) bits = .ok r → ∀ description', ∃ r',
        generate name description' (some m) bits = .ok r' ∧ r'.iscc = r.iscc ∧ r'.metahash = r.metahash := by
  refine ⟨fun {name name' description description' document document' r r'} h h' => ?_, generate_of_document⟩
  obtain ⟨u, a, hu, hsize, ha, hfirst, hslices⟩ := exists_decode h
  obtain ⟨u', a', hu', hsize', ha', hfirst', hslices'⟩ := exists_decode h'
  have hnames (hname : normalName name = normalName name') : a = a' := by
    rw [hname] at ha
    exact Except.ok.inj (ha.symm.trans ha')
  refine ⟨u, u', hu, hu', hsize, hsize', fun hname => ?_, fun c c' hc hc' => ⟨fun hname i hi => ?_, ?_⟩⟩
  · rw [hfirst, hfirst', hnames hname]
  · obtain ⟨b, hb, -⟩ := c.exists_hash
    obtain ⟨b', hb', -⟩ := c'.exists_hash
    rw [(hslices c hc b hb i hi).1, (hslices' c' hc' b' hb' i hi).1, hnames hname]
  · rintro rfl i hi
    obtain ⟨b, hb, -⟩ := c.exists_hash
    rw [(hslices c hc b hb i hi).2, (hslices' c hc' b hb i hi).2]

theorem parts_apart_document :
    (∃ r r' u u', generate "Hello" (some "World") none 256 = .ok r ∧
      generate "Hello" none (some "[1]") 256 = .ok r' ∧ Code.decode r.iscc = .ok u ∧
      Code.decode r'.iscc = .ok u' ∧ ∀ i < 4, slice u.digest (2 * i) = slice u'.digest (2 * i)) ∧
    ∃ r r', generate "Hello" none (some "[1]") 64 = .ok r ∧
      generate "Hello" (some "World") (some "[1]") 64 = .ok r' ∧ r'.iscc = r.iscc ∧ r'.metahash = r.metahash := by
  have hname : (normalName "Hello").isEmpty = false := by decide +kernel
  have hdescription : (normalDescription "World").isEmpty = false := by decide +kernel
  obtain ⟨v, hv⟩ : ∃ v, Json.read? "[1]".toList = some v := by
    rw [← Option.isSome_iff_exists]
    decide +kernel
  have hread : Document.read? "[1]" = .ok (some (Document.ofJson v)) := by
    rw [Document.read?, hv]
    rfl
  constructor
  · obtain ⟨r, hr⟩ := exists_result (some "World") (show 256 ∈ Code.supportedBits by decide) hname
      (show readDocument none = .ok none from rfl)
    obtain ⟨r', hr'⟩ := exists_result none (show 256 ∈ Code.supportedBits by decide) hname
      (show readDocument (some "[1]") = .ok (some (Document.ofJson v)) from hread)
    obtain ⟨u, u', hu, hu', -, -, -, hslices⟩ := parts_apart.1 hr hr'
    have hworld : Accompanies (some "World") none (.description (normalDescription "World")) :=
      ⟨none, rfl, Companion.of?_description hdescription⟩
    exact ⟨r, r', u, u', hr, hr', hu, hu', (hslices _ _ hworld ⟨_, hread, rfl⟩).1 rfl⟩
  · obtain ⟨r, hr⟩ := exists_result none (show 64 ∈ Code.supportedBits by decide) hname
      (show readDocument (some "[1]") = .ok (some (Document.ofJson v)) from hread)
    obtain ⟨r', hr', hiscc, hmetahash⟩ := parts_apart.2 hread hr (some "World")
    exact ⟨r, r', hr, hr', hiscc, hmetahash⟩

end Runs

end ContentCode.MetaCode
