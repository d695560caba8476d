import ContentCode.Proofs.MetaDocuments

/-!
Data URLs of metadata documents. The one that comes with a code is read as the document itself, whatever
the document was given as, so that it makes the same code again; none comes with a code only if there was
nothing in the document.
-/

namespace ContentCode

/-- Only the empty text stands for no bytes: one symbol alone is refused, and two are a byte. -/
theorem Base64.decode_eq_nil_iff {text : String} : decode text = some [] ↔ text.toList = [] := by
  constructor
  · intro h
    simp only [decode] at h
    split at h
    · cases h
    next hlength =>
    split at h
    · cases h
    next hpadding =>
    split at h
    · cases h
    next hknown =>
    split at h
    · cases h
    next hrest =>
    replace h := Option.some.inj h
    generalize text.toList.takeWhile (· ≠ '=') = symbols at *
    have hsymbols : ∀ c ∈ symbols, (Alphabet.base64.value? c).isSome := by
      simpa [Option.isSome_iff_ne_none] using hknown
    have hsize := Alphabet.length_bits hsymbols
    obtain ⟨hbits, hlen⟩ := Bits.ofBytes_split (Alphabet.base64.bits symbols)
    rw [h, Bits.ofBytes_nil, List.nil_append] at hbits
    rw [hbits, hsize, Alphabet.base64_width] at hlen
    have hnil : symbols = [] := List.length_eq_zero_iff.1 (by omega)
    rw [not_not] at hpadding
    rw [hpadding, hnil]
    rfl
  · intro h
    obtain rfl : text = "" := String.toList_eq_nil_iff.1 h
    decide +kernel

namespace Json

theorem Number.writeScientific_ne_nil (s : Decimal.Scientific) : writeScientific s ≠ [] := by
  simp only [writeScientific]
  split
  · simp
  · split <;> simp

theorem Number.write_ne_nil (n : Number) : n.write ≠ [] := by
  cases n with
  | integer i =>
      rw [write]
      split
      · exact List.cons_ne_nil _ _
      · exact Decimal.digits_ne_nil _
  | double x =>
      simp only [write]
      split
      · exact List.cons_ne_nil _ _
      · split
        · exact List.cons_ne_nil _ _
        · exact writeScientific_ne_nil _

theorem Value.write_ne_nil (v : Value) : v.write ≠ [] := by
  cases v with
  | null => simp [write]
  | bool b => cases b <;> simp [write]
  | number n =>
      rw [write]
      exact n.write_ne_nil
  | string s => simp [write, writeString]
  | array items => cases items <;> simp [write]
  | object entries => cases entries <;> simp [write]

end Json

namespace MetaCode

variable {name m url : String} {description : Option String} {bits : Nat} {r : MetaCode}

namespace Document

variable {d : Document}

def IsEmptyUrl (text : String) : Prop :=
  ∃ front, ',' ∉ front ∧ text.toList = "data:".toList ++ front ++ [',']

theorem exists_payload {read : Option Document} (h : ofUrl? url = .ok read) :
    ∃ front encoded bytes, ',' ∉ front ∧ url.toList = front ++ ',' :: encoded ∧
      Base64.decode (.ofList encoded) = some bytes ∧ (if bytes = [] then none else some ⟨bytes, url⟩) = read := by
  cases hrest : url.toList.dropWhile (· ≠ ',') with
  | nil =>
      rw [ofUrl?, hrest] at h
      cases h
  | cons c encoded =>
      have hc := List.head?_dropWhile_not (· ≠ ',') url.toList
      rw [hrest] at hc
      obtain rfl : c = ',' := by simpa using hc
      have hfront : ',' ∉ url.toList.takeWhile (· ≠ ',') := by
        intro hmem
        simpa using List.mem_takeWhile_imp hmem
      have hurl : url.toList = url.toList.takeWhile (· ≠ ',') ++ ',' :: encoded := by
        rw [← hrest, List.takeWhile_append_dropWhile]
      rw [ofUrl?_of_comma hurl hfront] at h
      cases hdecode : Base64.decode (.ofList encoded) with
      | none =>
          rw [hdecode] at h
          cases h
      | some bytes =>
          rw [hdecode, Option.elim_some, Except.ok.injEq] at h
          exact ⟨_, encoded, bytes, hfront, hurl, hdecode, h⟩

theorem ofUrl?_eq_none_iff :
    ofUrl? url = .ok none ↔ ∃ front, ',' ∉ front ∧ url.toList = front ++ [','] := by
  constructor
  · intro h
    obtain ⟨front, encoded, bytes, hfront, hurl, hdecode, hread⟩ := exists_payload h
    have hbytes : bytes = [] := by simpa using hread
    rw [hbytes, Base64.decode_eq_nil_iff, String.toList_ofList] at hdecode
    exact ⟨front, hfront, hdecode ▸ hurl⟩
  · rintro ⟨front, hfront, hurl⟩
    rw [ofUrl?_of_comma hurl hfront, Base64.decode_eq_nil_iff.2 rfl]
    rfl

theorem url_of_ofUrl? (h : ofUrl? url = .ok (some d)) : d.url = url := by
  obtain ⟨-, -, bytes, -, -, -, hread⟩ := exists_payload h
  split at hread
  · cases hread
  · rw [← Option.some.inj hread]

theorem read?_eq_none_iff : read? m = .ok none ↔ IsEmptyUrl m := by
  constructor
  · intro h
    rw [read?] at h
    split at h
    next hscheme =>
      obtain ⟨front, hfront, hurl⟩ := ofUrl?_eq_none_iff.1 h
      rw [List.isPrefixOf_iff_prefix, hurl, List.prefix_concat_iff] at hscheme
      rcases hscheme with hall | ⟨rest, rfl⟩
      · exact absurd (congrArg List.getLast? hall) (by rw [List.getLast?_concat]; decide)
      · exact ⟨rest, fun hmem => hfront (List.mem_append_right _ hmem), hurl⟩
    next =>
      split at h
      · cases h
      · cases h
  · rintro ⟨front, hfront, hm⟩
    have hscheme : "data:".toList.isPrefixOf m.toList := by
      rw [List.isPrefixOf_iff_prefix, hm, List.append_assoc]
      exact List.prefix_append _ _
    rw [read?, if_pos hscheme, ofUrl?_eq_none_iff]
    refine ⟨"data:".toList ++ front, ?_, hm⟩
    rw [List.mem_append, not_or]
    exact ⟨by decide, hfront⟩

theorem ofUrl?_url (h : read? m = .ok (some d)) :
    "data:".toList.isPrefixOf d.url.toList ∧ ofUrl? d.url = .ok (some d) := by
  rw [read?] at h
  split at h
  next hscheme =>
    rw [url_of_ofUrl? h]
    exact ⟨hscheme, h⟩
  next =>
    split at h
    next v hv =>
      obtain rfl := Option.some.inj (Except.ok.inj h)
      refine ⟨?_, ofUrl?_of_write_ne_nil v.write_ne_nil⟩
      rw [List.isPrefixOf_iff_prefix, ofJson, String.toList_append, String.toList_append, String.toList_append,
        List.append_assoc, List.append_assoc]
      exact List.prefix_append _ _
    next => cases h

theorem read?_url (h : read? m = .ok (some d)) : read? d.url = .ok (some d) := by
  obtain ⟨hscheme, hurl⟩ := ofUrl?_url h
  rw [read?, if_pos hscheme, hurl]

end Document

/-- The data URL that comes with a code stands for the metadata: what it holds is what was hashed, and the
code is made again from it. Only an empty data URL leaves none, and then the code is that of no metadata. -/
theorem generate_url (h : generate name description (some m) bits = .ok r) :
    (∀ url, r.document = some url → generate name description (some url) bits = .ok r ∧
      ∃ bytes, Document.ofUrl? url = .ok (some ⟨bytes, url⟩) ∧
        r.metahash = Hash.Blake3.multihash (Hash.Blake3.hash bytes)) ∧
    (r.document = none ↔ Document.IsEmptyUrl m) ∧
    (r.document = none → generate name description none bits = .ok r) := by
  obtain ⟨hbits, hname, read, hash, code, hread, hdigest, hcode, hr⟩ := generates_iff.1 h
  have hread' : Document.read? m = .ok read := hread
  cases read with
  | none =>
      have hnone : r.document = none := by
        rw [← hr]
        rfl
      refine ⟨fun url hurl => ?_, iff_of_true hnone (Document.read?_eq_none_iff.1 hread'), fun _ => ?_⟩
      · rw [hnone] at hurl
        cases hurl
      · exact generates_iff.2 ⟨hbits, hname, none, hash, code, rfl, hdigest, hcode, hr⟩
  | some d =>
      have hsome : r.document = some d.url := by
        rw [← hr]
        rfl
      have hne : r.document ≠ none := by simp [hsome]
      refine ⟨fun url hurl => ?_, iff_of_false hne fun hempty => ?_, fun hnone => absurd hnone hne⟩
      · rw [hsome] at hurl
        obtain rfl := Option.some.inj hurl
        refine ⟨generates_iff.2 ⟨hbits, hname, some d, hash, code, ?_, hdigest, hcode, hr⟩, d.bytes,
          (Document.ofUrl?_url hread').2, ?_⟩
        · exact Document.read?_url hread'
        · rw [← hr]
          rfl
      · rw [Document.read?_eq_none_iff.2 hempty] at hread'
        cases hread'

theorem generate_url_twice :
    (∃ r url, generate "Hello" none (some "[1.50, -0]") 64 = .ok r ∧ r.document = some url ∧
      generate "Hello" none (some url) 64 = .ok r) ∧
    ∃ r, generate "Hello" none (some "data:application/json;base64,") 64 = .ok r ∧ r.document = none ∧
      generate "Hello" none none 64 = .ok r := by
  have hbits : 64 ∈ Code.supportedBits := by decide
  have hname : (normalName "Hello").isEmpty = false := by decide +kernel
  constructor
  · obtain ⟨v, hv⟩ : ∃ v, Json.read? "[1.50, -0]".toList = some v := by
      rw [← Option.isSome_iff_exists]
      decide +kernel
    have hread : readDocument (some "[1.50, -0]") = .ok (some (Document.ofJson v)) := by
      rw [readDocument, Document.read?, hv]
      rfl
    obtain ⟨r, hr⟩ := exists_result none hbits hname hread
    obtain ⟨hurls, hnone, -⟩ := generate_url hr
    have hsome : r.document ≠ none := by
      rw [Ne, hnone]
      rintro ⟨front, -, hm⟩
      exact absurd (congrArg List.getLast? hm) (by rw [List.getLast?_concat]; decide)
    obtain ⟨url, hurl⟩ := Option.ne_none_iff_exists'.1 hsome
    exact ⟨r, url, hr, hurl, (hurls url hurl).1⟩
  · have hempty : Document.IsEmptyUrl "data:application/json;base64," :=
      ⟨"application/json;base64".toList, by decide, by decide⟩
    have hread : readDocument (some "data:application/json;base64,") = .ok none :=
      Document.read?_eq_none_iff.2 hempty
    obtain ⟨r, hr⟩ := exists_result none hbits hname hread
    obtain ⟨-, hnone, hagain⟩ := generate_url hr
    exact ⟨r, hr, hnone.2 hempty, hagain (hnone.2 hempty)⟩

end MetaCode

end ContentCode
