import ContentCode.Proofs.JsonForm
import ContentCode.Proofs.JsonValues
import ContentCode.Proofs.MetaResult

/-!
Metadata documents. A document is given back as the compact text of a value with sorted keys; that
text is read as the same value again, and makes the same code.
-/

namespace ContentCode

namespace Json

variable {cs : List Char} {ts : List Token} {v : Value}

theorem not_isPrefixOf_of_tokens (h : tokens cs = some ts) : "data:".toList.isPrefixOf cs = false := by
  rw [← Bool.not_eq_true, List.isPrefixOf_iff_prefix]
  rintro ⟨rest, rfl⟩
  cases h

theorem write_ne_nil {n : Nat} (h : IsCanonical n v) : v.write ≠ [] := by
  intro hnil
  have htokens := tokens_write h
  obtain ⟨t, ts, hts, -⟩ := exists_cons_tokens v
  rw [hnil, hts] at htokens
  cases htokens

theorem fits_of_tokens (hts : tokens cs = some ts)
    (h : ∀ x, Token.number x ∈ ts → ∃ i, x = .integer i) : ∀ t ∈ ts, t.Fits := by
  intro t ht
  cases t with
  | number x =>
      obtain ⟨i, rfl⟩ := h x ht
      obtain ⟨m, hm⟩ := isWritten_of_scan hts _ ht
      exact fitsWord_of_ofNumeral hm
  | _ => trivial

end Json

namespace MetaCode

variable {name m : String} {description : Option String} {bits : Nat} {r : MetaCode} {v : Json.Value}
  {ts : List Json.Token} {n : Nat}

namespace Document

theorem read?_of_tokens (hts : Json.tokens m.toList = some ts) : read? m =
    match Json.read? m.toList with
    | some v => .ok (some (ofJson v))
    | none => .error .json := by
  rw [read?, Json.not_isPrefixOf_of_tokens hts]
  rfl

theorem read?_write (h : Json.IsCanonical Json.maxDepth v) :
    read? (.ofList v.write) = .ok (some (ofJson v)) := by
  have htokens : Json.tokens (String.ofList v.write).toList = some v.tokens := by
    rw [String.toList_ofList]
    exact Json.tokens_write h
  rw [read?_of_tokens htokens, String.toList_ofList, Json.read?_write_value h]

theorem ofUrl?_of_comma {url : String} {front encoded : List Char}
    (hurl : url.toList = front ++ ',' :: encoded) (hfront : ',' ∉ front) : ofUrl? url =
      (Base64.decode (.ofList encoded)).elim (.error .dataUrlBase64) fun bytes =>
        .ok (if bytes = [] then none else some ⟨bytes, url⟩) := by
  have hrest : url.toList.dropWhile (· ≠ ',') = ',' :: encoded := by
    rw [hurl, List.dropWhile_append_of_pos, List.dropWhile_cons_of_neg (by simp)]
    intro c hc
    exact decide_eq_true fun hcomma => hfront (hcomma ▸ hc)
  cases hdecode : Base64.decode (.ofList encoded) with
  | none => simp only [ofUrl?, hrest, hdecode, Option.elim_none]
  | some bytes =>
      cases bytes with
      | nil => simp only [ofUrl?, hrest, hdecode, Option.elim_some, if_true]
      | cons b bytes =>
          simp only [ofUrl?, hrest, hdecode, Option.elim_some, if_neg (List.cons_ne_nil b bytes)]

theorem ofUrl?_eq {url : String} {front encoded : List Char} {bytes : List UInt8}
    (hurl : url.toList = front ++ ',' :: encoded) (hfront : ',' ∉ front)
    (hdecode : Base64.decode (.ofList encoded) = some bytes) (hbytes : bytes ≠ []) :
    ofUrl? url = .ok (some ⟨bytes, url⟩) := by
  rw [ofUrl?_of_comma hurl hfront, hdecode, Option.elim_some, if_neg hbytes]

/-- A document as data URL: the media type has no comma in it. -/
theorem url_ofJson (v : Json.Value) : ∃ front, ',' ∉ front ∧
    (ofJson v).url.toList = front ++ ',' :: (Base64.encode (ofJson v).bytes).toList := by
  have hcomma : ∀ mediaType ∈ [linkedMediaType, plainMediaType],
      ',' ∉ "data:".toList ++ (mediaType.toList ++ ";base64".toList) := by
    decide +kernel
  have hurl (mediaType : String) (bytes : List UInt8) :
      ("data:" ++ mediaType ++ ";base64," ++ Base64.encode bytes).toList =
        "data:".toList ++ (mediaType.toList ++ ";base64".toList) ++ ',' :: (Base64.encode bytes).toList := by
    simp
  cases hlinked : v.hasKey "@context".toList with
  | true => exact ⟨_, hcomma linkedMediaType (by simp), by simp only [ofJson, hlinked, if_true, hurl]⟩
  | false =>
      exact ⟨_, hcomma plainMediaType (by simp), by
        simp only [ofJson, hlinked, Bool.false_eq_true, if_false, hurl]⟩

theorem bytes_ofJson_ne_nil (h : v.write ≠ []) : (ofJson v).bytes ≠ [] := by
  obtain ⟨c, cs, hwrite⟩ := List.exists_cons_of_ne_nil h
  rw [ofJson, Text.utf8, hwrite, String.toList_ofList, List.flatMap_cons]
  exact List.append_ne_nil_of_left_ne_nil String.utf8EncodeChar_ne_nil _

theorem ofUrl?_of_write_ne_nil (h : v.write ≠ []) : ofUrl? (ofJson v).url = .ok (some (ofJson v)) := by
  obtain ⟨front, hfront, hurl⟩ := url_ofJson v
  refine ofUrl?_eq hurl hfront ?_ (bytes_ofJson_ne_nil h)
  rw [String.ofList_toList, Base64.decode_encode]
  rfl

theorem ofUrl?_ofJson (h : Json.IsCanonical n v) : ofUrl? (ofJson v).url = .ok (some (ofJson v)) :=
  ofUrl?_of_write_ne_nil (Json.write_ne_nil h)

end Document

/-- With a JSON document that has no other numbers than integers that fit 64 bits, a code comes with the
compact text of the document, in which the keys of every object ascend, and it is made again from that
text. Which numerals stand for these integers is said by `Json.ofNumeral_eq_integer_iff`. -/
theorem generate_canonical (hm : Json.tokens m.toList = some ts)
    (hintegers : ∀ x, Json.Token.number x ∈ ts → ∃ i, x = .integer i)
    (h : generate name description (some m) bits = .ok r) :
    ∃ url p, r.document = some url ∧ Document.ofUrl? url = .ok (some ⟨Text.utf8 p, url⟩) ∧
      generate name description (some p) bits = .ok r ∧ Json.IsCompact p.toList ∧
      ∃ us, Json.tokens p.toList = some us ∧ Json.KeysAscend [] us := by
  obtain ⟨hbits, hname, read, d, code, hread, hdigest, hcode, hr⟩ := generates_iff.1 h
  rw [readDocument, Document.read?_of_tokens hm] at hread
  cases hv : Json.read? m.toList with
  | none =>
      rw [hv] at hread
      cases hread
  | some v =>
      rw [hv] at hread
      obtain rfl := Except.ok.inj hread
      have hcanonical := Json.isCanonical_of_read? hm (Json.fits_of_tokens hm hintegers) hv
      refine ⟨(Document.ofJson v).url, .ofList v.write, ?_, Document.ofUrl?_ofJson hcanonical, ?_, ?_⟩
      · rw [← hr]
        rfl
      · exact generates_iff.2 ⟨hbits, hname, _, d, code, Document.read?_write hcanonical, hdigest, hcode, hr⟩
      · rw [String.toList_ofList]
        exact ⟨Json.isCompact_write hcanonical, v.tokens, Json.tokens_write hcanonical,
          Json.keysAscend_tokens hcanonical⟩

theorem generate_canonical_repeated : ∃ r url p,
    generate "Hello" none (some "\x7b\"b\": 1, \"a\": [-2, \"\\u00e9\"], \"b\": null\x7d") 64 = .ok r ∧
      r.document = some url ∧ Document.ofUrl? url = .ok (some ⟨Text.utf8 p, url⟩) ∧
      generate "Hello" none (some p) 64 = .ok r := by
  generalize hm : "\x7b\"b\": 1, \"a\": [-2, \"\\u00e9\"], \"b\": null\x7d" = m
  have hts : Json.tokens m.toList = some [.openObject, .string ['b'], .colon, .number (.integer 1), .comma,
      .string ['a'], .colon, .openArray, .number (.integer (-2)), .comma, .string ['é'], .closeArray, .comma,
      .string ['b'], .colon, .null, .closeObject] := by
    rw [← hm]
    decide +kernel
  obtain ⟨v, hv⟩ : ∃ v, Json.read? m.toList = some v := by
    rw [← Option.isSome_iff_exists, ← hm]
    decide +kernel
  have hread : readDocument (some m) = .ok (some (Document.ofJson v)) := by
    rw [readDocument, Document.read?_of_tokens hts, hv]
  have hname : (normalName "Hello").isEmpty = false := by decide +kernel
  obtain ⟨r, hr⟩ := exists_result none (show 64 ∈ Code.supportedBits by decide) hname hread
  obtain ⟨url, p, hurl, hpayload, hagain, -⟩ := generate_canonical hts (by simp) hr
  exact ⟨r, url, p, hr, hurl, hpayload, hagain⟩

end MetaCode

end ContentCode
