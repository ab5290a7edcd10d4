/-
What a built response shows. A status that has a body shows the text of the
value that was to be sent, with an empty object for a null one; an answer in
the server's own headers can be built whenever its integers can be written,
for every digit of the length of its body takes one byte.
-/
import MockApi.Proofs.Decimal.Integer
import MockApi.Proofs.Json.Printer
import MockApi.Server.Response

namespace MockApi.Response

/-- The value that is sent for a body. -/
def sent (body : Json) : Json := if Definition.isNull body then .obj [] else body

theorem sent_of_not_null {body : Json} (h : Definition.isNull body = false) : sent body = body := by
  rw [sent, h]
  rfl

/-- The headers that are sent for a definition's: none stand for those of JSON. -/
def given (headers : Fields) : Fields := if headers.isEmpty then jsonHeaders else headers

/-- The header lines of a response that shows a text. -/
def lines (status : Int) (headers : Fields) (text : Text) : List (Text × Text) :=
  ownHeaders headers ++ (if hasLength status then [lengthLine text] else [])
    ++ [typeLine (sentType (typeOf headers))]

-- ============================================================== in full

/-- A response without a body, in full. -/
theorem build_of_no_body {status : Int} (h : hasNoBody status = true) (headers : Fields)
    (body : Json) :
    build status headers body =
      let lines := ownHeaders (given headers)
      if areEncodable lines then .ok { status, headers := lines, body := [] }
      else .error .unencodableHeader := by
  unfold build
  rw [← given]
  simp only [h]
  rfl

/-- A response with a body, in full: the integers of the body are looked at
before the header lines. -/
theorem build_of_body {status : Int} (h : hasNoBody status = false) (headers : Fields)
    (body : Json) :
    build status headers body =
      let text := (sent body).text .body
      let lines := lines status (given headers) text
      if !(sent body).isWritable then .error (.numeral .tooLargeToWrite)
      else if areEncodable lines then .ok { status, headers := lines, body := text }
      else .error .unencodableHeader := by
  unfold build Json.write
  rw [← sent, ← given]
  simp only [h]
  cases (sent body).isWritable with
  | false => rfl
  | true => rfl

/-- The two responses that may be built, with what it takes to build them. -/
theorem build_eq_ok_iff {status : Int} {headers : Fields} {body : Json} {r : Response} :
    build status headers body = .ok r ↔
      (hasNoBody status = true ∧ areEncodable (ownHeaders (given headers)) = true
        ∧ r = { status, headers := ownHeaders (given headers), body := [] })
      ∨ (hasNoBody status = false ∧ (sent body).isWritable = true
        ∧ areEncodable (lines status (given headers) ((sent body).text .body)) = true
        ∧ r = { status, body := (sent body).text .body
                headers := lines status (given headers) ((sent body).text .body) }) := by
  constructor
  · intro h
    cases hbody : hasNoBody status with
    | true =>
      rw [build_of_no_body hbody] at h
      simp only at h
      split at h
      · next hlines => exact .inl ⟨rfl, hlines, (Except.ok.inj h).symm⟩
      -- a body that JSON has no text for
      · cases h
    | false =>
      rw [build_of_body hbody] at h
      simp only at h
      split at h
      -- a header that cannot be encoded
      · cases h
      · next hwritable =>
        split at h
        · next hlines =>
          exact .inr ⟨rfl, by simpa using hwritable, hlines, (Except.ok.inj h).symm⟩
        · cases h
  · rintro (⟨hbody, hlines, rfl⟩ | ⟨hbody, hwritable, hlines, rfl⟩)
    · rw [build_of_no_body hbody]
      exact if_pos hlines
    · rw [build_of_body hbody, hwritable]
      exact if_pos hlines

/-- A response that was built has the status that was asked for. -/
theorem status_of_build {status : Int} {headers : Fields} {body : Json} {r : Response}
    (h : build status headers body = .ok r) : r.status = status := by
  rcases build_eq_ok_iff.1 h with ⟨-, -, rfl⟩ | ⟨-, -, -, rfl⟩
  · rfl
  · rfl

/-- A response that has a body shows the value that was to be sent. -/
theorem body_of_build {status : Int} {headers : Fields} {body : Json} {r : Response}
    (h : build status headers body = .ok r) (hasBody : hasNoBody r.status = false) :
    (sent body).isWritable = true ∧ r.body = (sent body).text .body := by
  rcases build_eq_ok_iff.1 h with ⟨hno, -, rfl⟩ | ⟨-, hwritable, -, rfl⟩
  · rw [hno] at hasBody
    cases hasBody
  · exact ⟨hwritable, rfl⟩

-- ============================================================== sending

/-- The response can be sent: its header lines hold characters of one byte, and
the integers of its body, if it has one, can be written. -/
def isSendable (status : Int) (headers : Fields) (body : Json) : Bool :=
  areEncodable (ownHeaders (given headers))
    && (hasNoBody status
      || (isSingleByte (sentType (typeOf (given headers))) && (sent body).isWritable))

/-- The line of a length can be encoded. -/
theorem areEncodable_lengthLine (body : Text) : areEncodable [lengthLine body] = true := by
  have hname : isSingleByte "content-length" = true := by decide
  have hdigits : isSingleByte (decimalOfNat (Utf8.size body)) = true := by
    unfold isSingleByte
    rw [List.all_eq_true]
    intro c hc
    have hdigit := isAsciiDigit_of_mem_decimalOfNat hc
    rw [Text.isAsciiDigit, Bool.and_eq_true, decide_eq_true_eq, decide_eq_true_eq] at hdigit
    have hle : c.toNat ≤ 57 := hdigit.2
    rw [decide_eq_true_eq]
    omega
  unfold areEncodable lengthLine
  rw [List.all_cons, hname, hdigits]
  rfl

/-- The length of a body is encodable whatever it is, and so is every name of a
line that the server adds: the definition's own lines and its type decide. -/
theorem areEncodable_lines (status : Int) (headers : Fields) (text : Text) :
    areEncodable (lines status headers text)
      = (areEncodable (ownHeaders headers) && isSingleByte (sentType (typeOf headers))) := by
  have hlength : areEncodable (if hasLength status then [lengthLine text] else []) = true := by
    split
    · exact areEncodable_lengthLine text
    · rfl
  have htype : areEncodable [typeLine (sentType (typeOf headers))]
      = isSingleByte (sentType (typeOf headers)) := by
    have hname : isSingleByte contentType = true := by decide
    unfold areEncodable typeLine
    rw [List.all_cons, hname, List.all_nil, Bool.true_and, Bool.and_true]
  unfold lines
  rw [areEncodable, List.all_append, List.all_append, ← areEncodable, ← areEncodable,
    ← areEncodable, hlength, htype, Bool.and_true]

/-- A response is built if and only if it can be sent. -/
theorem build_isOk_iff (status : Int) (headers : Fields) (body : Json) :
    (∃ r, build status headers body = .ok r) ↔ isSendable status headers body = true := by
  unfold isSendable
  cases hbody : hasNoBody status with
  | true =>
    rw [build_of_no_body hbody, Bool.true_or, Bool.and_true]
    by_cases hlines : areEncodable (ownHeaders (given headers)) = true
    · simp [hlines]
    · simp [hlines]
  | false =>
    rw [build_of_body hbody, Bool.false_or]
    simp only [areEncodable_lines, ← Bool.and_assoc]
    by_cases hwritable : (sent body).isWritable = true
    · by_cases hlines : (areEncodable (ownHeaders (given headers))
          && isSingleByte (sentType (typeOf (given headers)))) = true
      · simp [hwritable, hlines]
      · simp [hwritable, hlines]
    · simp [hwritable]

-- ===================================================== the server's headers

/-- An answer in the server's own headers is built if its integers can be
written. -/
theorem build_json {v : Json} (h : Definition.isNull v = false) :
    build 200 jsonHeaders v = if v.isWritable then
      .ok { status := 200, body := v.text .body
            headers := [lengthLine (v.text .body), typeLine "application/json"] }
      else .error (.numeral .tooLargeToWrite) := by
  have hlines : lines 200 jsonHeaders (v.text .body)
      = [lengthLine (v.text .body)] ++ [typeLine "application/json"] := by
    have hown : ownHeaders jsonHeaders = [] := by decide
    have htype : sentType (typeOf jsonHeaders) = "application/json" := by decide
    rw [lines, hown, htype]
    rfl
  have hencodable : areEncodable ([lengthLine (v.text .body)] ++ [typeLine "application/json"])
      = true := by
    have htype : areEncodable [typeLine "application/json"] = true := by decide
    rw [areEncodable, List.all_append, ← areEncodable, ← areEncodable, areEncodable_lengthLine,
      htype]
    rfl
  have hgiven : given jsonHeaders = jsonHeaders := rfl
  rw [build_of_body rfl, sent_of_not_null h, hgiven]
  simp only [hlines, hencodable]
  cases v.isWritable with
  | false => rfl
  | true => rfl

end MockApi.Response
