/-
What becomes of a definition that is written into a bundle and read again. A
definition with one body comes back with its header values as texts, in
whatever style objects are displayed, unless a header holds an integer too
large for text; then it is refused, and for that reason only.
-/
import MockApi.Mock.Definition
import MockApi.Proofs.Text.Case

namespace MockApi.Definition

variable (style : ObjectStyle)

/-- A value as plain text, its integers being small enough for it. -/
def plainText : Json → Text
  | .str t => t
  | v => v.shown style

/-- The definition with texts as header values. -/
def reread (d : Definition) : Definition :=
  { d with headers := d.headers.map fun h => (h.1, .str (plainText style h.2)) }

/-- No header holds an integer too large for text. -/
def isReadable (d : Definition) : Bool := d.headers.all (·.2.isWritable)

/-- A definition with one body, whose method and status are in order. -/
structure IsPlain (d : Definition) : Prop where
  method_ne_nil : d.method ≠ []
  upper_method : Text.upper d.method = d.method
  status : isStatus d.status = true
  alternatives : d.alternatives = none
  replies : d.replies = none

-- =============================================================== headers

theorem plain_eq (v : Json) :
    v.plain style = if v.isWritable then .ok (plainText style v) else .error .tooLargeToWrite := by
  cases v <;> rfl

/-- Header values are read as texts unless one of them is too large. -/
theorem plainValues_eq (headers : Fields) :
    plainValues style headers = if headers.all (·.2.isWritable) then
      .ok (headers.map fun h => (h.1, .str (plainText style h.2)))
      else .error (.numeral .tooLargeToWrite) := by
  induction headers with
  | nil => rfl
  | cons h rest ih =>
    obtain ⟨name, v⟩ := h
    rw [plainValues, plain_eq, ih, List.all_cons]
    cases v.isWritable with
    | false => rfl
    | true =>
      cases rest.all (·.2.isWritable) with
      | false => rfl
      | true => rfl

-- ================================================================ the entry

variable {style}

theorem eq_null_of_isNull {v : Json} (h : isNull v = true) : v = .null := by
  cases v with
  | null => rfl
  | _ => cases h

/-- The fields of a definition's entry. -/
def entryFields (d : Definition) : Fields :=
  let body : Fields := if isNull d.body then [] else [("body", d.body)]
  let alternatives : Option (Text × Json) :=
    d.alternatives.map fun items => ("alternatives", Json.arr items)
  let replies : Option (Text × Json) :=
    d.replies.map fun replies => ("responses", Json.arr (replies.map replyJson))
  let stateful : Fields := if d.stateful then [("stateful", .bool true)] else []
  ("method", .str d.method) :: ("status", .int d.status) :: ("headers", .obj d.headers)
    :: (body ++ alternatives.toList ++ replies.toList ++ stateful)

theorem toJson_eq (d : Definition) : d.toJson = .obj d.entryFields := by
  unfold toJson entryFields
  cases isNull d.body <;> cases d.alternatives <;> cases d.replies <;> cases d.stateful <;> rfl

/-- What the fields of an entry say. -/
theorem get?_entryFields (d : Definition) :
    Fields.get? "method" d.entryFields = some (.str d.method)
      ∧ Fields.get? "status" d.entryFields = some (.int d.status)
      ∧ Fields.get? "headers" d.entryFields = some (.obj d.headers)
      ∧ (Fields.get? "body" d.entryFields).getD .null = d.body
      ∧ Fields.get? "alternatives" d.entryFields = d.alternatives.map Json.arr
      ∧ Fields.get? "responses" d.entryFields
        = d.replies.map (fun replies => Json.arr (replies.map replyJson))
      ∧ Fields.get? "stateful" d.entryFields = if d.stateful then some (.bool true) else none := by
  unfold entryFields
  cases hnull : isNull d.body with
  | true =>
    rw [eq_null_of_isNull hnull]
    cases d.alternatives <;> cases d.replies <;> cases d.stateful <;>
      exact ⟨rfl, rfl, rfl, rfl, rfl, rfl, rfl⟩
  | false =>
    cases d.alternatives <;> cases d.replies <;> cases d.stateful <;>
      exact ⟨rfl, rfl, rfl, rfl, rfl, rfl, rfl⟩

/-- A plain definition is read again from its entry if its headers can be. -/
theorem ofJson_toJson {d : Definition} (h : IsPlain d) :
    ofJson style d.toJson = if d.isReadable then .ok (d.reread style)
      else .error (.numeral .tooLargeToWrite) := by
  obtain ⟨hmethod, hstatus, hheaders, hbody, halternatives, hreplies, hstateful⟩ :=
    get?_entryFields d
  have hset : (if d.stateful then some (Json.bool true) else none).any (·.isSet) = d.stateful := by
    cases d.stateful <;> rfl
  have hupper := h.upper_method
  rw [h.alternatives, Option.map_none] at halternatives
  rw [h.replies, Option.map_none] at hreplies
  rw [toJson_eq, ofJson, ofFields, hmethod, hstatus, hheaders, hbody, halternatives, hreplies,
    hstateful]
  -- the method is written as it is read only because it is in upper case
  cases hm : d.method with
  | nil => exact absurd hm h.method_ne_nil
  | cons c rest =>
    rw [hm] at hupper
    simp only [Option.getD_some, checkStatus, h.status, if_true, checkHeaders, plainValues_eq,
      checkArray, hset]
    rw [← isReadable]
    cases hreadable : d.isReadable with
    | false => rfl
    | true =>
      have hreread : d.reread style = {
          method := Text.upper (c :: rest)
          status := d.status
          headers := d.headers.map fun h => (h.1, .str (plainText style h.2))
          body := d.body
          stateful := d.stateful } := by
        rw [hupper, ← hm, ← h.alternatives, ← h.replies]
        rfl
      rw [hreread]
      rfl

end MockApi.Definition
