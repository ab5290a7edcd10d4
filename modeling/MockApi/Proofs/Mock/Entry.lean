/-
What an entry of a bundle says. An entry is read field by field, so a definition
that was read from one is known by its fields (`ofFields_eq_ok`): the method in
upper case, the checked status and headers, the alternatives and replies if they
are arrays, and the body as it stands.
-/
import MockApi.Mock.Definition
import MockApi.Proofs.Outcome

namespace MockApi.Definition

/-- The definition that the fields of an entry describe. -/
structure IsReadFrom (style : ObjectStyle) (fields : Fields) (d : Definition) : Prop where
  method : ∃ word, Fields.get? "method" fields = some (.str word) ∧ word ≠ []
    ∧ d.method = Text.upper word
  stateful : d.stateful = (Fields.get? "stateful" fields).any (·.isSet)
  status : checkStatus style ((Fields.get? "status" fields).getD
    (.int (defaultStatus d.stateful))) = .ok d.status
  headers : checkHeaders style (Fields.get? "headers" fields) = .ok d.headers
  alternatives : checkArray .noAlternatives (Fields.get? "alternatives" fields)
    = .ok d.alternatives
  replies : ∃ entries, checkArray .noReplies (Fields.get? "responses" fields) = .ok entries
    ∧ entries.mapM (fun items => objects items >>= List.mapM (replyOf style)) = .ok d.replies
  body : d.body = (Fields.get? "body" fields).getD .null

variable {style : ObjectStyle} {fields : Fields} {d : Definition}

/-- A status is read as it stands, in any style. -/
theorem checkStatus_eq_ok {v : Json} {status : Int} :
    checkStatus style v = .ok status ↔ v = .int status ∧ isStatus status = true := by
  have hrefused : ((v.display style).mapError DefinitionError.numeral).bind (fun shown =>
      (.error (.invalidStatus shown) : Except DefinitionError Int)) ≠ .ok status := by
    intro heq
    obtain ⟨shown, -, hshown⟩ := bind_eq_ok.1 heq
    cases hshown
  constructor
  · intro h
    unfold checkStatus at h
    split at h
    · next n =>
      split at h
      · next hn =>
        obtain rfl := Except.ok.inj h
        exact ⟨rfl, hn⟩
      · exact absurd h hrefused
    · exact absurd h hrefused
  · rintro ⟨rfl, hstatus⟩
    exact if_pos hstatus

/-- Items that are read as fields are the objects with these fields. -/
theorem objects_eq_ok {items : List Json} {given : List Fields} :
    objects items = .ok given ↔ items = given.map Json.obj := by
  constructor
  · intro h
    induction items generalizing given with
    | nil =>
      obtain rfl := Except.ok.inj h
      rfl
    | cons item rest ih =>
      cases item with
      | obj fields =>
        obtain ⟨others, hothers, rfl⟩ := map_eq_ok.1 h
        rw [List.map_cons, ← ih hothers]
      | _ => cases h
  · rintro rfl
    induction given with
    | nil => rfl
    | cons fields others ih =>
      rw [List.map_cons, objects, ih]
      rfl

/-- An entry is read as the definition that its fields describe. -/
theorem ofFields_eq_ok : ofFields style fields = .ok d ↔ IsReadFrom style fields d := by
  constructor
  · intro h
    unfold ofFields at h
    split at h
    · next c rest hget =>
      obtain ⟨word, hword, h⟩ := bind_eq_ok.1 h
      obtain rfl := Except.ok.inj hword
      -- the fields are checked one after the other
      obtain ⟨status, hstatus, h⟩ := bind_eq_ok.1 h
      obtain ⟨headers, hheaders, h⟩ := bind_eq_ok.1 h
      obtain ⟨alternatives, halternatives, h⟩ := bind_eq_ok.1 h
      obtain ⟨entries, hentries, h⟩ := bind_eq_ok.1 h
      obtain ⟨replies, hreplies, h⟩ := bind_eq_ok.1 h
      obtain rfl := Except.ok.inj h
      exact ⟨⟨c :: rest, hget, List.cons_ne_nil c rest, rfl⟩, rfl, hstatus, hheaders,
        halternatives, ⟨entries, hentries, hreplies⟩, rfl⟩
    · cases h
  · intro h
    -- conversely each of the checks passes
    obtain ⟨word, hget, hne, hmethod⟩ := h.method
    obtain ⟨entries, hentries, hreplies⟩ := h.replies
    have hstateful := h.stateful
    have hstatus := h.status
    rw [hstateful] at hstatus
    obtain ⟨c, rest, rfl⟩ := List.exists_cons_of_ne_nil hne
    unfold ofFields
    rw [hget]
    refine bind_eq_ok.2 ⟨c :: rest, rfl, ?_⟩
    refine bind_eq_ok.2 ⟨d.status, hstatus, ?_⟩
    refine bind_eq_ok.2 ⟨d.headers, h.headers, ?_⟩
    refine bind_eq_ok.2 ⟨d.alternatives, h.alternatives, ?_⟩
    refine bind_eq_ok.2 ⟨entries, hentries, ?_⟩
    refine bind_eq_ok.2 ⟨d.replies, hreplies, ?_⟩
    show Except.ok _ = Except.ok d
    rw [← hstateful, ← h.body, ← hmethod]

/-- An entry is read if it is an object whose fields are. -/
theorem ofJson_eq_ok {entry : Json} :
    ofJson style entry = .ok d ↔ ∃ fields, entry = .obj fields ∧ IsReadFrom style fields d := by
  constructor
  · intro h
    cases entry with
    | obj fields => exact ⟨fields, rfl, ofFields_eq_ok.1 h⟩
    | _ => cases h
  · intro h
    obtain ⟨fields, rfl, hread⟩ := h
    exact ofFields_eq_ok.2 hread

end MockApi.Definition
