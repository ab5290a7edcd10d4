/-
Which entries of a bundle are definitions, and what they are written as.

Every check on a field decides whether the field is in order (`Decides`): it has a
value if so and refuses otherwise, as long as a value that is not in order can be
shown. Checks one after another decide all that they decide together, so an entry
is read if and only if it is a usable definition (`decides_ofJson`).

What is read is normal: defaults are filled in, the method is in upper case and
header values are texts. A normal definition is what its own entry says, so reading
what was written gives it back (`entry_normalized`).
-/
import MockApi.Proofs.Json.Fields
import MockApi.Proofs.Json.Printer
import MockApi.Proofs.Mock.Definition
import MockApi.Proofs.Mock.Entry

namespace MockApi

/-- A check has failed; no number was too large for text. -/
def DefinitionError.isRefusal : DefinitionError → Bool
  | numeral _ => false
  | _ => true

namespace Definition

/-- The reading has a value if what was read is in order, and refuses it
otherwise. -/
structure Decides {α : Type} (inOrder : Prop) (r : Except DefinitionError α) : Prop where
  isOk_iff : r.isOk = true ↔ inOrder
  refusal : ∀ e, r = .error e → e.isRefusal = true

section

variable {α β : Type} {p q : Prop} {x : Except DefinitionError α}

theorem Decides.congr (h : Decides p x) (hiff : p ↔ q) : Decides q x :=
  ⟨h.isOk_iff.trans hiff, h.refusal⟩

theorem decides_ok (hp : p) (a : α) : Decides p (.ok a) := by
  constructor
  · exact iff_of_true rfl hp
  · intro e he
    cases he

theorem decides_error (hp : ¬p) {e : DefinitionError} (he : e.isRefusal = true) :
    Decides p (Except.error e : Except DefinitionError α) := by
  constructor
  · exact iff_of_false (not_isOk_error e) hp
  · intro e' he'
    rw [← Except.error.inj he']
    exact he

/-- A reading in two steps decides what both of them decide. -/
theorem Decides.bind {f : α → Except DefinitionError β} (hx : Decides p x)
    (hf : ∀ a, x = .ok a → Decides q (f a)) : Decides (p ∧ q) (x >>= f) := by
  cases x with
  | error e =>
    have hp : ¬p := fun hp => not_isOk_error e (hx.isOk_iff.2 hp)
    exact decides_error (fun h => hp h.1) (hx.refusal e rfl)
  | ok a =>
    have hp : p := hx.isOk_iff.1 rfl
    exact (hf a rfl).congr (and_iff_right hp).symm

/-- A reading decides the same once its result is mapped. -/
theorem Decides.map (hx : Decides p x) (f : α → β) : Decides p (x.map f) := by
  cases x with
  | error e =>
    exact decides_error (fun hp => not_isOk_error e (hx.isOk_iff.2 hp)) (hx.refusal e rfl)
  | ok a => exact decides_ok (hx.isOk_iff.1 rfl) (f a)

/-- A list is read item by item. -/
theorem decides_mapM {ι : Type} {p : ι → Prop} {f : ι → Except DefinitionError α} {items : List ι}
    (hf : ∀ item ∈ items, Decides (p item) (f item)) :
    Decides (∀ item ∈ items, p item) (items.mapM f) := by
  induction items with
  | nil => exact decides_ok (List.forall_mem_nil _) []
  | cons item rest ih =>
    rw [List.mapM_cons, List.forall_mem_cons]
    apply (hf item List.mem_cons_self).bind
    intro a _
    have hrest := ih fun other hother => hf other (List.mem_cons_of_mem _ hother)
    exact hrest.map _

end

-- =========================================================== what is in order

/-- No status, or an integer from 100 to 599. -/
inductive IsStatusField : Option Json → Prop
  | absent : IsStatusField none
  | number {n : Int} (least : 100 ≤ n) (greatest : n ≤ 599) : IsStatusField (some (.int n))

/-- No headers, or an object of them. -/
inductive IsHeadersField : Option Json → Prop
  | absent : IsHeadersField none
  | null : IsHeadersField (some .null)
  | fields (headers : Fields) : IsHeadersField (some (.obj headers))

/-- No array, or one with at least one item and all items as they have to be. -/
inductive IsArrayField (isItem : Json → Prop) : Option Json → Prop
  | absent : IsArrayField isItem none
  | null : IsArrayField isItem (some .null)
  | items {items : List Json} (ne_nil : items ≠ []) (all : ∀ item ∈ items, isItem item) :
    IsArrayField isItem (some (.arr items))

/-- The items of an array field may be required less. -/
theorem IsArrayField.imp {isItem isOther : Json → Prop} {v : Option Json}
    (h : IsArrayField isItem v) (himp : ∀ item, isItem item → isOther item) :
    IsArrayField isOther v := by
  cases h with
  | absent => exact .absent
  | null => exact .null
  | items ne_nil all => exact .items ne_nil fun item hitem => himp item (all item hitem)

/-- An object that describes a whole reply. -/
inductive IsReplyEntry : Json → Prop
  | fields {fields : Fields} (status : IsStatusField (Fields.get? "status" fields))
    (headers : IsHeadersField (Fields.get? "headers" fields)) : IsReplyEntry (.obj fields)

/-- The fields of a usable definition. The body may be anything, and so may be
what makes a definition stateful. -/
structure IsUsable (fields : Fields) : Prop where
  method : ∃ word, Fields.get? "method" fields = some (.str word) ∧ word ≠ []
  status : IsStatusField (Fields.get? "status" fields)
  headers : IsHeadersField (Fields.get? "headers" fields)
  alternatives : IsArrayField (fun _ => True) (Fields.get? "alternatives" fields)
  replies : IsArrayField IsReplyEntry (Fields.get? "responses" fields)

/-- An entry that is a usable definition. -/
def IsEntry (entry : Json) : Prop := ∃ fields, entry = .obj fields ∧ IsUsable fields

-- ================================================================== the checks

variable {fields : Fields}

/-- What stands in an object can be written if the object can. -/
theorem isWritable_get? (h : (Json.obj fields).isWritable = true) (key : Text) :
    ∀ v, Fields.get? key fields = some v → v.isWritable = true := by
  intro v hget
  rw [Json.isWritable_obj, List.all_eq_true] at h
  exact h _ (Fields.mem_of_get?_eq_some hget)

theorem isStatus_iff {n : Int} : isStatus n = true ↔ 100 ≤ n ∧ n ≤ 599 := by
  rw [isStatus, Bool.and_eq_true, decide_eq_true_eq, decide_eq_true_eq]

section

variable (style : ObjectStyle)

/-- The status of an entry is refused if it is no integer in range, and only then. -/
theorem decides_checkStatus {v : Option Json} (writable : ∀ w, v = some w → w.isWritable = true)
    {standard : Int} (hstandard : isStatus standard = true) :
    Decides (IsStatusField v) (checkStatus style (v.getD (.int standard))) := by
  cases v with
  | none =>
    rw [Option.getD_none, checkStatus, if_pos hstandard]
    exact decides_ok .absent standard
  | some w =>
    -- the text of the refusal can be made, since the value can be written
    have hdisplay : w.display style = .ok (w.shown style) := if_pos (writable w rfl)
    rw [Option.getD_some]
    unfold checkStatus
    rw [hdisplay]
    cases w with
    | int n =>
      show Decides _ (if isStatus n = true then .ok n else .error (.invalidStatus _))
      by_cases hn : isStatus n = true
      · rw [if_pos hn]
        have hbounds := isStatus_iff.1 hn
        exact decides_ok (.number hbounds.1 hbounds.2) n
      · rw [if_neg hn]
        apply decides_error _ rfl
        intro h
        cases h with
        | number least greatest => exact hn (isStatus_iff.2 ⟨least, greatest⟩)
    | _ =>
      apply decides_error _ rfl
      intro h
      cases h

/-- The headers of an entry are refused if they are there and no object. -/
theorem decides_checkHeaders {v : Option Json} (writable : ∀ w, v = some w → w.isWritable = true) :
    Decides (IsHeadersField v) (checkHeaders style v) := by
  cases v with
  | none => exact decides_ok .absent jsonHeaders
  | some w =>
    cases w with
    | null => exact decides_ok .null jsonHeaders
    | obj headers =>
      have hwritable := writable _ rfl
      rw [Json.isWritable_obj] at hwritable
      rw [checkHeaders, plainValues_eq, if_pos hwritable]
      exact decides_ok (.fields headers) _
    | _ =>
      apply decides_error _ rfl
      intro h
      cases h

/-- An array of an entry is refused if it is there and empty, or no array. -/
theorem decides_checkArray {e : DefinitionError} (he : e.isRefusal = true) (v : Option Json) :
    Decides (IsArrayField (fun _ => True) v) (checkArray e v) := by
  cases v with
  | none => exact decides_ok .absent none
  | some w =>
    cases w with
    | null => exact decides_ok .null none
    | arr items =>
      cases items with
      | nil =>
        apply decides_error _ he
        intro h
        cases h with
        | items ne_nil _ => exact ne_nil rfl
      | cons item rest =>
        exact decides_ok (.items (List.cons_ne_nil item rest) fun _ _ => trivial) _
    | _ =>
      apply decides_error _ he
      intro h
      cases h

/-- Items are refused if one of them is no object. -/
theorem decides_objects (items : List Json) :
    Decides (∀ item ∈ items, ∃ fields, item = .obj fields) (objects items) := by
  induction items with
  | nil => exact decides_ok (List.forall_mem_nil _) []
  | cons item rest ih =>
    rw [List.forall_mem_cons]
    cases item with
    | obj fields =>
      apply (ih.map _).congr
      exact (and_iff_right ⟨fields, rfl⟩).symm
    | _ =>
      apply decides_error _ rfl
      rintro ⟨⟨fields, hfields⟩, -⟩
      cases hfields

/-- A reply is refused for its status or its headers. -/
theorem decides_replyOf (writable : (Json.obj fields).isWritable = true) :
    Decides (IsReplyEntry (.obj fields)) (replyOf style fields) := by
  have hstandard : isStatus 200 = true := by decide
  have hstatus := decides_checkStatus style (isWritable_get? writable "status") hstandard
  have hheaders := decides_checkHeaders style (isWritable_get? writable "headers")
  have hboth := hstatus.bind fun status _ => hheaders.map fun headers =>
    ({ status, headers, body := (Fields.get? "body" fields).getD (.obj []) } : Reply)
  apply hboth.congr
  constructor
  · intro h
    exact .fields h.1 h.2
  · intro h
    cases h with
    | fields status headers => exact ⟨status, headers⟩

/-- The replies of an entry are refused for one of them, or for their array. -/
theorem decides_replies {v : Option Json} (writable : ∀ w, v = some w → w.isWritable = true)
    {entries : Option (List Json)} (h : checkArray .noReplies v = .ok entries) :
    Decides (IsArrayField IsReplyEntry v)
      (entries.mapM fun items => objects items >>= List.mapM (replyOf style)) := by
  unfold checkArray at h
  split at h
  · obtain rfl := Except.ok.inj h
    exact decides_ok .absent none
  · obtain rfl := Except.ok.inj h
    exact decides_ok .null none
  · next item rest =>
    obtain rfl := Except.ok.inj h
    have hitems := writable _ rfl
    rw [Json.isWritable_arr, List.all_eq_true] at hitems
    -- first all entries have to be objects, then each has to be a reply
    have hobject : (∀ entry ∈ item :: rest, IsReplyEntry entry) →
        ∀ entry ∈ item :: rest, ∃ fields, entry = .obj fields := by
      intro hreplies entry hentry
      cases hreplies entry hentry with
      | fields status headers => exact ⟨_, rfl⟩
    have hmapped : ∀ given, objects (item :: rest) = .ok given →
        Decides (∀ entry ∈ item :: rest, IsReplyEntry entry) (given.mapM (replyOf style)) := by
      intro given hgiven
      have hobjects := objects_eq_ok.1 hgiven
      rw [hobjects, List.forall_mem_map]
      apply decides_mapM
      intro fields hfields
      apply decides_replyOf
      apply hitems
      rw [hobjects]
      exact List.mem_map_of_mem hfields
    have hboth := (decides_objects (item :: rest)).bind hmapped
    -- the first condition is part of the second
    have hread := hboth.congr (and_iff_right_of_imp hobject)
    apply (hread.map some).congr
    constructor
    · exact .items (List.cons_ne_nil item rest)
    · intro hfield
      cases hfield with
      | items _ all => exact all
  · cases h

/-- An entry is refused for one of its fields, in the order in which they are checked. -/
theorem decides_ofFields (writable : (Json.obj fields).isWritable = true) :
    Decides (IsUsable fields) (ofFields style fields) := by
  unfold ofFields
  split
  · next c rest hget =>
    -- each field decides its own condition, and their sequence the conjunction
    have hmethod : Decides (∃ word, Fields.get? "method" fields = some (.str word) ∧ word ≠ [])
        (.ok (c :: rest)) :=
      decides_ok ⟨c :: rest, hget, List.cons_ne_nil c rest⟩ _
    have hstandard : ∀ stateful, isStatus (defaultStatus stateful) = true := by decide
    have hstatus := decides_checkStatus style (isWritable_get? writable "status")
      (hstandard ((Fields.get? "stateful" fields).any (·.isSet)))
    have hheaders := decides_checkHeaders style (isWritable_get? writable "headers")
    have halternatives :
        Decides _ (checkArray .noAlternatives (Fields.get? "alternatives" fields)) :=
      decides_checkArray rfl _
    have hresponses : Decides _ (checkArray .noReplies (Fields.get? "responses" fields)) :=
      decides_checkArray rfl _
    have hall := hmethod.bind fun word _ => hstatus.bind fun status _ =>
      hheaders.bind fun headers _ => halternatives.bind fun alternatives _ =>
      hresponses.bind fun entries hentries =>
      (decides_replies style (isWritable_get? writable "responses") hentries).map fun replies =>
        ({ method := Text.upper word, status, headers, alternatives
           stateful := (Fields.get? "stateful" fields).any (·.isSet), replies
           body := (Fields.get? "body" fields).getD .null } : Definition)
    apply hall.congr
    -- the array of replies is checked twice: that it is one, and entry by entry
    constructor
    · rintro ⟨method, status, headers, alternatives, -, replies⟩
      exact { method, status, headers, alternatives, replies }
    · intro h
      have hentries := h.replies.imp fun _ _ => trivial
      exact ⟨h.method, h.status, h.headers, h.alternatives, hentries, h.replies⟩
  · next hget =>
    apply decides_error _ rfl
    intro h
    obtain ⟨word, hword, hne⟩ := h.method
    obtain ⟨c, rest, rfl⟩ := List.exists_cons_of_ne_nil hne
    exact hget c rest hword

/-- An entry whose integers can be written is read if it is a usable definition
and refused if it is not. -/
theorem decides_ofJson {entry : Json} (writable : entry.isWritable = true) :
    Decides (IsEntry entry) (ofJson style entry) := by
  cases entry with
  | obj fields =>
    apply (decides_ofFields style writable).congr
    constructor
    · intro h
      exact ⟨fields, rfl, h⟩
    · rintro ⟨fields', hfields, h⟩
      rw [Json.obj.inj hfields]
      exact h
  | _ =>
    apply decides_error _ rfl
    rintro ⟨fields, hfields, -⟩
    cases hfields

end

-- ================================================================= normal form

/-- Every header value is a text. -/
def AreTexts (headers : Fields) : Prop := ∀ header ∈ headers, ∃ t, header.2 = .str t

/-- A reply as it is read from an entry. -/
structure IsNormalReply (r : Reply) : Prop where
  status : isStatus r.status = true
  headers : AreTexts r.headers

/-- A definition as it is read from an entry. -/
structure IsNormal (d : Definition) : Prop where
  method_ne_nil : d.method ≠ []
  upper_method : Text.upper d.method = d.method
  status : isStatus d.status = true
  headers : AreTexts d.headers
  alternatives : d.alternatives ≠ some []
  replies : ∀ replies, d.replies = some replies → replies ≠ [] ∧ ∀ r ∈ replies, IsNormalReply r

variable {style : ObjectStyle} {d : Definition}

/-- Headers that were accepted are texts. -/
theorem areTexts_of_checkHeaders {v : Option Json} {headers : Fields}
    (h : checkHeaders style v = .ok headers) : AreTexts headers := by
  have hjson : AreTexts jsonHeaders := by
    intro header hheader
    rw [List.mem_singleton.1 hheader]
    exact ⟨_, rfl⟩
  unfold checkHeaders at h
  split at h
  · rw [← Except.ok.inj h]
    exact hjson
  · rw [← Except.ok.inj h]
    exact hjson
  · next given =>
    rw [plainValues_eq] at h
    split at h
    · rw [← Except.ok.inj h]
      intro header hheader
      obtain ⟨source, -, rfl⟩ := List.mem_map.1 hheader
      exact ⟨_, rfl⟩
    · cases h
  · cases h

/-- Headers that are texts are read as they stand. -/
theorem checkHeaders_of_areTexts {headers : Fields} (h : AreTexts headers) :
    checkHeaders style (some (.obj headers)) = .ok headers := by
  have hwritable : headers.all (·.2.isWritable) = true := by
    rw [List.all_eq_true]
    intro header hheader
    obtain ⟨t, ht⟩ := h header hheader
    rw [ht]
    rfl
  have hsame : ∀ header ∈ headers, (header.1, Json.str (plainText style header.2)) = id header := by
    intro header hheader
    obtain ⟨t, ht⟩ := h header hheader
    rw [ht, plainText, ← ht]
    rfl
  rw [checkHeaders, plainValues_eq, if_pos hwritable, List.map_congr_left hsame, List.map_id]

/-- An array that was accepted is not empty. -/
theorem ne_of_checkArray {e : DefinitionError} {v : Option Json} {items : Option (List Json)}
    (h : checkArray e v = .ok items) : items ≠ some [] := by
  unfold checkArray at h
  split at h
  · rw [← Except.ok.inj h]
    exact nofun
  · rw [← Except.ok.inj h]
    exact nofun
  · rw [← Except.ok.inj h]
    exact nofun
  · cases h

/-- An array that is not empty is accepted. -/
theorem checkArray_of_ne (e : DefinitionError) {items : Option (List Json)} (h : items ≠ some []) :
    checkArray e (items.map Json.arr) = .ok items := by
  cases items with
  | none => rfl
  | some listed =>
    cases listed with
    | nil => exact absurd rfl h
    | cons item rest => rfl

/-- The fields of a reply's entry. -/
def replyFields (r : Reply) : Fields :=
  [("status", .int r.status), ("headers", .obj r.headers), ("body", r.body)]

/-- A reply that was read is in normal form. -/
theorem isNormalReply_of_replyOf {r : Reply} (h : replyOf style fields = .ok r) :
    IsNormalReply r := by
  obtain ⟨status, hstatus, h⟩ := bind_eq_ok.1 h
  obtain ⟨headers, hheaders, h⟩ := bind_eq_ok.1 h
  obtain rfl := Except.ok.inj h
  exact ⟨(checkStatus_eq_ok.1 hstatus).2, areTexts_of_checkHeaders hheaders⟩

/-- A reply in normal form is read back from its fields. -/
theorem replyOf_replyFields {r : Reply} (h : IsNormalReply r) :
    replyOf style (replyFields r) = .ok r := by
  have hstatus : checkStatus style (.int r.status) = .ok r.status :=
    checkStatus_eq_ok.2 ⟨rfl, h.status⟩
  exact bind_eq_ok.2 ⟨r.status, hstatus,
    bind_eq_ok.2 ⟨r.headers, checkHeaders_of_areTexts h.headers, rfl⟩⟩

/-- What is read from an entry is normal. -/
theorem isNormal_of_isReadFrom (h : IsReadFrom style fields d)
    (ascii : ∀ word, Fields.get? "method" fields = some (.str word) → word.IsAscii) :
    IsNormal d := by
  obtain ⟨word, hword, hne, hmethod⟩ := h.method
  have hascii := ascii word hword
  obtain ⟨entries, hentries, hreplies⟩ := h.replies
  refine ⟨?_, ?_, (checkStatus_eq_ok.1 h.status).2, areTexts_of_checkHeaders h.headers,
    ne_of_checkArray h.alternatives, ?_⟩
  · rw [hmethod]
    exact Text.upper_ne_nil hascii hne
  · rw [hmethod]
    exact Text.upper_upper_of_ascii hascii
  · intro replies hsome
    cases entries with
    | none =>
      rw [← Except.ok.inj hreplies] at hsome
      cases hsome
    | some items =>
      obtain ⟨read, hread, heq⟩ := map_eq_ok.1 hreplies
      rw [← heq] at hsome
      obtain rfl := Option.some.inj hsome
      obtain ⟨given, hgiven, hmapped⟩ := bind_eq_ok.1 hread
      constructor
      · rintro rfl
        -- no reply was read, so there was no item, and an empty array is refused
        cases given with
        | nil =>
          have hitems := objects_eq_ok.1 hgiven
          rw [hitems] at hentries
          exact ne_of_checkArray hentries rfl
        | cons first others =>
          rw [List.mapM_cons] at hmapped
          obtain ⟨r, -, hmapped⟩ := bind_eq_ok.1 hmapped
          obtain ⟨rs, -, hmapped⟩ := bind_eq_ok.1 hmapped
          cases hmapped
      · intro r hr
        obtain ⟨fields, -, hreply⟩ := exists_of_mem_mapM hmapped hr
        exact isNormalReply_of_replyOf hreply

/-- A normal definition is what its entry says, in any style. -/
theorem isReadFrom_entryFields (h : IsNormal d) : IsReadFrom style d.entryFields d := by
  obtain ⟨hmethod, hstatus, hheaders, hbody, halternatives, hreplies, hstateful⟩ :=
    get?_entryFields d
  refine ⟨⟨d.method, hmethod, h.method_ne_nil, h.upper_method.symm⟩, ?_, ?_, ?_, ?_, ?_, hbody.symm⟩
  · rw [hstateful]
    cases d.stateful <;> rfl
  · rw [hstatus, Option.getD_some, checkStatus_eq_ok]
    exact ⟨rfl, h.status⟩
  · rw [hheaders]
    exact checkHeaders_of_areTexts h.headers
  · rw [halternatives]
    exact checkArray_of_ne _ h.alternatives
  · rw [hreplies]
    cases hd : d.replies with
    | none => exact ⟨none, rfl, rfl⟩
    | some replies =>
      obtain ⟨hne, hall⟩ := h.replies replies hd
      have hentries : some (replies.map replyJson) ≠ some [] := by
        rw [Ne, Option.some.injEq, List.map_eq_nil_iff]
        exact hne
      have hobjects : objects (replies.map replyJson) = .ok (replies.map replyFields) := by
        rw [objects_eq_ok, List.map_map]
        rfl
      have hread : (replies.map replyFields).mapM (replyOf style) = .ok replies := by
        rw [List.mapM_map]
        have hmapped := mapM_eq_ok (f := replyOf style ∘ replyFields) (g := id) fun r hr =>
          replyOf_replyFields (hall r hr)
        rw [List.map_id] at hmapped
        exact hmapped
      refine ⟨some (replies.map replyJson), checkArray_of_ne _ hentries, ?_⟩
      exact map_eq_ok.2 ⟨replies, bind_eq_ok.2 ⟨_, hobjects, hread⟩, rfl⟩

-- ================================================================== both together

/-- An entry as it is written after it was read. -/
def normalForm (style : ObjectStyle) (entry : Json) : Except DefinitionError Json :=
  (ofJson style entry).map toJson

/-- An entry is read if and only if it is a usable definition, and refused for what
it holds otherwise. What is read is written so that it is read again as it is, in
any style, so the written entry is its own normal form. -/
theorem entry_normalized (style other : ObjectStyle) {entry : Json}
    (writable : entry.isWritable = true)
    (ascii : ∀ word, entry.field? "method" = some (.str word) → word.IsAscii) :
    ((∃ d, ofJson style entry = .ok d) ↔ IsEntry entry)
      ∧ (¬IsEntry entry → ∃ e, ofJson style entry = .error e ∧ e.isRefusal = true)
      ∧ (∀ d, ofJson style entry = .ok d → ofJson other d.toJson = .ok d)
      ∧ ∀ w, normalForm style entry = .ok w → normalForm other w = .ok w := by
  have hdecides : Decides (IsEntry entry) (ofJson style entry) := decides_ofJson style writable
  have hagain : ∀ d, ofJson style entry = .ok d → ofJson other d.toJson = .ok d := by
    intro d hd
    obtain ⟨fields, rfl, hread⟩ := ofJson_eq_ok.1 hd
    rw [toJson_eq]
    exact ofFields_eq_ok.2 (isReadFrom_entryFields (isNormal_of_isReadFrom hread ascii))
  refine ⟨isOk_iff_exists.symm.trans hdecides.isOk_iff, ?_, hagain, ?_⟩
  · intro hnot
    cases hread : ofJson style entry with
    | error e => exact ⟨e, rfl, hdecides.refusal e hread⟩
    | ok d =>
      rw [hread] at hdecides
      exact absurd (hdecides.isOk_iff.1 rfl) hnot
  · intro written h
    obtain ⟨d, hd, rfl⟩ := map_eq_ok.1 h
    exact map_eq_ok.2 ⟨d, hagain d hd, rfl⟩

/-- An entry with a field of every kind: a method in lower case, a number that makes
it stateful, headers that are no texts, and replies with little in them. -/
def pushEntry : Json := .ofFields
  [("method", .ofString "post"), ("stateful", .int 1), ("body", .null),
   ("headers", .ofFields [("x-retry", .int 3), ("x-seen", .ofFields [("by", .null)])]),
   ("alternatives", .arr [.arr [], .null]),
   ("responses", .arr [.ofFields [("body", .null)],
     .ofFields [("status", .int 599), ("headers", .ofFields [("x-late", .bool true)])]])]

/-- An entry with a method in lower case is read, and read back from what is
written of it. -/
theorem entry_normalized_push :
    pushEntry.isWritable = true
      ∧ (∀ word, pushEntry.field? "method" = some (.str word) → word.IsAscii)
      ∧ IsEntry pushEntry
      ∧ ∃ d, ofJson .pairs pushEntry = .ok d ∧ ofJson .braces d.toJson = .ok d := by
  have writable : pushEntry.isWritable = true := by decide +kernel
  have ascii : ∀ word, pushEntry.field? "method" = some (.str word) → word.IsAscii := by
    intro word hword
    obtain rfl := Json.str.inj (Option.some.inj hword)
    decide
  obtain ⟨hread, -, hagain, -⟩ := entry_normalized .pairs .braces writable ascii
  have hok : (ofJson .pairs pushEntry).isOk = true := by decide +kernel
  obtain ⟨d, hd⟩ := exists_of_isOk hok
  exact ⟨writable, ascii, hread.1 ⟨d, hd⟩, d, hd, hagain d hd⟩

end Definition

end MockApi
