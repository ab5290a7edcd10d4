/-
What an operation tells of the answer of its mock. The reply of the mock stands under its
status, and beside it stand the replies that any operation may give; where one of those
has the same status, it takes the place of the mock's (`success_shown_iff`). No category
has such a status, so only a response given by hand is lost that way. The schema of its
body is registered nevertheless, and the example goes with the reply.
-/
import MockApi.Proofs.Api.Document
import MockApi.Proofs.Decimal.Integer
import MockApi.Proofs.Mock.Generator

namespace MockApi

-- ================================================================= the replies

namespace Json

/-- A reply tells what the mock of an endpoint answers: it is described as that, and has
the body for its example if there is one. -/
structure ShowsAnswer (entry : Json) (method path : Text) (body : Json) : Prop where
  described : entry.field? "description"
    = some (.str ("Mocked response for " ++ (Text.upper method ++ " " ++ path)))
  empty : body = .null → entry.field? "content" = none
  shown : body ≠ .null →
    ((entry.member "content").member "application/json").field? "example" = some body

end Json

namespace Operation

variable {o : Operation}

/-- The statuses of the replies that any operation may give. -/
def commonStatuses : List Int := [400, 401, 404, 500]

theorem keys_commonReplies : commonReplies.map (·.1) = commonStatuses.map decimal := by
  decide

theorem decimal_mem_keys_iff {n : Int} :
    decimal n ∈ commonReplies.map (·.1) ↔ n ∈ commonStatuses := by
  rw [keys_commonReplies, List.mem_map_of_injective decimal_injective]

/-- The replies that any operation may give stand in all of them. -/
theorem get?_replies_of_mem {entry : Text × Json} (h : entry ∈ commonReplies) :
    Fields.get? entry.1 o.replies = some entry.2 := by
  have hdistinct : (commonReplies.reverse.map (·.1)).Nodup := by
    decide
  rw [replies_eq, Fields.get?_ofPairs, List.reverse_cons]
  -- of two replies of one status the later counts, and the mock's own comes first
  refine Fields.get?_append_of_eq_some ?_ _
  exact Fields.get?_eq_some_of_mem hdistinct (List.mem_reverse.2 h)

/-- The reply of the mock stands where none of those does. -/
theorem get?_replies_status (h : o.status ∉ commonReplies.map (·.1)) :
    Fields.get? o.status o.replies = some o.replyJson := by
  have hnew : o.status ∉ commonReplies.reverse.map (·.1) := by
    rw [List.map_reverse, List.mem_reverse]
    exact h
  rw [replies_eq, Fields.get?_ofPairs, List.reverse_cons, Fields.get?_append_of_not_mem hnew,
    Fields.get?, if_pos rfl]

/-- A reply that any operation may give tells of no mock. -/
theorem not_showsAnswer_of_mem {entry : Text × Json} (h : entry ∈ commonReplies)
    (method path : Text) (body : Json) : ¬entry.2.ShowsAnswer method path body := by
  have hother : ∀ entry ∈ commonReplies, ∀ t : Text,
      entry.2.field? "description" = some (.str t) → t.head? ≠ some ('M' : CodePoint) := by
    intro entry hentry t ht
    simp only [commonReplies, List.mem_cons, List.not_mem_nil, or_false] at hentry
    rcases hentry with rfl | rfl | rfl | rfl <;>
    · obtain rfl := Json.str.inj (Option.some.inj ht)
      decide
  exact fun hshows => hother entry h _ hshows.described rfl

theorem described_replyJson (o : Operation) :
    o.replyJson.field? "description"
      = some (.str ("Mocked response for " ++ (Text.upper o.method ++ " " ++ o.path))) := by
  unfold replyJson
  cases o.reply <;> simp [Json.ofFields, Json.field?, Fields.get?, summary]

/-- The reply of an operation tells what its example is. -/
theorem showsAnswer_replyJson {body : Json}
    (h : o.reply.map (·.value) = if Definition.isNull body then none else some body) :
    o.replyJson.ShowsAnswer o.method o.path body := by
  refine ⟨described_replyJson o, fun hnull => ?_, fun hbody => ?_⟩
  · rw [hnull, Definition.isNull, if_pos rfl, Option.map_eq_none_iff] at h
    simp [replyJson, h, Json.ofFields, Json.field?, Fields.get?]
  · have hnull : ¬Definition.isNull body = true := mt Definition.eq_null_of_isNull hbody
    rw [if_neg hnull] at h
    obtain ⟨e, hreply, rfl⟩ := Option.map_eq_some_iff.1 h
    simp [replyJson, hreply, content, Json.ofFields, Json.member, Json.field?, Fields.get?]

end Operation

-- ================================================================ an addition

/-- An integer that can be written is written in decimal digits. -/
theorem eq_decimal_of_writeInteger {n : Int} {t : Text} (h : writeInteger n = .ok t) :
    t = decimal n := by
  unfold writeInteger at h
  split at h
  · exact (Except.ok.inj h).symm
  · cases h

/-- Only a response given by hand has a status that any operation may give. -/
theorem Generator.of_status_mem {g : Generator} {method url : Text} {chance rest : Chance}
    {mock : Definition} (h : g.generate method url chance = .ok (mock, rest))
    (common : mock.status ∈ Operation.commonStatuses) :
    ∃ fields, g.config.templateFor url = some (.obj fields)
      ∧ Generator.templateStatus fields = mock.status := by
  rcases generate_cases h with ⟨template, htemplate, rfl⟩ | ⟨-, body, rfl⟩
  · cases template with
    | obj fields => exact ⟨fields, htemplate, rfl⟩
    | _ => exact absurd common (show (200 : Int) ∉ Operation.commonStatuses by decide)
  · have hcategory : ∀ category method,
        Category.status category method ∉ Operation.commonStatuses := by
      intro category method
      unfold Category.status
      simp only
      split_ifs <;> decide
    exact absurd common (hcategory _ _)

namespace Description

variable {g : Generator} {d : Description} {call : Call} {chance : Chance} {o : Operation}

/-- The example of the reply is the body of the mock, if it has one. -/
theorem map_value_examples (method name : Text) (body : Json) (r : Registry) :
    (examples method name body r).2.1.map (·.value)
      = if Definition.isNull body then none else some body := by
  unfold examples exampleOf
  by_cases hsends : sendsBody method = true <;>
    by_cases hnull : Definition.isNull body = true <;> simp [hsends, hnull]

/-- What an addition gives shows the mock that is made up for the endpoint if and only if
that has none of the statuses that any operation may give; those always stand for
themselves. A mock that is not shown is a response given by hand. -/
theorem success_shown_iff (h : (d.add g call chance).1 = .ok o) :
    ∃ mock rest status, g.generate call.method call.url chance = .ok (mock, rest)
      ∧ writeInteger mock.status = .ok status
      ∧ let replies := o.toJson.member "responses"
        ((∃ entry, replies.field? status = some entry
              ∧ entry.ShowsAnswer call.method o.path mock.body)
            ↔ mock.status ∉ Operation.commonStatuses)
          ∧ (∀ entry ∈ Operation.commonReplies, replies.field? entry.1 = some entry.2)
          ∧ (mock.status ∈ Operation.commonStatuses →
            ∃ fields, g.config.templateFor call.url = some (.obj fields)
              ∧ Generator.templateStatus fields = mock.status) := by
  have hadded := added g d call chance
  generalize d.add g call chance = result at hadded h
  cases hadded with
  | refused cause blame => cases h
  | unwritten ofUrl made named status => cases h
  | @described template mock name rest' status ofUrl made named written =>
    obtain rfl := Except.ok.inj h
    refine ⟨mock, _, status, made, written, ?_⟩
    rw [(Operation.members_toJson _).2]
    -- the common replies are written later, so all turns on whether
    -- the status is among theirs
    have hkey : status ∈ Operation.commonReplies.map (·.1)
        ↔ mock.status ∈ Operation.commonStatuses := by
      rw [eq_decimal_of_writeInteger written, Operation.decimal_mem_keys_iff]
    refine ⟨?_, fun entry hentry => Operation.get?_replies_of_mem hentry,
      Generator.of_status_mem made⟩
    constructor
    · rintro ⟨entry, hentry, hshows⟩ hcommon
      obtain ⟨common, hmem, rfl⟩ := List.mem_map.1 (hkey.2 hcommon)
      obtain rfl := Option.some.inj ((Operation.get?_replies_of_mem hmem).symm.trans hentry)
      exact Operation.not_showsAnswer_of_mem hmem _ _ _ hshows
    · intro hown
      have hget := Operation.get?_replies_status
        (o := operationOf call template status (d.examplesOf call name mock)) (mt hkey.1 hown)
      exact ⟨_, hget, Operation.showsAnswer_replyJson (map_value_examples ..)⟩

/-- Gives two responses by hand, one of them with the status of a common reply. -/
def archiveGenerator : Generator where
  config :=
    { templates :=
      [("/archive", .ofFields
         [("status", .int 404), ("body", .ofFields [("error", .ofString "gone")])]),
       ("/files", .ofFields [("status", .int 503), ("body", .arr [])])] }
  now := ⟨2024, 1, 1, 0, 0, 0⟩

/-- A status that is no common one is shown with its answer. -/
theorem success_shown_iff_files :
    ∃ o, (add archiveGenerator {} ⟨"post", "/files"⟩ ⟨[]⟩).1 = .ok o
      ∧ ∃ entry, (o.toJson.member "responses").field? "503" = some entry
        ∧ entry.ShowsAnswer "post" o.path (.arr []) := by
  have hmade : archiveGenerator.generate "post" "/files" ⟨[]⟩
      = .ok (⟨"POST", 503, jsonHeaders, .arr [], none, false, none⟩, ⟨[]⟩) := rfl
  have hadd : (add archiveGenerator {} ⟨"post", "/files"⟩ ⟨[]⟩).1.isOk = true := by decide +kernel
  obtain ⟨o, ho⟩ := exists_of_isOk hadd
  obtain ⟨mock, rest, status, hmock, hstatus, hshown, -, -⟩ := success_shown_iff ho
  obtain ⟨rfl, -⟩ := Prod.mk.inj (Except.ok.inj (hmade.symm.trans hmock))
  have hdecimal : decimal 503 = "503" := by decide +kernel
  rw [eq_decimal_of_writeInteger hstatus, hdecimal] at hshown
  exact ⟨o, ho, hshown.2 (by decide)⟩

/-- A response with the status of a common reply is not told, though the schema of its body
is registered. -/
theorem success_replaced :
    let made := add archiveGenerator {} ⟨"GET", "/archive"⟩ ⟨[]⟩
    (archiveGenerator.generate "GET" "/archive" ⟨[]⟩).map (fun mock => (mock.1.status, mock.1.body))
        = .ok (404, .ofFields [("error", .ofString "gone")])
      ∧ made.1.toOption.map (fun o =>
          let reply := (o.toJson.member "responses").member "404"
          (reply.keys, reply.strings))
        = some ((["description"] : List Text), (["Not Found"] : List Text))
      ∧ made.2.1.registry.names = (["Archive"] : List Text) := by
  refine ⟨rfl, ?_⟩
  decide +kernel

end Description

end MockApi
