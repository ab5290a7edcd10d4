/-
What a failing request leaves behind. The count of requests moves on in any
case; beyond that a request leaves nothing if it records nothing and takes no
id, and whether it is answered does not matter for either (`untouched_iff`).

So a failure leaves a trace in two places, and `failed_with_trace_iff` says that
there is no third. An id that was drawn is gone where the record cannot be made
after all. And a record is kept before its response is built, so it stays, with
its id, where the response cannot be sent: that is up to the definition's
headers, which may hold any characters, and to the integers of the record.
-/
import MockApi.Proofs.Mock.Template
import MockApi.Proofs.Server.Identity
import MockApi.Proofs.Server.Response

namespace MockApi.Server

variable {s t : Server} {r : Request} {d : Definition}

/-- Between the two servers nothing was recorded and no id was taken. -/
structure Untouched (s t : Server) : Prop where
  store : t.store = s.store
  nextId : t.nextId = s.nextId
  writes : t.metrics.writes = s.metrics.writes

-- ============================================================== the traces

/-- A request takes an id if its definition records it with one. -/
theorem nextId_idAfter_iff (recorder : s.recorder? r = some d) :
    s.idAfter d r = s.nextId ↔ Template.takesId d.body = false := by
  rw [idAfter_eq recorder, draw?_request, recorder, Option.filter_some]
  cases Template.takesId d.body with
  | true =>
    simp only [if_true, Option.map_some, Option.isSome_some, Bool.true_eq_false, iff_false]
    omega
  | false => simp

/-- A request that no definition records leaves nothing. One that a definition
records leaves the id behind it; it either fails for want of a record, or makes
one that counts, and is answered with it. -/
theorem dispatch_traces (s : Server) (r : Request) :
    (s.recorder? r = none ∧ Untouched s (s.dispatch r).2.1)
      ∨ ∃ d, s.recorder? r = some d ∧ (s.dispatch r).2.1.nextId = s.idAfter d r
        ∧ ((s.made? r = none ∧ (∃ cause, (s.dispatch r).1 = .error cause)
            ∧ (s.dispatch r).2.1.store = s.store
            ∧ (s.dispatch r).2.1.metrics.writes = s.metrics.writes)
          ∨ ∃ v, s.made? r = some v
            ∧ (s.dispatch r).1 = Response.build d.status d.headers v
            ∧ (s.dispatch r).2.1.metrics.writes = s.metrics.writes + 1) := by
  have h := s.dispatched r
  generalize (s.dispatch r).1 = answer, (s.dispatch r).2.1 = t at h ⊢
  cases h with
  | missed noRoute =>
    have noRecorder : s.recorder? r = none := by rw [recorder?, noRoute]; rfl
    exact .inl ⟨noRecorder, rfl, rfl, rfl⟩
  | replayed found noRecorder replay => exact .inl ⟨noRecorder, rfl, rfl, rfl⟩
  | answered found noRecorder noReplay => exact .inl ⟨noRecorder, rfl, rfl, rfl⟩
  | failed cause found recorder noRecord =>
    exact .inr ⟨_, recorder, rfl, .inl ⟨noRecord, ⟨_, rfl⟩, rfl, rfl⟩⟩
  | recorded found recorder record =>
    exact .inr ⟨_, recorder, rfl, .inr ⟨_, record, rfl, rfl⟩⟩

/-- A request leaves a trace if and only if it is recorded or takes an id. -/
theorem untouched_iff (s : Server) (r : Request) :
    Untouched s (s.dispatch r).2.1
      ↔ ∀ d, s.recorder? r = some d → s.made? r = none ∧ Template.takesId d.body = false := by
  rcases s.dispatch_traces r with ⟨noRecorder, untouched⟩
    | ⟨d, recorder, hid, ⟨noRecord, -, hstore, hwrites⟩ | ⟨v, record, -, hwrites⟩⟩
  · refine iff_of_true untouched fun d recorder => ?_
    rw [noRecorder] at recorder
    cases recorder
  · have hkept := nextId_idAfter_iff recorder
    rw [← hid] at hkept
    constructor
    · intro untouched other hother
      obtain rfl : d = other := Option.some.inj (recorder.symm.trans hother)
      exact ⟨noRecord, hkept.1 untouched.nextId⟩
    · intro h
      exact ⟨hstore, hkept.2 (h d recorder).2, hwrites⟩
  · refine iff_of_false (fun untouched => ?_) fun h => ?_
    · have hsame := untouched.writes
      omega
    · have hnone := (h d recorder).1
      rw [record] at hnone
      cases hnone

-- ============================================================ the failures

/-- A request that a definition records fails if and only if there is no record
or no response that could be sent for it. -/
theorem failed_iff_of_recorder (recorder : s.recorder? r = some d) :
    (∃ cause, (s.dispatch r).1 = .error cause)
      ↔ ∀ v, s.made? r = some v → Response.isSendable d.status d.headers v = false := by
  rcases s.dispatch_traces r with ⟨noRecorder, -⟩
    | ⟨d', recorder', -, ⟨noRecord, failed, -⟩ | ⟨v, record, hanswer, -⟩⟩
  · rw [noRecorder] at recorder
    cases recorder
  · refine iff_of_true failed fun v record => ?_
    rw [noRecord] at record
    cases record
  · obtain rfl : d = d' := Option.some.inj (recorder.symm.trans recorder')
    have hsend := Response.build_isOk_iff d.status d.headers v
    rw [hanswer, record]
    simp only [Option.some.injEq, forall_eq', ← Bool.not_eq_true, ← hsend]
    cases Response.build d.status d.headers v with
    | error cause => simp
    | ok response => simp

/-- A request fails and leaves a trace exactly where a definition records it and
either takes an id for a record that then cannot be made, or makes a record
whose response cannot be sent. Every other request that fails leaves the store,
the next id and the count of records as they were. -/
theorem failed_with_trace_iff (s : Server) (r : Request) :
    ((∃ cause, (s.dispatch r).1 = .error cause) ∧ ¬Untouched s (s.dispatch r).2.1)
      ↔ ∃ d, s.recorder? r = some d
        ∧ ((s.made? r = none ∧ Template.takesId d.body = true)
          ∨ ∃ v, s.made? r = some v ∧ Response.isSendable d.status d.headers v = false) := by
  rw [untouched_iff]
  cases recorder : s.recorder? r with
  | none => simp
  | some d =>
    rw [failed_iff_of_recorder recorder]
    cases record : s.made? r with
    | none => simp
    | some v => simp

-- ====================================================== a header that fails

/-- A bundle whose only definition numbers notes and names an arrow in a header. -/
def arrowBundle : Fields :=
  [("/notes", .ofFields
    [("method", .ofString "POST"), ("stateful", .bool true),
     ("headers", .ofFields [("x-note", .ofString "→")]),
     ("body", .ofFields [("id", .ofString "\x7b\x7bauto\x7d\x7d")])])]

/-- A server that was made with the table of that bundle. -/
def arrowServer : Server := create {} (RouteTable.ofEntries .braces arrowBundle).1 ⟨[]⟩

def noteWrite : Request := { method := "POST", path := "/notes" }

/-- A definition is accepted whose header no response can carry: the request
fails, but its record is kept, its id is gone and it counts as written. -/
theorem failed_request_recorded :
    let t := (arrowServer.dispatch noteWrite).2.1
    (∃ cause, (arrowServer.dispatch noteWrite).1 = .error cause)
      ∧ ¬Untouched arrowServer t
      ∧ (t.store.log "/notes").map (Json.text .body) = [("\x7b\"id\": \"1\"\x7d" : Text)]
      ∧ t.nextId = arrowServer.nextId + 1
      ∧ t.metrics.writes = arrowServer.metrics.writes + 1 := by
  intro t
  have hfailed : (arrowServer.dispatch noteWrite).1.toOption = none := by decide +kernel
  have hlog : (t.store.log "/notes").map (Json.text .body)
      = [("\x7b\"id\": \"1\"\x7d" : Text)] := by decide +kernel
  have hid : t.nextId = arrowServer.nextId + 1 := by decide +kernel
  have hwrites : t.metrics.writes = arrowServer.metrics.writes + 1 := by decide +kernel
  refine ⟨?_, fun untouched => ?_, hlog, hid, hwrites⟩
  · cases hanswer : (arrowServer.dispatch noteWrite).1 with
    | error cause => exact ⟨cause, rfl⟩
    | ok response =>
      rw [hanswer] at hfailed
      cases hfailed
  · rw [untouched.nextId] at hid
    omega

end MockApi.Server
