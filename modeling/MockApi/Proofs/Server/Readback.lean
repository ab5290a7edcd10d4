/-
Reading back what was recorded. A mutation that a stateful route records is
answered with its record, and a reading request on its path right behind it is
given a route and played the log of the path, whose last item is that record.

Both answers show one value, but not by one way. A null record is answered as
an empty object and played back as null; and a log that holds an integer too
large for text cannot be played back at all. Where neither is the case the last
item of the log is what the mutation was answered with: there is no third
exception.
-/
import MockApi.Proofs.Mock.Definition
import MockApi.Proofs.Mock.Template
import MockApi.Proofs.Route.Table
import MockApi.Proofs.Server.Dispatch
import MockApi.Proofs.Server.Response
import MockApi.Proofs.Server.Store

namespace MockApi

/-- The answer shows an array, and another one shows the last item of it. -/
def Response.EndsWith (reply last : Response) : Prop :=
  ∃ items v, reply.body = (Json.arr (items ++ [v])).text .body ∧ last.body = v.text .body

/-- An array that ends with null does not end with the empty object that is
answered for it. -/
theorem Response.not_endsWith_of_null {reply last : Response} {items : List Json}
    (hreply : reply.body = (Json.arr (items ++ [.null])).text .body)
    (hlast : last.body = (Json.obj []).text .body) : ¬reply.EndsWith last := by
  rintro ⟨items', v, hitems, hv⟩
  have hnull : Json.null.text .body ++ ("]" : Text) <:+ reply.body := by
    rw [hreply]
    exact Json.text_suffix_arr rfl items .null
  have hobj : (Json.obj []).text .body ++ ("]" : Text) <:+ reply.body := by
    rw [← hlast, hv, hitems]
    exact Json.text_suffix_arr rfl items' v
  have hends := List.suffix_of_suffix_length_le hobj hnull (by decide)
  exact absurd hends (by decide)

-- ============================================================== the record

/-- Filling a template leaves null null, and nothing else becomes it. -/
theorem Template.isNull_filled (id : Int) (content template : Json) :
    Definition.isNull (filled id content template) = Definition.isNull template := by
  cases template <;> rfl

/-- A record is null where the body of its definition is. -/
theorem Definition.isNull_of_recordOf? {d : Definition} {content v : Json} {id : Int}
    (h : d.recordOf? content id = some v) : isNull v = isNull d.body := by
  rw [recordOf?, Template.render_eq] at h
  cases hunknown : Template.firstUnknown? d.body with
  | some written =>
    rw [hunknown] at h
    rw [← Option.some.inj h]
  | none =>
    rw [hunknown] at h
    cases hfill : Template.isFillable id content d.body with
    | false =>
      rw [hfill] at h
      cases h
    | true =>
      rw [hfill] at h
      rw [← Option.some.inj h]
      exact Template.isNull_filled ..

namespace Server

/-- What a mutation that was answered has left: its record at the end of the
log of its path, and the answer shows the record. -/
theorem recorded_of_ok {s : Server} {r : Request} {d : Definition} {post : Response}
    (recorder : s.recorder? r = some d) (sent : (s.dispatch r).1 = .ok post) :
    ∃ v, Definition.isNull v = Definition.isNull d.body
      ∧ Response.build d.status d.headers v = .ok post
      ∧ (s.dispatch r).2.1.routes = s.routes
      ∧ (s.dispatch r).2.1.store = s.store.append (Path.canonical r.path) v := by
  have h := s.dispatched r
  rw [sent] at h
  generalize (s.dispatch r).2.1 = t at h ⊢
  generalize hanswer : Except.ok post = answer at h
  cases h with
  | missed noRoute =>
    rw [recorder?, noRoute] at recorder
    cases recorder
  | replayed found noRecorder replay =>
    rw [noRecorder] at recorder
    cases recorder
  | answered found noRecorder noReplay =>
    rw [noRecorder] at recorder
    cases recorder
  | failed cause found recorder' noRecord => cases hanswer
  | @recorded route d' v found recorder' record =>
    obtain rfl : d = d' := Option.some.inj (recorder.symm.trans recorder')
    rw [made?, recorder, Option.bind_some] at record
    exact ⟨v, Definition.isNull_of_recordOf? record, rfl, rfl, rfl⟩

-- ============================================================= reading back

/-- The route of a request that is recorded is stateful and fits its path. -/
theorem replays_of_recorder {s : Server} {r : Request} {d : Definition}
    (recorder : s.recorder? r = some d) :
    ∃ route ∈ s.routes, route.replays (Path.canonical r.path) = true := by
  rw [recorder?] at recorder
  obtain ⟨hroute, hstateful⟩ := Option.filter_eq_some_iff.1 recorder
  obtain ⟨route, hfound, rfl⟩ := Option.map_eq_some_iff.1 hroute
  obtain ⟨hmem, hfits⟩ := RouteTable.of_lookUp_eq_some hfound
  rw [Bool.and_eq_true] at hstateful
  refine ⟨route, hmem, ?_⟩
  rw [Route.replays, hstateful.1, hfits]
  rfl

/-- A reading request that has a route is played the log of its path. -/
theorem answer_of_log {s : Server} {read : Request} {log : List Json}
    (get : Text.upper read.method = "GET") (found : (s.routeOf? read).isSome = true)
    (recorded : s.store.log? (Path.canonical read.path) = some log) :
    (s.dispatch read).1 = Response.build 200 jsonHeaders (.arr log) := by
  -- a GET records nothing whatever route it has, and every route replays the log
  have noRecorder : s.recorder? read = none := by
    rw [recorder?, get, Option.filter_eq_none_iff]
    intro d hd
    have hget : mutations.contains ("GET" : Text) = false := by decide
    rw [hget, Bool.and_false]
    exact Bool.false_ne_true
  have hreplay : ∀ d, s.replay? d read = some log := by
    intro d
    rw [replay?, if_pos get, recorded]
  have h := s.dispatched read
  generalize (s.dispatch read).1 = answer, (s.dispatch read).2.1 = t at h ⊢
  -- of the ways of a dispatch, only the replay is left
  cases h with
  | missed noRoute =>
    rw [noRoute] at found
    cases found
  | @replayed route log' found noRecorder replay =>
    rw [hreplay route.definition] at replay
    rw [Option.some.inj replay]
  | @answered route found noRecorder noReplay =>
    rw [hreplay route.definition] at noReplay
    cases noReplay
  | failed cause found recorder noRecord =>
    rw [noRecorder] at recorder
    cases recorder
  | recorded found recorder record =>
    rw [noRecorder] at recorder
    cases recorder

/-- A mutation that was answered with a body is read back by a reading request
right behind it, if and only if its record is not null and the log of its path
could be written before. The answer then has status 200 and shows an array
whose last item is what the mutation was answered with. -/
theorem readback_iff {s : Server} {r read : Request} {d : Definition} {post : Response}
    (recorder : s.recorder? r = some d) (sent : (s.dispatch r).1 = .ok post)
    (hasBody : Response.hasNoBody post.status = false)
    (get : Text.upper read.method = "GET")
    (samePath : Path.canonical read.path = Path.canonical r.path) :
    (∃ reply, ((s.dispatch r).2.1.dispatch read).1 = .ok reply
        ∧ reply.status = 200 ∧ reply.EndsWith post)
      ↔ Definition.isNull d.body = false
        ∧ ∀ v ∈ s.store.log (Path.canonical r.path), v.isWritable = true := by
  obtain ⟨v, hnull, hbuild, hroutes, hstore⟩ := recorded_of_ok recorder sent
  obtain ⟨hwritable, hbody⟩ := Response.body_of_build hbuild hasBody
  have hreply : ((s.dispatch r).2.1.dispatch read).1
      = Response.build 200 jsonHeaders (.arr (s.store.log (Path.canonical r.path) ++ [v])) := by
    have hfound : ((s.dispatch r).2.1.routeOf? read).isSome = true := by
      obtain ⟨route, hmem, hreplays⟩ := replays_of_recorder recorder
      rw [← samePath] at hreplays
      rw [routeOf?, hroutes, RouteTable.find, get]
      exact RouteTable.lookUp_get_isSome hmem hreplays
    refine answer_of_log get hfound ?_
    rw [hstore, samePath, Store.log?_append_self]
  rw [hreply, Response.build_json rfl, Json.isWritable_arr, ← hnull]
  constructor
  · rintro ⟨reply, hok, -, hends⟩
    split at hok
    · next hall =>
      rw [List.all_append, Bool.and_eq_true, List.all_eq_true] at hall
      refine ⟨?_, hall.1⟩
      -- a null record would be the last item of the log, not what was answered for it
      cases hv : Definition.isNull v with
      | false => rfl
      | true =>
        rw [Response.sent, hv] at hbody
        rw [Definition.eq_null_of_isNull hv] at hok
        rw [← Except.ok.inj hok] at hends
        exact absurd hends (Response.not_endsWith_of_null rfl hbody)
    · cases hok
  · rintro ⟨hv, hearlier⟩
    rw [Response.sent_of_not_null hv] at hwritable hbody
    have hall : (s.store.log (Path.canonical r.path) ++ [v]).all Json.isWritable = true := by
      rw [List.all_append, Bool.and_eq_true]
      exact ⟨List.all_eq_true.2 hearlier, by simp [hwritable]⟩
    rw [if_pos hall]
    exact ⟨_, rfl, rfl, _, v, rfl, hbody⟩

/-- Records a body at the path of pings. -/
def pingRoute (body : Json) : Route where
  pattern := "/ping"
  definition := { method := "POST", status := 201, headers := jsonHeaders, body, stateful := true }

/-- A server that was made with one route. -/
def pingServer (body : Json) : Server := create {} [pingRoute body] ⟨[]⟩

/-- A mutation at the path of pings. -/
def ping : Request := { method := "post", path := "/ping/" }

/-- A reading request at the path of pings. -/
def readPings : Request := { method := "GET", path := "/ping" }

/-- A ping that is filled is read back. -/
theorem readback_iff_ping :
    let s := pingServer (.ofFields [("n", .ofString "\x7b\x7bauto\x7d\x7d")])
    ∃ post reply, (s.dispatch ping).1 = .ok post
      ∧ ((s.dispatch ping).2.1.dispatch readPings).1 = .ok reply ∧ reply.EndsWith post := by
  intro s
  obtain ⟨d, recorder, hnull⟩ : ∃ d, s.recorder? ping = some d ∧ Definition.isNull d.body = false :=
    Option.map_eq_some_iff.1 (by decide +kernel)
  have hsent : (s.dispatch ping).1.toOption.map (Response.hasNoBody ·.status) = some false := by
    decide +kernel
  cases sent : (s.dispatch ping).1 with
  | error cause =>
    rw [sent] at hsent
    cases hsent
  | ok post =>
    rw [sent] at hsent
    have get : Text.upper readPings.method = "GET" := by decide +kernel
    have samePath : Path.canonical readPings.path = Path.canonical ping.path := by decide +kernel
    have hlog : ∀ v ∈ s.store.log (Path.canonical ping.path), v.isWritable = true :=
      fun _ h => nomatch h
    obtain ⟨reply, hreply, -, hends⟩ :=
      (readback_iff recorder sent (Option.some.inj hsent) get samePath).2 ⟨hnull, hlog⟩
    exact ⟨post, reply, rfl, hreply, hends⟩

/-- Without a body a mutation is answered with an empty object, and it is null
that is read back. -/
theorem null_record_read_back :
    let posted := (pingServer .null).dispatch ping
    posted.1.toOption.map (·.body) = some "\x7b\x7d"
      ∧ (posted.2.1.dispatch readPings).1.toOption.map (·.body) = some "[null]" := by
  decide +kernel

end Server

end MockApi
