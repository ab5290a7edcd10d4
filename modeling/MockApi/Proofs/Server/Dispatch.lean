/-
What one request leaves behind. A request is given a route or none; where the
route is stateful and the request a mutation it makes a record, unless an
integer of the record is too large for text.

`Dispatched` lists the four ways a request can go with the server that each
leaves, and `dispatched` says that there is no fifth. All invariants of a
server in service are read off these four cases, so that nothing below has to
open `dispatch` again. Failing answers are not a case of their own: what a
request leaves does not depend on whether its answer could be sent.
-/
import MockApi.Server.Session

namespace MockApi

-- ======================================================== what is counted

namespace Metrics

/-- One more request that no route answers. -/
def missed (m : Metrics) : Metrics := { m with total := m.total + 1, unmatched := m.unmatched + 1 }

/-- One more request that a route answers. -/
def hit (m : Metrics) : Metrics := { m with total := m.total + 1, matched := m.matched + 1 }

/-- One more record. -/
def written (m : Metrics) : Metrics := { m with writes := m.writes + 1 }

end Metrics

-- ======================================================= what is recorded

/-- The body of a request as templates read it: without one, an empty object. -/
def Request.content (r : Request) : Json :=
  if Definition.isNull r.body then .obj [] else r.body

/-- The record that a definition makes of a request's content under an id:
the rendered body, or the body as it is where it cannot be rendered. There is
none if an integer is too large for text. -/
def Definition.recordOf? (d : Definition) (content : Json) (id : Int) : Option Json :=
  match (Template.render d.body content id).1 with
  | .ok record => some record
  | .error (.unknownPlaceholder _) => some d.body
  | .error (.numeral _) => none

namespace Server

/-- The route that a request is given. -/
def routeOf? (s : Server) (r : Request) : Option Route := (s.routes.find r.method r.path).route?

/-- The definition that records a request: that of its route, if the route is
stateful and the request a mutation. -/
def recorder? (s : Server) (r : Request) : Option Definition :=
  ((s.routeOf? r).map (·.definition)).filter fun d =>
    d.stateful && mutations.contains (Text.upper r.method)

/-- The record that a request makes. -/
def made? (s : Server) (r : Request) : Option Json :=
  (s.recorder? r).bind fun d => d.recordOf? r.content s.nextId

/-- The next id behind a request that a definition records. -/
def idAfter (s : Server) (d : Definition) (r : Request) : Int :=
  (Template.render d.body r.content s.nextId).2

/-- What is played back to a request: to a reading one the log of its path, or
an empty one where a stateful route of another method stands in. -/
def replay? (s : Server) (d : Definition) (r : Request) : Option (List Json) :=
  if Text.upper r.method = "GET" then
    match s.store.log? (Path.canonical r.path) with
    | some log => some log
    | none => if d.stateful && d.method != Text.upper r.method then some [] else none
  else none

-- ================================================= the parts of an answer

/-- An answer from a definition uses up draws and nothing else. -/
theorem answer_server (s : Server) (d : Definition) :
    (s.answer d).2 = { s with chance := (s.answer d).2.chance } := by
  unfold answer
  split
  · rfl
  · rfl
  · rfl

/-- An answer from a definition does not look at the counts. -/
theorem answer_of_metrics (s : Server) (m : Metrics) (d : Definition) :
    { s with metrics := m }.answer d = ((s.answer d).1, { (s.answer d).2 with metrics := m }) := by
  unfold answer
  split
  · rfl
  · rfl
  · rfl

/-- Where a record is made, it is kept and sent. -/
theorem record_of_some {s : Server} {d : Definition} {r : Request} {v : Json}
    (h : d.recordOf? r.content s.nextId = some v) (path : Text) :
    ∃ log, s.record d path r.body =
      (Response.build d.status d.headers v,
        { s with
          nextId := s.idAfter d r
          store := s.store.append path v
          metrics := s.metrics.written },
        log) := by
  unfold Definition.recordOf? Request.content at h
  unfold record idAfter Request.content
  rcases hr : Template.render d.body (if Definition.isNull r.body then .obj [] else r.body)
    s.nextId with ⟨rendered, next⟩
  rw [hr] at h
  simp only [hr]
  rcases rendered with cause | record
  · cases cause with
    | unknownPlaceholder written =>
      obtain rfl : d.body = v := by simpa using h
      exact ⟨_, rfl⟩
    | numeral cause => simp at h
  · obtain rfl : record = v := by simpa using h
    exact ⟨_, rfl⟩

/-- Where no record can be made, an id may be gone and nothing else is. -/
theorem record_of_none {s : Server} {d : Definition} {r : Request}
    (h : d.recordOf? r.content s.nextId = none) (path : Text) :
    ∃ cause, s.record d path r.body =
      (.error (.numeral cause), { s with nextId := s.idAfter d r }, []) := by
  unfold Definition.recordOf? Request.content at h
  unfold record idAfter Request.content
  rcases hr : Template.render d.body (if Definition.isNull r.body then .obj [] else r.body)
    s.nextId with ⟨rendered, next⟩
  rw [hr] at h
  simp only [hr]
  rcases rendered with cause | record
  · cases cause with
    | unknownPlaceholder written => simp at h
    | numeral cause => exact ⟨cause, rfl⟩
  · simp at h

-- ============================================================ the request

/-- The ways a request can go, each with its answer and the server that it
leaves. -/
inductive Dispatched (s : Server) (r : Request) :
    Except RequestError Response → Server → Prop where
  /-- No route answers. -/
  | missed (noRoute : s.routeOf? r = none) :
    Dispatched s r (Response.notFound (Text.upper r.method) (Path.canonical r.path))
      { s with metrics := s.metrics.missed }
  /-- A log is played back. -/
  | replayed {route : Route} {log : List Json} (found : s.routeOf? r = some route)
    (noRecorder : s.recorder? r = none) (replay : s.replay? route.definition r = some log) :
    Dispatched s r (Response.build 200 jsonHeaders (.arr log)) { s with metrics := s.metrics.hit }
  /-- The route has its answer ready. -/
  | answered {route : Route} (found : s.routeOf? r = some route)
    (noRecorder : s.recorder? r = none) (noReplay : s.replay? route.definition r = none) :
    Dispatched s r (s.answer route.definition).1
      { s with metrics := s.metrics.hit, chance := (s.answer route.definition).2.chance }
  /-- The route records, but the record cannot be made. -/
  | failed {route : Route} {d : Definition} (cause : NumeralError)
    (found : s.routeOf? r = some route) (recorder : s.recorder? r = some d)
    (noRecord : s.made? r = none) :
    Dispatched s r (.error (.numeral cause))
      { s with metrics := s.metrics.hit, nextId := s.idAfter d r }
  /-- The route records. -/
  | recorded {route : Route} {d : Definition} {v : Json} (found : s.routeOf? r = some route)
    (recorder : s.recorder? r = some d) (record : s.made? r = some v) :
    Dispatched s r (Response.build d.status d.headers v)
      { s with
        metrics := s.metrics.hit.written
        nextId := s.idAfter d r
        store := s.store.append (Path.canonical r.path) v }

/-- A request to a route that does not record it is played back to or answered. -/
theorem serve_of_not_recording {s : Server} {r : Request} {route : Route}
    (found : s.routeOf? r = some route) (noRecorder : s.recorder? r = none)
    (h : (route.definition.stateful && mutations.contains (Text.upper r.method)) = false) :
    let served := { s with metrics := s.metrics.hit }.serve route.definition
      (Text.upper r.method) (Path.canonical r.path) r.body
    Dispatched s r served.1 served.2.1 := by
  unfold serve
  simp only [h, Bool.false_eq_true, if_false]
  split
  · rename_i log hreplay
    exact .replayed found noRecorder hreplay
  · rename_i hreplay
    rw [answer_of_metrics, answer_server]
    exact .answered found noRecorder hreplay

/-- A request to a route that records it is recorded or fails. -/
theorem serve_of_recording {s : Server} {r : Request} {route : Route}
    (found : s.routeOf? r = some route) (recorder : s.recorder? r = some route.definition)
    (h : (route.definition.stateful && mutations.contains (Text.upper r.method)) = true) :
    let served := { s with metrics := s.metrics.hit }.serve route.definition
      (Text.upper r.method) (Path.canonical r.path) r.body
    Dispatched s r served.1 served.2.1 := by
  have hmade : s.made? r = route.definition.recordOf? r.content s.nextId := by
    rw [made?, recorder, Option.bind_some]
  unfold serve
  simp only [h, if_true]
  cases hv : route.definition.recordOf? r.content s.nextId with
  | none =>
    obtain ⟨cause, hrecord⟩ := record_of_none (s := { s with metrics := s.metrics.hit }) hv
      (Path.canonical r.path)
    rw [hrecord]
    exact .failed cause found recorder (hmade.trans hv)
  | some v =>
    obtain ⟨log, hrecord⟩ := record_of_some (s := { s with metrics := s.metrics.hit }) hv
      (Path.canonical r.path)
    rw [hrecord]
    exact .recorded found recorder (hmade.trans hv)

/-- Every request goes one of these ways. -/
theorem dispatched (s : Server) (r : Request) :
    Dispatched s r (s.dispatch r).1 (s.dispatch r).2.1 := by
  unfold dispatch
  cases hroute : s.routeOf? r with
  | none =>
    have hlook : (s.routes.lookUp (Text.upper r.method) (Path.canonical r.path)).route? = none :=
      hroute
    simp only [hlook]
    exact .missed hroute
  | some route =>
    have hlook : (s.routes.lookUp (Text.upper r.method) (Path.canonical r.path)).route?
        = some route := hroute
    simp only [hlook]
    -- a route records if it is stateful and the method is one that changes something
    cases hrec : route.definition.stateful && mutations.contains (Text.upper r.method) with
    | false =>
      have hnone : s.recorder? r = none := by
        rw [recorder?, hroute, Option.map_some]
        exact Option.filter_some_neg hrec
      exact serve_of_not_recording hroute hnone hrec
    | true =>
      have hsome : s.recorder? r = some route.definition := by
        rw [recorder?, hroute, Option.map_some]
        exact Option.filter_some_pos hrec
      exact serve_of_recording hroute hsome hrec

end Server

end MockApi
