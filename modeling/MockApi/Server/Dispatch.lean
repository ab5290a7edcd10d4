/-
A server in service: the route table it uses, what it has recorded, its next
id, its counts and the draws to come. `dispatch` answers one request as a
function of this state, and returns the state afterwards even where the
answer fails, for what was recorded before the failure stays.
-/
import MockApi.Chance
import MockApi.Mock.Template
import MockApi.Route.Table
import MockApi.Server.Metrics
import MockApi.Server.Response
import MockApi.Server.Store

namespace MockApi

/-- The least weight of a report that is kept. -/
inductive LogThreshold where
  | warnings
  | errors
  | nothing
deriving DecidableEq, Repr

/-- The names of the levels, each with the least weight that it keeps. -/
def LogThreshold.names : List (Text × LogThreshold) :=
  [("notset", .warnings), ("debug", .warnings), ("info", .warnings), ("warn", .warnings),
   ("warning", .warnings), ("error", .errors), ("critical", .nothing), ("fatal", .nothing)]

/-- The level of a name in any case. -/
def LogThreshold.ofName? (name : Text) : Option LogThreshold :=
  (names.find? fun entry => Text.upper entry.1 == Text.upper name).map (·.2)

def LogThreshold.keeps (t : LogThreshold) (line : LogLine) : Bool :=
  match t, line.level with
  | .warnings, _ => true
  | .errors, .error => true
  | _, _ => false

/-- The settings of a server. -/
structure ServerConfig where
  host : Text := "127.0.0.1"
  port : Int := 3000
  /-- The ports that are tried upward from `port`; at least one is. -/
  portAttempts : Int := 10
  /-- The first id of a session. -/
  startId : Int := 1
  threshold : LogThreshold := .warnings
deriving DecidableEq, Repr

/-- A server. -/
structure Server where
  config : ServerConfig
  /-- The routes given at construction. -/
  initialRoutes : RouteTable
  routes : RouteTable
  store : Store
  nextId : Int
  metrics : Metrics
  listening : Bool
  /-- The port that was bound last. -/
  port : Option Int
  chance : Chance

/-- A request with its body read. -/
structure Request where
  method : Text
  path : Text
  body : Json := .null

namespace Server

/-- A server that was never started. -/
def create (config : ServerConfig) (routes : RouteTable) (chance : Chance) : Server :=
  { config, initialRoutes := routes, routes, store := .empty, nextId := config.startId,
    metrics := {}, listening := false, port := none, chance }

/-- Methods that make a stateful route record. -/
def mutations : List Text := ["POST", "PUT", "PATCH"]

/-- What is reported of a template that cannot be rendered. -/
def unrendered (written : Text) : LogLine :=
  .warning (Template.unknownMessage written ++ "; storing the template unrendered")

/-- Records the body that a stateful definition makes of a request, and
answers with it. A template that cannot be rendered is recorded as it is. -/
def record (s : Server) (d : Definition) (path : Text) (body : Json) :
    Except RequestError Response × Server × Log :=
  let body := if Definition.isNull body then .obj [] else body
  let (rendered, nextId) := Template.render d.body body s.nextId
  let keep (record : Json) (log : Log) : Except RequestError Response × Server × Log :=
    (Response.build d.status d.headers record,
      { s with
        nextId
        store := s.store.append path record
        metrics := { s.metrics with writes := s.metrics.writes + 1 } },
      log)
  match rendered with
  | .ok record => keep record []
  | .error (.unknownPlaceholder written) => keep d.body [unrendered written]
  | .error (.numeral cause) => (.error (.numeral cause), { s with nextId }, [])

/-- Answers from a definition: one of its replies, one of its alternatives or
its body. -/
def answer (s : Server) (d : Definition) : Except RequestError Response × Server :=
  match d.replies, d.alternatives with
  | some (r :: rest), _ =>
    let (drawn, chance) := s.chance.pick? (r :: rest)
    let r := drawn.getD r
    (Response.build r.status r.headers r.body, { s with chance })
  | _, some (item :: rest) =>
    let (drawn, chance) := s.chance.pick? (item :: rest)
    (Response.build d.status d.headers (drawn.getD item), { s with chance })
  | _, _ => (Response.build d.status d.headers d.body, s)

/-- Answers a request from the definition of the route it was given. -/
def serve (s : Server) (d : Definition) (method path : Text) (body : Json) :
    Except RequestError Response × Server × Log :=
  if d.stateful && mutations.contains method then s.record d path body
  else
    let replay : Option (List Json) :=
      if method = "GET" then
        match s.store.log? path with
        | some log => some log
        | none => if d.stateful && d.method != method then some [] else none
      else none
    match replay with
    | some log => (Response.build 200 jsonHeaders (.arr log), s, [])
    | none =>
      let (response, s) := s.answer d
      (response, s, [])

/-- Answers a request. -/
def dispatch (s : Server) (r : Request) : Except RequestError Response × Server × Log :=
  let method := Text.upper r.method
  let path := Path.canonical r.path
  let metrics := { s.metrics with total := s.metrics.total + 1 }
  match (s.routes.lookUp method path).route? with
  | none =>
    (Response.notFound method path,
      { s with metrics := { metrics with unmatched := metrics.unmatched + 1 } }, [])
  | some route =>
    let s := { s with metrics := { metrics with matched := metrics.matched + 1 } }
    let (response, s, log) := s.serve route.definition method path r.body
    (response, s, log.filter s.config.threshold.keeps)

end Server

end MockApi
