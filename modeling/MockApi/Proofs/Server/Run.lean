/-
Runs of a server in service. Between the beginning of a session and its end a
server meets requests and reloads, in any order and with any file on the disk
at each reload; an event leaves a server behind whether or not it is answered.

A run is told by its turns: every event with the server that met it. What a
run does is then a list over its turns, and a fact about runs is a fact about
one turn and an induction. A session begins at construction or with a
successful start, and it begins clean (`BeginsSession.clean`).
-/
import MockApi.Proofs.Server.Dispatch

namespace MockApi

/-- What a server in service meets. -/
inductive Event where
  | request (r : Request)
  /-- The bundle file is read again, as it is on the disk then. -/
  | reload (disk : Disk)

def Event.isRequest : Event → Bool
  | request _ => true
  | reload _ => false

namespace Server

variable (project : Project)

-- ================================================================= runs

/-- The server behind an event. -/
def after [JsonReader] (s : Server) : Event → Server
  | .request r => (s.dispatch r).2.1
  | .reload disk => (s.reload disk project).2.1

@[simp]
theorem after_request [JsonReader] (s : Server) (r : Request) :
    s.after project (.request r) = (s.dispatch r).2.1 := rfl

@[simp]
theorem after_reload [JsonReader] (s : Server) (disk : Disk) :
    s.after project (.reload disk) = (s.reload disk project).2.1 := rfl

def run [JsonReader] (s : Server) (events : List Event) : Server := events.foldl (after project) s

/-- The events of a run, each with the server that met it. -/
def turns [JsonReader] (s : Server) : List Event → List (Server × Event)
  | [] => []
  | e :: rest => (s, e) :: turns (s.after project e) rest

@[simp]
theorem run_nil [JsonReader] (s : Server) : s.run project [] = s := rfl

@[simp]
theorem run_cons [JsonReader] (s : Server) (e : Event) (rest : List Event) :
    s.run project (e :: rest) = (s.after project e).run project rest := rfl

theorem run_append [JsonReader] (s : Server) (earlier later : List Event) :
    s.run project (earlier ++ later) = (s.run project earlier).run project later := by
  unfold run
  rw [List.foldl_append]

/-- A reload changes the routes and nothing else. -/
theorem reload_server [JsonReader] (s : Server) (disk : Disk) :
    ∃ routes, (s.reload disk project).2.1 = { s with routes } := by
  unfold reload
  split
  · exact ⟨_, rfl⟩
  · exact ⟨s.routes, rfl⟩
  · exact ⟨s.routes, rfl⟩

/-- An event changes neither what the server was made of nor whether and where
it listens. -/
theorem after_server [JsonReader] (s : Server) (e : Event) :
    ∃ routes store nextId metrics chance,
      s.after project e = { s with routes, store, nextId, metrics, chance } := by
  cases e with
  | request r =>
    have h := s.dispatched r
    rw [after_request]
    generalize (s.dispatch r).1 = answer, (s.dispatch r).2.1 = t at h ⊢
    cases h <;> exact ⟨_, _, _, _, _, rfl⟩
  | reload disk =>
    obtain ⟨routes, h⟩ := s.reload_server project disk
    rw [after_reload, h]
    exact ⟨routes, s.store, s.nextId, s.metrics, s.chance, rfl⟩

variable {project}

-- ============================================================= starting

/-- The server that has bound a port and opened a session. -/
def opened (s : Server) (ports : Int → BindOutcome) : Server :=
  { (s.bind ports).server.fresh with metrics := {}, listening := true }

/-- Reads the bundle file of a session that was opened, if there is one. -/
def readBundle [JsonReader] (s : Server) (disk : Disk) (project : Project) :
    Except BundleError Bool × Server × Log :=
  match disk.isFile project.bundleFile with
  | .error cause => (.error (.unreachable cause), s, [])
  | .ok true => s.reload disk project
  | .ok false => (.ok true, s, [])

/-- To read a bundle changes no more than the routes. -/
theorem readBundle_server [JsonReader] (s : Server) (project : Project) (disk : Disk) :
    ∃ routes, (s.readBundle disk project).2.1 = { s with routes } := by
  unfold readBundle
  split
  · exact ⟨s.routes, rfl⟩
  · exact s.reload_server project disk
  · exact ⟨s.routes, rfl⟩

/-- A start of a stopped server that binds a port: a session is opened, the
bundle is read, and the service goes on as it does. -/
theorem start_of_bound [JsonReader] {s : Server} {ports : Int → BindOutcome} {port : Int}
    (idle : s.listening = false) (bound : (s.bind ports).result = .ok port) (disk : Disk)
    (service : Service) :
    s.start disk project ports service =
      let (loaded, t, log) := (s.opened ports).readBundle disk project
      let log := (s.bind ports).log ++ log
      let tried := (s.bind ports).tried
      match loaded with
      | .error e => { result := .error (.bundle e), server := t, log, tried }
      | .ok _ =>
        match service with
        | .background => { result := .ok port, server := t, log, printed := t.greeting, tried }
        | .foreground =>
          { result := .ok port, server := t.shut, log, printed := t.greeting,
            tried := tried.map Attempt.close }
        | .failing =>
          { result := .error .failedToStart, server := t.shut, log,
            printed := t.greeting ++ [farewell], tried := tried.map Attempt.close } := by
  unfold start
  rw [if_neg (by simp [idle])]
  simp only [bound]
  rfl

/-- A start that does not fail finds the server stopped and binds a port. -/
theorem bound_of_start [JsonReader] {s : Server} {disk : Disk} {ports : Int → BindOutcome}
    {service : Service} {port : Int} (h : (s.start disk project ports service).result = .ok port) :
    s.listening = false ∧ ∃ bound, (s.bind ports).result = .ok bound := by
  unfold start at h
  split at h
  · cases h
  · next idle =>
    refine ⟨by simpa using idle, ?_⟩
    cases bound : (s.bind ports).result with
    | error e =>
      simp only [bound] at h
      cases h
    | ok port => exact ⟨port, rfl⟩

-- ============================================================= sessions

/-- A server at the beginning of a session: just made, or just started. -/
inductive BeginsSession [JsonReader] (project : Project) : Server → Prop where
  | created (config : ServerConfig) (routes : RouteTable) (chance : Chance) :
    BeginsSession project (create config routes chance)
  | started {s : Server} {disk : Disk} {ports : Int → BindOutcome} {service : Service}
    {port : Int} (result : (s.start disk project ports service).result = .ok port) :
    BeginsSession project (s.start disk project ports service).server

/-- Nothing is recorded, no id is taken and nothing is counted. -/
structure IsClean (s : Server) : Prop where
  store : s.store = .empty
  nextId : s.nextId = s.config.startId
  metrics : s.metrics = {}

theorem isClean_opened (s : Server) (ports : Int → BindOutcome) (routes : RouteTable) :
    IsClean { s.opened ports with routes } := ⟨rfl, rfl, rfl⟩

/-- Ending a service ends the session and keeps the counts. -/
theorem IsClean.shut {s : Server} (h : IsClean s) : IsClean s.shut := ⟨rfl, rfl, h.metrics⟩

/-- A session begins clean. -/
theorem BeginsSession.clean [JsonReader] {s : Server} (h : BeginsSession project s) :
    IsClean s := by
  cases h with
  | created config routes chance => exact ⟨rfl, rfl, rfl⟩
  | @started s disk ports service port result =>
    obtain ⟨idle, bound, hbound⟩ := bound_of_start result
    obtain ⟨routes, hread⟩ := (s.opened ports).readBundle_server project disk
    have hclean := s.isClean_opened ports routes
    -- the bundle changes the routes only, and the service may already be over
    rw [start_of_bound idle hbound]
    rcases hloaded : (s.opened ports).readBundle disk project with ⟨loaded, t, log⟩
    rw [hloaded] at hread
    rw [← hread] at hclean
    cases loaded with
    | error e => exact hclean
    | ok changed =>
      cases service with
      | background => exact hclean
      | foreground => exact hclean.shut
      | failing => exact hclean.shut

end Server

end MockApi
