/-
The life of a server: any calls in any order, be they events of its service,
starts that go one way or the other, or stops. Through all of it a server keeps
what it was made of, its settings and its initial routes (`IsMadeOf.lived`), and
nothing else is kept: a start that serves in the background finds a session with
the routes of the bundle file, or else the initial ones, and with nothing
recorded, taken or counted, whatever has been before (`begins_of_start`).
-/
import MockApi.Proofs.Server.Start

namespace MockApi

/-- What can be done with a server. -/
inductive Act where
  | event (e : Event)
  | start (disk : Disk) (ports : Int → BindOutcome) (service : Server.Service)
  | stop

/-- The table of a project's bundle file, if it exists and loads. -/
def RouteTable.ofFile? [JsonReader] (disk : Disk) (project : Project) : Option RouteTable :=
  match disk.isFile project.bundleFile, Bundle.load disk project.bundleFile with
  | .ok true, .ok entries => some (entries.filterMap (Route.ofEntry? .pairs))
  | _, _ => none

namespace Server

variable {s : Server} {disk : Disk} {project : Project} {ports : Int → BindOutcome}
  {service : Service} {port : Int} {config : ServerConfig} {routes : RouteTable}

-- ============================================================== what is kept

/-- The server behind an act. -/
def acted [JsonReader] (project : Project) (s : Server) : Act → Server
  | .event e => s.after project e
  | .start disk ports service => (s.start disk project ports service).server
  | .stop => s.stop.server

def lived [JsonReader] (s : Server) (project : Project) (acts : List Act) : Server :=
  acts.foldl (acted project) s

/-- The server has been made of the settings and the initial routes. -/
structure IsMadeOf (config : ServerConfig) (routes : RouteTable) (s : Server) : Prop where
  config : s.config = config
  initialRoutes : s.initialRoutes = routes

theorem IsMadeOf.shut (h : IsMadeOf config routes s) : IsMadeOf config routes s.shut :=
  ⟨h.config, h.initialRoutes⟩

theorem IsMadeOf.after [JsonReader] (h : IsMadeOf config routes s) (e : Event) :
    IsMadeOf config routes (s.after project e) := by
  obtain ⟨_, _, _, _, _, hafter⟩ := s.after_server project e
  rw [hafter]
  exact ⟨h.config, h.initialRoutes⟩

/-- A server that opens is made of what it was. -/
theorem IsMadeOf.opened (h : IsMadeOf config routes s) (ports : Int → BindOutcome) :
    IsMadeOf config routes (s.opened ports) := by
  obtain ⟨port, hport⟩ : ∃ port, (s.bind ports).server = { s with port } := by
    unfold bind
    rcases tryPorts s.config (attempts s.config - 1) s.config.port ports with ⟨result, tried⟩
    cases result with
    | ok port => exact ⟨some port, rfl⟩
    | error e => exact ⟨s.port, rfl⟩
  unfold Server.opened
  rw [hport]
  exact ⟨h.config, h.initialRoutes⟩

/-- A server that reads its bundle is made of what it was. -/
theorem IsMadeOf.readBundle [JsonReader] (h : IsMadeOf config routes s) (disk : Disk)
    (project : Project) :
    IsMadeOf config routes (s.readBundle disk project).2.1 := by
  obtain ⟨loaded, hread⟩ := s.readBundle_server project disk
  rw [hread]
  exact ⟨h.config, h.initialRoutes⟩

/-- A server that starts is made of what it was. -/
theorem IsMadeOf.start [JsonReader] (h : IsMadeOf config routes s) (disk : Disk) (project : Project)
    (ports : Int → BindOutcome) (service : Service) :
    IsMadeOf config routes (s.start disk project ports service).server := by
  have hstarted := s.started disk project ports service
  have hread := (h.opened ports).readBundle disk project
  generalize (s.start disk project ports service).result = result,
    (s.start disk project ports service).server = t,
    (s.start disk project ports service).tried = tried at hstarted ⊢
  cases hstarted with
  | rejected => exact h
  | unbound => exact h
  | unread => exact hread
  | serving => exact hread
  | ended => exact hread.shut
  | failed => exact hread.shut

/-- A server that stops is made of what it was. -/
theorem IsMadeOf.stop (h : IsMadeOf config routes s) : IsMadeOf config routes s.stop.server := by
  unfold Server.stop
  split
  · exact h.shut
  · exact h

/-- Whatever is done to a server, it is made of what it was. -/
theorem IsMadeOf.acted [JsonReader] (h : IsMadeOf config routes s) (act : Act) :
    IsMadeOf config routes (s.acted project act) := by
  cases act with
  | event e => exact h.after e
  | start disk ports service => exact h.start disk project ports service
  | stop => exact h.stop

/-- A server keeps what it was made of. -/
theorem IsMadeOf.lived [JsonReader] (h : IsMadeOf config routes s) (acts : List Act) :
    IsMadeOf config routes (s.lived project acts) := by
  induction acts generalizing s with
  | nil => exact h
  | cons act rest ih => exact ih (h.acted act)

-- ============================================================ a new session

/-- A server at the beginning of a session with the bundle file on a disk. -/
structure Begins [JsonReader] (disk : Disk) (project : Project) (config : ServerConfig)
    (routes : RouteTable) (s : Server) : Prop where
  made : IsMadeOf config routes s
  clean : IsClean s
  listening : s.listening = true
  routes : s.routes = (RouteTable.ofFile? disk project).getD routes

/-- A bundle that was read gives the routes, and one that is not there keeps them. -/
theorem routes_readBundle [JsonReader] {changed : Bool}
    (h : (s.readBundle disk project).1 = .ok changed) :
    (s.readBundle disk project).2.1.routes = (RouteTable.ofFile? disk project).getD s.routes := by
  unfold Server.readBundle at h ⊢
  unfold RouteTable.ofFile?
  cases hfile : disk.isFile project.bundleFile with
  | error cause =>
    rw [hfile] at h
    cases h
  | ok present =>
    cases present with
    -- no file: there is nothing to read, and both sides are the routes before
    | false => rfl
    | true =>
      rw [hfile] at h
      simp only at h ⊢
      have hreloaded := s.reloaded disk project
      rw [h] at hreloaded
      generalize (s.reload disk project).2.1 = t at hreloaded ⊢
      -- a reload that was kept read no bundle, and neither does the table of the file
      cases hreloaded with
      | replaced hload =>
        rw [hload]
        rfl
      | kept hload =>
        rw [hload]
        rfl

/-- A start that serves in the background begins a session, and what it begins
with is the bundle file or else what the server was made of. -/
theorem begins_of_start [JsonReader] (made : IsMadeOf config routes s)
    (nonblocking : service ≠ .foreground)
    (started : (s.start disk project ports service).result = .ok port) :
    Begins disk project config routes (s.start disk project ports service).server := by
  have hclean := (BeginsSession.started started).clean
  have hmade := made.start disk project ports service
  have hstarted := s.started disk project ports service
  rw [started] at hstarted
  generalize (s.start disk project ports service).server = t,
    (s.start disk project ports service).tried = tried at hclean hmade hstarted ⊢
  cases hstarted with
  | serving idle bind read background =>
    refine ⟨hmade, hclean, listening_readBundle .., ?_⟩
    rw [routes_readBundle read]
    exact congrArg _ (made.opened ports).initialRoutes
  | ended _ _ _ foreground => exact absurd foreground nonblocking

end Server

end MockApi
