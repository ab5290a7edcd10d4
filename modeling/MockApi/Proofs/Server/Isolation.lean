/-
Sessions are isolated. Two servers that were made alike and then lived in any
two ways, each of them started again in the background with the same bundle
file, begin the same session (`begins_of_start`): they differ in the port that
was bound and in the draws of chance that are left, and in nothing else.

# Two runs

What follows is one run beside itself. `moved` gives a server another port and
other draws; nobody looks at the port, and draws are looked at only where a
definition has several bodies or replies to choose from. So each step of the
moved server is the step of the server, moved again (`after_moved`), as long as
the definition that answers is fixed, and an induction over the events carries
that through the run.

The two runs need not read the same disks. A reload looks at the bundle file
alone, so disks that agree on it will do (`Event.Alike`).
-/
import MockApi.Proofs.Server.Life

namespace MockApi

-- ============================================================== being alike

/-- The two disks have the same at a path, as far as reading it tells. -/
structure Disk.AgreesOn (path : FilePath) (disk other : Disk) : Prop where
  isFile : disk.isFile path = other.isFile path
  read : disk.read path = other.read path

theorem Disk.AgreesOn.load [JsonReader] {path : FilePath} {disk other : Disk}
    (h : Disk.AgreesOn path disk other) : Bundle.load other path = Bundle.load disk path := by
  unfold Bundle.load Document.read Document.readText
  rw [h.isFile, h.read]

theorem RouteTable.ofFile?_of_agreesOn [JsonReader] {project : Project} {disk other : Disk}
    (h : Disk.AgreesOn project.bundleFile disk other) :
    RouteTable.ofFile? other project = RouteTable.ofFile? disk project := by
  unfold RouteTable.ofFile?
  rw [h.isFile, h.load]

/-- The same request, or a reload of the same bundle file. -/
inductive Event.Alike (project : Project) : Event → Event → Prop where
  | request (r : Request) : Alike project (.request r) (.request r)
  | reload {disk other : Disk} (agree : Disk.AgreesOn project.bundleFile disk other) :
    Alike project (.reload disk) (.reload other)

/-- The definition has one answer, its body. -/
structure Definition.IsFixed (d : Definition) : Prop where
  alternatives : d.alternatives = none
  replies : d.replies = none

/-- What a server returns for an event, and what it reports. -/
inductive Reaction where
  | answered (answer : Except RequestError Response) (log : Log)
  | reloaded (result : Except BundleError Bool) (log : Log)

namespace Server

variable {project : Project} {s : Server} {e e' : Event}

def reaction [JsonReader] (s : Server) (project : Project) : Event → Reaction
  | .request r => .answered (s.dispatch r).1 (s.dispatch r).2.2
  | .reload disk => .reloaded (s.reload disk project).1 (s.reload disk project).2.2

@[simp]
theorem reaction_request [JsonReader] (s : Server) (r : Request) :
    s.reaction project (.request r) = .answered (s.dispatch r).1 (s.dispatch r).2.2 := rfl

@[simp]
theorem reaction_reload [JsonReader] (s : Server) (disk : Disk) :
    s.reaction project (.reload disk)
      = .reloaded (s.reload disk project).1 (s.reload disk project).2.2 := rfl

def reactions [JsonReader] (s : Server) (project : Project) (events : List Event) : List Reaction :=
  (s.turns project events).map fun turn => turn.1.reaction project turn.2

theorem reactions_cons [JsonReader] (s : Server) (e : Event) (rest : List Event) :
    s.reactions project (e :: rest)
      = s.reaction project e :: (s.after project e).reactions project rest := rfl

-- ====================================================== the moved server

/-- The server with another port and other draws. -/
def moved (port : Option Int) (chance : Chance) (s : Server) : Server := { s with port, chance }

variable (port : Option Int) (chance : Chance)

@[simp]
theorem routes_moved (s : Server) : (s.moved port chance).routes = s.routes := rfl

@[simp]
theorem store_moved (s : Server) : (s.moved port chance).store = s.store := rfl

@[simp]
theorem nextId_moved (s : Server) : (s.moved port chance).nextId = s.nextId := rfl

/-- Another port and other draws change no record. -/
theorem record_moved (s : Server) (d : Definition) (path : Text) (body : Json) :
    (s.moved port chance).record d path body
      = ((s.record d path body).1, (s.record d path body).2.1.moved port chance,
          (s.record d path body).2.2) := by
  unfold record
  simp only [nextId_moved]
  rcases Template.render d.body (if Definition.isNull body then .obj [] else body) s.nextId with
    ⟨rendered, nextId⟩
  cases rendered with
  | ok record => rfl
  | error cause => cases cause <;> rfl

theorem answer_moved {d : Definition} (fixed : d.IsFixed) (s : Server) :
    (s.moved port chance).answer d = ((s.answer d).1, (s.answer d).2.moved port chance) := by
  unfold answer
  rw [fixed.alternatives, fixed.replies]

/-- Another port and other draws do not change what a definition serves that
draws nothing. -/
theorem serve_moved {d : Definition} (fixed : d.IsFixed) (s : Server) (method path : Text)
    (body : Json) :
    (s.moved port chance).serve d method path body
      = ((s.serve d method path body).1, (s.serve d method path body).2.1.moved port chance,
          (s.serve d method path body).2.2) := by
  unfold serve
  simp only [store_moved, answer_moved port chance fixed]
  split
  · exact record_moved port chance s d path body
  · split
    · rfl
    · rfl

/-- The server that has counted a request to a route. -/
def hit (s : Server) : Server := { s with metrics := s.metrics.hit }

/-- A request that finds a route is served by its definition. -/
theorem dispatch_eq_serve {r : Request} {route : Route} (found : s.routeOf? r = some route) :
    s.dispatch r =
      let served := s.hit.serve route.definition (Text.upper r.method) (Path.canonical r.path) r.body
      (served.1, served.2.1, served.2.2.filter served.2.1.config.threshold.keeps) := by
  have hlook : (s.routes.lookUp (Text.upper r.method) (Path.canonical r.path)).route?
      = some route := found
  unfold dispatch
  simp only [hlook]
  rfl

/-- A request to routes that draw nothing is answered alike. -/
theorem dispatch_moved (s : Server) (r : Request)
    (fixed : ∀ route, s.routeOf? r = some route → route.definition.IsFixed) :
    (s.moved port chance).dispatch r
      = ((s.dispatch r).1, (s.dispatch r).2.1.moved port chance, (s.dispatch r).2.2) := by
  cases hroute : s.routeOf? r with
  | none =>
    have hlook : (s.routes.lookUp (Text.upper r.method) (Path.canonical r.path)).route? = none :=
      hroute
    unfold dispatch
    simp only [routes_moved, hlook]
    rfl
  | some route =>
    have hmoved : (s.moved port chance).routeOf? r = some route := hroute
    have hhit : (s.moved port chance).hit = s.hit.moved port chance := rfl
    rw [dispatch_eq_serve hroute, dispatch_eq_serve hmoved, hhit,
      serve_moved port chance (fixed route hroute)]
    rfl

/-- Another port and other draws do not change a reload, on disks that agree on
the bundle. -/
theorem reload_moved [JsonReader] {disk other : Disk}
    (agree : Disk.AgreesOn project.bundleFile disk other)
    (s : Server) :
    (s.moved port chance).reload other project
      = ((s.reload disk project).1, (s.reload disk project).2.1.moved port chance,
          (s.reload disk project).2.2) := by
  unfold reload
  rw [agree.load]
  simp only [routes_moved]
  split
  · rfl
  · rfl
  · rfl

-- ================================================================ the runs

/-- Where a route is found for an event, its definition is fixed. -/
def IsFixedAt (s : Server) : Event → Prop
  | .request r => ∀ route, s.routeOf? r = some route → route.definition.IsFixed
  | .reload _ => True

/-- A request whose route has no alternatives and no replies draws nothing. -/
theorem isFixedAt_of_all {r : Request} (h : (s.routeOf? r).all (fun route =>
    route.definition.alternatives.isNone && route.definition.replies.isNone) = true) :
    s.IsFixedAt (.request r) := by
  intro route hroute
  rw [hroute, Option.all_some, Bool.and_eq_true] at h
  exact ⟨Option.isNone_iff_eq_none.1 h.1, Option.isNone_iff_eq_none.1 h.2⟩

/-- The moved server does to an event what the server does to one like it. -/
theorem after_moved [JsonReader] {e e' : Event} (alike : Event.Alike project e e') (s : Server)
    (fixed : s.IsFixedAt e) :
    (s.moved port chance).after project e' = (s.after project e).moved port chance
      ∧ (s.moved port chance).reaction project e' = s.reaction project e := by
  cases alike with
  | request r =>
    rw [after_request, after_request, reaction_request, reaction_request,
      dispatch_moved port chance s r fixed]
    exact ⟨rfl, rfl⟩
  | reload agree =>
    rw [after_reload, after_reload, reaction_reload, reaction_reload,
      reload_moved port chance agree]
    exact ⟨rfl, rfl⟩

/-- A run whose requests draw nothing goes alike with another port and other draws. -/
theorem run_moved [JsonReader] {events events' : List Event}
    (alike : List.Forall₂ (Event.Alike project) events events') (s : Server)
    (fixed : ∀ turn ∈ s.turns project events, turn.1.IsFixedAt turn.2) :
    (s.moved port chance).run project events' = (s.run project events).moved port chance
      ∧ (s.moved port chance).reactions project events' = s.reactions project events := by
  induction alike generalizing s with
  | nil => exact ⟨rfl, rfl⟩
  | @cons e e' rest rest' halike _ ih =>
    rw [turns] at fixed
    obtain ⟨hafter, hreaction⟩ := after_moved port chance halike s (fixed _ List.mem_cons_self)
    obtain ⟨hrun, hreactions⟩ :=
      ih (s.after project e) fun turn h => fixed turn (List.mem_cons_of_mem _ h)
    rw [run_cons, run_cons, reactions_cons, reactions_cons, hafter, hreaction, hrun, hreactions]
    exact ⟨rfl, rfl⟩

-- ============================================================ the sessions

variable {disk disk' : Disk} {config : ServerConfig} {routes : RouteTable} {t : Server}

theorem Begins.of_agreesOn [JsonReader] (h : Begins disk' project config routes s)
    (agree : Disk.AgreesOn project.bundleFile disk disk') : Begins disk project config routes s := by
  refine ⟨h.made, h.clean, h.listening, ?_⟩
  rw [h.routes, RouteTable.ofFile?_of_agreesOn agree]

/-- A session is given by what its server was made of and the bundle file. -/
theorem Begins.eq_moved [JsonReader] (h : Begins disk project config routes s)
    (h' : Begins disk project config routes t) : t = s.moved t.port t.chance := by
  obtain ⟨⟨hconfig, hinitial⟩, ⟨hstore, hnext, hmetrics⟩, hlistening, hroutes⟩ := h
  obtain ⟨⟨hconfig', hinitial'⟩, ⟨hstore', hnext', hmetrics'⟩, hlistening', hroutes'⟩ := h'
  cases s
  cases t
  unfold moved
  simp_all

/-- Two servers made of the same settings and initial routes live in any two
ways; then both are started in the background with the same bundle file. Both
begin a session with that file's routes, or else the initial ones, and with
nothing recorded, taken or counted. And to events that are alike, as long as
fixed definitions answer, both react alike, and stay alike but for their ports
and draws. -/
theorem sessions_isolated [JsonReader] (config : ServerConfig) (routes : RouteTable)
    (first second : Chance) (history history' : List Act) {ports ports' : Int → BindOutcome}
    {service service' : Service} {bound bound' : Int}
    (agree : Disk.AgreesOn project.bundleFile disk disk')
    (nonblocking : service ≠ .foreground) (nonblocking' : service' ≠ .foreground)
    (started : (((create config routes first).lived project history).start disk project
      ports service).result = .ok bound)
    (started' : (((create config routes second).lived project history').start disk' project
      ports' service').result = .ok bound') :
    let s := (((create config routes first).lived project history).start disk project
      ports service).server
    let t := (((create config routes second).lived project history').start disk' project
      ports' service').server
    Begins disk project config routes s ∧ Begins disk project config routes t
      ∧ ∀ events events', List.Forall₂ (Event.Alike project) events events' →
        (∀ turn ∈ s.turns project events, turn.1.IsFixedAt turn.2) →
        t.reactions project events' = s.reactions project events
          ∧ (t.run project events').store = (s.run project events).store
          ∧ ∃ port chance, t.run project events' = (s.run project events).moved port chance := by
  intro s t
  have hs : Begins disk project config routes s :=
    begins_of_start (IsMadeOf.lived (s := create config routes first) ⟨rfl, rfl⟩ history)
      nonblocking started
  have ht' : Begins disk' project config routes t :=
    begins_of_start (IsMadeOf.lived (s := create config routes second) ⟨rfl, rfl⟩ history')
      nonblocking' started'
  have ht : Begins disk project config routes t := ht'.of_agreesOn agree
  refine ⟨hs, ht, fun events events' halike hfixed => ?_⟩
  -- both sessions begin with one server, but for port and draws
  have hmoved : t = s.moved t.port t.chance := hs.eq_moved ht
  obtain ⟨hrun, hreactions⟩ := run_moved t.port t.chance halike s hfixed
  rw [← hmoved] at hrun hreactions
  refine ⟨hreactions, ?_, t.port, t.chance, hrun⟩
  rw [hrun, store_moved]

/-- A bundle whose only route makes notes. -/
def noteBundle : Bytes :=
  (Utf8.encode? ("\x7b\"/notes\": \x7b\"method\": \"POST\", \"stateful\": true, "
    ++ "\"body\": \"note \x7b\x7bauto\x7d\x7d\"\x7d\x7d")).getD []

def noteRequest : Request := { method := "POST", path := "/notes" }

/-- The server after a session in which it made a note. -/
def usedServer : Server := (create {} [] ⟨[]⟩).lived ⟨.ofText "."⟩
  [.start (Disk.storing noteBundle []) .bound .background, .event (.request noteRequest), .stop]

/-- The server after a reload, without a session. -/
def unusedServer : Server := (create {} [] ⟨[7]⟩).lived ⟨.ofText "."⟩
  [.event (.reload (Disk.storing noteBundle []))]

/-- Both are started with the same bundle, and the second does not get its first
port. -/
theorem sessions_isolated_notes :
    let project : Project := ⟨.ofText "."⟩
    let disk := Disk.storing noteBundle []
    let disk' := Disk.storing noteBundle noteBundle
    let s := usedServer.start disk project .bound .background
    let t := unusedServer.start disk' project
      (fun port => if port = 3000 then .refused 98 "Address already in use" else .bound port)
      .background
    s.result = .ok 3000 ∧ t.result = .ok 3001
      ∧ Disk.AgreesOn project.bundleFile disk disk'
      ∧ t.server.reactions project [.request noteRequest]
        = s.server.reactions project [.request noteRequest]
      ∧ ((t.server.run project [.request noteRequest]).store.log "/notes").map (Json.text .body)
        = ["\"note 1\""] := by
  intro project disk disk' s t
  have hread := (Disk.read_storing noteBundle []).1
  have hread' := (Disk.read_storing noteBundle noteBundle).1
  -- the disks differ in the configuration only
  have hagree : Disk.AgreesOn project.bundleFile disk disk' :=
    ⟨(Disk.isFile_of_read hread).trans (Disk.isFile_of_read hread').symm, hread.trans hread'.symm⟩
  have hs : s.result = .ok 3000 := by decide +kernel
  have ht : t.result = .ok 3001 := by decide +kernel
  have hfixed : ∀ turn ∈ s.server.turns project [.request noteRequest],
      turn.1.IsFixedAt turn.2 := by
    intro turn hturn
    rw [List.mem_singleton.1 hturn]
    exact isFixedAt_of_all (by decide +kernel)
  obtain ⟨-, -, hlike⟩ := sessions_isolated {} [] ⟨[]⟩ ⟨[7]⟩
    [.start (Disk.storing noteBundle []) .bound .background, .event (.request noteRequest), .stop]
    [.event (.reload (Disk.storing noteBundle []))] hagree (by decide) (by decide) hs ht
  obtain ⟨hreactions, -, -⟩ := hlike _ _ (.cons (.request noteRequest) .nil) hfixed
  exact ⟨hs, ht, hagree, hreactions, by decide +kernel⟩

end Server

end MockApi
