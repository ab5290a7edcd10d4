/-
Paths do not interfere. All paths of a server share its table, its store and its
next id, and a definition with parameters answers on many of them. Still what
clients do on one path cannot be told from another, as long as no definition has
something to draw and no recorded template takes an id: those are the two ways
by which a request can leave something that a request on another path meets.

The statement is about two runs from one server, of which the second leaves out
the requests on other paths. `AgreeOn path` is what the two servers have in common
all the while: their settings, their routes, their next id and the log of that
one path. An event that both meet keeps it and is answered alike by both
(`after_agree`); a request on another path, which only the first meets, keeps it
too (`dispatch_elsewhere`). The induction over the events is `run_agree`.
-/
import MockApi.Proofs.Route.Table
import MockApi.Proofs.Server.Failure
import MockApi.Proofs.Server.Isolation

namespace MockApi

/-- The event may matter to a path: a request on it, or any reload. -/
def Event.isOn (path : Text) : Event → Bool
  | request r => Path.canonical r.path == path
  | reload _ => true

/-- Nothing is drawn to answer from the definition, and no id is taken to record
from it. -/
def Definition.isLocal (d : Definition) : Bool :=
  (d.alternatives.getD []).isEmpty && (d.replies.getD []).isEmpty
    && !(d.stateful && Template.usesAuto d.body)

/-- A local definition that is stateful takes no id. -/
theorem Definition.takesId_of_isLocal {d : Definition} (h : d.isLocal = true)
    (stateful : d.stateful = true) : Template.takesId d.body = false := by
  unfold isLocal at h
  rw [stateful, Bool.true_and, Bool.and_eq_true, Bool.not_eq_true'] at h
  rw [Template.takesId, h.2]
  rfl

namespace Server

variable {project : Project} {path : Text} {s t : Server} {r : Request}

/-- As far as a path goes, the two servers are in the same state. -/
structure AgreeOn (path : Text) (s t : Server) : Prop where
  config : t.config = s.config
  routes : t.routes = s.routes
  nextId : t.nextId = s.nextId
  log : t.store.log? path = s.store.log? path

theorem AgreeOn.refl (path : Text) (s : Server) : AgreeOn path s s := ⟨rfl, rfl, rfl, rfl⟩

/-- Two outcomes that cannot be told apart on a path. -/
structure OutcomesAgree (path : Text)
    (first second : Except RequestError Response × Server × Log) : Prop where
  answer : second.1 = first.1
  server : AgreeOn path first.2.1 second.2.1
  log : second.2.2 = first.2.2

-- ================================================== a request on the path

/-- Servers that agree on a path record alike on it. -/
theorem record_agree (h : AgreeOn path s t) (d : Definition) (body : Json) :
    OutcomesAgree path (s.record d path body) (t.record d path body) := by
  have happend : ∀ v, (t.store.append path v).log? path = (s.store.append path v).log? path := by
    intro v
    rw [Store.log?_append_self, Store.log?_append_self, Store.log, Store.log, h.log]
  unfold record
  simp only [h.nextId]
  rcases Template.render d.body (if Definition.isNull body then .obj [] else body) s.nextId with
    ⟨rendered, nextId⟩
  cases rendered with
  | ok v => exact ⟨rfl, ⟨h.config, h.routes, rfl, happend v⟩, rfl⟩
  | error cause =>
    cases cause with
    | unknownPlaceholder written => exact ⟨rfl, ⟨h.config, h.routes, rfl, happend d.body⟩, rfl⟩
    | numeral cause => exact ⟨rfl, ⟨h.config, h.routes, rfl, h.log⟩, rfl⟩

/-- A definition that has nothing to draw answers with its body. -/
theorem answer_of_isLocal {d : Definition} (h : d.isLocal = true) (s : Server) :
    s.answer d = (Response.build d.status d.headers d.body, s) := by
  unfold Definition.isLocal at h
  rw [Bool.and_eq_true, Bool.and_eq_true, List.isEmpty_iff, List.isEmpty_iff] at h
  unfold answer
  split
  · next reply rest hreplies =>
    rw [hreplies] at h
    cases h.1.2
  · next item rest halternatives _ =>
    rw [halternatives] at h
    cases h.1.1
  · rfl

/-- Servers that agree on a path serve a local definition alike. -/
theorem serve_agree (h : AgreeOn path s t) {d : Definition} (hlocal : d.isLocal = true)
    (method : Text) (body : Json) :
    OutcomesAgree path (s.serve d method path body) (t.serve d method path body) := by
  unfold serve
  simp only [answer_of_isLocal hlocal, h.log]
  split
  · exact record_agree h d body
  · split
    · exact ⟨rfl, h, rfl⟩
    · exact ⟨rfl, h, rfl⟩

theorem routeOf?_of_agree (h : AgreeOn path s t) (r : Request) : t.routeOf? r = s.routeOf? r := by
  rw [routeOf?, routeOf?, h.routes]

theorem mem_of_routeOf? {route : Route} (h : s.routeOf? r = some route) : route ∈ s.routes :=
  (RouteTable.of_lookUp_eq_some h).1

/-- Two servers that agree on a path answer a request on it alike, and agree on it
afterwards. -/
theorem dispatch_agree (h : AgreeOn path s t) (hpath : Path.canonical r.path = path)
    (hlocal : ∀ route ∈ s.routes, route.definition.isLocal = true) :
    OutcomesAgree path (s.dispatch r) (t.dispatch r) := by
  have hroutes := routeOf?_of_agree h r
  cases hroute : s.routeOf? r with
  | none =>
    rw [hroute] at hroutes
    have hlook : (s.routes.lookUp (Text.upper r.method) (Path.canonical r.path)).route? = none :=
      hroute
    have hlook' : (t.routes.lookUp (Text.upper r.method) (Path.canonical r.path)).route? = none :=
      hroutes
    unfold dispatch
    simp only [hlook, hlook']
    exact ⟨rfl, ⟨h.config, h.routes, h.nextId, h.log⟩, rfl⟩
  | some route =>
    rw [hroute] at hroutes
    have hhit : AgreeOn path s.hit t.hit := ⟨h.config, h.routes, h.nextId, h.log⟩
    have hserve := serve_agree hhit (hlocal route (mem_of_routeOf? hroute)) (Text.upper r.method)
      r.body
    rw [dispatch_eq_serve hroute, dispatch_eq_serve hroutes, hpath]
    refine ⟨hserve.answer, hserve.server, ?_⟩
    simp only [hserve.log, hserve.server.config]

-- ============================================= a request on another path

/-- What records is the definition of a route, and stateful. -/
theorem stateful_of_recorder? {d : Definition} (h : s.recorder? r = some d) :
    d.stateful = true ∧ ∃ route ∈ s.routes, route.definition = d := by
  obtain ⟨hroute, hstateful⟩ := Option.filter_eq_some_iff.1 h
  obtain ⟨route, hfound, hd⟩ := Option.map_eq_some_iff.1 hroute
  rw [Bool.and_eq_true] at hstateful
  exact ⟨hstateful.1, route, mem_of_routeOf? hfound, hd⟩

/-- A request on another path leaves nothing that shows on this one. -/
theorem dispatch_elsewhere (h : AgreeOn path s t) (hpath : Path.canonical r.path ≠ path)
    (hlocal : ∀ route ∈ s.routes, route.definition.isLocal = true) :
    AgreeOn path (s.dispatch r).2.1 t := by
  have hid : ∀ d, s.recorder? r = some d → s.idAfter d r = s.nextId := by
    intro d recorder
    obtain ⟨stateful, route, hmem, rfl⟩ := stateful_of_recorder? recorder
    exact (nextId_idAfter_iff recorder).2
      (Definition.takesId_of_isLocal (hlocal route hmem) stateful)
  have hgo := s.dispatched r
  generalize (s.dispatch r).1 = answer, (s.dispatch r).2.1 = u at hgo ⊢
  cases hgo with
  | missed noRoute => exact ⟨h.config, h.routes, h.nextId, h.log⟩
  | replayed found noRecorder replay => exact ⟨h.config, h.routes, h.nextId, h.log⟩
  | answered found noRecorder noReplay => exact ⟨h.config, h.routes, h.nextId, h.log⟩
  | failed cause found recorder noRecord =>
    exact ⟨h.config, h.routes, h.nextId.trans (hid _ recorder).symm, h.log⟩
  | @recorded route d v found recorder record =>
    refine ⟨h.config, h.routes, h.nextId.trans (hid _ recorder).symm, ?_⟩
    rw [h.log]
    exact (Store.log?_append_of_ne hpath s.store v).symm

-- ================================================================ the runs

/-- A reload looks at the settings and the routes. -/
theorem reload_agree [JsonReader] (h : AgreeOn path s t) (disk : Disk) :
    AgreeOn path (s.reload disk project).2.1 (t.reload disk project).2.1
      ∧ t.reaction project (.reload disk) = s.reaction project (.reload disk) := by
  rw [reaction_reload, reaction_reload]
  unfold reload
  rw [h.config, h.routes]
  split
  · next entries _ =>
    rcases RouteTable.ofEntries .pairs entries with ⟨routes, log⟩
    exact ⟨⟨rfl, rfl, h.nextId, h.log⟩, rfl⟩
  · exact ⟨⟨h.config, h.routes, h.nextId, h.log⟩, rfl⟩
  · exact ⟨⟨h.config, h.routes, h.nextId, h.log⟩, rfl⟩

variable (project) in

/-- An event on the path keeps them agreeing, and they react alike. -/
theorem after_agree [JsonReader] (h : AgreeOn path s t) {e : Event} (hon : e.isOn path = true)
    (hlocal : ∀ route ∈ s.routes, route.definition.isLocal = true) :
    AgreeOn path (s.after project e) (t.after project e)
      ∧ t.reaction project e = s.reaction project e := by
  cases e with
  | reload disk => exact reload_agree h disk
  | request r =>
    have hagree := dispatch_agree h (eq_of_beq hon) hlocal
    rw [after_request, after_request, reaction_request, reaction_request, hagree.answer, hagree.log]
    exact ⟨hagree.server, rfl⟩

/-- The run of a server beside the run without the requests on other paths. -/
theorem run_agree [JsonReader] (h : AgreeOn path s t) {events : List Event}
    (hlocal : ∀ turn ∈ s.turns project events, ∀ route ∈ turn.1.routes,
      route.definition.isLocal = true) :
    AgreeOn path (s.run project events) (t.run project (events.filter (Event.isOn path)))
      ∧ t.reactions project (events.filter (Event.isOn path))
        = ((s.turns project events).filter fun turn => turn.2.isOn path).map
          fun turn => turn.1.reaction project turn.2 := by
  induction events generalizing s t with
  | nil => exact ⟨h, rfl⟩
  | cons e rest ih =>
    rw [turns] at hlocal ⊢
    have hhere := hlocal (s, e) List.mem_cons_self
    have hrest := fun turn hmem => hlocal turn (List.mem_cons_of_mem _ hmem)
    by_cases hon : e.isOn path = true
    · obtain ⟨hafter, hreaction⟩ := after_agree project h hon hhere
      obtain ⟨hrun, hreactions⟩ := ih hafter hrest
      simp only [List.filter_cons, hon, if_true]
      rw [List.map_cons, run_cons, run_cons, reactions_cons, hreaction, hreactions]
      exact ⟨hrun, rfl⟩
    · -- only the longer run meets this event
      cases e with
      | reload disk => exact absurd rfl hon
      | request r =>
        have hafter := dispatch_elsewhere h (fun heq => hon (beq_iff_eq.2 heq)) hhere
        simp only [List.filter_cons, hon]
        exact ih hafter hrest

/-- Paths do not interfere. In a run over tables in which no definition has
anything to draw and no stateful one takes an id, leaving out every request on
another path than one leaves the log of that path, every answer on it and what
reloads return and report. -/
theorem paths_separate [JsonReader] (s : Server) (path : Text) (events : List Event)
    (hlocal : ∀ turn ∈ s.turns project events, ∀ route ∈ turn.1.routes,
      route.definition.isLocal = true) :
    let kept := events.filter (Event.isOn path)
    (s.run project kept).store.log? path = (s.run project events).store.log? path
      ∧ s.reactions project kept
        = ((s.turns project events).filter fun turn => turn.2.isOn path).map
          fun turn => turn.1.reaction project turn.2 := by
  intro kept
  obtain ⟨hrun, hreactions⟩ := run_agree (AgreeOn.refl path s) hlocal
  exact ⟨hrun.log, hreactions⟩

/-- A bundle whose only route keeps what is sent to anyone's page. -/
def pageBundle : Bytes :=
  (Utf8.encode? ("\x7b\"/pages/:name\": \x7b\"method\": \"POST\", \"stateful\": true, "
    ++ "\"body\": \"\x7b\x7bbody.text\x7d\x7d\"\x7d\x7d")).getD []

def pageWrite (path text : Text) : Event :=
  .request { method := "POST", path, body := .obj [("text", .str text)] }

/-- Two pages are written to, and one of them is read, under routes that are
loaded on the way. -/
def pageEvents : List Event :=
  [pageWrite "/pages/a" "early", .reload (Disk.storing pageBundle []), pageWrite "/pages/a" "one",
   pageWrite "/pages/b" "two", pageWrite "/pages/a/" "three",
   .request { method := "GET", path := "/pages/a?all" }]

/-- What is read on one page is what was written there. -/
theorem paths_separate_pages :
    let s := create {} [] ⟨[]⟩
    let project : Project := ⟨.ofText "."⟩
    let kept := pageEvents.filter (Event.isOn "/pages/a")
    kept.length = 5
      ∧ (∀ turn ∈ s.turns project pageEvents, ∀ route ∈ turn.1.routes,
          route.definition.isLocal = true)
      ∧ (s.run project kept).store.log? "/pages/a" = (s.run project pageEvents).store.log? "/pages/a"
      ∧ ((s.run project kept).store.log "/pages/a").map (Json.text .body)
        = [("\"one\"" : Text), "\"three\""] := by
  intro s project kept
  have hlocal : ∀ turn ∈ s.turns project pageEvents, ∀ route ∈ turn.1.routes,
      route.definition.isLocal = true := by decide +kernel
  exact ⟨by decide +kernel, hlocal, (paths_separate s "/pages/a" pageEvents hlocal).1,
    by decide +kernel⟩

end Server

end MockApi
