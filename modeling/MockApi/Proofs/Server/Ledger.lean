/-
What a session records and counts. The log of a path is the list of the
records that the turns of the run make on it, in their order: nothing is lost,
moved or taken back, whatever reloads and failing requests stand in between.

The counts are tied to the logs by `Balanced`, which every event keeps: a
request is counted as matched or as unmatched, a record is counted where a log
grows, and it grows only behind a matched request.
-/
import MockApi.Proofs.Server.Run
import MockApi.Proofs.Server.Store

namespace MockApi.Server

variable {project : Project}

-- ========================================================= what turns record

/-- The record that a turn makes on a path. -/
def recordOn? (path : Text) : Server × Event → Option Json
  | (s, .request r) => if Path.canonical r.path = path then s.made? r else none
  | (_, .reload _) => none

theorem recordOn?_request (path : Text) (s : Server) (r : Request) :
    recordOn? path (s, .request r) = if Path.canonical r.path = path then s.made? r else none :=
  rfl

/-- The records that turns make on a path, in order. -/
def recordsOn (path : Text) (turns : List (Server × Event)) : List Json :=
  turns.filterMap (recordOn? path)

/-- Behind a request the log of a path has the record of that turn at its end. -/
theorem log_dispatch (s : Server) (r : Request) (path : Text) :
    (s.dispatch r).2.1.store.log path
      = s.store.log path ++ (recordOn? path (s, .request r)).toList := by
  have h := s.dispatched r
  rw [recordOn?_request]
  generalize (s.dispatch r).1 = answer, (s.dispatch r).2.1 = t at h ⊢
  cases h with
  | missed noRoute => simp [made?, recorder?, noRoute]
  | replayed found noRecorder replay => simp [made?, noRecorder]
  | answered found noRecorder noReplay => simp [made?, noRecorder]
  | failed cause found recorder noRecord => simp [noRecord]
  | @recorded route d v found recorder record =>
    rw [Store.log_append, record]
    split <;> rfl

/-- One event adds its record to the log of a path, if it makes one there. -/
theorem log_after [JsonReader] (s : Server) (e : Event) (path : Text) :
    (s.after project e).store.log path = s.store.log path ++ (recordOn? path (s, e)).toList := by
  cases e with
  | request r => exact s.log_dispatch r path
  | reload disk =>
    obtain ⟨routes, h⟩ := s.reload_server project disk
    rw [after_reload, h]
    simp [recordOn?]

/-- A run adds the records of its turns to the log of their path. -/
theorem log_run [JsonReader] (s : Server) (events : List Event) (path : Text) :
    (s.run project events).store.log path
      = s.store.log path ++ recordsOn path (s.turns project events) := by
  induction events generalizing s with
  | nil => simp [turns, recordsOn]
  | cons e rest ih =>
    rw [run_cons, ih, log_after, turns, List.append_assoc]
    unfold recordsOn
    cases h : recordOn? path (s, e) with
    | none => rw [List.filterMap_cons_none h, Option.toList_none, List.nil_append]
    | some v => rw [List.filterMap_cons_some h, Option.toList_some, List.singleton_append]

/-- A run only adds to logs. -/
theorem log_prefix_log_run [JsonReader] (s : Server) (events : List Event) (path : Text) :
    s.store.log path <+: (s.run project events).store.log path := by
  rw [log_run]
  exact List.prefix_append ..

-- ============================================================== the balance

/-- The counts and the logs agree: every request is matched or unmatched,
every record is counted once and belongs to a matched request, and the paths
of the store are distinct with at least one record each. -/
structure Balanced (s : Server) : Prop where
  total_eq : s.metrics.total = s.metrics.matched + s.metrics.unmatched
  writes_eq : s.metrics.writes = s.store.count
  writes_le : s.metrics.writes ≤ s.metrics.matched
  nodup_paths : s.store.paths.Nodup
  log_ne_nil : ∀ path ∈ s.store.paths, s.store.log path ≠ []

/-- A clean server is balanced. -/
theorem IsClean.balanced {s : Server} (h : IsClean s) : Balanced s := by
  obtain ⟨store, -, metrics⟩ := h
  constructor
  · rw [metrics]
    rfl
  · rw [metrics, store]
    rfl
  · exact Int.le_of_eq (by rw [metrics])
  · rw [store]
    exact List.nodup_nil
  · rw [store]
    intro path hmem
    cases hmem

/-- A request keeps the balance, also where its answer fails. -/
theorem Balanced.dispatch {s : Server} (h : Balanced s) (r : Request) :
    Balanced (s.dispatch r).2.1 := by
  obtain ⟨total_eq, writes_eq, writes_le, nodup_paths, log_ne_nil⟩ := h
  have hgo := s.dispatched r
  generalize (s.dispatch r).1 = answer, (s.dispatch r).2.1 = t at hgo ⊢
  -- by the ways a request goes: each counts it once, and a record is counted where it is kept
  cases hgo with
  | missed noRoute =>
    refine ⟨?_, writes_eq, writes_le, nodup_paths, log_ne_nil⟩
    simp only [Metrics.missed]
    omega
  | replayed found noRecorder replay =>
    refine ⟨?_, writes_eq, ?_, nodup_paths, log_ne_nil⟩ <;>
    · simp only [Metrics.hit]
      omega
  | answered found noRecorder noReplay =>
    refine ⟨?_, writes_eq, ?_, nodup_paths, log_ne_nil⟩ <;>
    · simp only [Metrics.hit]
      omega
  | failed cause found recorder noRecord =>
    refine ⟨?_, writes_eq, ?_, nodup_paths, log_ne_nil⟩ <;>
    · simp only [Metrics.hit]
      omega
  | recorded found recorder record =>
    refine ⟨?_, ?_, ?_, Store.nodup_paths_append nodup_paths _ _,
      Store.log_append_ne_nil log_ne_nil _ _⟩
    · simp only [Metrics.hit, Metrics.written]
      omega
    · rw [Store.count_append]
      simp only [Metrics.hit, Metrics.written]
      omega
    · simp only [Metrics.hit, Metrics.written]
      omega

/-- One event keeps a server balanced. -/
theorem Balanced.after [JsonReader] {s : Server} (h : Balanced s) (e : Event) :
    Balanced (s.after project e) := by
  cases e with
  | request r => exact h.dispatch r
  | reload disk =>
    obtain ⟨routes, hreload⟩ := s.reload_server project disk
    rw [after_reload, hreload]
    exact ⟨h.total_eq, h.writes_eq, h.writes_le, h.nodup_paths, h.log_ne_nil⟩

theorem Balanced.run [JsonReader] {s : Server} (h : Balanced s) (events : List Event) :
    Balanced (s.run project events) := by
  induction events generalizing s with
  | nil => exact h
  | cons e rest ih => exact ih (h.after e)

/-- One event moves the total if it is a request. -/
theorem total_after [JsonReader] (s : Server) (e : Event) :
    (s.after project e).metrics.total = s.metrics.total + if e.isRequest then 1 else 0 := by
  cases e with
  | request r =>
    have h := s.dispatched r
    rw [after_request]
    generalize (s.dispatch r).1 = answer, (s.dispatch r).2.1 = t at h ⊢
    cases h <;> rfl
  | reload disk =>
    obtain ⟨routes, h⟩ := s.reload_server project disk
    rw [after_reload, h]
    simp [Event.isRequest]

/-- A run moves it by the number of its requests. -/
theorem total_run [JsonReader] (s : Server) (events : List Event) :
    (s.run project events).metrics.total
      = s.metrics.total + (events.countP Event.isRequest : Nat) := by
  induction events generalizing s with
  | nil => simp
  | cons e rest ih =>
    rw [run_cons, ih, total_after, List.countP_cons]
    split <;> omega

-- ============================================================== the ledger

/-- The ledger of a session. Behind every run from its beginning the log of a
path is what the turns recorded on it, the log at any earlier point is a
prefix of it, and no path without a record has a log; and the counts are
those of the requests and of the logs. -/
theorem ledger_of_run [JsonReader] {s : Server} (h : BeginsSession project s)
    (events : List Event) :
    let t := s.run project events
    (∀ path, t.store.log path = recordsOn path (s.turns project events))
      ∧ (∀ earlier later, events = earlier ++ later →
          ∀ path, (s.run project earlier).store.log path <+: t.store.log path)
      ∧ (∀ path ∈ t.store.paths, recordsOn path (s.turns project events) ≠ [])
      ∧ t.store.paths.Nodup
      ∧ t.metrics.total = t.metrics.matched + t.metrics.unmatched
      ∧ t.metrics.total = (events.countP Event.isRequest : Nat)
      ∧ t.metrics.writes = (t.store.logs.map (·.2.length)).sum
      ∧ t.metrics.writes ≤ t.metrics.matched := by
  intro t
  have hclean := h.clean
  have hlog : ∀ path, t.store.log path = recordsOn path (s.turns project events) := by
    intro path
    rw [log_run, hclean.store, Store.log_empty, List.nil_append]
  -- the counts are kept by every event, and the logs by the turns alone
  have hbalanced : Balanced t := hclean.balanced.run events
  refine ⟨hlog, ?_, ?_, hbalanced.nodup_paths, hbalanced.total_eq, ?_, hbalanced.writes_eq,
    hbalanced.writes_le⟩
  · intro earlier later hsplit path
    -- an earlier point of the run is the beginning of the rest of it
    have ht : t = (s.run project earlier).run project later := by
      rw [← run_append, ← hsplit]
    rw [ht]
    exact log_prefix_log_run ..
  · intro path hmem
    rw [← hlog path]
    exact hbalanced.log_ne_nil path hmem
  · rw [total_run, hclean.metrics]
    exact Int.zero_add _

/-- Makes notes, which are numbered. -/
def noteRoute : Route where
  pattern := "/notes"
  definition :=
    { method := "POST"
      status := 201
      headers := jsonHeaders
      body := .ofFields [("id", .ofString "\x7b\x7bauto\x7d\x7d")]
      stateful := true }

/-- A server that was made with one route. -/
def noteServer : Server := create {} [noteRoute] ⟨[]⟩

/-- Two notes with a reading one between them, and a request that no route
answers. -/
def noteEvents : List Event :=
  [.request { method := "POST", path := "/notes" }, .request { method := "GET", path := "/notes" },
   .request { method := "POST", path := "/none" }, .request { method := "post", path := "/notes/?" }]

/-- Of four requests two leave a note, one reads and one finds nothing. -/
theorem ledger_of_run_notes :
    BeginsSession ⟨.ofText "."⟩ noteServer
      ∧ (noteServer.run ⟨.ofText "."⟩ noteEvents).store.log "/notes"
        = recordsOn "/notes" (noteServer.turns ⟨.ofText "."⟩ noteEvents)
      ∧ (recordsOn "/notes" (noteServer.turns ⟨.ofText "."⟩ noteEvents)).length = 2
      ∧ (noteServer.run ⟨.ofText "."⟩ noteEvents).metrics.total = 4 := by
  have h : BeginsSession ⟨.ofText "."⟩ noteServer := .created ..
  obtain ⟨hlog, -, -, -, -, htotal, -⟩ := ledger_of_run h noteEvents
  exact ⟨h, hlog _, by decide +kernel, htotal⟩

end MockApi.Server
