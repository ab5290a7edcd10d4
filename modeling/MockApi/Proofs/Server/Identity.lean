/-
Ids of a session. A turn draws an id where a request is recorded by a template
that has a placeholder for one and none that stands for nothing known; the
draws of a run are numbered from the first id on, one by one.

A draw is made before the template is filled, and it is not taken back: where
an integer is too large for text the id is gone and no record has it. So it is
the draws that are numbered without a gap, not the records; the records have
distinct ids all the same. Placeholders stand in strings; a key that reads like
one is a key.
-/
import MockApi.Proofs.Decimal.Integer
import MockApi.Proofs.Mock.Template
import MockApi.Proofs.Server.Ledger

namespace MockApi

/-- What an id was drawn for, and the record that came of it. -/
structure Draw where
  template : Json
  content : Json
  record? : Option Json

/-- The draw was made of an id. -/
structure Draw.IsOf (draw : Draw) (id : Int) : Prop where
  /-- The record is the template with the id for its placeholder throughout. -/
  eq_filled : ∀ v, draw.record? = some v → v = Template.filled id draw.content draw.template
  /-- There is no record only if an integer is too large for text. -/
  eq_none_iff : draw.record? = none ↔ Template.isFillable id draw.content draw.template = false

namespace Server

variable {project : Project}

-- ================================================================ drawing

/-- The draw of a turn. -/
def draw? : Server × Event → Option Draw
  | (s, .request r) =>
    ((s.recorder? r).filter fun d => Template.takesId d.body).map fun d =>
      ⟨d.body, r.content, s.made? r⟩
  | (_, .reload _) => none

theorem draw?_request (s : Server) (r : Request) :
    draw? (s, .request r) = ((s.recorder? r).filter fun d => Template.takesId d.body).map fun d =>
      ⟨d.body, r.content, s.made? r⟩ := rfl

def draws (turns : List (Server × Event)) : List Draw := turns.filterMap draw?

/-- Behind a recorded request the next id has moved on if its turn draws. -/
theorem idAfter_eq {s : Server} {r : Request} {d : Definition}
    (recorder : s.recorder? r = some d) :
    s.idAfter d r = s.nextId + if (draw? (s, .request r)).isSome then 1 else 0 := by
  rw [idAfter, Template.render_snd, draw?_request, recorder, Option.filter_some]
  cases Template.takesId d.body with
  | true => rfl
  | false => rfl

variable (project) in
/-- The next id moves on by one in a turn that draws, and in no other. -/
theorem nextId_after [JsonReader] (s : Server) (e : Event) :
    (s.after project e).nextId = s.nextId + if (draw? (s, e)).isSome then 1 else 0 := by
  cases e with
  | request r =>
    have h := s.dispatched r
    rw [after_request]
    generalize (s.dispatch r).1 = answer, (s.dispatch r).2.1 = t at h ⊢
    cases h with
    | missed noRoute => simp [draw?_request, recorder?, noRoute]
    | replayed found noRecorder replay => simp [draw?_request, noRecorder]
    | answered found noRecorder noReplay => simp [draw?_request, noRecorder]
    | failed cause found recorder noRecord => exact idAfter_eq recorder
    | recorded found recorder record => exact idAfter_eq recorder
  | reload disk =>
    obtain ⟨routes, h⟩ := s.reload_server project disk
    rw [after_reload, h]
    simp [draw?]

/-- A definition that takes an id makes a record if its template can be filled with it. -/
theorem recordOf?_of_takesId {d : Definition} (h : Template.takesId d.body = true)
    (content : Json) (id : Int) :
    d.recordOf? content id = if Template.isFillable id content d.body then
      some (Template.filled id content d.body) else none := by
  unfold Template.takesId at h
  rw [Bool.and_eq_true, Option.isNone_iff_eq_none] at h
  rw [Definition.recordOf?, Template.render_eq, h.2]
  cases Template.isFillable id content d.body with
  | true => rfl
  | false => rfl

/-- A turn draws the next id. -/
theorem isOf_of_draw {s : Server} {e : Event} {draw : Draw} (h : draw? (s, e) = some draw) :
    draw.IsOf s.nextId := by
  cases e with
  | reload disk => cases h
  | request r =>
    rw [draw?_request] at h
    obtain ⟨d, hfilter, rfl⟩ := Option.map_eq_some_iff.1 h
    obtain ⟨recorder, takesId⟩ := Option.filter_eq_some_iff.1 hfilter
    have hmade : s.made? r = if Template.isFillable s.nextId r.content d.body then
        some (Template.filled s.nextId r.content d.body) else none := by
      rw [made?, recorder, Option.bind_some, recordOf?_of_takesId takesId]
    constructor
    · intro v hv
      rw [hmade] at hv
      split at hv
      · exact (Option.some.inj hv).symm
      · cases hv
    · rw [hmade]
      cases Template.isFillable s.nextId r.content d.body with
      | true => simp
      | false => simp

-- ================================================================= the run

/-- A run moves the next id by the number of its draws. -/
theorem nextId_run [JsonReader] (s : Server) (events : List Event) :
    (s.run project events).nextId
      = s.nextId + ((draws (s.turns project events)).length : Nat) := by
  induction events generalizing s with
  | nil => simp [turns, draws]
  | cons e rest ih =>
    rw [run_cons, ih, nextId_after, turns]
    unfold draws
    cases h : draw? (s, e) with
    | none =>
      rw [List.filterMap_cons_none h]
      simp
    | some draw =>
      rw [List.filterMap_cons_some h, List.length_cons]
      simp only [Option.isSome_some, if_true]
      omega

/-- The draws of a run are made of one id after another. -/
theorem isOf_of_draws [JsonReader] {s : Server} {events : List Event} {k : Nat} {draw : Draw}
    (h : (draws (s.turns project events))[k]? = some draw) : draw.IsOf (s.nextId + k) := by
  induction events generalizing s k with
  | nil => simp [turns, draws] at h
  | cons e rest ih =>
    rw [turns] at h
    unfold draws at h
    cases hdraw : draw? (s, e) with
    | none =>
      rw [List.filterMap_cons_none hdraw] at h
      have hid := nextId_after project s e
      rw [hdraw] at hid
      have hrest := ih h
      rw [hid] at hrest
      simpa using hrest
    | some first =>
      rw [List.filterMap_cons_some hdraw] at h
      -- this turn has the first id, and the later draws are numbered from the next one
      cases k with
      | zero =>
        rw [List.getElem?_cons_zero] at h
        obtain rfl := Option.some.inj h
        simpa using isOf_of_draw hdraw
      | succ k =>
        rw [List.getElem?_cons_succ] at h
        have hid := nextId_after project s e
        rw [hdraw] at hid
        have hrest := ih h
        rw [hid] at hrest
        have hsum : s.nextId + (if (some first).isSome then 1 else 0) + (k : Int)
            = s.nextId + ((k + 1 : Nat) : Int) := by
          simp only [Option.isSome_some, if_true]
          omega
        rw [hsum] at hrest
        exact hrest

/-- The ids of a session. The draws of a run from its beginning are made of
the first id and those behind it, one by one; the next id is the first one and
as many more as there are draws, and a turn that does not draw leaves it. No
two draws have the same id in their records. -/
theorem ids_of_run [JsonReader] {s : Server} (h : BeginsSession project s) (events : List Event) :
    let turns := s.turns project events
    (s.run project events).nextId = s.config.startId + ((draws turns).length : Nat)
      ∧ (∀ (k : Nat) (draw : Draw), (draws turns)[k]? = some draw →
          draw.IsOf (s.config.startId + k))
      ∧ (∀ turn ∈ turns, draw? turn = none →
          (turn.1.after project turn.2).nextId = turn.1.nextId)
      ∧ ∀ j k : Nat, j ≠ k → decimal (s.config.startId + j) ≠ decimal (s.config.startId + k) := by
  intro turns
  have hid := h.clean.nextId
  refine ⟨?_, ?_, ?_, ?_⟩
  · rw [nextId_run, hid]
  · intro k draw hk
    rw [← hid]
    exact isOf_of_draws hk
  · intro turn hmem hnone
    rw [nextId_after, hnone]
    simp
  · intro j k hne heq
    have hsum := decimal_injective heq
    omega

/-- Makes records of a template. -/
def recordRoute (template : Json) : Route where
  pattern := "/records"
  definition :=
    { method := "POST", status := 201, headers := jsonHeaders, body := template, stateful := true }

/-- A server that was made with one route and a first id. -/
def recordServer (startId : Int) (template : Json) : Server :=
  create { startId } [recordRoute template] ⟨[]⟩

/-- A request for a record. -/
def recordRequest : Event := .request { method := "POST", path := "/records" }

/-- Two records of one run take an id each. -/
theorem ids_of_run_records :
    let s := recordServer 7 (.ofString "note-\x7b\x7bauto\x7d\x7d")
    let events := [recordRequest, recordRequest]
    BeginsSession ⟨.ofText "."⟩ s
      ∧ (draws (s.turns ⟨.ofText "."⟩ events)).length = 2
      ∧ (s.run ⟨.ofText "."⟩ events).nextId = 9 := by
  intro s events
  have h : BeginsSession ⟨.ofText "."⟩ s := .created ..
  have hdraws : (draws (s.turns ⟨.ofText "."⟩ events)).length = 2 := by
    decide +kernel
  have hid := (ids_of_run h events).1
  rw [hdraws] at hid
  exact ⟨h, hdraws, hid⟩

/-- Two ways for an id to be missing where a record could have it. A key is no
place for a placeholder, so what stands in a key is kept as it is written. And
the last id that has a text is not the last one that is drawn: two requests
draw one each, and one record is made. -/
theorem id_missing_from_record :
    let keyed := recordServer 1 (.obj
      [("\x7b\x7bauto\x7d\x7d", .ofString "\x7b\x7bauto\x7d\x7d")])
    let late := recordServer (10 ^ digitLimit - 1) (.ofString "\x7b\x7bauto\x7d\x7d")
    ((keyed.run ⟨.ofText "."⟩ [recordRequest]).store.log "/records").head?.map (Json.text .body)
        = some "\x7b\"\x7b\x7bauto\x7d\x7d\": \"1\"\x7d"
      ∧ ((late.run ⟨.ofText "."⟩ [recordRequest, recordRequest]).store.log "/records").length = 1
      ∧ (late.run ⟨.ofText "."⟩ [recordRequest, recordRequest]).nextId
        = late.config.startId + 2 := by
  decide +kernel

end Server

end MockApi
