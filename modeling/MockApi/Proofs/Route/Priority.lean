/-
Priority. A request is answered by the first route that has its method and meets
its path; a reading request that none answers is given the first stateful route
that meets its path; and nothing else is ever found. `find_priority` says so with
the segments spelled out, and draws what follows for longer tables: routes that
are added behind leave an answer as it is, and a route that does not meet the path
is not noticed wherever it is put in.

Routes that are added behind do not leave a replay as it is: one of them may answer,
and an answer goes before every replay.
-/
import MockApi.Proofs.Route.Table

namespace MockApi

-- ================================================================ meeting

/-- A segment of a pattern takes one of a path: it starts with a colon, or both
are the same. -/
def Path.Takes (p s : Text) : Prop := p.head? = some (.char ':') ∨ p = s

/-- The pattern has as many segments as the path, and each takes the one that
stands there. -/
def Path.Meets (pattern path : Text) : Prop :=
  List.Forall₂ Path.Takes (Path.segments pattern) (Path.segments path)

/-- Segments fit if there are as many and each takes the other. -/
theorem Path.segmentsFit_iff {pattern path : List Text} :
    segmentsFit pattern path = true ↔ List.Forall₂ Takes pattern path := by
  induction pattern generalizing path with
  | nil =>
    cases path with
    | nil => exact iff_of_true rfl .nil
    | cons s path => exact iff_of_false Bool.false_ne_true fun h => nomatch h
  | cons p pattern ih =>
    cases path with
    | nil => exact iff_of_false Bool.false_ne_true fun h => nomatch h
    | cons s path =>
      rw [segmentsFit, Bool.and_eq_true, Bool.or_eq_true, List.forall₂_cons, ih, isParameter,
        beq_iff_eq, beq_iff_eq]
      rfl

theorem Path.fits_iff {pattern path : Text} : fits pattern path = true ↔ Meets pattern path :=
  segmentsFit_iff

namespace Route

/-- The route has the method and meets the path. -/
def Serves (r : Route) (method path : Text) : Prop :=
  r.definition.method = method ∧ Path.Meets r.pattern path

/-- The route is stateful and meets the path. -/
def Recalls (r : Route) (path : Text) : Prop :=
  r.definition.stateful = true ∧ Path.Meets r.pattern path

theorem answers_iff {r : Route} {method path : Text} :
    r.answers method path = true ↔ r.Serves method path := by
  rw [answers, Bool.and_eq_true, beq_iff_eq, Path.fits_iff, Serves]

theorem replays_iff {r : Route} {path : Text} : r.replays path = true ↔ r.Recalls path := by
  rw [replays, Bool.and_eq_true, Path.fits_iff, Recalls]

end Route

namespace RouteTable

variable {p : Route → Bool} {table front back : RouteTable} {route r : Route} {index : Nat}
  {method path : Text}

/-- The route stands at the place and has the property, which none before it has. -/
structure IsFirst (table : RouteTable) (has : Route → Prop) (index : Nat) (route : Route) :
    Prop where
  get : table[index]? = some route
  holds : has route
  least : ∀ i earlier, i < index → table[i]? = some earlier → ¬has earlier

-- ========================================================== the first route

/-- A search gives the first route that has what is searched for. -/
theorem first?_eq_some_iff_isFirst {has : Route → Prop} (h : ∀ r, p r = true ↔ has r) :
    first? p table = some (index, route) ↔ table.IsFirst has index route := by
  rw [first?_eq_some_iff]
  constructor
  · intro ⟨hget, hp, hnone⟩
    refine ⟨hget, (h _).1 hp, fun i earlier hlt hearlier hhas => ?_⟩
    have hnot := hnone i earlier hlt hearlier
    rw [(h _).2 hhas] at hnot
    cases hnot
  · intro hfirst
    refine ⟨hfirst.get, (h _).2 hfirst.holds, fun i earlier hlt hearlier => ?_⟩
    rw [← Bool.not_eq_true, h]
    exact hfirst.least i earlier hlt hearlier

/-- It gives none if no route has it. -/
theorem first?_eq_none_iff {has : Route → Prop} (h : ∀ r, p r = true ↔ has r) :
    first? p table = none ↔ ∀ r ∈ table, ¬has r := by
  induction table with
  | nil => exact iff_of_true rfl fun r hr => nomatch hr
  | cons first rest ih =>
    rw [first?, List.forall_mem_cons, ← ih, ← h]
    by_cases hp : p first = true
    · simp [hp]
    · simp [hp]

/-- Routes that are added behind do not change which route is the first. -/
theorem first?_append {found : Nat × Route} (h : first? p table = some found)
    (more : RouteTable) : first? p (table ++ more) = some found := by
  induction table generalizing found with
  | nil => cases h
  | cons first rest ih =>
    rw [first?] at h
    rw [List.cons_append, first?]
    by_cases hp : p first = true
    · rw [if_pos hp] at h ⊢
      exact h
    · rw [if_neg hp] at h ⊢
      obtain ⟨inner, hinner, rfl⟩ := Option.map_eq_some_iff.1 h
      rw [ih hinner, Option.map_some]

/-- The place of a route once another one is put in. -/
def moved (place index : Nat) : Nat := if index < place then index else index + 1

/-- A route without the property that is put in moves the first one that has it. -/
theorem first?_insert (hr : p r = false) :
    first? p (front ++ r :: back)
      = (first? p (front ++ back)).map fun found => (moved front.length found.1, found.2) := by
  induction front with
  | nil =>
    rw [List.nil_append, List.nil_append, first?, hr]
    rfl
  | cons first rest ih =>
    rw [List.cons_append, List.cons_append, first?, first?]
    by_cases hp : p first = true
    · rw [if_pos hp, if_pos hp]
      rfl
    · rw [if_neg hp, if_neg hp, ih, Option.map_map, Option.map_map]
      congr 1
      funext found
      simp only [Function.comp_apply, moved, List.length_cons, Prod.mk.injEq, and_true]
      split <;> split <;> omega

-- ============================================================== the look-up

namespace Found

/-- What was found, once another route is put in. -/
def moved (place : Nat) : Found → Found
  | answer index route => answer (RouteTable.moved place index) route
  | replay index route => replay (RouteTable.moved place index) route
  | nothing => nothing

theorem route?_moved (place : Nat) (found : Found) : (found.moved place).route? = found.route? := by
  cases found <;> rfl

theorem reason_moved (place : Nat) (found : Found) (method path : Text) :
    (found.moved place).reason method path = found.reason method path := by
  cases found <;> rfl

end Found

/-- A route is replayed only for a GET that no route answers. -/
theorem lookUp_eq_replay_iff :
    table.lookUp method path = .replay index route ↔
      method = "GET" ∧ first? (·.answers method path) table = none
        ∧ first? (·.replays path) table = some (index, route) := by
  unfold lookUp
  cases first? (·.answers method path) table with
  | some found => simp
  | none =>
    by_cases hget : method = "GET"
    · rw [if_pos hget]
      cases first? (·.replays path) table with
      | some found => simp [hget, Prod.ext_iff]
      | none => simp
    · simp [hget]

/-- Nothing is found if no route answers, and none is replayed to a GET. -/
theorem lookUp_eq_nothing_iff :
    table.lookUp method path = .nothing ↔
      first? (·.answers method path) table = none
        ∧ (method = "GET" → first? (·.replays path) table = none) := by
  unfold lookUp
  cases first? (·.answers method path) table with
  | some found => simp
  | none =>
    by_cases hget : method = "GET"
    · rw [if_pos hget]
      cases first? (·.replays path) table with
      | some found => simp [hget]
      | none => simp
    · simp [hget]

/-- A route that does not fit the path is not noticed by requests for it. -/
theorem lookUp_insert (hr : Path.fits r.pattern path = false) :
    lookUp (front ++ r :: back) method path
      = (lookUp (front ++ back) method path).moved front.length := by
  have hanswers : r.answers method path = false := by rw [Route.answers, hr, Bool.and_false]
  have hreplays : r.replays path = false := by rw [Route.replays, hr, Bool.and_false]
  unfold lookUp
  rw [first?_insert hanswers, first?_insert hreplays]
  cases first? (·.answers method path) (front ++ back) with
  | some found => rfl
  | none =>
    by_cases hget : method = "GET"
    · rw [if_pos hget, if_pos hget]
      cases first? (·.replays path) (front ++ back) with
      | some found => rfl
      | none => rfl
    · rw [if_neg hget, if_neg hget]
      rfl

/-- What a request is given. The first route with its method that meets its path
answers; where there is none, a reading request is given the first stateful route
that meets its path; and otherwise nothing is found. So an answer stays what it is
however the table goes on, and a route that does not meet the path changes neither
the route nor the reason wherever it is put in. -/
theorem find_priority (table : RouteTable) (method path : Text) :
    let word := Text.upper method
    let place := Path.canonical path
    (∀ index route, table.find method path = .answer index route ↔
        table.IsFirst (·.Serves word place) index route)
      ∧ (∀ index route, table.find method path = .replay index route ↔
        word = "GET" ∧ (∀ r ∈ table, ¬r.Serves word place)
          ∧ table.IsFirst (·.Recalls place) index route)
      ∧ (table.find method path = .nothing ↔
        (∀ r ∈ table, ¬r.Serves word place)
          ∧ (word = "GET" → ∀ r ∈ table, ¬r.Recalls place))
      ∧ (∀ index route, table.find method path = .answer index route →
        ∀ more, find (table ++ more) method path = .answer index route)
      ∧ ∀ front back r, table = front ++ back → ¬Path.Meets r.pattern place →
        (find (front ++ r :: back) method path).route? = (table.find method path).route?
          ∧ (find (front ++ r :: back) method path).reason method path
            = (table.find method path).reason method path := by
  intro word place
  have hserves : ∀ r : Route, r.answers word place = true ↔ r.Serves word place :=
    fun r => Route.answers_iff
  have hrecalls : ∀ r : Route, r.replays place = true ↔ r.Recalls place :=
    fun r => Route.replays_iff
  refine ⟨?_, ?_, ?_, ?_, ?_⟩
  · intro index route
    exact lookUp_eq_answer_iff.trans (first?_eq_some_iff_isFirst hserves)
  · intro index route
    rw [← first?_eq_none_iff hserves, ← first?_eq_some_iff_isFirst hrecalls]
    exact lookUp_eq_replay_iff
  · rw [← first?_eq_none_iff hserves, ← first?_eq_none_iff hrecalls]
    exact lookUp_eq_nothing_iff
  · intro index route h more
    exact lookUp_eq_answer_iff.2 (first?_append (lookUp_eq_answer_iff.1 h) more)
  · rintro front back r rfl hmeets
    rw [← Path.fits_iff, Bool.not_eq_true] at hmeets
    -- a route that does not meet the path moves the others only
    have hmoved : find (front ++ r :: back) method path
        = (find (front ++ back) method path).moved front.length := lookUp_insert hmeets
    rw [hmoved]
    exact ⟨Found.route?_moved .., Found.reason_moved ..⟩

/-- Keeps what is put on a shelf. -/
def shelfRoute : Route where
  pattern := "/books"
  definition := { method := "POST", status := 201, headers := jsonHeaders, stateful := true }

/-- Answers for the books that have the pattern. -/
def bookRoute (pattern : Text) : Route where
  pattern := pattern
  definition := { method := "GET", status := 200, headers := jsonHeaders }

/-- The route of any book goes before the route of one, and the shelf is passed over
wherever it stands. -/
theorem find_priority_books :
    let table : RouteTable := [shelfRoute, bookRoute "/books/:id"]
    let path : Text := "/books//7?all"
    table.find "get" path = .answer 1 (bookRoute "/books/:id")
      ∧ find (table ++ [bookRoute "/books/7"]) "get" path = .answer 1 (bookRoute "/books/:id")
      ∧ ¬Path.Meets shelfRoute.pattern (Path.canonical path)
      ∧ (find (shelfRoute :: table) "get" path).route? = some (bookRoute "/books/:id") := by
  intro table path
  obtain ⟨hanswer, -, -, happend, hinsert⟩ := find_priority table "get" path
  have hfound : table.find "get" path = .answer 1 (bookRoute "/books/:id") := by
    refine (hanswer ..).2 ⟨rfl, Route.answers_iff.1 (by decide +kernel), ?_⟩
    intro i earlier hlt hearlier
    -- the shelf stands in front and does not answer
    obtain rfl : i = 0 := by omega
    obtain rfl := Option.some.inj hearlier
    rw [← Route.answers_iff]
    decide +kernel
  have hshelf : ¬Path.Meets shelfRoute.pattern (Path.canonical path) := by
    rw [← Path.fits_iff]
    decide +kernel
  refine ⟨hfound, happend _ _ hfound _, hshelf, ?_⟩
  have hroute := (hinsert [] table shelfRoute rfl hshelf).1
  rw [hfound] at hroute
  exact hroute

/-- What is read back, other than an answer, can be hidden by a route further on. -/
example : find [shelfRoute] "get" "/books" = .replay 0 shelfRoute
    ∧ find [shelfRoute, bookRoute "/books"] "get" "/books" = .answer 1 (bookRoute "/books") := by
  constructor <;> rfl

end RouteTable

end MockApi
