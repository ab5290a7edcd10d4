/-
Route tables. The table of a bundle holds the routes of those entries that are
definitions, in their order (`ofEntries_fst`).

Looking up a route: the first route with a property has it, and it stands no
later than any other route that has it; so a request that some route answers
is given a route that answers, and a reading request finds a route wherever a
stateful one fits its path.
-/
import MockApi.Proofs.Route.Path
import MockApi.Route.Table

namespace MockApi

-- ================================================================== entries

/-- The route of a bundle's entry, if its value is a definition. -/
def Route.ofEntry? (style : ObjectStyle) (entry : Text × Json) : Option Route :=
  (Definition.ofJson style entry.2).toOption.map fun definition =>
    ⟨Path.canonical (Route.withoutMethod entry.1), definition⟩

/-- An entry that is no definition makes no route. -/
theorem Route.ofEntry?_eq_none {style : ObjectStyle} {entry : Text × Json}
    (h : ∀ definition, Definition.ofJson style entry.2 ≠ .ok definition) :
    Route.ofEntry? style entry = none := by
  unfold ofEntry?
  cases hentry : Definition.ofJson style entry.2 with
  | ok definition => exact absurd hentry (h definition)
  | error cause => rfl

theorem Route.canonical_ofEntry? {style : ObjectStyle} {entry : Text × Json} {route : Route}
    (h : Route.ofEntry? style entry = some route) :
    Path.canonical route.pattern = route.pattern := by
  obtain ⟨definition, -, rfl⟩ := Option.map_eq_some_iff.1 h
  exact Path.canonical_canonical _

/-- A table has the routes of its entries, in order. -/
theorem RouteTable.ofEntries_fst (style : ObjectStyle) (entries : Fields) :
    (RouteTable.ofEntries style entries).1 = entries.filterMap (Route.ofEntry? style) := by
  induction entries with
  | nil => rfl
  | cons entry rest ih =>
    rw [ofEntries, List.filterMap_cons, ← ih]
    unfold Route.ofEntry? RouteTable.routeOf
    cases Definition.ofJson style entry.2 with
    | ok definition => rfl
    | error cause => rfl

namespace RouteTable

variable {p : Route → Bool} {table : RouteTable} {route : Route} {index : Nat}
  {method path : Text}

-- ========================================================== the first route

/-- The first route with a property stands where it is said to, and has it. -/
theorem of_first?_eq_some (h : first? p table = some (index, route)) :
    table[index]? = some route ∧ p route = true := by
  induction table generalizing index with
  | nil => cases h
  | cons r rest ih =>
    rw [first?] at h
    by_cases hr : p r = true
    · rw [if_pos hr] at h
      obtain ⟨rfl, rfl⟩ := Prod.mk.inj (Option.some.inj h)
      exact ⟨rfl, hr⟩
    · rw [if_neg hr] at h
      obtain ⟨⟨i, r'⟩, hfirst, heq⟩ := Option.map_eq_some_iff.1 h
      obtain ⟨rfl, rfl⟩ := Prod.mk.inj heq
      exact ih hfirst

/-- Where a route has a property, the first one that has it stands no later. -/
theorem first?_of_getElem? (h : table[index]? = some route) (hp : p route = true) :
    ∃ i r, first? p table = some (i, r) ∧ i ≤ index := by
  induction table generalizing index with
  | nil => cases h
  | cons r rest ih =>
    rw [first?]
    by_cases hr : p r = true
    · rw [if_pos hr]
      exact ⟨0, r, rfl, Nat.zero_le _⟩
    · rw [if_neg hr]
      cases index with
      | zero =>
        obtain rfl := Option.some.inj h
        exact absurd hp hr
      | succ index =>
        obtain ⟨i, r', hfirst, hle⟩ := ih h
        exact ⟨i + 1, r', by rw [hfirst, Option.map_some], Nat.succ_le_succ hle⟩

/-- The first route with a property is the one that has it while none before it
has. -/
theorem first?_eq_some_iff :
    first? p table = some (index, route) ↔ table[index]? = some route ∧ p route = true
      ∧ ∀ i earlier, i < index → table[i]? = some earlier → p earlier = false := by
  constructor
  · intro h
    obtain ⟨hget, hp⟩ := of_first?_eq_some h
    refine ⟨hget, hp, fun i earlier hlt hearlier => ?_⟩
    by_contra hne
    have hhas : p earlier = true := by simpa using hne
    obtain ⟨i', r, hfirst, hle⟩ := first?_of_getElem? (p := p) hearlier hhas
    rw [h] at hfirst
    have hindex : index = i' := congrArg Prod.fst (Option.some.inj hfirst)
    omega
  · intro h
    obtain ⟨hget, hp, hnone⟩ := h
    obtain ⟨i, r, hfirst, hle⟩ := first?_of_getElem? (p := p) hget hp
    obtain ⟨hr, hhas⟩ := of_first?_eq_some hfirst
    by_cases hlt : i < index
    · rw [hnone i r hlt hr] at hhas
      cases hhas
    · obtain rfl : i = index := by omega
      rw [hget] at hr
      rw [hfirst, Option.some.inj hr]

-- ============================================================== the look-up

/-- A route is found to answer if it is the first one that answers. -/
theorem lookUp_eq_answer_iff :
    table.lookUp method path = .answer index route ↔
      first? (·.answers method path) table = some (index, route) := by
  unfold lookUp
  cases hfirst : first? (·.answers method path) table with
  | some found =>
    obtain ⟨i, r⟩ := found
    simp
  | none =>
    simp only [reduceCtorEq, iff_false]
    by_cases hget : method = "GET"
    · rw [if_pos hget]
      cases first? (·.replays path) table with
      | some found => simp
      | none => simp
    · simp [hget]

/-- A route that was found stands in the table and fits the path. -/
theorem of_lookUp_eq_some (h : (table.lookUp method path).route? = some route) :
    route ∈ table ∧ Path.fits route.pattern path = true := by
  unfold lookUp at h
  split at h
  · next index r hfirst =>
    obtain rfl := Option.some.inj h
    obtain ⟨hget, hanswers⟩ := of_first?_eq_some hfirst
    rw [Route.answers, Bool.and_eq_true] at hanswers
    exact ⟨List.mem_of_getElem? hget, hanswers.2⟩
  · split at h
    · split at h
      · next index r hfirst =>
        obtain rfl := Option.some.inj h
        obtain ⟨hget, hreplays⟩ := of_first?_eq_some hfirst
        rw [Route.replays, Bool.and_eq_true] at hreplays
        exact ⟨List.mem_of_getElem? hget, hreplays.2⟩
      · cases h
    · cases h

/-- Where a route answers, a route that answers is found, and no later one. -/
theorem lookUp_of_answers (h : table[index]? = some route)
    (answers : route.answers method path = true) :
    ∃ i r, table.lookUp method path = .answer i r ∧ table[i]? = some r ∧ i ≤ index
      ∧ r.answers method path = true := by
  obtain ⟨i, r, hfirst, hle⟩ := first?_of_getElem? (p := (·.answers method path)) h answers
  obtain ⟨hget, hr⟩ := of_first?_eq_some hfirst
  refine ⟨i, r, ?_, hget, hle, hr⟩
  unfold lookUp
  rw [hfirst]

/-- Where a stateful route fits the path, a reading request finds a route. -/
theorem lookUp_get_isSome (hmem : route ∈ table) (replays : route.replays path = true) :
    ((table.lookUp "GET" path).route?).isSome = true := by
  obtain ⟨index, hget⟩ := List.getElem?_of_mem hmem
  obtain ⟨i, r, hfirst, -⟩ := first?_of_getElem? (p := (·.replays path)) hget replays
  unfold lookUp
  split
  · rfl
  · rw [if_pos rfl, hfirst]
    rfl

end RouteTable

end MockApi
