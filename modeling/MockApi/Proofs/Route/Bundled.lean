/-
The route table of a bundle. A key gives back the pattern of its slot and an
entry its definition, so a table that is loaded from a bundle has the slots of
the endpoints in their order, and a request that fills a slot's pattern is
answered by that slot's route or by one before it.

One thing can keep a slot out of the table: an integer among the headers that a
configuration gives by hand, if it has too many digits for a text
(`header_integer_skipped`). No integer that a JSON text holds has, so the headers
of a configuration that was read fit (`Config.IsRead.headersFit`).
-/
import MockApi.Proofs.Mock.Bundle
import MockApi.Proofs.Route.Table

namespace MockApi

/-- The method and the pattern that a route answers. -/
def Route.slot (r : Route) : Slot := (r.definition.method, r.pattern)

variable {g : Generator} {statefulPosts : Bool} {slot : Slot} {key : Text} {style : ObjectStyle}

-- ============================================================== the entries

/-- A key gives back the pattern of its slot. -/
theorem IsSlot.patternOfKey (h : IsSlot slot) (hkey : IsKeyOf slot key) :
    Route.patternOfKey key = slot.2 := by
  have hwithout : Route.withoutMethod key = slot.2 := by
    unfold Route.withoutMethod
    simp only
    rcases hkey with rfl | rfl
    · rw [h.takeWhile_pattern]
      rfl
    · obtain ⟨rest, hrest⟩ := h.exists_cons
      have hword : slot.1.isEmpty = false := List.isEmpty_eq_false_iff.2 h.word.1
      have hblank : ((' ' : CodePoint) :: slot.2).dropWhile Text.isBlank = slot.2 := by
        rw [List.dropWhile_cons_of_pos (by decide), hrest,
          List.dropWhile_cons_of_neg (by decide)]
      rw [h.takeWhile_keyWithMethod, h.drop_keyWithMethod, hblank, hword, hrest]
      simp
  rw [Route.patternOfKey, hwithout, h.canonical]

/-- The route of an entry: the pattern of its slot and its definition, unless
its headers cannot be read. -/
theorem IsEntryOf.routeOf {entry : Text × Definition} (h : IsEntryOf slot entry)
    (hslot : IsSlot slot) (style : ObjectStyle) :
    RouteTable.routeOf style entry.1 entry.2.toJson = if entry.2.isReadable then
      .ok ⟨slot.2, entry.2.reread style⟩ else .error (.numeral .tooLargeToWrite) := by
  rw [RouteTable.routeOf, Definition.ofJson_toJson h.plain, hslot.patternOfKey h.key]
  split <;> rfl

/-- A definition has the method of its slot. -/
theorem method_of_mem_zip {slots : List Slot} {bundle : Bundle}
    (h : List.Forall₂ IsEntryOf slots bundle) :
    ∀ e ∈ slots.zip (bundle.map (·.2)), e.2.method = e.1.1 := by
  induction h with
  | nil =>
    intro e he
    cases he
  | @cons slot entry slots bundle hentry _ ih =>
    intro e he
    rw [List.map_cons, List.zip_cons_cons] at he
    rcases List.mem_cons.1 he with rfl | hmem
    · exact hentry.method
    · exact ih e hmem

namespace RouteTable

/-- The table of entries: a route for each that can be read, in order, and a
report for each other. -/
theorem ofEntries_eq {slots : List Slot} {bundle : Bundle}
    (h : List.Forall₂ IsEntryOf slots bundle) (hslots : ∀ slot ∈ slots, IsSlot slot) :
    ofEntries style (bundle.map fun e => (e.1, e.2.toJson))
      = (((slots.zip (bundle.map (·.2))).filter (·.2.isReadable)).map fun e =>
            ⟨e.1.2, e.2.reread style⟩,
          (bundle.filter (!·.2.isReadable)).map fun e =>
            skipped e.1 (.numeral .tooLargeToWrite)) := by
  induction h with
  | nil => rfl
  | @cons slot entry slots bundle hentry _ ih =>
    have hrest := ih fun s hs => hslots s (List.mem_cons_of_mem _ hs)
    have hroute := hentry.routeOf (hslots slot List.mem_cons_self) style
    rw [List.map_cons, ofEntries, hrest, hroute, List.map_cons, List.zip_cons_cons]
    cases hreadable : entry.2.isReadable with
    | true => simp [hreadable]
    | false => simp [hreadable]

/-- Where all entries can be read, the table has a route for each. -/
theorem ofEntries_of_isReadable {slots : List Slot} {bundle : Bundle}
    (h : List.Forall₂ IsEntryOf slots bundle) (hslots : ∀ slot ∈ slots, IsSlot slot)
    (hreadable : ∀ d ∈ bundle.map (·.2), d.isReadable = true) (style : ObjectStyle) :
    ofEntries style (bundle.map fun e => (e.1, e.2.toJson))
      = ((slots.zip (bundle.map (·.2))).map fun e => ⟨e.1.2, e.2.reread style⟩, []) := by
  have hzip : (slots.zip (bundle.map (·.2))).filter (·.2.isReadable)
      = slots.zip (bundle.map (·.2)) :=
    List.filter_eq_self.2 fun e he => hreadable _ (List.of_mem_zip he).2
  have hskip : bundle.filter (!·.2.isReadable) = [] := by
    refine List.filter_eq_nil_iff.2 fun e he => ?_
    rw [hreadable _ (List.mem_map_of_mem he)]
    decide
  rw [ofEntries_eq h hslots, hzip, hskip, List.map_nil]

-- ============================================================ the look-up

/-- A request that fills the pattern of a route and has its method is answered
by that route or by one before it. -/
theorem find_of_fills {table : RouteTable} {index : Nat} {route : Route} {method path : Text}
    (h : table[index]? = some route) (hmethod : route.definition.method = Text.upper method)
    (canon : Path.canonical route.pattern = route.pattern) (fills : Path.Fills route.pattern path) :
    ∃ i found, table.find method path = .answer i found ∧ i ≤ index
      ∧ found.definition.method = Text.upper method := by
  obtain ⟨hpath, hfits⟩ := Path.fits_of_fills canon fills
  have hanswers : route.answers (Text.upper method) path = true := by
    rw [Route.answers, hmethod, hfits, beq_self_eq_true]
    rfl
  obtain ⟨i, found, hfound, -, hle, hfoundAnswers⟩ := lookUp_of_answers h hanswers
  rw [Route.answers, Bool.and_eq_true, beq_iff_eq] at hfoundAnswers
  refine ⟨i, found, ?_, hle, hfoundAnswers.1⟩
  rw [find, hpath, hfound]

end RouteTable

-- ============================================================ the whole table

/-- The routes of a bundle have its slots. -/
theorem map_slot_zip {slots : List Slot} {bundle : Bundle}
    (h : List.Forall₂ IsEntryOf slots bundle) (style : ObjectStyle) :
    ((slots.zip (bundle.map (·.2))).map fun e => (⟨e.1.2, e.2.reread style⟩ : Route)).map Route.slot
      = slots := by
  have hlength : slots.length ≤ (bundle.map (·.2)).length := by
    rw [List.length_map, h.length_eq]
  rw [List.map_map]
  conv_rhs => rw [← List.map_fst_zip hlength]
  refine List.map_congr_left fun e he => ?_
  exact Prod.ext (method_of_mem_zip h e he) rfl

/-- The routes of a bundle have its definitions, as they are reread. -/
theorem map_definition_zip {slots : List Slot} {bundle : Bundle}
    (h : List.Forall₂ IsEntryOf slots bundle) (style : ObjectStyle) :
    ((slots.zip (bundle.map (·.2))).map fun e =>
        (⟨e.1.2, e.2.reread style⟩ : Route)).map (·.definition)
      = (bundle.map (·.2)).map (·.reread style) := by
  have hlength : (bundle.map (·.2)).length ≤ slots.length := by
    rw [List.length_map, h.length_eq]
  rw [List.map_map]
  conv_rhs => rw [← List.map_snd_zip hlength, List.map_map]
  rfl

theorem isSlot_of_mem_slots {calls : List Call}
    (words : ∀ call ∈ calls, Text.IsLatinWord call.method) (h : slot ∈ g.slots calls) :
    IsSlot slot := by
  obtain ⟨call, hcall, hslot⟩ := List.mem_filterMap.1 (List.mem_eraseDups.1 h)
  exact isSlot_of_slot? (words call hcall) hslot

/-- The table of a bundle, where the headers given by hand have a text. No key of
the bundle is given twice and no entry is left out of the table. Its routes are the
slots of the endpoints in the order in which they occur first, each with the
definition that was generated for that endpoint, with texts as header values.
Every endpoint has its place among them; and a request of its method on a path
that fills its pattern is answered by a route of that method, which stands no
later than that place. -/
theorem table_of_build {calls : List Call} {chance rest : Chance} {bundle : Bundle}
    (words : ∀ call ∈ calls, Text.IsLatinWord call.method)
    (statuses : g.config.NamesStatuses) (fits : g.config.HeadersFit)
    (built : Bundle.build g statefulPosts calls chance = .ok (bundle, rest))
    (style : ObjectStyle) :
    let (table, log) := RouteTable.ofEntries style (bundle.map fun e => (e.1, e.2.toJson))
    (bundle.map (·.1)).Nodup
      ∧ log = []
      ∧ table.map Route.slot = g.slots calls
      ∧ g.defineEach statefulPosts (g.firsts calls) chance = .ok (bundle.map (·.2), rest)
      ∧ table.map (·.definition) = (bundle.map (·.2)).map (·.reread style)
      ∧ ∀ call ∈ calls, ∃ slot index, g.slot? call = some slot
          ∧ (g.slots calls)[index]? = some slot
          ∧ ∀ path, Path.Fills slot.2 path →
              ∃ i found, table.find call.method path = .answer i found ∧ i ≤ index
                ∧ found.definition.method = slot.1 := by
  obtain ⟨hnodup, hsome, hdefined, hentries⟩ := Bundle.of_build words statuses built
  have hreadable := Generator.isReadable_of_defineEach fits hdefined
  have hslots : ∀ slot ∈ g.slots calls, IsSlot slot :=
    fun _ hslot => isSlot_of_mem_slots words hslot
  rw [RouteTable.ofEntries_of_isReadable hentries hslots hreadable]
  have hslot := map_slot_zip hentries style
  refine ⟨hnodup, rfl, hslot, hdefined, map_definition_zip hentries style, ?_⟩
  intro call hcall
  obtain ⟨slot, hsome⟩ := Option.isSome_iff_exists.1 (hsome call hcall)
  have hmem : slot ∈ g.slots calls :=
    List.mem_eraseDups.2 (List.mem_filterMap.2 ⟨call, hcall, hsome⟩)
  -- the route at the place of the slot answers, unless one before it does
  obtain ⟨index, hindex⟩ := List.mem_iff_getElem?.1 hmem
  refine ⟨slot, index, hsome, hindex, fun path fills => ?_⟩
  rw [← hslot, List.getElem?_map, Option.map_eq_some_iff] at hindex
  obtain ⟨route, hroute, rfl⟩ := hindex
  have hmethod := Generator.fst_of_slot? hsome
  obtain ⟨i, found, hfind, hle, hfound⟩ :=
    RouteTable.find_of_fills hroute hmethod (hslots _ hmem).canonical fills
  exact ⟨i, found, hfind, hle, hfound.trans hmethod.symm⟩

/-- Generates by category only. -/
def petGenerator : Generator := ⟨{}, ⟨2024, 1, 1, 0, 0, 0⟩⟩

/-- Two endpoints, the first of them written in two ways. -/
def petCalls : List Call :=
  [⟨"get", "/pets/:id"⟩, ⟨"post", "/pets/:id/"⟩, ⟨"GET", "https://host/pets/:id?full=1"⟩]

/-- The slot of a method among them. -/
def petSlot (method : Text) : Slot := (method, "/pets/:id")

/-- Two endpoints with one pattern each have their route, under one key and
under another. -/
theorem table_of_build_pets :
    ∃ bundle rest, Bundle.build petGenerator true petCalls ⟨[]⟩ = .ok (bundle, rest)
      ∧ (RouteTable.ofEntries .braces (bundle.map fun e => (e.1, e.2.toJson))).1.map Route.slot
        = [petSlot "GET", petSlot "POST"] := by
  have words : ∀ call ∈ petCalls, Text.IsLatinWord call.method := by
    decide +kernel
  have statuses : petGenerator.config.NamesStatuses := fun _ _ h => nomatch h
  have fits : petGenerator.config.HeadersFit := fun _ _ h => nomatch h
  have hslots : petGenerator.slots petCalls = [petSlot "GET", petSlot "POST"] := by
    decide +kernel
  have hbuilds : (Bundle.build petGenerator true petCalls ⟨[]⟩).isOk = true := by
    decide +kernel
  cases built : Bundle.build petGenerator true petCalls ⟨[]⟩ with
  | error cause =>
    rw [built] at hbuilds
    cases hbuilds
  | ok made =>
    obtain ⟨bundle, rest⟩ := made
    obtain ⟨-, -, hslot, -⟩ :=
      table_of_build words statuses fits built .braces
    exact ⟨bundle, rest, rfl, hslot.trans hslots⟩

/-- A response given by hand, with an integer among its headers. -/
def headerGenerator (n : Int) : Generator :=
  ⟨{ templates := [("/a", .obj [("headers", .obj [("x-count", .int n)])])] },
    ⟨2024, 1, 1, 0, 0, 0⟩⟩

/-- The endpoint that it is given for. -/
def headerCalls : List Call := [⟨"GET", "/a"⟩]

/-- An integer of one digit too many among the headers keeps an entry out of the
table, although its status is in range. -/
theorem header_integer_skipped :
    ¬∀ (g : Generator) (calls : List Call) (bundle : Bundle) (rest : Chance),
      (∀ call ∈ calls, Text.IsLatinWord call.method) → g.config.NamesStatuses →
      Bundle.build g false calls ⟨[]⟩ = .ok (bundle, rest) →
        (RouteTable.ofEntries .braces (bundle.map fun e => (e.1, e.2.toJson))).1.map Route.slot
          = g.slots calls := by
  intro h
  have words : ∀ call ∈ headerCalls, Text.IsLatinWord call.method := by decide +kernel
  have statuses : (headerGenerator (10 ^ 4300)).config.NamesStatuses := by
    intro url fields hmem n hn
    have hfields := (Prod.mk.inj (List.mem_singleton.1 hmem)).2
    rw [Json.obj.inj hfields] at hn
    cases hn
  have hslots : (headerGenerator (10 ^ 4300)).slots headerCalls ≠ [] := by decide +kernel
  have hempty : ((Bundle.build (headerGenerator (10 ^ 4300)) false headerCalls ⟨[]⟩).toOption.map
      fun made => (RouteTable.ofEntries .braces (made.1.map fun e => (e.1, e.2.toJson))).1.map
        Route.slot) = some [] := by decide +kernel
  cases built : Bundle.build (headerGenerator (10 ^ 4300)) false headerCalls ⟨[]⟩ with
  | error cause =>
    rw [built] at hempty
    cases hempty
  | ok made =>
    have hall := h _ _ made.1 made.2 words statuses built
    rw [built] at hempty
    exact hslots (hall.symm.trans (Option.some.inj hempty))

end MockApi
