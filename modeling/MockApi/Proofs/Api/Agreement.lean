/-
The description of an API beside its mock bundle. Both are made of the same
endpoints, each told as an operation: a method in lower case and a path
template. The bundle takes the base URL off a URL before it reads the path, the
description does not, though it names the base URL as the place where its paths
are served.

So the two tell the same API exactly where taking the base URL off makes no
difference to the operations as a whole (`operations_agree_iff`). It makes none
where no URL starts with the base URL (`operations_agree_of_outside`), and
it does for a single endpoint under a base URL with a path (`operations_disagree`).
-/
import MockApi.Proofs.Api.Description
import MockApi.Proofs.Mock.Bundle

namespace MockApi

-- =============================================================== operations

/-- A method in lower case and the text of a path template. -/
abbrev OperationName := Text × Text

/-- The operation that a slot is documented as. -/
def operationOfSlot? (slot : Slot) : Option OperationName :=
  (PathTemplate.ofUrl slot.2).toOption.map fun template =>
    (Text.lower slot.1, PathTemplate.text template)

namespace Generator

/-- The operation of an endpoint as the bundle has it, if its URL has a path. -/
def operation? (g : Generator) (call : Call) : Option OperationName :=
  (g.slot? call).bind operationOfSlot?

/-- The generator without its base URL. -/
def withoutBase (g : Generator) : Generator := { g with config := { g.config with baseUrl := [] } }

end Generator

/-- The operations of a description. -/
def Description.operations (d : Description) : List OperationName :=
  d.paths.flatMap fun path => path.2.map fun operation => (operation.1, path.1)

/-- The operations of the slots that are in a bundle. -/
def Bundle.Building.operations (b : Bundle.Building) : List OperationName :=
  b.claimed.filterMap operationOfSlot?

variable {g : Generator} {call : Call} {calls : List Call} {o : OperationName}

-- ============================================================ path templates

/-- A route pattern has a path template: that of its segments. -/
theorem PathTemplate.ofUrl_of_routePattern {url base pattern : Text}
    (h : Path.routePattern url base = .ok pattern) :
    ofUrl pattern = .ok ((Path.segments pattern).map .ofSegment) := by
  have hcanonical := Path.canonical_of_routePattern h
  rw [ofUrl, Path.routeSegments, Path.routePattern_of_canonical hcanonical]
  rfl

/-- A URL has the path template of its route pattern. -/
theorem PathTemplate.exists_of_ofUrl {url : Text} {template : PathTemplate}
    (h : ofUrl url = .ok template) :
    ∃ pattern, Path.routePattern url [] = .ok pattern ∧ ofUrl pattern = .ok template := by
  cases hpattern : Path.routePattern url [] with
  | error cause =>
    rw [ofUrl, Path.routeSegments, hpattern] at h
    cases h
  | ok pattern =>
    rw [ofUrl, Path.routeSegments, hpattern] at h
    exact ⟨pattern, rfl, (ofUrl_of_routePattern hpattern).trans h⟩

theorem isSome_operationOfSlot? {slot : Slot} (h : g.slot? call = some slot) :
    (operationOfSlot? slot).isSome = true := by
  rw [operationOfSlot?, PathTemplate.ofUrl_of_routePattern (Generator.routePattern_of_slot? h)]
  rfl

-- ============================================================== the bundle

namespace Bundle

variable {statefulPosts : Bool} {b b' : Building} {slot : Slot}

/-- Endpoints that could be added have slots, and these are what came into the
bundle. -/
theorem slots_of_foldlM (h : calls.foldlM (add g statefulPosts) b = .ok b') :
    (∀ call ∈ calls, (g.slot? call).isSome = true)
      ∧ ∀ slot, slot ∈ b'.claimed
        ↔ slot ∈ b.claimed ∨ ∃ call ∈ calls, g.slot? call = some slot := by
  induction calls generalizing b with
  | nil =>
    obtain rfl := Except.ok.inj h
    simp
  | cons call rest ih =>
    rw [List.foldlM_cons] at h
    obtain ⟨b₁, hadd, hrest⟩ := bind_eq_ok.1 h
    obtain ⟨own, hown, hcases⟩ := add_cases hadd
    obtain ⟨hsome, hmem⟩ := ih hrest
    refine ⟨List.forall_mem_cons.2 ⟨by rw [hown, Option.isSome_some], hsome⟩, fun slot => ?_⟩
    have hclaimed : slot ∈ b₁.claimed ↔ slot ∈ b.claimed ∨ own = slot := by
      rcases hcases with ⟨hmem, rfl⟩ | ⟨-, d, chance, -, rfl⟩
      · exact ⟨Or.inl, fun hor => hor.elim id fun heq => heq ▸ hmem⟩
      · rw [List.mem_cons, or_comm, eq_comm]
    rw [hmem, hclaimed, or_assoc, List.exists_mem_cons_iff, hown, Option.some_inj]

/-- A bundle that could be built holds the operations of its endpoints. -/
theorem operations_of_foldlM {chance : Chance}
    (h : calls.foldlM (add g statefulPosts) ⟨[], [], chance⟩ = .ok b) :
    (∀ call ∈ calls, (g.operation? call).isSome = true)
      ∧ ∀ o, o ∈ b.operations ↔ ∃ call ∈ calls, g.operation? call = some o := by
  obtain ⟨hsome, hslots⟩ := slots_of_foldlM h
  refine ⟨fun call hcall => ?_, fun o => ?_⟩
  · obtain ⟨slot, hslot⟩ := Option.isSome_iff_exists.1 (hsome call hcall)
    rw [Generator.operation?, hslot, Option.bind_some]
    exact isSome_operationOfSlot? hslot
  · rw [Building.operations, List.mem_filterMap]
    constructor
    · rintro ⟨slot, hslot, ho⟩
      obtain ⟨call, hcall, heq⟩ := ((hslots slot).1 hslot).resolve_left List.not_mem_nil
      exact ⟨call, hcall, Option.bind_eq_some_iff.2 ⟨slot, heq, ho⟩⟩
    · rintro ⟨call, hcall, ho⟩
      obtain ⟨slot, heq, ho⟩ := Option.bind_eq_some_iff.1 ho
      exact ⟨slot, (hslots slot).2 (Or.inr ⟨call, hcall, heq⟩), ho⟩

end Bundle

-- ========================================================== the description

namespace Description

variable {d d' : Description}

/-- Setting the operation of a method adds its name to those on the path. -/
theorem mem_map_put {path verb : Text} {operation : Operation}
    {operations : List (Text × Operation)} :
    o ∈ (Fields.put verb operation operations).map (fun entry => (entry.1, path))
      ↔ o = (verb, path) ∨ o ∈ operations.map fun entry => (entry.1, path) := by
  have hmem : ∀ entries : List (Text × Operation),
      (o ∈ entries.map fun entry => (entry.1, path)) ↔ o.1 ∈ entries.map (·.1) ∧ path = o.2 := by
    intro entries
    simp only [List.mem_map, Prod.ext_iff, ← exists_and_right, and_assoc]
  rw [hmem, hmem, Fields.mem_map_fst_put, or_and_right, Prod.ext_iff, eq_comm (a := path)]

/-- Putting an operation on a path adds its name to the others. -/
theorem mem_operations_put {path verb : Text} {operation : Operation} :
    o ∈ (d.put path verb operation).operations ↔ o = (verb, path) ∨ o ∈ d.operations := by
  obtain ⟨title, serverUrl, paths, registry⟩ := d
  simp only [put, operations]
  induction paths with
  | nil => simp [Fields.put, Fields.get?]
  | cons first rest ih =>
    unfold Fields.put Fields.get?
    by_cases hpath : first.1 = path
    · simp only [hpath, if_true, Option.getD_some, List.flatMap_cons, List.mem_append, ← or_assoc]
      exact or_congr_left mem_map_put
    · simp only [hpath, if_false, List.flatMap_cons, List.mem_append, ih]
      exact or_left_comm

/-- An endpoint's URL is read by itself, also where the bundle takes a base URL off. -/
theorem operation?_withoutBase {template : PathTemplate}
    (letters : ∀ c ∈ call.method, Text.isAsciiLetter c = true)
    (h : PathTemplate.ofUrl call.url = .ok template) :
    g.withoutBase.operation? call = some (Text.lower call.method, template.text) := by
  obtain ⟨pattern, hpattern, htemplate⟩ := PathTemplate.exists_of_ofUrl h
  have hslot : g.withoutBase.slot? call = some (Text.upper call.method, pattern) := by
    rw [Generator.slot?, Generator.withoutBase, hpattern]
    rfl
  rw [Generator.operation?, hslot, Option.bind_some, operationOfSlot?, htemplate,
    Text.lower_upper letters]
  rfl

/-- A description that could be made holds the operations of the endpoints, each
read without regard to the base URL. -/
theorem operations_of_addAll {draws rest : Chance}
    (letters : ∀ call ∈ calls, ∀ c ∈ call.method, Text.isAsciiLetter c = true)
    (h : addAll g d calls draws = .ok (d', rest)) :
    d'.serverUrl = d.serverUrl
      ∧ (∀ call ∈ calls, (g.withoutBase.operation? call).isSome = true)
      ∧ ∀ o, o ∈ d'.operations
        ↔ o ∈ d.operations ∨ ∃ call ∈ calls, g.withoutBase.operation? call = some o := by
  induction calls generalizing d draws with
  | nil =>
    obtain ⟨rfl, -⟩ := Prod.mk.inj (Except.ok.inj h)
    simp
  | cons call later ih =>
    have hadded := added g d call draws
    unfold addAll at h
    generalize d.add g call draws = result at hadded h
    cases hadded with
    | refused cause blame => cases h
    | unwritten ofUrl made named status => cases h
    | @described template mock name rest status ofUrl made named written =>
      obtain ⟨hserver, hsome, hmem⟩ := ih (fun c hc => letters c (List.mem_cons_of_mem _ hc)) h
      have hcall := operation?_withoutBase (g := g) (letters call List.mem_cons_self) ofUrl
      refine ⟨hserver, List.forall_mem_cons.2 ⟨by rw [hcall, Option.isSome_some], hsome⟩,
        fun o => ?_⟩
      rw [hmem, mem_operations_put, List.exists_mem_cons_iff, hcall, Option.some_inj, eq_comm,
        or_left_comm, or_assoc]
      exact Iff.rfl

end Description

-- ================================================================ agreement

/-- Two ways of telling endpoints give the same results if each gives none that
the other does not give for some endpoint. -/
theorem same_results_iff {α β : Type} {f f' : α → Option β} {xs : List α}
    (hf : ∀ x ∈ xs, (f x).isSome = true) (hf' : ∀ x ∈ xs, (f' x).isSome = true) :
    (∀ y, (∃ x ∈ xs, f' x = some y) ↔ ∃ x ∈ xs, f x = some y)
      ↔ ∀ x ∈ xs, (∃ x' ∈ xs, f' x' = f x) ∧ ∃ x' ∈ xs, f x' = f' x := by
  constructor
  · intro h x hx
    obtain ⟨y, hy⟩ := Option.isSome_iff_exists.1 (hf x hx)
    obtain ⟨y', hy'⟩ := Option.isSome_iff_exists.1 (hf' x hx)
    rw [hy, hy']
    exact ⟨(h y).2 ⟨x, hx, hy⟩, (h y').1 ⟨x, hx, hy'⟩⟩
  · intro h y
    constructor
    · rintro ⟨x, hx, hy⟩
      rw [← hy]
      exact (h x hx).2
    · rintro ⟨x, hx, hy⟩
      rw [← hy]
      exact (h x hx).1

/-- A URL that does not start with the base URL is read the same way by both. -/
theorem operation?_of_outside
    (h : g.config.baseUrl = [] ∨ Text.afterPiece? g.config.baseUrl call.url = none) :
    g.withoutBase.operation? call = g.operation? call := by
  have hroute : Path.routePattern call.url [] = Path.routePattern call.url g.config.baseUrl := by
    rcases h with hempty | hnone
    · rw [hempty]
    · simp [Path.routePattern, hnone]
  rw [Generator.operation?, Generator.operation?, Generator.slot?, Generator.slot?, ← hroute]
  rfl

/-- Where no URL starts with the base URL, the description and the bundle tell
the same operations. -/
theorem operations_agree_of_outside {statefulPosts : Bool} {title : Option Text}
    {b : Bundle.Building} {d : Description} {chance draws rest : Chance}
    (letters : ∀ call ∈ calls, ∀ c ∈ call.method, Text.isAsciiLetter c = true)
    (built : calls.foldlM (Bundle.add g statefulPosts) ⟨[], [], chance⟩ = .ok b)
    (described : Description.addAll g { title, serverUrl := g.config.baseUrl } calls draws
      = .ok (d, rest))
    (outside : ∀ call ∈ calls,
      g.config.baseUrl = [] ∨ Text.afterPiece? g.config.baseUrl call.url = none) :
    o ∈ d.operations ↔ o ∈ b.operations := by
  obtain ⟨-, hbundle⟩ := Bundle.operations_of_foldlM built
  obtain ⟨-, -, hdescription⟩ := Description.operations_of_addAll letters described
  have hstart : o ∉ ({ title, serverUrl := g.config.baseUrl } : Description).operations :=
    List.not_mem_nil
  rw [hbundle, hdescription, or_iff_right hstart]
  refine exists_congr fun call => and_congr_right fun hcall => ?_
  rw [operation?_of_outside (outside call hcall)]

/-- The description of endpoints names the base URL as the place of its paths.
Its operations are those of the bundle of the same endpoints if and only if
what an endpoint is in the one, with the base URL taken off its URL or with the
URL as it is, some endpoint is in the other. -/
theorem operations_agree_iff {statefulPosts : Bool} {title : Option Text} {b : Bundle.Building}
    {d : Description} {chance draws rest : Chance}
    (letters : ∀ call ∈ calls, ∀ c ∈ call.method, Text.isAsciiLetter c = true)
    (built : calls.foldlM (Bundle.add g statefulPosts) ⟨[], [], chance⟩ = .ok b)
    (described : Description.addAll g { title, serverUrl := g.config.baseUrl } calls draws
      = .ok (d, rest)) :
    d.serverUrl = g.config.baseUrl
      ∧ ((∀ o, o ∈ d.operations ↔ o ∈ b.operations)
        ↔ ∀ call ∈ calls,
          (∃ other ∈ calls, g.withoutBase.operation? other = g.operation? call)
            ∧ ∃ other ∈ calls, g.operation? other = g.withoutBase.operation? call) := by
  obtain ⟨hbundled, hbundle⟩ := Bundle.operations_of_foldlM built
  obtain ⟨hserver, hdescribed, hdescription⟩ := Description.operations_of_addAll letters described
  refine ⟨hserver, ?_⟩
  rw [← same_results_iff hbundled hdescribed]
  refine forall_congr' fun o => ?_
  have hstart : o ∉ ({ title, serverUrl := g.config.baseUrl } : Description).operations :=
    List.not_mem_nil
  rw [hbundle, hdescription, or_iff_right hstart]

/-- A generator with a base URL and no responses given by hand. -/
def Generator.servedAt (base : Text) : Generator where
  config := { baseUrl := base }
  now := ⟨2024, 1, 15, 10, 30, 0⟩

/-- Under a base URL that is no more than a host, absolute and bare URLs agree. -/
theorem operations_agree_iff_host :
    let g := Generator.servedAt "http://h"
    let calls : List Call := [⟨"GET", "http://h/users/7"⟩, ⟨"post", "/users"⟩]
    ∃ b d rest, calls.foldlM (Bundle.add g false) ⟨[], [], ⟨[]⟩⟩ = .ok b
      ∧ Description.addAll g { serverUrl := g.config.baseUrl } calls ⟨[]⟩ = .ok (d, rest)
      ∧ d.serverUrl = "http://h"
      ∧ ∀ o, o ∈ d.operations ↔ o ∈ b.operations := by
  intro g calls
  have hbuilds : (calls.foldlM (Bundle.add g false) ⟨[], [], ⟨[]⟩⟩).isOk = true := by
    decide +kernel
  have hdescribes :
      (Description.addAll g { serverUrl := g.config.baseUrl } calls ⟨[]⟩).isOk = true := by
    decide +kernel
  obtain ⟨b, hbuilt⟩ := exists_of_isOk hbuilds
  obtain ⟨⟨d, rest⟩, hdescribed⟩ := exists_of_isOk hdescribes
  obtain ⟨hserver, hagree⟩ := operations_agree_iff (by decide) hbuilt hdescribed
  exact ⟨b, d, rest, hbuilt, hdescribed, hserver, hagree.2 (by decide +kernel)⟩

/-- A base URL with a path is taken off for the bundle and left in the paths of
the description, which is served under it as well. -/
theorem operations_disagree :
    let g := Generator.servedAt "http://h/api"
    let calls : List Call := [⟨"GET", "http://h/api/users"⟩]
    (calls.foldlM (Bundle.add g false) ⟨[], [], ⟨[]⟩⟩).toOption.map (·.operations)
        = some ([("get", "/users")] : List OperationName)
      ∧ (Description.addAll g { serverUrl := g.config.baseUrl } calls ⟨[]⟩).toOption.map
          (fun made => (made.1.serverUrl, made.1.operations))
        = some (("http://h/api" : Text), ([("get", "/api/users")] : List OperationName)) := by
  decide +kernel

end MockApi
