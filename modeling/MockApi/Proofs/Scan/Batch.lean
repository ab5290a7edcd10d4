/-
Batches of files. Whatever the number of workers, the endpoints of a batch are
those of its files one after the other, and of the endpoints with one key the
first stays (`deduplicate_eq_firsts`).

That files do not matter to one another is a law of `newIn`: what it keeps of a
list depends on the keys seen before, and only on those that the list has
itself. The endpoints of a file carry its path in their keys, so a batch that
shares no path with an earlier one is met as if nothing had been seen
(`deduplicate_append`).
-/
import Mathlib.Data.List.Induction
import MockApi.Scan.Extractor

namespace MockApi

namespace Endpoint

/-- The first part of a key is the file. -/
abbrev Key := Text × Text × Text

variable {seen seen' : List Key} {endpoints later : List Endpoint}

-- ============================================================= keys seen

/-- What is new depends on which keys were seen, not on their order. -/
theorem newIn_congr (h : ∀ key, key ∈ seen ↔ key ∈ seen') (endpoints : List Endpoint) :
    newIn seen endpoints = newIn seen' endpoints := by
  induction endpoints generalizing seen seen' with
  | nil => rfl
  | cons e rest ih =>
    have hcontains : seen.contains e.key = seen'.contains e.key := by
      rw [List.contains_eq_mem, List.contains_eq_mem, decide_eq_decide]
      exact h e.key
    have hcons : ∀ key, key ∈ e.key :: seen ↔ key ∈ e.key :: seen' := by
      intro key
      rw [List.mem_cons, List.mem_cons, h key]
    rw [newIn, newIn, hcontains, ih h, ih hcons]

/-- What is kept of a list and a later one: the later one is met with the keys of
the list seen too. -/
theorem newIn_append (seen : List Key) (endpoints later : List Endpoint) :
    newIn seen (endpoints ++ later)
      = newIn seen endpoints ++ newIn (endpoints.map key ++ seen) later := by
  induction endpoints generalizing seen with
  | nil => rfl
  | cons e rest ih =>
    rw [List.cons_append, newIn, newIn]
    -- a key that was seen changes nothing; another one is seen from now on
    by_cases hseen : seen.contains e.key = true
    · have hkeys : ∀ key, key ∈ rest.map Endpoint.key ++ seen
          ↔ key ∈ (e :: rest).map Endpoint.key ++ seen := by
        intro key
        have hmem : e.key ∈ seen := by simpa using hseen
        simp only [List.map_cons, List.cons_append, List.mem_cons, List.mem_append]
        constructor
        · exact Or.inr
        · rintro (rfl | h)
          · exact Or.inr hmem
          · exact h
      rw [if_pos hseen, if_pos hseen, ih, newIn_congr hkeys]
    · have hkeys : ∀ key, key ∈ rest.map Endpoint.key ++ e.key :: seen
          ↔ key ∈ (e :: rest).map Endpoint.key ++ seen := by
        intro key
        simp only [List.map_cons, List.cons_append, List.mem_cons, List.mem_append]
        exact or_left_comm
      rw [if_neg hseen, if_neg hseen, ih, newIn_congr hkeys, List.cons_append]

/-- Keys that a list does not have do not matter to it. -/
theorem newIn_of_not_mem (h : ∀ e ∈ endpoints, e.key ∉ seen) :
    newIn (seen' ++ seen) endpoints = newIn seen' endpoints := by
  induction endpoints generalizing seen' with
  | nil => rfl
  | cons e rest ih =>
    have hrest := fun e' hmem => h e' (List.mem_cons_of_mem e hmem)
    have hcontains : (seen' ++ seen).contains e.key = seen'.contains e.key := by
      rw [List.contains_eq_mem, List.contains_eq_mem, decide_eq_decide, List.mem_append]
      exact or_iff_left (h e List.mem_cons_self)
    rw [newIn, newIn, hcontains, ih hrest, ← List.cons_append, ih hrest]

/-- The key of what is new was not seen. -/
theorem not_mem_of_mem_newIn {e : Endpoint} (h : e ∈ newIn seen endpoints) : e.key ∉ seen := by
  induction endpoints generalizing seen with
  | nil => cases h
  | cons first rest ih =>
    rw [newIn] at h
    split at h
    · exact ih h
    · next hnew =>
      rcases List.mem_cons.1 h with rfl | hmem
      · simpa using hnew
      · exact fun hseen => ih hmem (List.mem_cons_of_mem _ hseen)

/-- What is new stands in the order it had. -/
theorem newIn_sublist (seen : List Key) (endpoints : List Endpoint) :
    (newIn seen endpoints).Sublist endpoints := by
  induction endpoints generalizing seen with
  | nil => exact .slnil
  | cons e rest ih =>
    rw [newIn]
    split
    · exact (ih seen).cons e
    · exact (ih _).cons_cons e

/-- No key is new twice. -/
theorem nodup_newIn (seen : List Key) (endpoints : List Endpoint) :
    ((newIn seen endpoints).map key).Nodup := by
  induction endpoints generalizing seen with
  | nil => exact List.nodup_nil
  | cons e rest ih =>
    rw [newIn]
    split
    · exact ih seen
    · rw [List.map_cons, List.nodup_cons]
      refine ⟨fun hmem => ?_, ih _⟩
      obtain ⟨other, hother, hkey⟩ := List.mem_map.1 hmem
      exact not_mem_of_mem_newIn hother (hkey ▸ List.mem_cons_self)

-- ========================================================= the first ones

/-- No two endpoints that are kept have one key. -/
theorem nodup_deduplicate (endpoints : List Endpoint) :
    ((deduplicate endpoints).map key).Nodup := nodup_newIn [] endpoints

/-- The endpoints whose key no earlier endpoint of the list has. -/
def firsts (endpoints : List Endpoint) : List Endpoint :=
  (endpoints.zipIdx.filter fun entry =>
    !((endpoints.take entry.2).map key).contains entry.1.key).map (·.1)

/-- One more endpoint at the end is a first one if its key is new. -/
theorem firsts_concat (endpoints : List Endpoint) (e : Endpoint) :
    firsts (endpoints ++ [e])
      = firsts endpoints ++ if (endpoints.map key).contains e.key then [] else [e] := by
  have hfront : endpoints.zipIdx.filter (fun entry =>
        !(((endpoints ++ [e]).take entry.2).map key).contains entry.1.key)
      = endpoints.zipIdx.filter fun entry =>
        !((endpoints.take entry.2).map key).contains entry.1.key := by
    apply List.filter_congr
    intro entry hentry
    have hlt : entry.2 < endpoints.length := by
      have hlt := (List.mem_zipIdx hentry).2.1
      omega
    rw [List.take_append_of_le_length (Nat.le_of_lt hlt)]
  unfold firsts
  rw [List.zipIdx_append, List.filter_append, List.map_append, hfront]
  congr 1
  rw [List.zipIdx_cons, List.zipIdx_nil, List.filter_cons, List.filter_nil, Nat.zero_add,
    List.take_left]
  cases (endpoints.map key).contains e.key with
  | true => rfl
  | false => rfl

/-- What is kept are the first endpoints of every key, in their order. -/
theorem deduplicate_eq_firsts (endpoints : List Endpoint) :
    deduplicate endpoints = firsts endpoints := by
  induction endpoints using List.reverseRecOn with
  | nil => rfl
  | append_singleton endpoints e ih =>
    unfold deduplicate at ih ⊢
    rw [newIn_append, firsts_concat, ih, List.append_nil]
    rfl

/-- Two lists that have no key in common do not matter to one another. -/
theorem deduplicate_append (h : ∀ e ∈ endpoints, ∀ e' ∈ later, e.key ≠ e'.key) :
    deduplicate (endpoints ++ later) = deduplicate endpoints ++ deduplicate later := by
  unfold deduplicate
  rw [newIn_append, List.append_nil]
  have hnew : ∀ e' ∈ later, e'.key ∉ endpoints.map key := by
    intro e' he' hmem
    obtain ⟨e, he, hkey⟩ := List.mem_map.1 hmem
    exact h e he e' he' hkey
  rw [← List.nil_append (endpoints.map key), newIn_of_not_mem hnew]

end Endpoint

-- ============================================================== the batch

/-- The endpoints of a file are in that file. -/
theorem Source.file_of_mem_endpoints {s : Source} {e : Endpoint} (h : e ∈ s.endpoints) :
    e.file = s.path := by
  unfold endpoints at h
  split at h
  · cases h
  · obtain ⟨rule, -, hrule⟩ := List.mem_flatMap.1 h
    obtain ⟨hit, -, rfl⟩ := List.mem_map.1 hrule
    rfl

namespace Extractor

variable {α β : Type} {pool : Pool α β}

/-- An ordered pool does what one worker would do. -/
theorem share_eq_map (ordered : pool.IsOrdered) (x : Extractor) (work : α → β) (items : List α) :
    x.share pool work items = items.map work := by
  unfold share
  split
  · rfl
  · exact ordered ..

theorem extract_eq {pool : Pool Source (List Endpoint)} (ordered : pool.IsOrdered) (x : Extractor)
    (sources : List Source) : x.extract pool sources = Source.allEndpoints sources := by
  unfold extract Source.allEndpoints
  rw [share_eq_map ordered, List.flatMap_def]

/-- Extraction is local to a file. With any number of workers in a pool that
keeps the order, the endpoints of a batch are the first ones of every key among
those of its files in their order, and their keys are distinct; and batches that
share no path are extracted as if each were alone. -/
theorem extraction_local {pool : Pool Source (List Endpoint)} (ordered : pool.IsOrdered)
    (x : Extractor) :
    (∀ sources, x.extract pool sources = Endpoint.firsts (sources.flatMap Source.endpoints)
        ∧ ((x.extract pool sources).map Endpoint.key).Nodup)
      ∧ ∀ sources others, (∀ s ∈ sources, ∀ other ∈ others, s.path ≠ other.path) →
        x.extract pool (sources ++ others) = x.extract pool sources ++ x.extract pool others := by
  constructor
  · intro sources
    rw [extract_eq ordered]
    exact ⟨Endpoint.deduplicate_eq_firsts _, Endpoint.nodup_deduplicate _⟩
  · intro sources others hpaths
    rw [extract_eq ordered, extract_eq ordered, extract_eq ordered]
    unfold Source.allEndpoints
    rw [List.flatMap_append]
    apply Endpoint.deduplicate_append
    intro e he e' he' hkey
    obtain ⟨s, hs, hmem⟩ := List.mem_flatMap.1 he
    obtain ⟨other, hother, hmem'⟩ := List.mem_flatMap.1 he'
    have hfile : e.file = e'.file := congrArg (·.1) hkey
    rw [Source.file_of_mem_endpoints hmem, Source.file_of_mem_endpoints hmem'] at hfile
    exact hpaths s hs other hother hfile

/-- A pool that takes its work from the end. -/
def backwards {α β : Type} : Pool α β := fun _ work items => (items.reverse.map work).reverse

theorem isOrdered_backwards : (backwards : Pool α β).IsOrdered := by
  intro _ work items
  rw [backwards, List.map_reverse, List.reverse_reverse]

/-- A file that makes a client and calls it. -/
def clientSource : Source :=
  { path := "a.js", text := "const db = axios.create();db.get('/a')" }

/-- A file that calls something of the same name. -/
def strangerSource : Source := { path := "b.js", text := "db.get('/b')" }

/-- The client of one file is none of the other. -/
theorem extraction_local_client :
    let found := ({ workers := 4 } : Extractor).extract backwards
    found [clientSource, strangerSource] = found [clientSource] ++ found [strangerSource]
      ∧ (found [clientSource, strangerSource]).map Endpoint.url = [("/a" : Text)] := by
  intro found
  have hpaths : ∀ s ∈ [clientSource], ∀ other ∈ [strangerSource], s.path ≠ other.path := by decide
  have halone : found ([clientSource] ++ [strangerSource])
      = found [clientSource] ++ found [strangerSource] :=
    (extraction_local isOrdered_backwards { workers := 4 }).2 _ _ hpaths
  have hclient : (found [clientSource]).map Endpoint.url = [("/a" : Text)] := by decide +kernel
  have hstranger : (found [strangerSource]).map Endpoint.url = [] := by decide +kernel
  constructor
  · exact halone
  · change (found ([clientSource] ++ [strangerSource])).map Endpoint.url = _
    rw [halone, List.map_append, hclient, hstranger]
    rfl

end Extractor

end MockApi
