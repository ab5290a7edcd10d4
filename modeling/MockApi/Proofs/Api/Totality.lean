/-
Where endpoints can be described, and what a scan leaves to chance. A description
needs the path of every URL, and the status of every answer in digits
(`addAll_isOk_iff`).

The endpoints of a scan have digits that fit into numbers, so nothing but an
illegible URL, or a status given by hand that is too long to be written, keeps them
from being bundled and described (`generation_isOk_iff`). One literal is enough for
that, since the scan takes it over as it stands (`generation_fails`).
-/
import MockApi.Command.Run
import MockApi.Proofs.Api.Description
import MockApi.Proofs.Mock.Totality
import MockApi.Proofs.Scan.Rule

namespace MockApi

open MockApi.Path (IsLegible)

-- =================================================================== statuses

/-- An integer is written if its digits are within the limit. -/
theorem writeInteger_isOk_iff (n : Int) : (writeInteger n).isOk = true ↔ fitsInText n = true := by
  unfold writeInteger
  split
  · next h => exact iff_of_true rfl h
  · next h => exact iff_of_false nofun h

theorem fitsInText_ok : fitsInText 200 = true := by decide +kernel

namespace Generator

variable {g : Generator} {method url : Text}

/-- The status given by hand for a URL, if there is one, can be written. -/
def StatusFits (g : Generator) (url : Text) : Prop :=
  ∀ fields, g.config.templateFor url = some (.obj fields) →
    fitsInText (templateStatus fields) = true

/-- The statuses of categories can be written. -/
theorem fitsInText_status (category : Category) (method : Text) :
    fitsInText (category.status method) = true := by
  unfold Category.status
  simp only
  split_ifs <;> decide +kernel

/-- What a status given by hand decides is whether the status of the answer can
be written. -/
theorem fitsInText_status_iff {chance rest : Chance} {mock : Definition}
    (h : g.generate method url chance = .ok (mock, rest)) :
    fitsInText mock.status = true ↔ g.StatusFits url := by
  unfold StatusFits
  rcases generate_cases h with ⟨template, htemplate, rfl⟩ | ⟨hnone, body, rfl⟩
  · rw [htemplate]
    cases template with
    | obj fields =>
      constructor
      · intro hfits other hother
        obtain rfl := Json.obj.inj (Option.some.inj hother)
        exact hfits
      · intro hfits
        exact hfits fields rfl
    | _ => exact iff_of_true fitsInText_ok fun _ hother => nomatch hother
  · rw [hnone]
    exact iff_of_true (fitsInText_status ..) fun _ hother => nomatch hother

/-- A status in a configuration that was read can be written. -/
theorem statusFits_of_isRead [JsonReader] (read : g.config.IsRead) (url : Text) :
    g.StatusFits url := by
  intro fields h
  have hfields := isWritable_of_templateFor read h
  rw [Json.isWritable_obj, List.all_eq_true] at hfields
  unfold templateStatus
  split
  · next n hn =>
    have hstatus := hfields _ (Fields.mem_of_get?_eq_some hn)
    rw [Json.isWritable, Json.allIntegers] at hstatus
    exact hstatus
  · exact fitsInText_ok

end Generator

namespace Description

variable {g : Generator} {call : Call} {calls : List Call}

theorem ofUrl_isOk_iff (url : Text) :
    (PathTemplate.ofUrl url).isOk = true ↔ IsLegible url [] := by
  rw [PathTemplate.ofUrl, isOk_map, Resource.routeSegments_isOk_iff]

theorem schemaName_isOk_iff (url : Text) : (schemaName url).isOk = true ↔ IsLegible url [] := by
  rw [← Resource.routeSegments_isOk_iff, schemaName, isOk_bind_iff, isOk_iff_exists]
  exact exists_congr fun parts => and_iff_left rfl

/-- An endpoint can be described if and only if its URL is legible and the status of
its answer can be written. -/
theorem add_isOk_iff (few : call.url.countP Text.isDigit ≤ digitLimit)
    (early : g.now.HasHourLeft) (d : Description) (draws : Chance) :
    (d.add g call draws).1.isOk = true ↔ IsLegible call.url [] ∧ g.StatusFits call.url := by
  constructor
  · intro h
    have hadded := added g d call draws
    generalize d.add g call draws = result at hadded h
    cases hadded with
    | refused cause blame => cases h
    | unwritten ofUrl made named status => cases h
    | described ofUrl made named written =>
      refine ⟨(ofUrl_isOk_iff _).1 (isOk_iff_exists.2 ⟨_, ofUrl⟩), ?_⟩
      rw [← Generator.fitsInText_status_iff made, ← writeInteger_isOk_iff]
      exact isOk_iff_exists.2 ⟨_, written⟩
  · rintro ⟨hlegible, hfits⟩
    -- each step of the addition succeeds where the URL can be read
    obtain ⟨template, htemplate⟩ := exists_of_isOk ((ofUrl_isOk_iff call.url).2 hlegible)
    obtain ⟨⟨mock, rest⟩, hmock⟩ := exists_of_isOk
      ((Generator.generate_isOk_iff few early call.method draws).2 fun _ => hlegible)
    obtain ⟨name, hname⟩ := exists_of_isOk ((schemaName_isOk_iff call.url).2 hlegible)
    rw [← Generator.fitsInText_status_iff hmock, ← writeInteger_isOk_iff] at hfits
    obtain ⟨status, hstatus⟩ := exists_of_isOk hfits
    unfold add
    simp only [htemplate, hmock, hname, Except.mapError, bind, Except.bind, pure, Except.pure,
      hstatus]
    rfl

/-- All endpoints are described if each of them could be on its own. -/
theorem addAll_isOk_iff (few : ∀ call ∈ calls, call.url.countP Text.isDigit ≤ digitLimit)
    (early : g.now.HasHourLeft) (d : Description) (draws : Chance) :
    (addAll g d calls draws).isOk = true
      ↔ ∀ call ∈ calls, IsLegible call.url [] ∧ g.StatusFits call.url := by
  induction calls generalizing d draws with
  | nil => exact iff_of_true rfl nofun
  | cons call rest ih =>
    obtain ⟨hfew, hlater⟩ := List.forall_mem_cons.1 few
    have hcall := add_isOk_iff hfew early d draws
    rw [List.forall_mem_cons, ← hcall]
    unfold addAll
    rcases d.add g call draws with ⟨made, d', draws'⟩
    cases made with
    | error cause => exact iff_of_false nofun fun h => nomatch h.1
    | ok operation =>
      simp only
      rw [ih hlater]
      exact (and_iff_right rfl).symm

end Description

-- ====================================================================== scans

namespace Extractor

variable {pool : Pool Source (List Endpoint)} {g : Generator}

/-- The URLs of a scan have digits that fit into numbers. -/
theorem countP_url_le_digitLimit (ordered : pool.IsOrdered) (x : Extractor)
    (sources : List Source) :
    ∀ call ∈ Surroundings.callsOf (x.extract pool sources),
      call.url.countP Text.isDigit ≤ digitLimit := by
  intro call hcall
  obtain ⟨e, he, rfl⟩ := List.mem_map.1 hcall
  have hlimit : Lexeme.urlLimit ≤ digitLimit := by decide
  exact Nat.le_trans (countP_url_le ordered he) hlimit

/-- With a configuration that was read, all that a scan found can be bundled and
described if no URL has brackets or characters that decompose into delimiters. -/
theorem generation_isOk_of_plain [JsonReader] (ordered : pool.IsOrdered) (early : g.now.HasHourLeft)
    (read : g.config.IsRead) (x : Extractor) (sources : List Source) (statefulPosts : Bool)
    (d : Description) (chance draws : Chance)
    (plain : ∀ e ∈ x.extract pool sources, ∀ c ∈ e.url,
      c ≠ '[' ∧ c ≠ ']' ∧ Text.inRanges Host.confusables c = false) :
    let calls := Surroundings.callsOf (x.extract pool sources)
    (Bundle.build g statefulPosts calls chance).isOk = true
      ∧ (Description.addAll g d calls draws).isOk = true := by
  intro calls
  have few := countP_url_le_digitLimit ordered x sources
  have hlegible : ∀ call ∈ calls, ∀ base, IsLegible call.url base := by
    intro call hcall base
    obtain ⟨e, he, rfl⟩ := List.mem_map.1 hcall
    exact Path.isLegible_of_plain (plain e he) base
  constructor
  · refine (Bundle.build_isOk_iff few early statefulPosts chance).2
      ⟨fun call hcall => hlegible call hcall _, ?_⟩
    exact fun call hcall _ => hlegible call (Generator.firsts_subset hcall) _
  · exact (Description.addAll_isOk_iff few early d draws).2 fun call hcall =>
      ⟨hlegible call hcall _, Generator.statusFits_of_isRead read call.url⟩

/-- What a scan found can be bundled if and only if each URL is legible behind the
base URL, and as it stands where an answer needs its path; and it can be described if
and only if each URL is legible as it stands and the statuses given by hand can be
written. -/
theorem generation_isOk_iff (ordered : pool.IsOrdered) (early : g.now.HasHourLeft)
    (x : Extractor) (sources : List Source) (statefulPosts : Bool) (d : Description)
    (chance draws : Chance) :
    let calls := Surroundings.callsOf (x.extract pool sources)
    ((Bundle.build g statefulPosts calls chance).isOk = true
        ↔ (∀ call ∈ calls, IsLegible call.url g.config.baseUrl)
          ∧ ∀ call ∈ g.firsts calls, Bundle.CanAnswer g call)
      ∧ ((Description.addAll g d calls draws).isOk = true
        ↔ ∀ call ∈ calls, IsLegible call.url [] ∧ g.StatusFits call.url) := by
  have few := countP_url_le_digitLimit ordered x sources
  constructor
  · exact Bundle.build_isOk_iff few early statefulPosts chance
  · exact Description.addAll_isOk_iff few early d draws

/-- A script that calls one URL. -/
def scriptCalling (url : Text) : Source :=
  { path := "a.js", text := "fetch('" ++ url ++ "')" }

/-- Generates by category only, in the middle of the calendar. -/
def plainGenerator : Generator := ⟨{}, ⟨2024, 1, 15, 10, 30, 0⟩⟩

/-- A script with one readable URL is generated from and described. -/
theorem generation_isOk_iff_script :
    let calls := Surroundings.callsOf
      (({} : Extractor).extract backwards [scriptCalling "/b"])
    calls = [⟨"GET", "/b"⟩]
      ∧ (Bundle.build plainGenerator false calls ⟨[]⟩).isOk = true
      ∧ (Description.addAll plainGenerator {} calls ⟨[]⟩).isOk = true := by
  intro calls
  have hcalls : calls = [⟨"GET", "/b"⟩] := by decide +kernel
  have early : plainGenerator.now.HasHourLeft := fun h => absurd h.1 (by decide)
  have hlegible : ∀ call ∈ calls, IsLegible call.url [] := by
    intro call hcall
    obtain rfl := List.mem_singleton.1 (Eq.mp (congrArg (call ∈ ·) hcalls) hcall)
    exact fun habsolute => absurd habsolute (by decide)
  obtain ⟨hbundle, hdescription⟩ := generation_isOk_iff isOrdered_backwards early {}
    [scriptCalling "/b"] false {} ⟨[]⟩ ⟨[]⟩
  refine ⟨hcalls, hbundle.2 ⟨hlegible, fun call hcall _ => ?_⟩, hdescription.2 fun call hcall => ?_⟩
  · exact hlegible call (Generator.firsts_subset hcall)
  · exact ⟨hlegible call hcall, fun fields h => nomatch h⟩

/-- A single literal with a bracket in its host is found, and keeps all endpoints
from being bundled and described. -/
theorem generation_fails :
    let calls := Surroundings.callsOf
      (({} : Extractor).extract backwards [scriptCalling "http://[/a", scriptCalling "/b"])
    calls = [⟨"GET", "http://[/a"⟩, ⟨"GET", "/b"⟩]
      ∧ (Bundle.build plainGenerator false calls ⟨[]⟩).isOk = false
      ∧ (Description.addAll plainGenerator {} calls ⟨[]⟩).isOk = false := by
  decide +kernel

end Extractor

end MockApi
