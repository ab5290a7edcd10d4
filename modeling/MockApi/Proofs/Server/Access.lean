/-
Any page may read any answer. Whatever a request is answered with, be it a definition's
reply, the refusal of an unknown route or of a method that is not served, the answer to a
pre-flight request, or the framework's own answer to a path that the app's route does not
take, the three lines that let a page read it are set last, once each: a definition's own
lines of those names, in any case and any number, give way (`access_of_exchange`).

A pre-flight request does not get as far as the server's routes, and leaves the server as
it was. Its path may be one that the app's route does not take, such as the asterisk that
asks about the whole server; then it is answered as any other request of that path is.
-/
import MockApi.Proofs.Server.Exchange
import MockApi.Proofs.Server.Headers
import MockApi.Proofs.Server.Sending

namespace MockApi

namespace Response

theorem isLowered_own (status : Int) (body : Json) : IsLowered (own status body).headers :=
  isLowered_framing _ _

theorem isLowered_methodNotAllowed (allowed : List Text) :
    IsLowered (methodNotAllowed allowed).headers := by
  have hname : Text.lower "allow" = "allow" := by decide +kernel
  exact isLowered_cons.2 ⟨hname, isLowered_own _ _⟩

theorem isLowered_redirect (location : Text) : IsLowered (redirect location).headers := by
  have hlength : Text.lower "content-length" = "content-length" := by decide +kernel
  have hlocation : Text.lower "location" = "location" := by decide +kernel
  exact isLowered_cons.2 ⟨hlength, isLowered_cons.2 ⟨hlocation, isLowered_nil⟩⟩

/-- The answer where no mock is found has headers in lower case. -/
theorem isLowered_of_notFound {method path : Text} {r : Response}
    (h : notFound method path = .ok r) : IsLowered r.headers := by
  unfold notFound at h
  simp only at h
  split at h
  · rw [← Except.ok.inj h]
    exact isLowered_own _ _
  · cases h

/-- The lines of access are one each, and no others of their names are left. -/
theorem hasOne_withAccess {r : Response} (h : IsLowered r.headers) :
    ∀ line ∈ accessHeaders, HasOne line.1 line.2 r.withAccess.headers := by
  have hlowered : IsLowered accessHeaders := by unfold IsLowered; decide +kernel
  have apart : (accessHeaders.map (·.1)).Nodup := by decide +kernel
  intro line hline
  rw [HasOne, withAccess_headers]
  exact linesOf_setHeaders h hlowered apart hline

end Response

/-- The answers to a request that the app's route does not take, with their statuses. -/
theorem unrouted_cases {r : WireRequest} {answer : Response} (h : r.unrouted = .ok answer) :
    (WireRequest.isRouted (WireRequest.withOtherEnd r.path) = false ∧ answer = Response.noRoute)
      ∨ WireRequest.isRouted (WireRequest.withOtherEnd r.path) = true
        ∧ ∃ location, answer = Response.redirect location := by
  unfold WireRequest.unrouted at h
  simp only at h
  split at h
  · next hother =>
    split at h
    · next location _ => exact .inr ⟨hother, location, (Except.ok.inj h).symm⟩
    · cases h
  · next hother => exact .inl ⟨Bool.eq_false_iff.2 hother, (Except.ok.inj h).symm⟩

/-- The answer to a request without a route has headers in lower case. -/
theorem isLowered_of_unrouted {r : WireRequest} {answer : Response}
    (h : r.unrouted = .ok answer) : Response.IsLowered answer.headers := by
  rcases unrouted_cases h with ⟨-, rfl⟩ | ⟨-, location, rfl⟩
  · exact Response.isLowered_own _ _
  · exact Response.isLowered_redirect location

namespace Server

open Json Response

variable {s : Server} {r : WireRequest} {answer : Response}

/-- Every answer of a dispatch has headers in lower case. -/
theorem isLowered_of_dispatch {request : Request} (h : (s.dispatch request).1 = .ok answer) :
    IsLowered answer.headers := by
  rcases s.dispatch_cases request with ⟨reply, -, hbuilt⟩ | ⟨-, hnone⟩
  · exact isLowered_of_build (hbuilt.symm.trans h)
  · rw [h] at hnone
    generalize hanswer : Except.ok answer = given at hnone
    cases hnone with
    | missed noRoute => exact isLowered_of_notFound hanswer.symm
    | failed cause recorder noRecord => cases hanswer

/-- Every answer of the application has headers in lower case. -/
theorem isLowered_of_handle [JsonReader] (h : (s.handle r).1 = .ok answer) :
    IsLowered answer.headers := by
  unfold handle at h
  split at h
  · obtain rfl := Except.ok.inj h
    exact isLowered_methodNotAllowed servedMethods
  · split at h
    · cases h
    · split at h
      · obtain rfl := Except.ok.inj h
        exact isLowered_nil
      · exact isLowered_of_dispatch h

/-- An answer has got the lines of access on top of lines in lower case. -/
theorem exists_withAccess [JsonReader] (h : (s.exchange r).1 = .ok answer) :
    ∃ inner : Response, IsLowered inner.headers ∧ answer = inner.withAccess := by
  cases hrouted : WireRequest.isRouted r.path with
  | true =>
    rw [exchange_of_isRouted s hrouted] at h
    obtain ⟨inner, hinner, rfl⟩ := map_eq_ok.1 h
    exact ⟨inner, isLowered_of_handle hinner, rfl⟩
  | false =>
    rw [exchange_of_not_isRouted s hrouted] at h
    obtain ⟨inner, hinner, rfl⟩ := map_eq_ok.1 h
    exact ⟨inner, isLowered_of_unrouted hinner, rfl⟩

/-- A pre-flight request whose body can be read gets an empty answer. -/
theorem handle_options [JsonReader] (s : Server) (h : r.method = "OPTIONS")
    (hdeep : ¬NestsTooDeep r.body) : s.handle r = (.ok noContent, s, []) := by
  have hserved : servedMethods.contains r.method = true := by rw [h]; decide
  have hupper : Text.upper r.method = "OPTIONS" := by rw [h]; decide +kernel
  rw [handle_of_not_nestsTooDeep s hserved hdeep, if_pos hupper]

/-- Every answer off the wire has each of the three lines of access once, and no other
line of their names in any case, whatever the routes' definitions say and in whatever state
the server is. A pre-flight request leaves the server as it was. If the app's route takes
its path, it is answered unless its body is nested too deeply to be read, and the answer is
empty; if not, it is told that there is no such path, or led to the same path with another
end where the route takes that. -/
theorem access_of_exchange [JsonReader] (s : Server) (r : WireRequest) :
    (∀ answer, (s.exchange r).1 = .ok answer →
      HasOne "access-control-allow-origin" "*" answer.headers
        ∧ HasOne "access-control-allow-methods" "*" answer.headers
        ∧ HasOne "access-control-allow-headers" "*" answer.headers)
      ∧ (r.method = "OPTIONS" →
        (s.exchange r).2 = (s, [])
        ∧ (WireRequest.isRouted r.path = true →
          ((∃ answer, (s.exchange r).1 = .ok answer) ↔ ¬NestsTooDeep r.body)
          ∧ ∀ answer, (s.exchange r).1 = .ok answer → answer.status = 204 ∧ answer.body = [])
        ∧ (WireRequest.isRouted r.path = false → ∀ answer, (s.exchange r).1 = .ok answer →
          answer.status
            = if WireRequest.isRouted (WireRequest.withOtherEnd r.path) then 307 else 404)) := by
  -- every answer passes the layer that sets the lines of access, whoever made it
  refine ⟨fun answer hanswer => ?_, fun hmethod => ?_⟩
  · obtain ⟨inner, hlowered, rfl⟩ := exists_withAccess hanswer
    have hone := hasOne_withAccess hlowered
    unfold accessHeaders at hone
    simp only [List.forall_mem_cons] at hone
    exact ⟨hone.1, hone.2.1, hone.2.2.1⟩
  · cases hrouted : WireRequest.isRouted r.path with
    | true =>
      rw [exchange_of_isRouted s hrouted]
      by_cases hdeep : NestsTooDeep r.body
      · have hserved : servedMethods.contains r.method = true := by rw [hmethod]; decide
        rw [handle_of_nestsTooDeep s hserved hdeep]
        exact ⟨rfl, fun _ => ⟨iff_of_false nofun (not_not_intro hdeep), nofun⟩, nofun⟩
      -- the body is read, though nothing is done with it
      · rw [handle_options s hmethod hdeep]
        refine ⟨rfl, fun _ => ⟨iff_of_true ⟨_, rfl⟩ hdeep, fun answer hanswer => ?_⟩, nofun⟩
        rw [← Except.ok.inj hanswer]
        exact ⟨rfl, rfl⟩
    | false =>
      -- without a route the application is not reached
      rw [exchange_of_not_isRouted s hrouted]
      refine ⟨rfl, nofun, fun _ answer hanswer => ?_⟩
      obtain ⟨inner, hinner, rfl⟩ := map_eq_ok.1 hanswer
      rcases unrouted_cases hinner with ⟨hother, rfl⟩ | ⟨hother, location, rfl⟩
      · rw [if_neg (Bool.eq_false_iff.1 hother)]
        rfl
      · rw [if_pos hother]
        rfl

/-- A question about the options of the whole server. -/
def serverWideOptions : WireRequest :=
  { method := "OPTIONS", origin := "http://127.0.0.1:3000", path := "*" }

/-- A pre-flight request for the asterisk is told that there is no such path. -/
theorem server_wide_options_not_found :
    ¬∀ (s : Server) (r : WireRequest) (answer : Response), r.method = "OPTIONS" →
      (s.exchange r).1 = .ok answer → answer.status = 204 ∧ answer.body = [] := by
  intro h
  have hanswer : (bareServer.exchange serverWideOptions).1 = .ok noRoute.withAccess := rfl
  have hstatus := (h bareServer serverWideOptions _ rfl hanswer).1
  exact absurd hstatus (by decide)

/-- A definition's own lines of access, in two cases. -/
example :
    let own : Fields :=
      [("Access-Control-Allow-Origin", .ofString "http://a"), ("x-own", .ofString "1"),
       ("ACCESS-CONTROL-ALLOW-ORIGIN", .ofString "http://b")]
    let left : List (Text × Text) :=
      [("access-control-allow-origin", "*"), ("x-own", "1"),
       ("access-control-allow-methods", "*"), ("access-control-allow-headers", "*")]
    (build 204 own .null).toOption.map (·.withAccess.headers) = some left := by
  decide +kernel

end Server

end MockApi
