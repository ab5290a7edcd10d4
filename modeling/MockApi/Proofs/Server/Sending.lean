/-
What a request sends. Wherever an answer comes from, a log that is played back, a
definition with its draws or the record just made, it is a reply: a status, headers and
a value, from which one function builds the response (`dispatch_of_reply?`). Without a
reply there is no route, or no record for want of an integer's text.
-/
import MockApi.Proofs.Server.Dispatch
import MockApi.Proofs.Server.Response

namespace MockApi

/-- The response that is built from a reply. -/
def Reply.built (reply : Reply) : Except RequestError Response :=
  Response.build reply.status reply.headers reply.body

namespace Server

variable {s : Server} {r : Request} {reply : Reply}

/-- The reply of a definition: a whole one that is drawn; else its own status and
headers, with a body that is drawn or its own. -/
def replyOf (s : Server) (d : Definition) : Reply :=
  match d.replies, d.alternatives with
  | some (first :: rest), _ => (s.chance.pick? (first :: rest)).1.getD first
  | _, some (item :: rest) => ⟨d.status, d.headers, (s.chance.pick? (item :: rest)).1.getD item⟩
  | _, _ => ⟨d.status, d.headers, d.body⟩

/-- An answer is the reply of its definition, as it is built. -/
theorem answer_eq (s : Server) (d : Definition) : (s.answer d).1 = (s.replyOf d).built := by
  unfold answer replyOf
  -- an empty list stands for none, of replies as of bodies
  rcases d.replies with - | - | ⟨first, rest⟩
  · rcases d.alternatives with - | - | ⟨item, rest⟩ <;> rfl
  · rcases d.alternatives with - | - | ⟨item, rest⟩ <;> rfl
  · rfl

/-- The reply to a request: its record, the log of its path, or that of its route's
definition. -/
def reply? (s : Server) (r : Request) : Option Reply :=
  (s.routeOf? r).bind fun route =>
    match s.recorder? r with
    | some d => (s.made? r).map fun record => ⟨d.status, d.headers, record⟩
    | none =>
      match s.replay? route.definition r with
      | some log => some ⟨200, jsonHeaders, .arr log⟩
      | none => some (s.replyOf route.definition)

/-- Without a reply no route answers, or the record cannot be made. -/
inductive Unreplied (s : Server) (r : Request) : Except RequestError Response → Prop where
  | missed (noRoute : s.routeOf? r = none) :
    Unreplied s r (Response.notFound (Text.upper r.method) (Path.canonical r.path))
  | failed {d : Definition} (cause : NumeralError) (recorder : s.recorder? r = some d)
    (noRecord : s.made? r = none) : Unreplied s r (.error (.numeral cause))

/-- A request is answered with the response of its reply if it has one. -/
theorem dispatch_cases (s : Server) (r : Request) :
    (∃ reply, s.reply? r = some reply ∧ (s.dispatch r).1 = reply.built)
      ∨ s.reply? r = none ∧ Unreplied s r (s.dispatch r).1 := by
  have h := s.dispatched r
  generalize (s.dispatch r).1 = answer, (s.dispatch r).2.1 = t at h ⊢
  unfold reply?
  cases h with
  | missed noRoute =>
    rw [noRoute]
    exact .inr ⟨rfl, .missed noRoute⟩
  | replayed found noRecorder replay =>
    rw [found, noRecorder, Option.bind_some, replay]
    exact .inl ⟨_, rfl, rfl⟩
  | answered found noRecorder noReplay =>
    rw [found, noRecorder, Option.bind_some, noReplay]
    exact .inl ⟨_, rfl, s.answer_eq _⟩
  | failed cause found recorder noRecord =>
    rw [found, recorder, noRecord]
    exact .inr ⟨rfl, .failed cause recorder noRecord⟩
  | recorded found recorder record =>
    rw [found, recorder, record]
    exact .inl ⟨_, rfl, rfl⟩

/-- A request that has a reply is answered with what is built of it. -/
theorem dispatch_of_reply? (h : s.reply? r = some reply) : (s.dispatch r).1 = reply.built := by
  rcases s.dispatch_cases r with ⟨other, hother, hbuilt⟩ | ⟨hnone, -⟩
  · rw [hbuilt, Option.some.inj (hother.symm.trans h)]
  · rw [h] at hnone
    cases hnone

end Server

end MockApi
