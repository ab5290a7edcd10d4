/-
What an addition does to a description. There are three ways it goes
(`Added`): the endpoint is refused before anything has changed; its examples
are registered and then its status cannot be written; or it is described. The
registry only grows in all three, and an operation that stands in a description
refers to nothing but what had been registered when it was put there.

So a description is closed after any sequence of additions, those that failed
among them (`IsClosed.addEach`).
-/
import MockApi.Api.Description
import MockApi.Proofs.Api.Schema
import MockApi.Proofs.Mock.Totality

namespace MockApi

-- ============================================================== an addition

namespace Description

/-- The examples of a mock, and the registry with them. -/
abbrev Examples := Option Example × Option Example × Registry

/-- The examples of the mock that is made up for an endpoint. -/
def examplesOf (d : Description) (call : Call) (name : Text) (mock : Definition) : Examples :=
  examples call.method name mock.body d.registry

/-- The operation of an endpoint, from what was made up for it. -/
def operationOf (call : Call) (template : PathTemplate) (status : Text) (e : Examples) :
    Operation where
  method := call.method
  path := template.text
  parameters := template.parameters
  request := e.1
  status := status
  reply := e.2.1

/-- The description with the registry that examples leave. -/
def registering (d : Description) (e : Examples) : Description := { d with registry := e.2.2 }

/-- The ways an addition goes. -/
inductive Added (g : Generator) (d : Description) (call : Call) (chance : Chance) :
    Except GenerationError Operation × Description × Chance → Prop
  /-- The endpoint's URL cannot be read, or no answer can be made up. -/
  | refused (cause : GenerationError) (blame : cause.IsOfEndpoint) :
      Added g d call chance (.error cause, d, chance)
  /-- The status of the answer has too many digits. -/
  | unwritten {template mock name rest cause}
      (ofUrl : PathTemplate.ofUrl call.url = .ok template)
      (made : g.generate call.method call.url chance = .ok (mock, rest))
      (named : schemaName call.url = .ok name)
      (status : writeInteger mock.status = .error cause) :
      Added g d call chance
        (.error (.numeral cause), d.registering (d.examplesOf call name mock), rest)
  | described {template mock name rest status}
      (ofUrl : PathTemplate.ofUrl call.url = .ok template)
      (made : g.generate call.method call.url chance = .ok (mock, rest))
      (named : schemaName call.url = .ok name)
      (written : writeInteger mock.status = .ok status) :
      Added g d call chance
        (.ok (operationOf call template status (d.examplesOf call name mock)),
          (d.registering (d.examplesOf call name mock)).put template.text (Text.lower call.method)
            (operationOf call template status (d.examplesOf call name mock)),
          rest)

variable {g : Generator} {call : Call} {chance : Chance}

/-- Every addition goes one of the three ways that `Added` lists. -/
theorem added (g : Generator) (d : Description) (call : Call) (chance : Chance) :
    Added g d call chance (d.add g call chance) := by
  unfold add
  simp only
  split
  · next cause hcause =>
    have hmade := Generator.failsOnly_generate (g := g) call.method call.url chance
    refine .refused cause ?_
    refine FailsOnly.bind (FailsOnly.mapError fun _ _ => trivial) (fun _ _ => ?_) cause hcause
    refine hmade.bind fun _ _ => ?_
    exact FailsOnly.bind (FailsOnly.mapError fun _ _ => trivial) fun _ _ => failsOnly_ok _ _
  · next template mock name rest hmade =>
    obtain ⟨template', htemplate, hmade⟩ := bind_eq_ok.1 hmade
    obtain ⟨⟨mock', rest'⟩, hgenerate, hmade⟩ := bind_eq_ok.1 hmade
    obtain ⟨name', hname, hmade⟩ := bind_eq_ok.1 hmade
    cases Except.ok.inj hmade
    rw [mapError_eq_ok] at htemplate hname
    split
    · next hstatus => exact .unwritten htemplate hgenerate hname hstatus
    · next hstatus => exact .described htemplate hgenerate hname hstatus

/-- The description after additions, each with a generator and draws of its own;
one that fails leaves what it leaves. -/
def addEach (d : Description) : List (Generator × Call × Chance) → Description
  | [] => d
  | (g, call, chance) :: rest => addEach (d.add g call chance).2.1 rest

/-- What holds of a description and is kept by every addition holds after all of them. -/
theorem addEach_induction {I : Description → Prop} {d : Description}
    {steps : List (Generator × Call × Chance)} (h : I d)
    (keeps : ∀ step ∈ steps, ∀ d : Description, I d → I (d.add step.1 step.2.1 step.2.2).2.1) :
    I (d.addEach steps) := by
  induction steps generalizing d with
  | nil => exact h
  | cons step rest ih =>
    obtain ⟨hstep, hrest⟩ := List.forall_mem_cons.1 keeps
    exact ih (hstep d h) hrest

end Description

-- ================================================================= examples

/-- The examples in an operation. -/
def Operation.examples (o : Operation) : List Example := o.request.toList ++ o.reply.toList

namespace Description

/-- The schemas of an operation's examples can be resolved. -/
def Describes (r : Registry) (o : Operation) : Prop := ∀ e ∈ o.examples, r.Resolves e.schema

theorem Describes.mono {r r' : Registry} {o : Operation} (h : Describes r o)
    (hnames : r.names ⊆ r'.names) : Describes r' o := fun e he => (h e he).mono hnames

/-- An example's schema can be resolved once it is registered. -/
theorem grows_exampleOf (name : Text) (value : Json) (r : Registry) :
    r.Grows (exampleOf name value r).2
      ∧ (exampleOf name value r).2.Resolves (exampleOf name value r).1.schema :=
  Registry.grows_infer name value r

/-- The examples of a mock are registered one after the other. -/
theorem grows_examples (method name : Text) (body : Json) (r : Registry) :
    let made := examples method name body r
    r.Grows made.2.2 ∧ ∀ e ∈ made.1.toList ++ made.2.1.toList, made.2.2.Resolves e.schema := by
  unfold examples
  -- four cases: whether a body is sent, and whether there is one to reply with
  by_cases hsends : sendsBody method = true
  · obtain ⟨hrequest, hsent⟩ := grows_exampleOf (name ++ "Request")
      (if Definition.isNull body then .obj [] else body) r
    by_cases hnull : Definition.isNull body = true
    · simp only [hsends, hnull, if_true] at hrequest hsent ⊢
      refine ⟨hrequest, fun e he => ?_⟩
      obtain rfl := List.mem_singleton.1 he
      exact hsent
    · obtain ⟨hreply, hgiven⟩ := grows_exampleOf name body (exampleOf (name ++ "Request")
        (if Definition.isNull body then .obj [] else body) r).2
      simp only [hsends, hnull, if_true] at hrequest hsent hreply hgiven ⊢
      refine ⟨hrequest.trans hreply, fun e he => ?_⟩
      rcases List.mem_cons.1 he with rfl | hlast
      · exact hsent.mono hreply.names
      · obtain rfl := List.mem_singleton.1 hlast
        exact hgiven
  · by_cases hnull : Definition.isNull body = true
    · simp only [hsends, hnull, if_true]
      exact ⟨Registry.Grows.refl r, fun _ h => nomatch h⟩
    · obtain ⟨hreply, hgiven⟩ := grows_exampleOf name body r
      simp only [hsends, hnull]
      refine ⟨hreply, fun e he => ?_⟩
      obtain rfl := List.mem_singleton.1 he
      exact hgiven

-- ================================================================= closure

/-- Neither a registered schema nor an example refers to what is not registered. -/
structure IsClosed (d : Description) : Prop where
  registry : d.registry.IsClosed
  operations : ∀ path ∈ d.paths, ∀ entry ∈ path.2, Describes d.registry entry.2

/-- A description to which nothing was added is closed. -/
theorem isClosed_of_no_paths {d : Description} (hpaths : d.paths = []) (hnone : d.registry = []) :
    d.IsClosed := by
  refine ⟨fun entry hentry => ?_, fun path hpath => ?_⟩
  · rw [hnone] at hentry
    cases hentry
  · rw [hpaths] at hpath
    cases hpath

variable {d : Description}

/-- To register the examples of a mock keeps a description closed. -/
theorem IsClosed.registering (h : d.IsClosed) (method name : Text) (body : Json) :
    (d.registering (examples method name body d.registry)).IsClosed := by
  obtain ⟨hgrows, -⟩ := grows_examples method name body d.registry
  exact ⟨hgrows.closed h.registry,
    fun path hpath entry hentry => (h.operations path hpath entry hentry).mono hgrows.names⟩

/-- What stands on a path after an operation was put there. -/
theorem of_mem_put {path verb : Text} {o : Operation} {entry : Text × List (Text × Operation)}
    (h : entry ∈ (d.put path verb o).paths) :
    entry = (path, Fields.put verb o ((Fields.get? path d.paths).getD [])) ∨ entry ∈ d.paths :=
  Fields.mem_put h

/-- What holds of an operation that is put on a path and held of all others holds of all. -/
theorem forall_put {P : Text → Operation → Prop} {path verb : Text} {o : Operation}
    (h : ∀ entry ∈ d.paths, ∀ operation ∈ entry.2, P entry.1 operation.2) (ho : P path o) :
    ∀ entry ∈ (d.put path verb o).paths, ∀ operation ∈ entry.2, P entry.1 operation.2 := by
  intro entry hentry operation hoperation
  rcases of_mem_put hentry with rfl | hold
  · rcases Fields.mem_put hoperation with rfl | hother
    · exact ho
    · cases hpath : Fields.get? path d.paths with
      | none =>
        rw [hpath] at hother
        cases hother
      | some operations =>
        rw [hpath] at hother
        exact h _ (Fields.mem_of_get?_eq_some hpath) operation hother
  · exact h entry hold operation hoperation

theorem IsClosed.put {path verb : Text} {o : Operation} (h : d.IsClosed)
    (ho : Describes d.registry o) : (d.put path verb o).IsClosed :=
  ⟨h.registry, forall_put (P := fun _ o => Describes d.registry o) h.operations ho⟩

/-- An addition keeps a description closed, also one that fails. -/
theorem IsClosed.add (h : d.IsClosed) (g : Generator) (call : Call) (chance : Chance) :
    (d.add g call chance).2.1.IsClosed := by
  have hadded := added g d call chance
  generalize d.add g call chance = result at hadded
  cases hadded with
  | refused cause blame => exact h
  | unwritten ofUrl made named status => exact h.registering ..
  | @described template mock name rest status ofUrl made named written =>
    refine (h.registering ..).put ?_
    exact (grows_examples call.method name mock.body d.registry).2

theorem IsClosed.addEach (h : d.IsClosed) (steps : List (Generator × Call × Chance)) :
    (d.addEach steps).IsClosed :=
  addEach_induction h fun _ _ _ hclosed => hclosed.add ..

end Description

end MockApi
