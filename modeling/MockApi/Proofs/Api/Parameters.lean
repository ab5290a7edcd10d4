/-
The parameters of documented paths. A path key has its parameters in braces, and
what is listed of an operation is told by its key alone: the names that stand in
braces there, each once and in order (`Json.ListsParameters`). So it does not
matter which of several URLs gave the operation that is left on a key.

With colons for the braces the key is a pattern again. It is as long as that of
the URL and fits more, since digits have become a parameter (`Path.Documents`). A
lone colon has no name: it stays as it is in the key, and as a pattern it is a
parameter there as well.
-/
import MockApi.Proofs.Api.Agreement
import MockApi.Proofs.Api.Document
import MockApi.Proofs.Route.Legible
import MockApi.Proofs.Route.Reach

namespace MockApi

-- ============================================================== path keys

namespace Path

/-- The name that a segment has in braces. -/
def bracedName? (segment : Text) : Option Text :=
  (Text.afterPiece? "\x7b" segment).bind fun rest =>
    if rest.getLast? = some ('\x7d' : CodePoint) then some rest.dropLast else none

/-- The names in braces of a path, each once, in order of first appearance. -/
def bracedNames (path : Text) : List Text := ((segments path).filterMap bracedName?).eraseDups

/-- The segment with a colon in front of its name instead of braces around it. -/
def withColon (segment : Text) : Text := (bracedName? segment).elim segment fun name => ":" ++ name

/-- The path with every name behind a colon instead of in braces. -/
def withColons (path : Text) : Text := ofSegments ((segments path).map withColon)

/-- A name in braces is read back. -/
theorem bracedName?_braces (name : Text) : bracedName? ("\x7b" ++ name ++ "\x7d") = some name := by
  have hlast : ("\x7d" : Text) = [('\x7d' : CodePoint)] := rfl
  rw [bracedName?, List.append_assoc, Text.afterPiece?_eq_some_iff.2 rfl, Option.bind_some, hlast,
    List.getLast?_concat, if_pos rfl, List.dropLast_concat]

/-- A segment without an opening brace has no name in braces. -/
theorem bracedName?_of_not_mem {segment : Text} (h : ('\x7b' : CodePoint) ∉ segment) :
    bracedName? segment = none := by
  rw [bracedName?, Option.bind_eq_none_iff]
  intro rest hrest
  rw [Text.afterPiece?_eq_some_iff] at hrest
  rw [hrest] at h
  exact absurd List.mem_cons_self h

/-- A text of what a segment holds, and of what ends none, is a segment. -/
theorem IsSegment.of_forall_mem {segment t : Text} (h : IsSegment segment) (hne : t ≠ [])
    (hmem : ∀ c ∈ t, c ∈ segment ∨ c ≠ '/' ∧ c ≠ '?' ∧ c ≠ '#') : IsSegment t := by
  refine ⟨hne, fun hc => ?_, fun hc => ?_, fun hc => ?_⟩
  · exact (hmem _ hc).elim h.slash fun hother => hother.1 rfl
  · exact (hmem _ hc).elim h.query fun hother => hother.2.1 rfl
  · exact (hmem _ hc).elim h.fragment fun hother => hother.2.2 rfl

end Path

open MockApi.Path (IsSegment Subsumes bracedName? bracedNames withColon withColons)

-- =============================================================== templates

namespace TemplateSegment

variable {segment : Text} {t : TemplateSegment}

/-- The name of a parameter. -/
def name? : TemplateSegment → Option Text
  | .literal _ => none
  | .parameter p => some p.name

/-- What a segment becomes in a template: digits are an `id`, what stands behind a
colon is a name, and all else stays. -/
inductive Becomes (segment : Text) : TemplateSegment → Prop
  | identity (numeric : Path.isNumeric segment = true) : Becomes segment (.parameter ⟨"id", true⟩)
  | named {name : Text} (ne_nil : name ≠ []) (eq : segment = ":" ++ name) :
      Becomes segment (.parameter ⟨name, false⟩)
  | same (plain : Path.isNumeric segment = false)
      (nameless : ∀ name : Text, name ≠ [] → segment ≠ ":" ++ name) :
      Becomes segment (.literal segment)

/-- A segment is a named parameter if a name follows its colon. -/
theorem isNamed_iff : (Path.isParameter segment && 1 < segment.length) = true
    ↔ ∃ name : Text, name ≠ [] ∧ segment = ":" ++ name := by
  rw [Bool.and_eq_true, Path.isParameter, beq_iff_eq, decide_eq_true_iff]
  constructor
  · rintro ⟨hcolon, hlength⟩
    obtain ⟨name, rfl⟩ := List.head?_eq_some_iff.1 hcolon
    refine ⟨name, fun hnil => ?_, rfl⟩
    rw [hnil] at hlength
    exact absurd hlength (by decide)
  · rintro ⟨name, hne, rfl⟩
    exact ⟨rfl, Nat.succ_lt_succ (List.length_pos_of_ne_nil hne)⟩

/-- The template of a segment is what `Becomes` relates it to. -/
theorem becomes_ofSegment (segment : Text) : Becomes segment (ofSegment segment) := by
  unfold ofSegment
  split
  · next hnumeric => exact .identity hnumeric
  · next hplain =>
    split
    · next hnamed =>
      obtain ⟨name, hne, rfl⟩ := isNamed_iff.1 hnamed
      exact .named hne rfl
    · next hnameless =>
      refine .same (Bool.eq_false_iff.2 hplain) fun name hne heq => ?_
      exact hnameless (isNamed_iff.2 ⟨name, hne, heq⟩)

/-- The name of a parameter could be a segment itself. -/
theorem Becomes.isSegment_name {p : PathParameter} (h : Becomes segment (.parameter p))
    (hsegment : IsSegment segment) : IsSegment p.name := by
  cases h with
  | identity numeric => constructor <;> decide
  | named ne_nil eq =>
    refine hsegment.of_forall_mem ne_nil fun c hc => .inl ?_
    rw [eq]
    exact List.mem_append_right _ hc

/-- What a segment becomes is written as one segment again. -/
theorem Becomes.isSegment_text (h : Becomes segment t) (hsegment : IsSegment segment) :
    IsSegment t.text := by
  cases t with
  | literal own =>
    cases h
    exact hsegment
  | parameter p =>
    refine (h.isSegment_name hsegment).of_forall_mem (List.cons_ne_nil _ _) fun c hc => ?_
    rw [text, List.mem_append, List.mem_append] at hc
    rcases hc with (hopen | hname) | hclose
    · obtain rfl := List.mem_singleton.1 hopen
      exact .inr (by decide)
    · exact .inl hname
    · obtain rfl := List.mem_singleton.1 hclose
      exact .inr (by decide)

/-- Of a URL without an opening brace, the braces in a template are around names. -/
theorem Becomes.bracedName?_text (h : Becomes segment t)
    (braceless : ('\x7b' : CodePoint) ∉ segment) : bracedName? t.text = t.name? := by
  cases t with
  | literal own =>
    cases h
    exact Path.bracedName?_of_not_mem braceless
  | parameter p => exact Path.bracedName?_braces p.name

/-- With a colon for the braces, a segment of a template fits whatever the segment
of the URL fits. -/
theorem Becomes.subsumes_withColon (h : Becomes segment t) (hsegment : IsSegment segment)
    (braceless : ('\x7b' : CodePoint) ∉ segment) :
    IsSegment (withColon t.text) ∧ Subsumes (withColon t.text) segment := by
  rw [withColon, h.bracedName?_text braceless]
  cases t with
  | literal own =>
    cases h
    refine ⟨hsegment, ?_⟩
    cases hparameter : Path.isParameter segment with
    | true => exact .inl hparameter
    | false => exact .inr ⟨hparameter, rfl⟩
  | parameter p =>
    refine ⟨(h.isSegment_name hsegment).of_forall_mem (List.cons_ne_nil _ _) ?_, .inl rfl⟩
    intro c hc
    rcases List.mem_cons.1 hc with rfl | hname
    · exact .inr (by decide)
    · exact .inl hname

end TemplateSegment

/-- A path key tells a pattern: it shows what the segments become in a template, and with
colons for the braces it has as many of them and fits every path that the pattern fits. -/
structure Path.Documents (key pattern : Text) : Prop where
  shown : List.Forall₂ (fun segment own => ∃ t, TemplateSegment.Becomes segment t ∧ own = t.text)
    (segments pattern) (segments key)
  length : (segments (withColons key)).length = (segments pattern).length
  fits : ∀ path, fits pattern path = true → fits (withColons key) path = true

open MockApi.Path (Documents)

namespace PathTemplate

/-- The parameters have the names that had not been seen, each once and in order. -/
theorem names_parametersAfter (seen : List Text) (template : PathTemplate) :
    (parametersAfter seen template).map (·.name)
      = ((template.filterMap TemplateSegment.name?).filter (!seen.contains ·)).eraseDups := by
  induction template generalizing seen with
  | nil => rfl
  | cons segment rest ih =>
    cases segment with
    | literal text => exact ih seen
    | parameter p =>
      rw [parametersAfter, List.filterMap_cons_some (f := TemplateSegment.name?) rfl]
      split
      · next hseen => rw [List.filter_cons_of_neg (by simpa using hseen), ih]
      · next hnew =>
        rw [List.filter_cons_of_pos (by simpa using hnew), List.map_cons, ih,
          eraseDups_cons_filter]

theorem names_parameters (template : PathTemplate) :
    template.parameters.map (·.name) = (template.filterMap TemplateSegment.name?).eraseDups := by
  rw [parameters, names_parametersAfter]
  simp

variable {url : Text} {parts : List Text} {template : PathTemplate}

/-- The text of a template of segments is cut into theirs. -/
theorem segments_text (hparts : ∀ s ∈ parts, IsSegment s) :
    Path.segments (text (parts.map .ofSegment))
      = parts.map fun s => (TemplateSegment.ofSegment s).text := by
  rw [text, List.map_map]
  exact Path.segments_ofSegments <| List.forall_mem_map.2 fun s hs =>
    (TemplateSegment.becomes_ofSegment s).isSegment_text (hparts s hs)

/-- The names of the parameters are those in braces in the text of the template. -/
theorem bracedNames_text (h : ofUrl url = .ok template) (braceless : ('\x7b' : CodePoint) ∉ url) :
    bracedNames template.text = template.parameters.map (·.name) := by
  obtain ⟨parts, hparts, rfl⟩ := map_eq_ok.1 h
  obtain ⟨-, hsegments⟩ := Path.of_routeSegments hparts
  have hnames : ∀ s ∈ parts, bracedName? (TemplateSegment.ofSegment s).text
      = (TemplateSegment.ofSegment s).name? := fun s hs =>
    (TemplateSegment.becomes_ofSegment s).bracedName?_text <|
      mt (Path.mem_of_mem_routeSegments hparts hs) braceless
  rw [names_parameters, bracedNames, segments_text hsegments, List.filterMap_map,
    List.filterMap_map]
  exact congrArg List.eraseDups (List.filterMap_congr hnames)

/-- The text of a URL's template tells the URL's pattern. -/
theorem exists_documents (h : ofUrl url = .ok template) (braceless : ('\x7b' : CodePoint) ∉ url) :
    ∃ pattern, Path.routePattern url [] = .ok pattern ∧ Documents template.text pattern := by
  obtain ⟨parts, hparts, rfl⟩ := map_eq_ok.1 h
  obtain ⟨hpattern, hsegments⟩ := Path.of_routeSegments hparts
  -- segment by segment, the key with its colons covers the pattern
  have hcolons : ∀ s ∈ parts, IsSegment (withColon (TemplateSegment.ofSegment s).text)
      ∧ Subsumes (withColon (TemplateSegment.ofSegment s).text) s := fun s hs =>
    (TemplateSegment.becomes_ofSegment s).subsumes_withColon (hsegments s hs) <|
      mt (Path.mem_of_mem_routeSegments hparts hs) braceless
  have hkey : Path.segments (withColons (text (parts.map .ofSegment)))
      = parts.map fun s => withColon (TemplateSegment.ofSegment s).text := by
    rw [withColons, segments_text hsegments, List.map_map]
    exact Path.segments_ofSegments <| List.forall_mem_map.2 fun s hs => (hcolons s hs).1
  have hsubsumes : List.Forall₂ Subsumes
      (parts.map fun s => withColon (TemplateSegment.ofSegment s).text) parts := by
    rw [List.forall₂_map_left_iff, List.forall₂_same]
    exact fun s hs => (hcolons s hs).2
  -- what each segment becomes, how many there are, and which paths fit
  refine ⟨_, hpattern, ?_, ?_, fun path hfits => ?_⟩
  · rw [segments_text hsegments, Path.segments_ofSegments hsegments, List.forall₂_map_right_iff,
      List.forall₂_same]
    exact fun s _ => ⟨_, TemplateSegment.becomes_ofSegment s, rfl⟩
  · rw [hkey, Path.segments_ofSegments hsegments, List.length_map]
  · rw [Path.fits, Path.segments_ofSegments hsegments] at hfits
    rw [Path.fits, hkey]
    exact Path.segmentsFit_of_subsumes hsubsumes hfits

end PathTemplate

-- ============================================================== documents

namespace Json

/-- The entries of an object. -/
def entries : Json → Fields
  | .obj fields => fields
  | _ => []

/-- An entry of a parameter list tells a required parameter of the path. -/
structure IsPathParameter (name : Text) (entry : Json) : Prop where
  named : entry.field? "name" = some (.str name)
  inPath : entry.field? "in" = some (.str "path")
  required : entry.field? "required" = some (.bool true)

/-- An operation lists a parameter for each of the names, in their order. If there are
none, it has no list. -/
inductive ListsParameters (operation : Json) : List Text → Prop
  | without (absent : operation.field? "parameters" = none) : ListsParameters operation []
  | list {names : List Text} {entries : List Json} (ne_nil : names ≠ [])
      (listed : operation.field? "parameters" = some (.arr entries))
      (each : List.Forall₂ IsPathParameter names entries) : ListsParameters operation names

end Json

theorem PathParameter.isPathParameter (p : PathParameter) :
    Json.IsPathParameter p.name p.toJson := by
  unfold toJson
  constructor <;> simp [Json.ofFields, Json.field?, Fields.get?, Json.ofString]

/-- An operation lists the names of its parameters. -/
theorem Operation.listsParameters (o : Operation) :
    o.toJson.ListsParameters (o.parameters.map (·.name)) := by
  by_cases hnone : o.parameters = []
  · rw [hnone]
    refine .without ?_
    unfold toJson
    cases o.request <;> simp [hnone, Json.ofFields, Json.field?, Fields.get?]
  · have hlisted : o.toJson.field? "parameters" = some (.arr (o.parameters.map (·.toJson))) := by
      unfold toJson
      simp [hnone, Json.ofFields, Json.field?, Fields.get?]
    refine .list (by simpa using hnone) hlisted ?_
    rw [List.forall₂_map_left_iff, List.forall₂_map_right_iff, List.forall₂_same]
    exact fun p _ => p.isPathParameter

namespace Description

variable {d : Description} {g : Generator} {call : Call} {chance : Chance} {o : OperationName}

/-- Every operation has the parameters that stand in the key of its path. -/
def FitsPaths (d : Description) : Prop :=
  ∀ entry ∈ d.paths, ∀ operation ∈ entry.2,
    bracedNames entry.1 = operation.2.parameters.map (·.name)

/-- An addition keeps the parameters of every path those of its template. -/
theorem FitsPaths.add (h : d.FitsPaths) (braceless : ('\x7b' : CodePoint) ∉ call.url) :
    (d.add g call chance).2.1.FitsPaths := by
  have hadded := added g d call chance
  generalize d.add g call chance = result at hadded
  cases hadded with
  | refused cause blame => exact h
  | unwritten ofUrl made named status => exact h
  | described ofUrl made named written =>
    exact forall_put (P := fun path o => bracedNames path = o.parameters.map (·.name)) h
      (PathTemplate.bracedNames_text ofUrl braceless)

/-- An addition takes no operation away. -/
theorem mem_operations_add (h : o ∈ d.operations) :
    o ∈ (d.add g call chance).2.1.operations := by
  have hadded := added g d call chance
  generalize d.add g call chance = result at hadded
  cases hadded with
  | refused cause blame => exact h
  | unwritten ofUrl made named status => exact h
  | described ofUrl made named written => exact mem_operations_put.2 (.inr h)

/-- What was added is on the path that its URL's template tells. -/
theorem of_add_eq_ok {operation : Operation} (h : (d.add g call chance).1 = .ok operation) :
    (Text.lower call.method, operation.path) ∈ (d.add g call chance).2.1.operations
      ∧ ∃ template, PathTemplate.ofUrl call.url = .ok template
        ∧ operation.path = template.text := by
  have hadded := added g d call chance
  generalize d.add g call chance = result at hadded h
  cases hadded with
  | refused cause blame => cases h
  | unwritten ofUrl made named status => cases h
  | described ofUrl made named written =>
    obtain rfl := Except.ok.inj h
    exact ⟨mem_operations_put.2 (.inl rfl), _, ofUrl, rfl⟩

/-- A run of additions can be cut in two. -/
theorem addEach_append (d : Description) (front behind : List (Generator × Call × Chance)) :
    d.addEach (front ++ behind) = (d.addEach front).addEach behind := by
  induction front generalizing d with
  | nil => rfl
  | cons step front ih => exact ih _

/-- The document has the operations of the description, each with what it is shown as. -/
theorem of_mem_entries_paths {key : Text} {v : Json}
    (h : (key, v) ∈ (d.toJson.member "paths").entries) :
    ∃ operations, (key, operations) ∈ d.paths
      ∧ v = .obj (operations.map fun o => (o.1, o.2.toJson)) := by
  rw [(members_toJson d).1, pathsJson, Json.entries] at h
  obtain ⟨⟨path, operations⟩, hpath, heq⟩ := List.mem_map.1 h
  obtain ⟨rfl, rfl⟩ := Prod.mk.inj heq
  exact ⟨operations, hpath, rfl⟩

/-- An operation of the description stands on its path in the document. -/
theorem exists_mem_entries_paths {verb path : Text} (h : (verb, path) ∈ d.operations) :
    ∃ v, (path, v) ∈ (d.toJson.member "paths").entries ∧ verb ∈ v.keys := by
  rw [(members_toJson d).1, pathsJson, Json.entries]
  obtain ⟨entry, hentry, hmem⟩ := List.mem_flatMap.1 h
  obtain ⟨own, hown, heq⟩ := List.mem_map.1 hmem
  obtain ⟨rfl, rfl⟩ := Prod.mk.inj heq
  refine ⟨_, List.mem_map.2 ⟨entry, hentry, rfl⟩, ?_⟩
  rw [Json.keys, List.map_map]
  exact List.mem_map.2 ⟨own, hown, rfl⟩

/-- After any additions of URLs without braces, failed ones among them, an operation on
a path of the document lists the names in braces of that path, each once and in order,
and nothing else. What an addition gave is in the document, on a path that tells the
route pattern of its URL. It is enough that no brace opens. -/
theorem parameters_fit (title : Option Text) (serverUrl : Text)
    {steps : List (Generator × Call × Chance)}
    (braceless : ∀ step ∈ steps, ('\x7b' : CodePoint) ∉ step.2.1.url) :
    let start : Description := { title, serverUrl }
    let paths := (start.addEach steps).toJson.member "paths"
    (∀ key operations, (key, operations) ∈ paths.entries →
        ∀ operation ∈ operations.values, operation.ListsParameters (bracedNames key))
      ∧ ∀ front g call chance behind operation, steps = front ++ (g, call, chance) :: behind →
        ((start.addEach front).add g call chance).1 = .ok operation →
        (∃ operations, (operation.path, operations) ∈ paths.entries
            ∧ Text.lower call.method ∈ operations.keys)
          ∧ ∃ pattern, Path.routePattern call.url [] = .ok pattern
            ∧ Documents operation.path pattern := by
  intro start paths
  constructor
  · intro key v hentry shown hshown
    -- the invariant of a run of additions: every path lists the parameters of its template
    have hfits : (start.addEach steps).FitsPaths :=
      addEach_induction (fun _ hpath => nomatch hpath)
        fun step hstep _ hd => hd.add (braceless step hstep)
    obtain ⟨operations, hpath, rfl⟩ := of_mem_entries_paths hentry
    rw [Json.values, List.map_map] at hshown
    obtain ⟨operation, hoperation, rfl⟩ := List.mem_map.1 hshown
    rw [hfits _ hpath operation hoperation]
    exact operation.2.listsParameters
  · rintro front g call chance behind operation rfl hadd
    obtain ⟨hmem, template, htemplate, hpath⟩ := of_add_eq_ok hadd
    constructor
    · refine exists_mem_entries_paths ?_
      -- once it is there, no later addition takes the operation away
      rw [addEach_append, addEach]
      exact addEach_induction (I := fun d => _ ∈ d.operations) hmem
        fun _ _ _ hd => mem_operations_add hd
    · rw [hpath]
      exact PathTemplate.exists_documents htemplate
        (braceless _ (List.mem_append_right _ List.mem_cons_self))

/-- Two URLs that come to one path, an illegible one, and one in which digits have the
name of a parameter and a lone colon has none. -/
def userSteps : List (Generator × Call × Chance) :=
  ([⟨"GET", "/users/42"⟩, ⟨"get", "https://h/users/:id?full"⟩, ⟨"GET", "//["⟩,
    ⟨"PUT", "/:name/:/7/:id"⟩] : List Call).map fun call => (Generator.servedAt [], call, ⟨[]⟩)

/-- A name that a path has twice is declared once. -/
theorem parameters_fit_users :
    let start : Description := { title := none, serverUrl := [] }
    let paths := (start.addEach userSteps).toJson.member "paths"
    (∀ step ∈ userSteps, ('\x7b' : CodePoint) ∉ step.2.1.url)
      ∧ paths.keys = (["/users/\x7bid\x7d", "/\x7bname\x7d/:/\x7bid\x7d/\x7bid\x7d"] : List Text)
      ∧ bracedNames "/\x7bname\x7d/:/\x7bid\x7d/\x7bid\x7d" = (["name", "id"] : List Text)
      ∧ (∀ key operations, (key, operations) ∈ paths.entries →
          ∀ operation ∈ operations.values, operation.ListsParameters (bracedNames key))
      ∧ Documents "/users/\x7bid\x7d" "/users/42" := by
  intro start paths
  have braceless : ∀ step ∈ userSteps, ('\x7b' : CodePoint) ∉ step.2.1.url := by decide
  obtain ⟨hlisted, hadded⟩ := parameters_fit none [] braceless
  refine ⟨braceless, by decide +kernel, by decide, hlisted, ?_⟩
  have hadds : (start.add (Generator.servedAt []) ⟨"GET", "/users/42"⟩ ⟨[]⟩).1.isOk = true := by
    decide +kernel
  obtain ⟨operation, hadd⟩ := exists_of_isOk hadds
  obtain ⟨-, template, htemplate, hpath⟩ := of_add_eq_ok hadd
  obtain rfl : [.literal "users", .parameter ⟨"id", true⟩] = template := Except.ok.inj htemplate
  obtain ⟨-, pattern, hpattern, hdocuments⟩ := hadded [] _ _ _ _ operation rfl hadd
  obtain rfl : ("/users/42" : Text) = pattern := Except.ok.inj hpattern
  rw [hpath] at hdocuments
  exact hdocuments

end Description

end MockApi
