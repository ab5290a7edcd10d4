/-
What the style in which objects are displayed changes in a route table. A bundle's
entries are shown in one style when they are in memory and in another when they
come from a file, and the texts of their header values are made of what is shown.

The two styles tell themselves apart wherever there is an object to be shown, for
the pairs of one are longer than the braces of the other (`length_shown`), and
nowhere else. So the same entries are definitions in both, these differ in the
texts of header values alone, and they are the same if and only if no header value
is or holds an object (`ofEntries_alike`).
-/
import MockApi.Proofs.Mock.Definition
import MockApi.Proofs.Mock.Entry
import MockApi.Proofs.Route.Table

namespace MockApi

-- ================================================================= displays

namespace Json

mutual

/-- The value is an object or a list with one somewhere in it. -/
def holdsObject : Json → Bool
  | .obj _ => true
  | .arr items => holdsObjectAmong items
  | _ => false

def holdsObjectAmong : List Json → Bool
  | [] => false
  | item :: rest => holdsObject item || holdsObjectAmong rest

end

mutual

/-- A value that holds no object is shown alike in all styles. -/
theorem shown_of_plain (style other : ObjectStyle) :
    ∀ v : Json, v.holdsObject = false → v.shown style = v.shown other
  | .null, _ | .bool true, _ | .bool false, _ | .int _, _ | .float _, _ | .str _, _
  | .arr [], _ => rfl
  | .arr (item :: rest), plain => by
    rw [holdsObject, holdsObjectAmong, Bool.or_eq_false_iff] at plain
    rw [shown, shown, shown_of_plain style other item plain.1,
      shownItems_of_plain style other rest plain.2]
  | .obj _, plain => nomatch plain

/-- Items among which no object is held are shown alike in all styles. -/
theorem shownItems_of_plain (style other : ObjectStyle) :
    ∀ items : List Json, holdsObjectAmong items = false →
      shownItems style items = shownItems other items
  | [], _ => rfl
  | item :: rest, plain => by
    rw [holdsObjectAmong, Bool.or_eq_false_iff] at plain
    rw [shownItems, shownItems, shown_of_plain style other item plain.1,
      shownItems_of_plain style other rest plain.2]

end

theorem toNat_or_le (a b : Bool) : (a || b).toNat ≤ a.toNat + b.toNat := by
  cases a with
  | false => simp
  | true => simp

mutual

/-- Every object is longer as the list of its pairs. -/
theorem length_shown : ∀ v : Json,
    (v.shown .braces).length + v.holdsObject.toNat ≤ (v.shown .pairs).length
  | .null | .bool true | .bool false | .int _ | .float _ | .str _ | .arr [] => Nat.le_refl _
  | .arr (item :: rest) => by
    have hitem := length_shown item
    have hrest := length_shownItems rest
    have hor := toNat_or_le item.holdsObject (holdsObjectAmong rest)
    simp only [shown, holdsObject, holdsObjectAmong, List.length_append]
    omega
  | .obj [] => by decide
  | .obj ((key, value) :: rest) => by
    have hvalue := length_shown value
    have hrest := length_shownFields rest
    have hopening : ObjectStyle.braces.opening.length + 1 ≤ ObjectStyle.pairs.opening.length := by
      decide
    have hcolon : ObjectStyle.braces.colon.length ≤ ObjectStyle.pairs.colon.length := by decide
    have hclosing : ObjectStyle.braces.closing.length ≤ ObjectStyle.pairs.closing.length := by
      decide
    simp only [shown, holdsObject, List.length_append, Bool.toNat_true]
    omega

/-- Items are longer in pairs than in braces if an object is among them. -/
theorem length_shownItems : ∀ items : List Json,
    (shownItems .braces items).length + (holdsObjectAmong items).toNat
      ≤ (shownItems .pairs items).length
  | [] => Nat.le_refl _
  | item :: rest => by
    have hitem := length_shown item
    have hrest := length_shownItems rest
    have hor := toNat_or_le item.holdsObject (holdsObjectAmong rest)
    simp only [shownItems, holdsObjectAmong, List.length_append]
    omega

/-- Members are never shorter in pairs. -/
theorem length_shownFields : ∀ fields : List (Text × Json),
    (shownFields .braces fields).length ≤ (shownFields .pairs fields).length
  | [] => Nat.le_refl _
  | (key, value) :: rest => by
    have hvalue := length_shown value
    have hrest := length_shownFields rest
    have hcomma : ObjectStyle.braces.comma.length ≤ ObjectStyle.pairs.comma.length := by decide
    have hcolon : ObjectStyle.braces.colon.length ≤ ObjectStyle.pairs.colon.length := by decide
    simp only [shownFields, List.length_append]
    omega

end

end Json

/-- Two styles that show a value alike if and only if no object is in it. -/
def ObjectStyle.TellsApart (style other : ObjectStyle) : Prop :=
  ∀ v : Json, v.shown style = v.shown other ↔ v.holdsObject = false

/-- Two styles are told apart either way round. -/
theorem ObjectStyle.TellsApart.symm {style other : ObjectStyle} (h : style.TellsApart other) :
    other.TellsApart style := by
  intro v
  rw [eq_comm]
  exact h v

/-- Pairs and braces are told apart. -/
theorem ObjectStyle.tellsApart : ObjectStyle.pairs.TellsApart .braces := by
  intro v
  constructor
  · intro h
    have hlength := Json.length_shown v
    rw [h] at hlength
    cases hobject : v.holdsObject with
    | false => rfl
    | true =>
      rw [hobject, Bool.toNat_true] at hlength
      omega
  · exact Json.shown_of_plain .pairs .braces v

-- ============================================================ read both ways

/-- Two readings of one thing: the same in outline, and the same altogether if
and only if it shows no object. -/
structure Alike {α β : Type} (outline : α → β) (shows : Bool) (a b : α) : Prop where
  outline_eq : outline a = outline b
  eq_iff : a = b ↔ shows = false

theorem Alike.rfl_of_hidden {α β : Type} (outline : α → β) (a : α) : Alike outline false a a :=
  ⟨rfl, iff_of_true rfl rfl⟩

/-- Lists whose items are read alike are read alike. -/
theorem mapM_alike {ε ι α β : Type} {f g : ι → Except ε α} {outline : α → β} {shows : ι → Bool}
    (h : ∀ i a, f i = .ok a → ∃ b, g i = .ok b ∧ Alike outline (shows i) a b) {items : List ι}
    {as : List α} (hf : items.mapM f = .ok as) :
    ∃ bs, items.mapM g = .ok bs ∧ Alike (List.map outline) (items.any shows) as bs := by
  induction items generalizing as with
  | nil =>
    obtain rfl := Except.ok.inj hf
    exact ⟨[], rfl, .rfl_of_hidden _ []⟩
  | cons i rest ih =>
    rw [List.mapM_cons] at hf
    obtain ⟨a, ha, hf⟩ := bind_eq_ok.1 hf
    obtain ⟨others, hothers, hf⟩ := bind_eq_ok.1 hf
    obtain rfl := Except.ok.inj hf
    obtain ⟨b, hb, hitem⟩ := h i a ha
    obtain ⟨bs, hbs, hrest⟩ := ih hothers
    refine ⟨b :: bs, ?_, ?_, ?_⟩
    · rw [List.mapM_cons]
      exact bind_eq_ok.2 ⟨b, hb, bind_eq_ok.2 ⟨bs, hbs, rfl⟩⟩
    · rw [List.map_cons, List.map_cons, hitem.outline_eq, hrest.outline_eq]
    · rw [List.cons.injEq, hitem.eq_iff, hrest.eq_iff, List.any_cons, Bool.or_eq_false_iff]

-- ================================================================== entries

/-- Headers without their values. -/
def Fields.outline (headers : Fields) : Fields := headers.map fun h => (h.1, .null)

/-- A reply without the values of its headers. -/
def Reply.outline (r : Reply) : Reply := { r with headers := r.headers.outline }

namespace Definition

/-- A definition without the values of its headers and those of its replies. -/
def outline (d : Definition) : Definition :=
  { d with headers := d.headers.outline, replies := d.replies.map (·.map Reply.outline) }

/-- Headers are given, and one of their values is or holds an object. -/
def headersShowObject : Option Json → Bool
  | some (.obj headers) => headers.any (·.2.holdsObject)
  | _ => false

/-- A header value of a definition or of a reply is or holds an object. -/
def showsOwnObject : Json → Bool
  | .obj fields => headersShowObject (Fields.get? "headers" fields)
  | _ => false

/-- A header value of one of the replies is or holds an object. -/
def repliesShowObject : Option Json → Bool
  | some (.arr items) => items.any showsOwnObject
  | _ => false

/-- A header value of an entry, its own or one of its replies', is or holds an
object. -/
def showsObject (entry : Json) : Bool :=
  showsOwnObject entry || repliesShowObject (entry.field? "responses")

variable {style other : ObjectStyle}

/-- Two styles that are told apart agree on the values that hold no object. -/
theorem plainText_eq_iff (apart : style.TellsApart other) (v : Json) :
    plainText style v = plainText other v ↔ v.holdsObject = false := by
  cases v with
  | str t => exact iff_of_true rfl rfl
  | _ => exact apart _

/-- Headers are accepted in both styles, and differ only where an object is shown. -/
theorem checkHeaders_alike (apart : style.TellsApart other) {v : Option Json} {headers : Fields}
    (h : checkHeaders style v = .ok headers) :
    ∃ headers', checkHeaders other v = .ok headers'
      ∧ Alike Fields.outline (headersShowObject v) headers headers' := by
  unfold checkHeaders at h
  split at h
  · obtain rfl := Except.ok.inj h
    exact ⟨_, rfl, .rfl_of_hidden _ _⟩
  · obtain rfl := Except.ok.inj h
    exact ⟨_, rfl, .rfl_of_hidden _ _⟩
  · next given =>
    rw [plainValues_eq] at h
    split at h
    · next writable =>
      obtain rfl := Except.ok.inj h
      -- the headers are accepted if they can be written, which no style decides
      refine ⟨given.map fun h => (h.1, .str (plainText other h.2)), ?_, ?_, ?_⟩
      · show plainValues other given = _
        rw [plainValues_eq, if_pos writable]
      · unfold Fields.outline
        rw [List.map_map, List.map_map]
        rfl
      · show _ ↔ given.any (·.2.holdsObject) = false
        rw [List.map_inj_left, List.any_eq_false]
        refine forall₂_congr fun header _ => ?_
        rw [Prod.mk.injEq, Json.str.injEq, plainText_eq_iff apart, Bool.not_eq_true]
        exact ⟨fun h => h.2, fun h => ⟨rfl, h⟩⟩
    · cases h
  · cases h

theorem checkStatus_of_ok {v : Json} {status : Int} (h : checkStatus style v = .ok status) :
    checkStatus other v = .ok status :=
  checkStatus_eq_ok.2 (checkStatus_eq_ok.1 h)

/-- The style does not matter to a reply, but for its headers. -/
theorem replyOf_alike (apart : style.TellsApart other) {fields : Fields} {r : Reply}
    (h : replyOf style fields = .ok r) :
    ∃ r', replyOf other fields = .ok r'
      ∧ Alike Reply.outline (showsOwnObject (.obj fields)) r r' := by
  obtain ⟨status, hstatus, h⟩ := bind_eq_ok.1 h
  obtain ⟨headers, hheaders, h⟩ := bind_eq_ok.1 h
  obtain rfl := Except.ok.inj h
  obtain ⟨headers', hheaders', alike⟩ := checkHeaders_alike apart hheaders
  refine ⟨{ status, headers := headers', body := (Fields.get? "body" fields).getD (.obj []) },
    ?_, ?_, ?_⟩
  · unfold replyOf
    exact bind_eq_ok.2 ⟨status, checkStatus_of_ok hstatus, bind_eq_ok.2 ⟨headers', hheaders', rfl⟩⟩
  · unfold Reply.outline
    simp only [alike.outline_eq]
  · rw [Reply.mk.injEq]
    simp only [true_and, and_true]
    exact alike.eq_iff

/-- What the entries of a field are read as, if there are any. -/
theorem replies_alike (apart : style.TellsApart other) {v : Option Json}
    {entries : Option (List Json)} {replies : Option (List Reply)}
    (hentries : checkArray .noReplies v = .ok entries)
    (h : entries.mapM (fun items => objects items >>= List.mapM (replyOf style)) = .ok replies) :
    ∃ replies', entries.mapM (fun items => objects items >>= List.mapM (replyOf other))
        = .ok replies'
      ∧ Alike (Option.map (List.map Reply.outline)) (repliesShowObject v) replies replies' := by
  unfold checkArray at hentries
  split at hentries
  · obtain rfl := Except.ok.inj hentries
    obtain rfl := Except.ok.inj h
    exact ⟨none, rfl, .rfl_of_hidden _ none⟩
  · obtain rfl := Except.ok.inj hentries
    obtain rfl := Except.ok.inj h
    exact ⟨none, rfl, .rfl_of_hidden _ none⟩
  · next item rest =>
    obtain rfl := Except.ok.inj hentries
    obtain ⟨read, hread, hsome⟩ := map_eq_ok.1 h
    obtain rfl : some read = replies := hsome
    obtain ⟨given, hgiven, hreplies⟩ := bind_eq_ok.1 hread
    obtain ⟨read', hread', alike⟩ := mapM_alike (fun fields r => replyOf_alike apart) hreplies
    refine ⟨some read', ?_, ?_, ?_⟩
    · exact map_eq_ok.2 ⟨read', bind_eq_ok.2 ⟨given, hgiven, hread'⟩, rfl⟩
    · rw [Option.map_some, Option.map_some, alike.outline_eq]
    · show _ ↔ (item :: rest).any showsOwnObject = false
      rw [Option.some.injEq, alike.eq_iff, objects_eq_ok.1 hgiven, List.any_map]
      rfl
  · cases hentries

/-- The style does not matter to an entry, but for the headers of it and of its replies. -/
theorem isReadFrom_alike (apart : style.TellsApart other) {fields : Fields} {d : Definition}
    (h : IsReadFrom style fields d) :
    ∃ d', IsReadFrom other fields d' ∧ Alike outline (showsObject (.obj fields)) d d' := by
  obtain ⟨entries, hentries, hreplies⟩ := h.replies
  obtain ⟨headers, hheaders, headersAlike⟩ := checkHeaders_alike apart h.headers
  obtain ⟨replies, hreplies', repliesAlike⟩ := replies_alike apart hentries hreplies
  -- only headers and replies are read in a style
  refine ⟨{ d with headers, replies }, ?_, ?_, ?_⟩
  · exact { h with
      status := checkStatus_of_ok h.status
      headers := hheaders
      replies := ⟨entries, hentries, hreplies'⟩ }
  · unfold outline
    have hnamed := headersAlike.outline_eq
    have hgiven : d.replies.map (·.map Reply.outline) = replies.map (·.map Reply.outline) :=
      repliesAlike.outline_eq
    rw [hnamed, hgiven]
  · show _ ↔ (showsOwnObject (.obj fields)
      || repliesShowObject (Fields.get? "responses" fields)) = false
    rw [Bool.or_eq_false_iff, ← repliesAlike.eq_iff]
    show _ ↔ headersShowObject (Fields.get? "headers" fields) = false ∧ _
    rw [← headersAlike.eq_iff]
    constructor
    · intro heq
      exact ⟨congrArg Definition.headers heq, congrArg Definition.replies heq⟩
    · rintro ⟨hheaders, hreplies⟩
      rw [← hheaders, ← hreplies]

/-- An entry that is a definition in one style is one in the other. -/
theorem ofJson_alike (apart : style.TellsApart other) {entry : Json} {d : Definition}
    (h : ofJson style entry = .ok d) :
    ∃ d', ofJson other entry = .ok d' ∧ Alike outline (showsObject entry) d d' := by
  obtain ⟨fields, rfl, hread⟩ := ofJson_eq_ok.1 h
  obtain ⟨d', hread', alike⟩ := isReadFrom_alike apart hread
  exact ⟨d', ofJson_eq_ok.2 ⟨fields, rfl, hread'⟩, alike⟩

end Definition

-- =================================================================== tables

/-- A route without the values of its definition's headers. -/
def Route.outline (r : Route) : Route := { r with definition := r.definition.outline }

variable {style other : ObjectStyle}

/-- The style does not matter to a route, but for its headers and those of its replies. -/
theorem Route.ofEntry?_alike (apart : style.TellsApart other) {entry : Text × Json}
    {route : Route} (h : ofEntry? style entry = some route) :
    ∃ route', ofEntry? other entry = some route'
      ∧ Alike outline (Definition.showsObject entry.2) route route' := by
  unfold ofEntry? at h
  cases hread : Definition.ofJson style entry.2 with
  | error cause =>
    rw [hread] at h
    cases h
  | ok d =>
    rw [hread] at h
    obtain rfl := Option.some.inj h
    obtain ⟨d', hread', alike⟩ := Definition.ofJson_alike apart hread
    refine ⟨⟨Path.canonical (withoutMethod entry.1), d'⟩, ?_, ?_, ?_⟩
    · unfold ofEntry?
      rw [hread']
      rfl
    · unfold outline
      simp only [alike.outline_eq]
    · rw [Route.mk.injEq, alike.eq_iff]
      exact ⟨fun h => h.2, fun h => ⟨rfl, h⟩⟩

/-- An entry that makes a route shows an object in one of its header values. -/
def RouteTable.showsObject (entry : Text × Json) : Bool :=
  (Route.ofEntry? .braces entry).isSome && Definition.showsObject entry.2

/-- The tables of the same entries in two styles differ in header values alone,
and not in these if and only if none of them is or holds an object. -/
theorem RouteTable.ofEntries_alike (entries : Fields) :
    Alike (List.map Route.outline) (entries.any showsObject) (ofEntries .pairs entries).1
      (ofEntries .braces entries).1 := by
  rw [ofEntries_fst, ofEntries_fst]
  induction entries with
  | nil => exact .rfl_of_hidden _ []
  | cons entry rest ih =>
    rw [List.filterMap_cons, List.filterMap_cons, List.any_cons, showsObject]
    cases hpairs : Route.ofEntry? .pairs entry with
    | none =>
      -- an entry that makes no route in one style makes none in the other
      have hbraces : Route.ofEntry? .braces entry = none := by
        rw [Option.eq_none_iff_forall_ne_some]
        intro route hroute
        obtain ⟨route', hroute', -⟩ := Route.ofEntry?_alike ObjectStyle.tellsApart.symm hroute
        rw [hpairs] at hroute'
        cases hroute'
      rw [hbraces]
      exact ih
    | some route =>
      obtain ⟨route', hbraces, alike⟩ := Route.ofEntry?_alike ObjectStyle.tellsApart hpairs
      rw [hbraces]
      refine ⟨?_, ?_⟩
      · show _ :: _ = _ :: _
        rw [alike.outline_eq, ih.outline_eq]
      · show route :: _ = route' :: _ ↔ _
        rw [List.cons.injEq, alike.eq_iff, ih.eq_iff, Bool.or_eq_false_iff]
        exact Iff.rfl

end MockApi
