/-
Which rule claims a call on an object. A rule claims a call if it finds it and accepts
its object, and so the call goes to the rule for the kind that the names tell of the
object. Two of the rules know their objects by their own names, and find them only where
they stand alone: there a word is the object, since nothing else can stand between the
place and the next point (`object_eq_of_word`). What is told twice can be claimed twice,
and what is told of no kind is claimed by no rule (`claimed_iff_told`).
-/
import MockApi.Proofs.Scan.Order
import MockApi.Proofs.Scan.Target

namespace MockApi

open Pattern Lexeme ClientNames

-- ================================================================= objects

namespace Lexeme

/-- What a verb is called on: a name, alone or of the class that the call is in. -/
inductive IsObject : Text → Prop
  | alone {name : Text} (h : IsScriptName name) : IsObject name
  | own {name : Text} (h : IsScriptName name) : IsObject ("this." ++ name)

variable {object : Text}

/-- An object is spelled as a name, with or without `this.` in front of it. -/
theorem isObject_of_spells (h : (.maybe "this." ++ scriptName : Pattern).Spells object) :
    IsObject object := by
  cases h with
  | seq hfirst hname =>
    cases hfirst with
    | present hthis =>
      cases hthis
      exact .own (isScriptName_of_spells hname)
    | absent => exact .alone (isScriptName_of_spells hname)

end Lexeme

-- =================================================================== rules

/-- The rule finds a call at a place, and accepts its object. -/
def CallRule.Claims (r : CallRule) (names : ClientNames) (c : Cursor) : Prop :=
  ∃ m, r.pattern.matchAt? c = some m ∧ r.accepts names (m.get .object) = true

namespace Target

/-- The rule for the calls on objects of the kind. -/
def rule : Target → CallRule
  | library => Rule.libraryCall
  | bound => Rule.aliasCall
  | client => Rule.clientCall
  | server => Rule.serverRoute
  | other => Rule.dataHook.inner

/-- What must not stand before an object that the rule is to see. -/
def bars : Target → CodePoint → Bool
  | library => fun x => x == '.'
  | server => fun x => x == '.' || x == '@'
  | _ => fun _ => false

/-- The rule knows objects only by their own names. -/
def wantsAlone : Target → Bool
  | library => true
  | server => true
  | _ => false

/-- The rule does not see an object of its kind: it belongs to a class or to what
stands before it. -/
def misses (c : Cursor) (object : Text) (target : Target) : Bool :=
  target.wantsAlone && withoutThis object != object || c.previous.any target.bars

end Target

-- =================================================================== calls

namespace Rule

variable {test : CodePoint → Bool} {p literal : Pattern} {c : Cursor} {m : Match}

/-- A verb call is tried behind what its object is spelled by. -/
theorem matchAt?_verbCall (test : CodePoint → Bool) (p literal : Pattern) (c : Cursor) :
    (notAfter test ++ p ++ verbCall literal).matchAt? c
      = if c.previous.any test then none
        else p.walk c [] fun middle parts =>
          (verbCall literal).walk middle parts fun stop parts => some ⟨c, stop, parts⟩ := rfl

/-- What a verb call takes starts with a point. -/
theorem exists_of_spells_verbCall {t : Text} (h : (verbCall literal).Spells t) :
    ∃ rest, t = .char '.' :: rest := by
  cases h with
  | seq hfirst hliteral =>
    cases hfirst with
    | seq hsecond hopening =>
      cases hsecond with
      | seq hpoint hverb =>
        cases hpoint
        exact ⟨_, rfl⟩

/-- A call of a verb goes on at a dot. -/
theorem exists_rest_of_walk {α : Type} {a : α} {parts : Parts}
    {lead : Cursor → Parts → Option α} (h : (verbCall literal).walk c parts lead = some a) :
    ∃ rest, c.rest = .char '.' :: rest := by
  obtain ⟨t, stop, -, hpast, ht, -⟩ := exists_spelled _ h
  obtain ⟨rest, rfl⟩ := exists_of_spells_verbCall ht
  exact ⟨rest ++ stop.rest, Cursor.rest_of_past? hpast⟩

/-- What a call on an object was found to be: an object, and a point behind it from
which the call goes on. -/
theorem exists_of_objectCall (h : objectCall.matchAt? c = some m) :
    IsObject (m.get .object) ∧ c.previous.any isNameChar = false ∧ ∃ middle rest,
      c.past? (m.get .object) = some middle
      ∧ c.rest = m.get .object ++ .char '.' :: rest
      ∧ ((verbCall scriptLiteral).walk middle [(.object, c, middle)] fun stop parts =>
        some (⟨c, stop, parts⟩ : Match)) = some m := by
  have hwalk : (notAfter isNameChar ++ part .object (maybe "this." ++ scriptName)
      ++ verbCall scriptLiteral).matchAt? c = some m := h
  rw [matchAt?_verbCall] at hwalk
  split at hwalk
  · cases hwalk
  · next hprevious =>
    rw [walk] at hwalk
    obtain ⟨object, middle, new, hpast, hspells, hcall, hnew⟩ := exists_spelled _ hwalk
    -- the object has no parts of its own
    obtain rfl : new = [] := by
      refine List.eq_nil_iff_forall_not_mem.2 fun entry hentry => ?_
      obtain ⟨q, hq, -⟩ := hnew entry hentry
      exact absurd hq List.not_mem_nil
    obtain ⟨rest, hrest⟩ := exists_rest_of_walk hcall
    have hobject : m.get .object = object := by
      obtain ⟨-, stop, behind, -, -, hm, hbehind⟩ := exists_spelled _ hcall
      obtain rfl := Option.some.inj hm
      rw [Match.get, hbehind.get?_append rfl]
      exact Cursor.upTo_of_past? hpast
    rw [hobject]
    refine ⟨isObject_of_spells hspells, Bool.eq_false_iff.2 hprevious, middle, rest, hpast, ?_,
      hcall⟩
    rw [Cursor.rest_of_past? hpast, hrest]

/-- Where a word stands before a point, the object before the point is the word. -/
theorem object_eq_of_word {object word t rest rest' : Text} (hobject : IsObject object)
    (ht : t = object ++ .char '.' :: rest) (ht' : t = word ++ .char '.' :: rest')
    (hdotless : ('.' : CodePoint) ∉ word) (hthis : word ≠ "this") : object = word := by
  have hword : Text.before '.' t = word := by rw [ht', Text.before_append hdotless]
  cases hobject with
  | alone h => rw [← hword, ht, Text.before_append h.dot_not_mem]
  | own h =>
    refine absurd ?_ hthis
    have hown : t = ("this" : Text) ++ .char '.' :: (_ ++ .char '.' :: rest) := ht
    rw [← hword, hown, Text.before_append (by decide)]

/-- The pattern takes one of the words, and leads on behind each of them. -/
structure TakesWord (p : Pattern) (words : List Text) : Prop where
  spells : ∀ {t : Text}, p.Spells t → t ∈ words
  leads : ∀ {c stop : Cursor} {lead : Cursor → Parts → Option Match} {word : Text},
    word ∈ words → c.past? word = some stop →
    (∀ parts, AlikeBut .object parts [] → (lead stop parts).isSome = true) →
    (p.walk c [] lead).isSome = true

/-- Where a call on one of some words is found, a word stands before a point. -/
theorem exists_word_of_isSome {words : List Text} (htakes : TakesWord p words)
    (h : ((notAfter test ++ p ++ verbCall literal).matchAt? c).isSome = true) :
    c.previous.any test = false ∧ ∃ word ∈ words, ∃ rest, c.rest = word ++ .char '.' :: rest := by
  rw [matchAt?_verbCall] at h
  split at h
  · cases h
  · next hbars =>
    obtain ⟨found, hfound⟩ := Option.isSome_iff_exists.1 h
    obtain ⟨word, stop, new, hpast, hspells, hcall, -⟩ := p.exists_spelled hfound
    obtain ⟨rest, hrest⟩ := exists_rest_of_walk hcall
    refine ⟨Bool.eq_false_iff.2 hbars, word, htakes.spells hspells, rest, ?_⟩
    rw [Cursor.rest_of_past? hpast, hrest]

/-- A call on one of some words is found where the object is such a word and does not
stand behind what is barred. -/
theorem isSome_word_call_iff (bars : CodePoint → Bool) {words : List Text}
    (htest : ∀ x, test x = (isNameChar x || bars x)) (htakes : TakesWord p words)
    (hwords : ∀ word ∈ words, ('.' : CodePoint) ∉ word ∧ word ≠ "this")
    (h : objectCall.matchAt? c = some m) :
    ((notAfter test ++ p ++ verbCall scriptLiteral).matchAt? c).isSome = true
      ↔ m.get .object ∈ words ∧ c.previous.any bars = false := by
  obtain ⟨hobject, hprevious, middle, rest, hpast, hrest, hcall⟩ := exists_of_objectCall h
  have hany : c.previous.any test = c.previous.any bars := by
    cases hbefore : c.previous with
    | none => rfl
    | some x =>
      rw [hbefore] at hprevious
      show test x = bars x
      rw [htest, show isNameChar x = false from hprevious, Bool.false_or]
  constructor
  · intro hsome
    obtain ⟨hbars, word, hmem, rest', hword⟩ := exists_word_of_isSome htakes hsome
    rw [object_eq_of_word hobject hrest hword (hwords word hmem).1 (hwords word hmem).2]
    exact ⟨hmem, hany ▸ hbars⟩
  · rintro ⟨hmem, hbars⟩
    rw [matchAt?_verbCall, hany, hbars]
    refine htakes.leads hmem hpast fun parts halike => ?_
    -- no part that is asked for is the object
    have hparts : AlikeBut .object parts [(.object, c, middle)] := by
      intro label hlabel
      rw [halike label hlabel, alikeBut_cons .object c middle [] label hlabel]
    have hfound := congrArg Option.isSome hcall
    refine (isSome_walk_congr .object (verbCall scriptLiteral) rfl ?_ middle hparts).trans hfound
    exact fun _ _ _ _ => rfl

/-- A piece takes one word. -/
theorem takesWord_piece (word : Text) : TakesWord (.piece word) [word] where
  spells := by
    intro t h
    cases h
    exact List.mem_singleton.2 rfl
  leads := by
    intro c stop lead found hmem hpast hlead
    obtain rfl := List.mem_singleton.1 hmem
    rw [walk, hpast]
    exact hlead [] fun _ _ => rfl

/-- One of several words takes these. -/
theorem takesWord_oneOf (words : List Text) :
    TakesWord (.part .object (oneOf (words.map .piece))) words where
  spells := by
    intro t h
    cases h with
    | part h => exact mem_of_spells_oneOf h
  leads := by
    intro c stop lead word hmem hpast hlead
    rw [walk]
    exact isSome_walk_oneOf hmem hpast (hlead _ (alikeBut_cons .object c stop []))

end Rule

namespace CallRule

variable {r : CallRule} {names : ClientNames} {c : Cursor} {m : Match}

/-- A rule for the calls on an object claims those whose object it accepts. -/
theorem claims_iff_accepts (h : r.pattern.matchAt? c = some m) :
    r.Claims names c ↔ r.accepts names (m.get .object) = true := by
  constructor
  · rintro ⟨found, hfound, haccepts⟩
    rw [h] at hfound
    rw [Option.some.inj hfound]
    exact haccepts
  · intro haccepts
    exact ⟨m, h, haccepts⟩

/-- A rule that accepts all objects claims what it finds. -/
theorem claims_iff_isSome (h : r.accepts = fun _ _ => true) :
    r.Claims names c ↔ (r.pattern.matchAt? c).isSome = true := by
  rw [Option.isSome_iff_exists]
  exact exists_congr fun m => and_iff_left (by rw [h])

/-- The hits of a rule are at places where it claims a call. -/
theorem claims_of_mem_hits {text : Text} {hit : Hit} (h : hit ∈ r.hits names (.ofText text)) :
    r.Claims names (.inText text hit.offset) := by
  obtain ⟨m, hm, hhit⟩ := List.mem_flatMap.1 h
  split at hhit
  · next haccepts =>
    obtain ⟨start, hstart⟩ := exists_of_mem_matchesIn hm
    rw [m.offset_of_mem_hits hhit, ← start_of_mem_matchesIn hm]
    refine ⟨m, ?_, haccepts⟩
    rw [start_of_matchAt? hstart]
    exact hstart
  · cases hhit

end CallRule

namespace Target

variable {names : ClientNames} {c : Cursor} {m : Match}

/-- Only the rules that know their objects by their own names miss any. -/
theorem misses_eq_false (target : Target) (c : Cursor) (object : Text)
    (hlibrary : target ≠ .library) (hserver : target ≠ .server) :
    target.misses c object = false := by
  have hnever : c.previous.any (fun _ => false) = false := by cases c.previous <;> rfl
  cases target with
  | library => exact absurd rfl hlibrary
  | server => exact absurd rfl hserver
  | _ => exact hnever

/-- A rule claims the calls on the objects of its kind that it does not miss. -/
theorem claims_iff (h : names.IsOfScript) (hcall : Rule.objectCall.matchAt? c = some m)
    (target : Target) :
    target.rule.Claims names c
      ↔ target.tells names (m.get .object) = true ∧ target.misses c (m.get .object) = false := by
  cases target with
  | library =>
    have hfound := Rule.isSome_word_call_iff (bars .library) (fun _ => rfl)
      (Rule.takesWord_piece "axios") (by decide) hcall
    refine (CallRule.claims_iff_isSome rfl).trans (hfound.trans ?_)
    rw [mem_iff_withoutThis_mem (by decide), tells_iff, Asks, h.libraries, misses]
    simp [wantsAlone, and_assoc, Dialect.clientLibraries]
  | server =>
    have hfound := Rule.isSome_word_call_iff (bars .server) (fun _ => Bool.or_assoc ..)
      (Rule.takesWord_oneOf serverObjects) (by decide) hcall
    refine (CallRule.claims_iff_isSome rfl).trans (hfound.trans ?_)
    rw [mem_iff_withoutThis_mem (by decide), tells_iff, Asks, misses]
    simp [wantsAlone, and_assoc]
  | _ =>
    refine (CallRule.claims_iff_accepts hcall).trans (and_iff_left ?_).symm
    exact misses_eq_false _ _ _ (by decide) (by decide)

/-- Two rules claim a call whose object is shared, if the server's rule does not miss it. -/
theorem claimed_twice_iff (h : names.IsOfScript) (hcall : Rule.objectCall.matchAt? c = some m) :
    (∃ target second : Target, target ≠ second
        ∧ target.rule.Claims names c ∧ second.rule.Claims names c)
      ↔ names.IsShared (m.get .object) ∧ server.misses c (m.get .object) = false := by
  have hclaims := claims_iff h hcall
  constructor
  · rintro ⟨target, second, hne, htarget, hsecond⟩
    obtain ⟨htold, hseen⟩ := (hclaims target).1 htarget
    obtain ⟨htold', hseen'⟩ := (hclaims second).1 hsecond
    -- an object is told by no target, by one, or by the two that share it
    rcases shared_or_dropped_or_told h (m.get .object) with hshared | hdropped | ⟨kind, hkind⟩
    · refine ⟨hshared, ?_⟩
      rcases (tells_iff_of_isShared h hshared).1 htold with rfl | rfl
      · rcases (tells_iff_of_isShared h hshared).1 htold' with rfl | rfl
        · exact absurd rfl hne
        · exact hseen'
      · exact hseen
    -- no target at all
    · rw [tells_of_isDropped h hdropped] at htold
      cases htold
    -- one target, which both would be
    · exact absurd (((hkind target).1 htold).trans ((hkind second).1 htold').symm) hne
  · rintro ⟨hshared, hseen⟩
    refine ⟨.bound, .server, by decide, (hclaims .bound).2 ⟨?_, ?_⟩,
      (hclaims .server).2 ⟨?_, hseen⟩⟩
    · exact (tells_iff_of_isShared h hshared).2 (.inl rfl)
    · exact misses_eq_false _ _ _ (by decide) (by decide)
    · exact (tells_iff_of_isShared h hshared).2 (.inr rfl)

/-- No rule claims a call whose object is dropped, or missed by the rule for its one kind. -/
theorem unclaimed_iff (h : names.IsOfScript) (hcall : Rule.objectCall.matchAt? c = some m) :
    (∀ target : Target, ¬target.rule.Claims names c)
      ↔ names.IsDropped (m.get .object) ∨ ¬names.IsShared (m.get .object)
        ∧ ∃ target : Target, target.tells names (m.get .object) = true
          ∧ target.misses c (m.get .object) = true := by
  have hclaims := claims_iff h hcall
  constructor
  · intro hnone
    -- a shared object is always claimed, a dropped one never, and one that is told once is
    -- claimed unless its rule misses it
    rcases shared_or_dropped_or_told h (m.get .object) with hshared | hdropped | ⟨kind, hkind⟩
    · have hbound := (tells_iff_of_isShared h hshared).2 (.inl rfl)
      have hseen := misses_eq_false .bound c (m.get .object) (by decide) (by decide)
      exact absurd ((hclaims .bound).2 ⟨hbound, hseen⟩) (hnone .bound)
    · exact .inl hdropped
    · have htold := (hkind kind).2 rfl
      have honce : ∃! target : Target, target.tells names (m.get .object) = true :=
        ⟨kind, htold, fun target => (hkind target).1⟩
      refine .inr ⟨((told_once_iff h _).1 honce).1, kind, htold, ?_⟩
      rw [← Bool.not_eq_false]
      exact fun hseen => hnone kind ((hclaims kind).2 ⟨htold, hseen⟩)
  · rintro (hdropped | ⟨hunshared, target, htold, hmissed⟩) second hsecond
    · obtain ⟨htold, -⟩ := (hclaims second).1 hsecond
      rw [tells_of_isDropped h hdropped] at htold
      cases htold
    · obtain ⟨htold', hseen⟩ := (hclaims second).1 hsecond
      rcases shared_or_dropped_or_told h (m.get .object) with hshared | hdropped | ⟨kind, hkind⟩
      · exact hunshared hshared
      · rw [tells_of_isDropped h hdropped] at htold
        cases htold
      · rw [(hkind second).1 htold', ← (hkind target).1 htold, hmissed] at hseen
        cases hseen

/-- No place has a call on the library and one on a server object. -/
theorem not_claims_both (hlibrary : library.rule.Claims names c) :
    ¬server.rule.Claims names c := by
  intro hserver
  rw [CallRule.claims_iff_isSome rfl] at hlibrary hserver
  obtain ⟨-, word, hword, rest, hrest⟩ :=
    Rule.exists_word_of_isSome (Rule.takesWord_piece "axios") hlibrary
  obtain ⟨-, word', hword', rest', hrest'⟩ :=
    Rule.exists_word_of_isSome (Rule.takesWord_oneOf serverObjects) hserver
  obtain rfl := List.mem_singleton.1 hword
  have hdotless : ∀ word ∈ serverObjects, ('.' : CodePoint) ∉ word ∧ word ≠ "this"
      ∧ word ≠ "axios" := by decide
  obtain ⟨hdot, hthis, hother⟩ := hdotless word' hword'
  exact hother (Rule.object_eq_of_word (.alone (by decide)) hrest hrest' hdot hthis).symm

/-- A call that two rules claim is one on a shared object. -/
theorem exists_shared_of_claims (h : names.IsOfScript) {target second : Target}
    (hne : target ≠ second) (htarget : target.rule.Claims names c)
    (hsecond : second.rule.Claims names c) :
    ∃ object, names.IsShared object ∧ ∃ rest, c.rest = object ++ .char '.' :: rest := by
  have hcall : ∃ m, Rule.objectCall.matchAt? c = some m := by
    by_contra hnone
    have hword : ∀ target : Target, target.rule.Claims names c →
        target = .library ∨ target = .server := by
      rintro target ⟨m, hm, -⟩
      cases target with
      | library => exact .inl rfl
      | server => exact .inr rfl
      | _ => exact absurd ⟨m, hm⟩ hnone
    rcases hword target htarget with rfl | rfl
    · rcases hword second hsecond with rfl | rfl
      · exact hne rfl
      · exact not_claims_both htarget hsecond
    · rcases hword second hsecond with rfl | rfl
      · exact not_claims_both hsecond htarget
      · exact hne rfl
  obtain ⟨m, hm⟩ := hcall
  obtain ⟨hshared, -⟩ := (claimed_twice_iff h hm).1 ⟨target, second, hne, htarget, hsecond⟩
  obtain ⟨-, -, -, rest, -, hrest, -⟩ := Rule.exists_of_objectCall hm
  exact ⟨_, hshared, rest, hrest⟩

/-- Whose the calls of a script are. An object is of one kind, but if it is shared or
dropped: then it is of two kinds, or of none. A call on an object is claimed by the rule
for each kind that the object is of, but for those rules that miss it. So two rules
claim a call if its object is shared and the server's rule does not miss it; and none
does if its object is dropped, or the rule for its one kind misses it. Over the whole
text, two rules have hits at one place only if a shared object stands there. -/
theorem claimed_iff_told (text : Text) :
    let names := ofText .javascript text
    (∀ object : Text,
        ((∃! target : Target, target.tells names object = true)
          ↔ ¬names.IsShared object ∧ ¬names.IsDropped object)
        ∧ (names.IsShared object → ∀ target : Target,
          target.tells names object = true ↔ target = .bound ∨ target = .server)
        ∧ (names.IsDropped object → ∀ target : Target, target.tells names object = false))
      ∧ (∀ c m, Rule.objectCall.matchAt? c = some m →
        IsObject (m.get .object)
        ∧ (∀ target : Target, target.rule.Claims names c
          ↔ target.tells names (m.get .object) = true ∧ target.misses c (m.get .object) = false)
        ∧ ((∃ target second : Target, target ≠ second
            ∧ target.rule.Claims names c ∧ second.rule.Claims names c)
          ↔ names.IsShared (m.get .object) ∧ server.misses c (m.get .object) = false)
        ∧ ((∀ target : Target, ¬target.rule.Claims names c)
          ↔ names.IsDropped (m.get .object) ∨ ¬names.IsShared (m.get .object)
            ∧ ∃ target : Target, target.tells names (m.get .object) = true
              ∧ target.misses c (m.get .object) = true))
      ∧ ∀ target second : Target, target ≠ second →
        ∀ hit ∈ target.rule.hits names (.ofText text),
        ∀ hit' ∈ second.rule.hits names (.ofText text), hit.offset = hit'.offset →
        ∃ object, names.IsShared object
          ∧ ∃ rest, text.drop hit.offset = object ++ .char '.' :: rest := by
  intro names
  have h : names.IsOfScript := isOfScript_ofText text
  refine ⟨fun object => ⟨told_once_iff h object, ?_, ?_⟩, fun c m hcall => ⟨?_, ?_, ?_, ?_⟩,
    fun target second hne hit hhit hit' hhit' hplace => ?_⟩
  · exact fun hshared target => tells_iff_of_isShared h hshared
  · exact fun hdropped target => tells_of_isDropped h hdropped
  · exact (Rule.exists_of_objectCall hcall).1
  · exact claims_iff h hcall
  · exact claimed_twice_iff h hcall
  · exact unclaimed_iff h hcall
  -- two hits at one offset are one call that two rules claim
  · have hclaims := CallRule.claims_of_mem_hits hhit'
    rw [← hplace] at hclaims
    exact exists_shared_of_claims h hne (CallRule.claims_of_mem_hits hhit) hclaims

/-- A client that is called like a server object. -/
def sharedText : Text := "const app = axios.create();\napp.get('/a');"

/-- A client that a class holds under its own name. -/
def droppedText : Text := "const http = axios.create();\nthis.http.get('/a');"

/-- Two rules claim the one call, and none the other. -/
theorem claimed_iff_told_app :
    (∃ target second : Target, target ≠ second
        ∧ target.rule.Claims (ofText .javascript sharedText) ⟨some '\n', "app.get('/a');", 28⟩
        ∧ second.rule.Claims (ofText .javascript sharedText) ⟨some '\n', "app.get('/a');", 28⟩)
      ∧ ∀ target : Target, ¬target.rule.Claims (ofText .javascript droppedText)
        ⟨some '\n', "this.http.get('/a');", 29⟩ := by
  constructor
  · have hfound : (Rule.objectCall.matchAt? ⟨some '\n', "app.get('/a');", 28⟩).map
        (·.get .object) = some "app" := by decide +kernel
    obtain ⟨m, hm, hobject⟩ := Option.map_eq_some_iff.1 hfound
    obtain ⟨-, -, htwice, -⟩ := (claimed_iff_told sharedText).2.1 _ m hm
    refine htwice.2 ?_
    rw [hobject]
    exact ⟨⟨by decide +kernel, by decide +kernel⟩, by decide +kernel⟩
  · have hfound : (Rule.objectCall.matchAt? ⟨some '\n', "this.http.get('/a');", 29⟩).map
        (·.get .object) = some "this.http" := by decide +kernel
    obtain ⟨m, hm, hobject⟩ := Option.map_eq_some_iff.1 hfound
    obtain ⟨-, -, -, hnever⟩ := (claimed_iff_told droppedText).2.1 _ m hm
    refine hnever.2 (.inl ?_)
    rw [hobject]
    exact ⟨by decide +kernel, by decide +kernel, by decide +kernel⟩

/-- The object of the one call is of two kinds, and the call is found twice; that of the
other is of none, and the call is not found. -/
theorem told_twice_or_never :
    IsObject "app" ∧ IsObject "this.http"
      ∧ ¬(∃! target : Target, target.tells (ofText .javascript sharedText) "app" = true)
      ∧ ¬(∃ target : Target, target.tells (ofText .javascript droppedText) "this.http" = true)
      ∧ ({ path := "a.js", text := sharedText } : Source).endpoints.map
        (fun e => (e.line, e.method, e.url))
          = List.replicate 2 ((2, "GET", "/a") : Int × Text × Text)
      ∧ ({ path := "a.js", text := droppedText } : Source).endpoints = [] := by
  have hown : ("this.http" : Text) = "this." ++ ("http" : Text) := by decide
  refine ⟨.alone (by decide), hown ▸ .own (by decide), ?_, ?_, by decide +kernel,
    by decide +kernel⟩
  · rintro ⟨kind, -, honly⟩
    have hbound := honly .bound (by decide +kernel)
    have hserver := honly .server (by decide +kernel)
    rw [← hserver] at hbound
    cases hbound
  · rintro ⟨target, htold⟩
    cases target with
    | library => exact absurd htold (by decide +kernel)
    | bound => exact absurd htold (by decide +kernel)
    | client => exact absurd htold (by decide +kernel)
    | server => exact absurd htold (by decide +kernel)
    | other => exact absurd htold (by decide +kernel)

end Target

end MockApi
