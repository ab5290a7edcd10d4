/-
What the names of a script tell of an object. They tell five kinds of objects apart, one
by one and not by a case distinction, and the kinds are not quite a partition: an object
that is bound to a client and called like a server object is of two kinds, and one that
is bound to a client is of none when it is reached through the class that a call is in
(`shared_or_dropped_or_told`). Nothing else can go wrong, for no name that a script binds
to a client holds a point: the patterns that bind it label script names only.
-/
import MockApi.Proofs.Pattern
import MockApi.Proofs.Text.Basic
import MockApi.Scan.ClientName

namespace MockApi

open Pattern Lexeme ClientNames

-- =================================================================== names

namespace Lexeme

/-- A name in a script. -/
inductive IsScriptName : Text → Prop
  | intro {c : CodePoint} {rest : Text} (starts : startsScriptName c = true)
      (continues : ∀ x ∈ rest, isNameChar x = true) (short : rest.length ≤ 127) :
      IsScriptName (c :: rest)

instance : DecidablePred IsScriptName
  | [] => .isFalse nofun
  | c :: rest =>
    decidable_of_iff (startsScriptName c = true ∧ (∀ x ∈ rest, isNameChar x = true)
      ∧ rest.length ≤ 127)
      ⟨fun ⟨starts, continues, short⟩ => .intro starts continues short,
        fun | .intro starts continues short => ⟨starts, continues, short⟩⟩

variable {name : Text}

/-- There is no dot in a name. -/
theorem IsScriptName.dot_not_mem (h : IsScriptName name) : ('.' : CodePoint) ∉ name := by
  cases h with
  | intro starts continues short =>
    intro hdot
    rcases List.mem_cons.1 hdot with rfl | hdot
    · exact absurd starts (by decide)
    · exact absurd (continues _ hdot) (by decide)

/-- What the pattern of names spells is a name. -/
theorem isScriptName_of_spells (h : scriptName.Spells name) : IsScriptName name := by
  cases h with
  | seq hfirst hrest =>
    cases hfirst with
    | run passes enough bounded =>
      cases hrest with
      | run passes' enough' bounded' =>
        have hone := bounded 1 rfl
        obtain ⟨c, rfl⟩ := List.length_eq_one_iff.1 (Nat.le_antisymm hone enough)
        exact .intro (passes c (List.mem_singleton.2 rfl)) passes' (bounded' 127 rfl)

end Lexeme

namespace ClientNames

variable {names : ClientNames} {name object : Text}

/-- A text without a dot has no `this.` in front of it. -/
theorem withoutThis_of_dotless (h : ('.' : CodePoint) ∉ object) :
    withoutThis object = object := by
  unfold withoutThis
  cases hafter : Text.afterPiece? "this." object with
  | none => rfl
  | some rest =>
    rw [Text.afterPiece?_eq_some_iff.1 hafter] at h
    exact absurd (List.mem_append_left _ (by decide)) h

/-- An object is one of several words without dots if it is one without `this.`, and has
none. -/
theorem mem_iff_withoutThis_mem {words : List Text}
    (hdotless : ∀ word ∈ words, ('.' : CodePoint) ∉ word) :
    object ∈ words ↔ withoutThis object ∈ words ∧ withoutThis object = object := by
  constructor
  · intro hmem
    have halone := withoutThis_of_dotless (hdotless object hmem)
    rw [halone]
    exact ⟨hmem, rfl⟩
  · rintro ⟨hmem, halone⟩
    rw [← halone]
    exact hmem

/-- What is known of the client names of a script. -/
structure IsOfScript (names : ClientNames) : Prop where
  libraries : names.libraries = Dialect.javascript.clientLibraries
  dotless : ∀ name ∈ names.aliases, ('.' : CodePoint) ∉ name
  unlike : ∀ name ∈ names.aliases, name ∉ names.libraries

/-- A name that a script binds to a client is a name, and none of the library. -/
theorem isOfScript_ofText (text : Text) : (ofText .javascript text).IsOfScript where
  libraries := rfl
  dotless := by
    intro name hname
    have hfound := List.mem_eraseDups.1 (List.mem_filter.1 hname).1
    obtain ⟨p, hp, hmatch⟩ := List.mem_flatMap.1 hfound
    obtain ⟨m, hm, rfl⟩ := List.mem_map.1 hmatch
    obtain ⟨start, hstart⟩ := exists_of_mem_matchesIn hm
    -- every pattern binds a script name and nothing else
    have hbehind : p.behind .name = [scriptName] := by
      simp only [Alias.patterns, List.mem_cons, List.not_mem_nil, or_false] at hp
      rcases hp with rfl | rfl | rfl | rfl <;> rfl
    unfold Match.get
    cases hpart : m.parts.get? .name with
    | none => exact List.not_mem_nil
    | some t =>
      obtain ⟨q, hq, hspells⟩ := spells_of_get? hstart hpart
      rw [hbehind] at hq
      obtain rfl := List.mem_singleton.1 hq
      exact (isScriptName_of_spells hspells).dot_not_mem
  unlike := by
    intro name hname
    have hkept := (List.mem_filter.1 hname).2
    rw [Bool.not_eq_true', List.contains_eq_mem, decide_eq_false_iff_not] at hkept
    exact hkept

variable (h : names.IsOfScript)
include h

theorem IsOfScript.withoutThis_of_mem (halias : object ∈ names.aliases) :
    withoutThis object = object :=
  withoutThis_of_dotless (h.dotless object halias)

/-- A library is no server. -/
theorem IsOfScript.not_server_of_mem (hlibrary : name ∈ names.libraries) :
    name ∉ serverObjects := by
  rw [h.libraries] at hlibrary
  rw [List.mem_singleton.1 hlibrary]
  decide

omit h

theorem endsLikeClient_of_isServer (hserver : name ∈ serverObjects) :
    endsLikeClient name = false := by
  have hall : ∀ name ∈ serverObjects, endsLikeClient name = false := by decide
  exact hall name hserver

end ClientNames

-- ================================================================= targets

/-- The kinds of objects that verbs are called on. -/
inductive Target where
  | library
  /-- Bound to a client. -/
  | bound
  /-- Called like a client. -/
  | client
  | server
  | other
deriving DecidableEq, Repr

namespace Target

/-- The names tell that the object is of the kind. -/
def tells (names : ClientNames) (object : Text) : Target → Bool
  | library => names.libraries.contains (withoutThis object)
  | bound => names.isAlias object
  | client => names.isClientLike object
  | server => serverObjects.contains (withoutThis object)
  | other => names.isOther object

end Target

namespace ClientNames

/-- The object is bound to a client and called like a server object. -/
def IsShared (names : ClientNames) (object : Text) : Prop :=
  object ∈ names.aliases ∧ object ∈ serverObjects

/-- The object belongs to a class, and is called there like what is bound to a client
but not like a server object. -/
structure IsDropped (names : ClientNames) (object : Text) : Prop where
  owned : withoutThis object ≠ object
  bound : withoutThis object ∈ names.aliases
  unserved : withoutThis object ∉ serverObjects

end ClientNames

namespace Target

variable {names : ClientNames} {object : Text} {target : Target}

/-- What a kind asks of an object. -/
def Asks (names : ClientNames) (object : Text) : Target → Prop
  | library => withoutThis object ∈ names.libraries
  | bound => object ∈ names.aliases
  | client => endsLikeClient (withoutThis object) = true ∧ withoutThis object ∉ names.aliases
      ∧ withoutThis object ∉ names.libraries
  | server => withoutThis object ∈ serverObjects
  | other => withoutThis object ∉ names.libraries ∧ withoutThis object ∉ names.aliases
      ∧ endsLikeClient (withoutThis object) = false ∧ withoutThis object ∉ serverObjects

/-- A rule sees an object if it asks for it. -/
theorem tells_iff : target.tells names object = true ↔ target.Asks names object := by
  cases target with
  | client => simp [tells, Asks, isClientLike, and_assoc]
  | other => simp [tells, Asks, isOther, and_assoc]
  | _ => exact List.contains_iff_mem

/-- An alias is seen by the rule of what is bound, and by that of servers if it is
called like one. -/
theorem tells_iff_of_isAlias (h : names.IsOfScript) (halias : object ∈ names.aliases) :
    target.tells names object = true
      ↔ target = .bound ∨ target = .server ∧ object ∈ serverObjects := by
  have hlibrary := h.unlike object halias
  rw [tells_iff]
  cases target <;> simp [Asks, h.withoutThis_of_mem halias, halias, hlibrary]

/-- An object that belongs to a class is not told by what is bound to a client. -/
theorem tells_iff_of_owned (h : names.IsOfScript) (howned : withoutThis object ≠ object)
    (halias : withoutThis object ∈ names.aliases) :
    target.tells names object = true
      ↔ target = .server ∧ withoutThis object ∈ serverObjects := by
  have hlibrary := h.unlike _ halias
  have hnone : object ∉ names.aliases := fun hmem => howned (h.withoutThis_of_mem hmem)
  rw [tells_iff]
  cases target <;> simp [Asks, halias, hlibrary, hnone]

/-- The kind that the name alone tells. -/
def ofName (names : ClientNames) (name : Text) : Target :=
  if name ∈ names.libraries then library
  else if endsLikeClient name = true then client
  else if name ∈ serverObjects then server
  else other

/-- What is not bound to a client is told by its name. -/
theorem tells_iff_of_unbound (h : names.IsOfScript) (halias : withoutThis object ∉ names.aliases) :
    target.tells names object = true ↔ target = ofName names (withoutThis object) := by
  have hunbound : object ∉ names.aliases := by
    intro hmem
    rw [h.withoutThis_of_mem hmem] at halias
    exact halias hmem
  -- the questions are asked in this order, and a name answers one of them
  rw [tells_iff, ofName]
  split
  · next hlibrary =>
    have hserver := h.not_server_of_mem hlibrary
    cases target <;> simp [Asks, hlibrary, hunbound, hserver]
  · next hlibrary =>
    split
    · next hclient =>
      have hserver : withoutThis object ∉ serverObjects := by
        intro hserver
        rw [endsLikeClient_of_isServer hserver] at hclient
        cases hclient
      cases target <;> simp [Asks, hlibrary, halias, hunbound, hclient, hserver]
    · next hclient =>
      rw [Bool.not_eq_true] at hclient
      split
      · next hserver => cases target <;> simp [Asks, hlibrary, hunbound, hclient, hserver]
      · next hserver => cases target <;> simp [Asks, hlibrary, halias, hunbound, hclient, hserver]

/-- An object is of two kinds, of none, or of one. -/
theorem shared_or_dropped_or_told (h : names.IsOfScript) (object : Text) :
    names.IsShared object ∨ names.IsDropped object
      ∨ ∃ kind : Target, ∀ target : Target, target.tells names object = true ↔ target = kind := by
  by_cases hbound : withoutThis object ∈ names.aliases
  · by_cases howned : withoutThis object = object
    · rw [howned] at hbound
      by_cases hserver : object ∈ serverObjects
      · exact .inl ⟨hbound, hserver⟩
      · refine .inr (.inr ⟨.bound, fun target => ?_⟩)
        rw [tells_iff_of_isAlias h hbound]
        simp [hserver]
    · by_cases hserver : withoutThis object ∈ serverObjects
      · refine .inr (.inr ⟨.server, fun target => ?_⟩)
        rw [tells_iff_of_owned h howned hbound]
        simp [hserver]
      · exact .inr (.inl ⟨howned, hbound, hserver⟩)
  · exact .inr (.inr ⟨_, fun target => tells_iff_of_unbound h hbound⟩)

theorem tells_iff_of_isShared (h : names.IsOfScript) (hshared : names.IsShared object) :
    target.tells names object = true ↔ target = .bound ∨ target = .server := by
  rw [tells_iff_of_isAlias h hshared.1]
  simp [hshared.2]

theorem tells_of_isDropped (h : names.IsOfScript) (hdropped : names.IsDropped object) :
    target.tells names object = false := by
  rw [Bool.eq_false_iff, Ne, tells_iff_of_owned h hdropped.owned hdropped.bound]
  exact fun hserver => hdropped.unserved hserver.2

/-- An object that is neither shared nor dropped is told once. -/
theorem told_once_iff (h : names.IsOfScript) (object : Text) :
    (∃! target : Target, target.tells names object = true)
      ↔ ¬names.IsShared object ∧ ¬names.IsDropped object := by
  constructor
  · rintro ⟨kind, htold, honly⟩
    constructor
    · intro hshared
      have hbound := honly .bound ((tells_iff_of_isShared h hshared).2 (.inl rfl))
      have hserver := honly .server ((tells_iff_of_isShared h hshared).2 (.inr rfl))
      rw [← hserver] at hbound
      cases hbound
    · intro hdropped
      have hnone : kind.tells names object = false := tells_of_isDropped h hdropped
      rw [hnone] at htold
      cases htold
  · rintro ⟨hshared, hdropped⟩
    rcases shared_or_dropped_or_told h object with hcase | hcase | ⟨kind, hkind⟩
    · exact absurd hcase hshared
    · exact absurd hcase hdropped
    · exact ⟨kind, (hkind kind).2 rfl, fun target => (hkind target).1⟩

end Target

end MockApi
