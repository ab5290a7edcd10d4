/-
What a bundle is built of. Endpoints are told apart by their slots, a method in
upper case and a route pattern; the first endpoint of a slot gives the slot its
definition, and the later ones are passed over.

The keys are what could go wrong. A slot is put under its bare pattern, or
behind its method where another slot has the pattern, and putting it under a
key that is taken would lose the slot that has it. It never happens: a bare
pattern starts with a slash and a method with a letter, so a key tells which
slots it can stand for (`Coherent`), and a slot that is not in the bundle finds
its key free (`Coherent.keyFor_not_mem`).
-/
import Mathlib.Data.List.Forall2
import MockApi.Mock.Bundle
import MockApi.Proofs.Mock.Generator
import MockApi.Proofs.Route.Path

namespace MockApi

/-- A method in upper case and a route pattern. -/
abbrev Slot := Text × Text

-- ================================================================ the slots

namespace Generator

/-- The slot of an endpoint, if its URL has a path. -/
def slot? (g : Generator) (call : Call) : Option Slot :=
  (Path.routePattern call.url g.config.baseUrl).toOption.map fun pattern =>
    (Text.upper call.method, pattern)

/-- The slots of endpoints, each where it occurs first. -/
def slots (g : Generator) (calls : List Call) : List Slot := (calls.filterMap g.slot?).eraseDups

/-- The endpoints that are the first ones of their slots. -/
def firsts (g : Generator) (calls : List Call) : List Call :=
  calls.eraseDupsBy fun a b => g.slot? a == g.slot? b

/-- The definition of an endpoint in a bundle. -/
def define (g : Generator) (statefulPosts : Bool) (call : Call) (chance : Chance) :
    Except GenerationError (Definition × Chance) :=
  (g.generate (Text.upper call.method) call.url chance).map fun made =>
    (if statefulPosts && Text.upper call.method == "POST" then { made.1 with stateful := true }
      else made.1, made.2)

/-- The definitions of endpoints, one after another. -/
def defineEach (g : Generator) (statefulPosts : Bool) :
    List Call → Chance → Except GenerationError (List Definition × Chance)
  | [], chance => .ok ([], chance)
  | call :: rest, chance => do
    let (definition, chance) ← g.define statefulPosts call chance
    let (definitions, chance) ← defineEach g statefulPosts rest chance
    return (definition :: definitions, chance)

end Generator

/-- A slot as endpoints have them: a word in upper case and a canonical path. -/
structure IsSlot (slot : Slot) : Prop where
  word : Text.IsLatinWord slot.1
  upper_method : Text.upper slot.1 = slot.1
  canonical : Path.canonical slot.2 = slot.2

variable {g : Generator} {statefulPosts : Bool} {call : Call} {slot other : Slot} {key : Text}

/-- The pattern of a URL is canonical. -/
theorem Path.canonical_of_routePattern {url base pattern : Text}
    (h : routePattern url base = .ok pattern) : canonical pattern = pattern := by
  unfold routePattern at h
  simp only at h
  generalize (if List.isEmpty base = true then url else _) = target at h
  split at h
  · obtain ⟨path, -, h⟩ := bind_eq_ok.1 h
    rw [← Except.ok.inj h]
    exact canonical_canonical path
  · rw [← Except.ok.inj h]
    exact canonical_canonical _

theorem Generator.fst_of_slot? (h : g.slot? call = some slot) :
    slot.1 = Text.upper call.method := by
  obtain ⟨pattern, -, rfl⟩ := Option.map_eq_some_iff.1 h
  rfl

/-- The slot of an endpoint has the pattern of its URL. -/
theorem Generator.routePattern_of_slot? (h : g.slot? call = some slot) :
    Path.routePattern call.url g.config.baseUrl = .ok slot.2 := by
  obtain ⟨pattern, hpattern, rfl⟩ := Option.map_eq_some_iff.1 h
  cases hroute : Path.routePattern call.url g.config.baseUrl with
  | error cause =>
    rw [hroute] at hpattern
    cases hpattern
  | ok path =>
    rw [hroute] at hpattern
    rw [Option.some.inj hpattern]

/-- An endpoint whose method is a word has a slot in order. -/
theorem isSlot_of_slot? (word : Text.IsLatinWord call.method) (h : g.slot? call = some slot) :
    IsSlot slot := by
  have hmethod := Generator.fst_of_slot? h
  refine ⟨hmethod ▸ word.upper, ?_,
    Path.canonical_of_routePattern (Generator.routePattern_of_slot? h)⟩
  rw [hmethod, Text.upper_upper word]

theorem IsSlot.exists_cons (h : IsSlot slot) : ∃ rest, slot.2 = ('/' : CodePoint) :: rest :=
  ⟨_, h.canonical.symm⟩

-- ================================================================= the keys

/-- The keys that a slot can have. -/
def IsKeyOf (slot : Slot) (key : Text) : Prop :=
  key = slot.2 ∨ key = Bundle.keyWithMethod slot.1 slot.2

theorem IsSlot.takeWhile_pattern (h : IsSlot slot) : slot.2.takeWhile Text.isAsciiLetter = [] := by
  obtain ⟨rest, heq⟩ := h.exists_cons
  rw [heq]
  exact List.takeWhile_cons_of_neg (by decide)

/-- A key with a method is that method, a blank and the pattern. -/
theorem IsSlot.keyWithMethod_eq (h : IsSlot slot) :
    Bundle.keyWithMethod slot.1 slot.2 = slot.1 ++ (' ' : CodePoint) :: slot.2 := by
  rw [Bundle.keyWithMethod, h.upper_method, List.append_assoc]
  rfl

theorem IsSlot.takeWhile_keyWithMethod (h : IsSlot slot) :
    (Bundle.keyWithMethod slot.1 slot.2).takeWhile Text.isAsciiLetter = slot.1 := by
  rw [h.keyWithMethod_eq, List.takeWhile_append_of_pos h.word.2,
    List.takeWhile_cons_of_neg (by decide), List.append_nil]

theorem IsSlot.drop_keyWithMethod (h : IsSlot slot) :
    (Bundle.keyWithMethod slot.1 slot.2).drop slot.1.length = (' ' : CodePoint) :: slot.2 := by
  rw [h.keyWithMethod_eq, List.drop_left]

/-- A key with a method belongs to one slot. -/
theorem eq_of_isKeyOf_keyWithMethod (h : IsSlot slot) (hother : IsSlot other)
    (hkey : IsKeyOf other (Bundle.keyWithMethod slot.1 slot.2)) : other = slot := by
  have hletters := h.takeWhile_keyWithMethod
  have hbehind := h.drop_keyWithMethod
  rcases hkey with hbare | hmethod
  · rw [hbare, hother.takeWhile_pattern] at hletters
    exact absurd hletters.symm h.word.1
  · rw [hmethod, hother.takeWhile_keyWithMethod] at hletters
    rw [hmethod, ← hletters, hother.drop_keyWithMethod] at hbehind
    exact Prod.ext hletters (List.cons.inj hbehind).2

namespace Bundle

/-- The key that a slot is given. -/
def Building.keyFor (b : Building) (slot : Slot) : Text :=
  if Fields.has slot.2 b.bundle then keyWithMethod slot.1 slot.2 else slot.2

/-- The keys of what has been built are distinct, and each stands for a slot
that is in it. -/
structure Coherent (b : Building) : Prop where
  nodup_keys : (b.bundle.map (·.1)).Nodup
  exists_slot : ∀ key ∈ b.bundle.map (·.1), ∃ slot ∈ b.claimed, IsKeyOf slot key
  isSlot : ∀ slot ∈ b.claimed, IsSlot slot

variable {b b' : Building}

/-- The key that a building gives to a slot is one of it, with or without its method. -/
theorem isKeyOf_keyFor (b : Building) (slot : Slot) : IsKeyOf slot (b.keyFor slot) := by
  unfold Building.keyFor
  split
  · exact Or.inr rfl
  · exact Or.inl rfl

/-- A slot that is not in the bundle finds its key free. -/
theorem Coherent.keyFor_not_mem (h : Coherent b) (hslot : IsSlot slot) (hnew : slot ∉ b.claimed) :
    b.keyFor slot ∉ b.bundle.map (·.1) := by
  unfold Building.keyFor
  split
  · intro hmem
    obtain ⟨other, hclaimed, hkey⟩ := h.exists_slot _ hmem
    rw [eq_of_isKeyOf_keyWithMethod hslot (h.isSlot other hclaimed) hkey] at hclaimed
    exact hnew hclaimed
  · next hfree =>
    rw [Fields.has, Fields.get?_isSome_iff] at hfree
    exact hfree

/-- An endpoint is passed over where its slot is in the bundle; otherwise its
definition is put under the key of the slot. -/
theorem add_cases (h : add g statefulPosts b call = .ok b') :
    ∃ slot, g.slot? call = some slot
      ∧ ((slot ∈ b.claimed ∧ b' = b)
        ∨ (slot ∉ b.claimed ∧ ∃ d chance, g.define statefulPosts call b.chance = .ok (d, chance)
            ∧ b' = { bundle := Fields.put (b.keyFor slot) d b.bundle
                     claimed := slot :: b.claimed
                     chance })) := by
  unfold add at h
  obtain ⟨pattern, hpattern, h⟩ := bind_eq_ok.1 h
  rw [mapError_eq_ok] at hpattern
  refine ⟨(Text.upper call.method, pattern), ?_, ?_⟩
  · rw [Generator.slot?, hpattern]
    rfl
  · simp only at h
    split at h
    · next hclaimed =>
      rw [List.contains_iff_mem] at hclaimed
      exact Or.inl ⟨hclaimed, (Except.ok.inj h).symm⟩
    · next hnew =>
      rw [List.contains_iff_mem] at hnew
      obtain ⟨⟨d, chance⟩, hgenerate, h⟩ := bind_eq_ok.1 h
      refine Or.inr ⟨hnew, _, chance, ?_, (Except.ok.inj h).symm⟩
      rw [Generator.define, hgenerate]
      rfl

/-- Adding an endpoint keeps what has been built coherent. -/
theorem Coherent.put (h : Coherent b) (hslot : IsSlot slot) (hnew : slot ∉ b.claimed)
    (d : Definition) (chance : Chance) :
    Coherent { bundle := Fields.put (b.keyFor slot) d b.bundle
               claimed := slot :: b.claimed
               chance } := by
  have hput := Fields.put_of_not_mem d (h.keyFor_not_mem hslot hnew)
  refine ⟨Fields.nodup_put d h.nodup_keys, ?_, ?_⟩
  · intro key hkey
    simp only [hput, List.map_append, List.mem_append, List.map_singleton,
      List.mem_singleton] at hkey
    rcases hkey with hold | rfl
    · obtain ⟨other, hmem, hother⟩ := h.exists_slot key hold
      exact ⟨other, List.mem_cons_of_mem _ hmem, hother⟩
    · exact ⟨slot, List.mem_cons_self, isKeyOf_keyFor b slot⟩
  · intro other hother
    rcases List.mem_cons.1 hother with rfl | hmem
    · exact hslot
    · exact h.isSlot other hmem

end Bundle

-- ============================================================ the bundle

/-- The entry of a slot: one of its keys, and a plain definition of its method. -/
structure IsEntryOf (slot : Slot) (entry : Text × Definition) : Prop where
  key : IsKeyOf slot entry.1
  plain : entry.2.IsPlain
  method : entry.2.method = slot.1

namespace Generator

/-- The slot of an endpoint is not among those that are taken. -/
def isNew (g : Generator) (claimed : List Slot) (call : Call) : Bool :=
  !(claimed.map some).contains (g.slot? call)

theorem isNew_eq (h : g.slot? call = some slot) (claimed : List Slot) :
    g.isNew claimed call = !claimed.contains slot := by
  rw [isNew, h, Bool.not_inj_iff, Bool.eq_iff_iff, List.contains_iff_mem, List.contains_iff_mem]
  exact List.mem_map_of_injective fun _ _ => Option.some.inj

/-- The first endpoint of a slot stands for all others of the slot. -/
theorem firsts_cons (h : g.slot? call = some slot) (claimed : List Slot) (calls : List Call) :
    g.firsts (call :: calls.filter (g.isNew claimed))
      = call :: g.firsts (calls.filter (g.isNew (slot :: claimed))) := by
  unfold firsts
  rw [List.eraseDupsBy_cons, List.filter_filter]
  congr 2
  refine List.filter_congr fun other _ => ?_
  rw [isNew, isNew, List.map_cons, List.contains_cons, h]
  cases g.slot? other == some slot <;> simp

/-- The first endpoints are some of all. -/
theorem firsts_subset {calls : List Call} (h : call ∈ g.firsts calls) : call ∈ calls := by
  -- the endpoints behind the first are those left by a filter, so their number decides
  induction hlength : calls.length using Nat.strongRecOn generalizing calls with
  | ind length ih =>
    subst hlength
    cases calls with
    | nil => exact h
    | cons first rest =>
      rw [firsts, List.eraseDupsBy_cons] at h
      rcases List.mem_cons.1 h with rfl | hlater
      · exact List.mem_cons_self
      · have hshorter := Nat.lt_succ_of_le (List.length_filter_le
          (fun b => decide ((g.slot? b == g.slot? first) = false)) rest)
        have hmem := ih _ hshorter hlater rfl
        exact List.mem_cons_of_mem _ (List.mem_filter.1 hmem).1

/-- The definition of an endpoint is the one that was generated, but for what
makes it stateful. -/
theorem exists_of_define {chance rest : Chance} {d : Definition}
    (h : g.define statefulPosts call chance = .ok (d, rest)) :
    ∃ made stateful, g.generate (Text.upper call.method) call.url chance = .ok (made, rest)
      ∧ d = { made with stateful } := by
  unfold define at h
  cases hmade : g.generate (Text.upper call.method) call.url chance with
  | error cause =>
    rw [hmade] at h
    cases h
  | ok made =>
    rw [hmade] at h
    obtain ⟨hd, hrest⟩ := Prod.mk.inj (Except.ok.inj h)
    rw [← hd, ← hrest]
    split
    · exact ⟨made.1, true, rfl, rfl⟩
    · exact ⟨made.1, made.1.stateful, rfl, rfl⟩

/-- A definition that is generated is a plain one, with the endpoint's method. -/
theorem isPlain_of_define {chance rest : Chance} {d : Definition}
    (word : Text.IsLatinWord call.method) (statuses : g.config.NamesStatuses)
    (h : g.define statefulPosts call chance = .ok (d, rest)) :
    d.IsPlain ∧ d.method = Text.upper call.method := by
  obtain ⟨made, stateful, hmade, rfl⟩ := exists_of_define h
  obtain ⟨hplain, hmethod⟩ := isPlain_of_generate word.upper statuses hmade
  rw [Text.upper_upper word] at hmethod
  exact ⟨⟨hplain.method_ne_nil, hplain.upper_method, hplain.status, hplain.alternatives,
    hplain.replies⟩, hmethod⟩

/-- Where the headers given by hand have a text, all definitions can be read. -/
theorem isReadable_of_defineEach {calls : List Call} {chance rest : Chance}
    {definitions : List Definition} (fits : g.config.HeadersFit)
    (h : g.defineEach statefulPosts calls chance = .ok (definitions, rest)) :
    ∀ d ∈ definitions, d.isReadable = true := by
  induction calls generalizing chance definitions with
  | nil =>
    obtain ⟨rfl, -⟩ := Prod.mk.inj (Except.ok.inj h)
    intro d hd
    cases hd
  | cons call later ih =>
    obtain ⟨⟨d, chance'⟩, hdefine, h⟩ := bind_eq_ok.1 h
    obtain ⟨⟨ds, chance''⟩, hlater, h⟩ := bind_eq_ok.1 h
    obtain ⟨rfl, rfl⟩ := Prod.mk.inj (Except.ok.inj h)
    intro other hother
    rcases List.mem_cons.1 hother with rfl | hmem
    · obtain ⟨made, stateful, hmade, rfl⟩ := exists_of_define hdefine
      have hreadable := isReadable_of_generate fits hmade
      exact hreadable
    · exact ih hlater other hmem

end Generator

/-- An item stands for all its further occurrences. -/
theorem eraseDups_cons_filter {α : Type} [BEq α] [LawfulBEq α] (item : α) (seen items : List α) :
    (item :: items.filter (!seen.contains ·)).eraseDups
      = item :: (items.filter (!(item :: seen).contains ·)).eraseDups := by
  rw [List.eraseDups_cons, List.filter_filter]
  congr 2
  refine List.filter_congr fun other _ => ?_
  rw [List.contains_cons]
  cases other == item <;> simp

namespace Bundle

/-- What endpoints have added to what was built: the definitions of the first
ones of all slots that were not in it, under keys of these slots. -/
structure Adds (g : Generator) (statefulPosts : Bool) (b b' : Building) (calls : List Call)
    (added : Bundle) : Prop where
  bundle_eq : b'.bundle = b.bundle ++ added
  nodup_keys : (b'.bundle.map (·.1)).Nodup
  slots : ∀ call ∈ calls, (g.slot? call).isSome = true
  defined : g.defineEach statefulPosts (g.firsts (calls.filter (g.isNew b.claimed))) b.chance
    = .ok (added.map (·.2), b'.chance)
  entries : List.Forall₂ IsEntryOf
    ((calls.filterMap g.slot?).filter (!b.claimed.contains ·)).eraseDups added

/-- Where endpoints were added, each of them has a slot. -/
theorem Adds.slots_cons {calls : List Call} {added : Bundle}
    (h : Adds g statefulPosts b b' calls added) (hslot : g.slot? call = some slot) :
    ∀ c ∈ call :: calls, (g.slot? c).isSome = true := by
  intro c hc
  rcases List.mem_cons.1 hc with rfl | hmem
  · rw [hslot]
    rfl
  · exact h.slots c hmem

/-- An endpoint whose slot is taken adds nothing. -/
theorem Adds.pass {calls : List Call} {added : Bundle}
    (h : Adds g statefulPosts b b' calls added) (hslot : g.slot? call = some slot)
    (hclaimed : slot ∈ b.claimed) : Adds g statefulPosts b b' (call :: calls) added := by
  have hcontains : b.claimed.contains slot = true := List.contains_iff_mem.2 hclaimed
  refine ⟨h.bundle_eq, h.nodup_keys, h.slots_cons hslot, ?_, ?_⟩
  · rw [List.filter_cons_of_neg (by rw [Generator.isNew_eq hslot, hcontains]; decide)]
    exact h.defined
  · rw [List.filterMap_cons_some hslot, List.filter_cons_of_neg (by rw [hcontains]; decide)]
    exact h.entries

/-- An endpoint whose slot is new adds its definition under a key of the slot,
in front of what the later ones add. -/
theorem Adds.put {calls : List Call} {added : Bundle} {d : Definition} {chance : Chance}
    (h : Adds g statefulPosts
      { bundle := Fields.put (b.keyFor slot) d b.bundle, claimed := slot :: b.claimed, chance }
      b' calls added)
    (hslot : g.slot? call = some slot) (hnew : slot ∉ b.claimed)
    (hfree : b.keyFor slot ∉ b.bundle.map (·.1))
    (hdefine : g.define statefulPosts call b.chance = .ok (d, chance))
    (hentry : IsEntryOf slot (b.keyFor slot, d)) :
    Adds g statefulPosts b b' (call :: calls) ((b.keyFor slot, d) :: added) := by
  have hcontains : b.claimed.contains slot = false := by
    rw [← Bool.not_eq_true, List.contains_iff_mem]
    exact hnew
  refine ⟨?_, h.nodup_keys, h.slots_cons hslot, ?_, ?_⟩
  · rw [h.bundle_eq]
    simp only
    rw [Fields.put_of_not_mem d hfree, List.append_assoc]
    rfl
  -- the slot is taken from here on, so it is filtered out of what is still to come
  · rw [List.filter_cons_of_pos (by rw [Generator.isNew_eq hslot, hcontains]; rfl),
      Generator.firsts_cons hslot, Generator.defineEach]
    exact bind_eq_ok.2 ⟨_, hdefine, bind_eq_ok.2 ⟨_, h.defined, rfl⟩⟩
  · rw [List.filterMap_cons_some hslot, List.filter_cons_of_pos (by rw [hcontains]; rfl),
      eraseDups_cons_filter]
    exact .cons hentry h.entries

/-- Endpoints add their slots to what has been built. -/
theorem of_foldlM_add {calls : List Call}
    (words : ∀ call ∈ calls, Text.IsLatinWord call.method) (statuses : g.config.NamesStatuses)
    (coherent : Coherent b) (h : calls.foldlM (add g statefulPosts) b = .ok b') :
    ∃ added, Adds g statefulPosts b b' calls added := by
  induction calls generalizing b with
  | nil =>
    obtain rfl := Except.ok.inj h
    exact ⟨[], (List.append_nil _).symm, coherent.nodup_keys, fun _ h => (nomatch h), rfl, .nil⟩
  | cons call rest ih =>
    rw [List.foldlM_cons] at h
    obtain ⟨b₁, hadd, hrest⟩ := bind_eq_ok.1 h
    obtain ⟨slot, hslot, hcases⟩ := add_cases hadd
    have word := words call List.mem_cons_self
    have hwords := fun c hc => words c (List.mem_cons_of_mem _ hc)
    rcases hcases with ⟨hclaimed, rfl⟩ | ⟨hnew, d, chance, hdefine, rfl⟩
    · obtain ⟨added, hadds⟩ := ih hwords coherent hrest
      exact ⟨added, hadds.pass hslot hclaimed⟩
    · have hput := isSlot_of_slot? word hslot
      obtain ⟨added, hadds⟩ := ih hwords (coherent.put hput hnew d chance) hrest
      obtain ⟨hplain, hmethod⟩ := Generator.isPlain_of_define word statuses hdefine
      rw [← Generator.fst_of_slot? hslot] at hmethod
      have hentry : IsEntryOf slot (b.keyFor slot, d) := ⟨isKeyOf_keyFor b slot, hplain, hmethod⟩
      exact ⟨_, hadds.put hslot hnew (coherent.keyFor_not_mem hput hnew) hdefine hentry⟩

/-- A bundle holds the slots of its endpoints in their order, each under a key
of its own with the definition of its first endpoint. -/
theorem of_build {calls : List Call} {chance rest : Chance} {bundle : Bundle}
    (words : ∀ call ∈ calls, Text.IsLatinWord call.method) (statuses : g.config.NamesStatuses)
    (h : build g statefulPosts calls chance = .ok (bundle, rest)) :
    (bundle.map (·.1)).Nodup
      ∧ (∀ call ∈ calls, (g.slot? call).isSome = true)
      ∧ g.defineEach statefulPosts (g.firsts calls) chance = .ok (bundle.map (·.2), rest)
      ∧ List.Forall₂ IsEntryOf (g.slots calls) bundle := by
  unfold build at h
  obtain ⟨b, hfold, h⟩ := bind_eq_ok.1 h
  obtain ⟨rfl, rfl⟩ := Prod.mk.inj (Except.ok.inj h)
  have coherent : Coherent ⟨[], [], chance⟩ :=
    ⟨List.nodup_nil, fun _ h => (nomatch h), fun _ h => (nomatch h)⟩
  obtain ⟨added, hbundle, hnodup, hsome, hdefined, hentries⟩ :=
    of_foldlM_add words statuses coherent hfold
  have hnew : calls.filter (g.isNew []) = calls := List.filter_eq_self.2 fun _ _ => rfl
  have hslots : (calls.filterMap g.slot?).filter (!([] : List Slot).contains ·)
      = calls.filterMap g.slot? := List.filter_eq_self.2 fun _ _ => rfl
  rw [List.nil_append] at hbundle
  rw [hnew] at hdefined
  rw [hslots] at hentries
  rw [hbundle] at hnodup ⊢
  exact ⟨hnodup, hsome, hdefined, hentries⟩

end Bundle

end MockApi
