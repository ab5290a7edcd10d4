/-
The order of hits. A call rule finds its hits from the front to the back of a
text. A hook rule does so for each wrapper, but looks for the calls of a wrapper
beyond the wrappers behind it: where a call in the window of one wrapper lies
behind a hit of a later one, the hits come out of order, and only there
(`HookRule.inOrder_iff`).

The windows are short, so a hit is never further back than a window
(`HookRule.pairwise_hits`). Of the hits for one endpoint the first one counts
(`Endpoint.mem_deduplicate_iff`); it is the earliest where the hits are in order.
-/
import MockApi.Proofs.Pattern
import MockApi.Proofs.Scan.Batch
import MockApi.Proofs.Scan.Line

namespace MockApi

/-- The hits come in the order of their places. -/
def Hit.InOrder (hits : List Hit) : Prop := hits.Pairwise fun a b => a.offset ≤ b.offset

-- ============================================================== call rules

/-- A hit stands where its match begins. -/
theorem Match.offset_of_mem_hits {m : Match} {methods : List Text} {hit : Hit}
    (h : hit ∈ m.hits methods) : hit.offset = m.start.offset := by
  unfold hits at h
  split at h
  · obtain ⟨method, -, rfl⟩ := List.mem_map.1 h
    rfl
  · cases h

/-- Matches from the front to the back give hits in order, whichever of their
hits are taken. -/
theorem Hit.inOrder_flatMap {found : List Match} {hitsOf : Match → List Hit}
    (hmatches : found.Pairwise fun a b =>
      a.start.offset < b.start.offset ∧ a.stop.offset ≤ b.start.offset)
    (hhits : ∀ m, ∀ hit ∈ hitsOf m, hit.offset = m.start.offset) :
    InOrder (found.flatMap hitsOf) := by
  refine List.pairwise_flatMap.2 ⟨fun m _ => ?_, hmatches.imp ?_⟩
  · refine List.pairwise_of_forall_mem_list ?_
    intro a ha b hb
    exact Nat.le_of_eq ((hhits m a ha).trans (hhits m b hb).symm)
  · intro m m' hlt a ha b hb
    rw [hhits m a ha, hhits m' b hb]
    exact Nat.le_of_lt hlt.1

/-- A call rule finds its hits in order. -/
theorem CallRule.inOrder_hits (r : CallRule) (names : ClientNames) (c : Cursor) :
    Hit.InOrder (r.hits names c) := by
  refine Hit.inOrder_flatMap (Pattern.pairwise_matchesIn r.pattern c) ?_
  intro m hit hhit
  split at hhit
  · exact m.offset_of_mem_hits hhit
  · cases hhit

-- ============================================================== hook rules

namespace HookRule

variable {r : HookRule} {names : ClientNames} {anchor : Match} {hit : Hit} {c : Cursor}

/-- The hits of one wrapper. -/
def hitsOf (r : HookRule) (names : ClientNames) (anchor : Match) : List Hit :=
  match r.key? anchor with
  | some key => keyHits anchor key
  | none => r.windowHits names anchor

theorem hits_eq (r : HookRule) (names : ClientNames) (c : Cursor) :
    r.hits names c = (r.anchor.matchesIn c).flatMap (r.hitsOf names) := rfl

/-- The hit of a wrapper with its URL is where the wrapper ends. -/
theorem offset_of_mem_keyHits {key : Match} (hkey : r.key? anchor = some key)
    (h : hit ∈ keyHits anchor key) : hit.offset = anchor.stop.offset := by
  unfold key? at hkey
  split at hkey
  · cases hkey
  · have hmatch := (Option.filter_eq_some_iff.1 hkey).1
    unfold keyHits at h
    split at h
    · obtain rfl := List.mem_singleton.1 h
      rw [← Pattern.start_of_matchAt? hmatch]
    · cases h

/-- The calls behind a wrapper are in its window. -/
theorem offset_of_mem_windowHits (h : hit ∈ r.windowHits names anchor) :
    anchor.stop.offset ≤ hit.offset ∧ hit.offset < anchor.stop.offset + window := by
  obtain ⟨m, hm, hhit⟩ := List.mem_flatMap.1 h
  have hbounds := Pattern.bounds_of_mem_matchesIn hm
  have hlength : (anchor.stop.within window).rest.length ≤ window := List.length_take_le ..
  have hoffset : (anchor.stop.within window).offset = anchor.stop.offset := rfl
  split at hhit
  · rw [m.offset_of_mem_hits hhit]
    omega
  · cases hhit

/-- The hits of an anchor stand behind it, within its window. -/
theorem offset_of_mem_hitsOf (h : hit ∈ r.hitsOf names anchor) :
    anchor.stop.offset ≤ hit.offset ∧ hit.offset < anchor.stop.offset + window := by
  unfold hitsOf at h
  split at h
  · next key hkey =>
    rw [offset_of_mem_keyHits hkey h]
    exact ⟨Nat.le_refl _, Nat.lt_add_of_pos_right (by decide)⟩
  · exact offset_of_mem_windowHits h

/-- The hits of one wrapper are in order. -/
theorem inOrder_hitsOf (r : HookRule) (names : ClientNames) (anchor : Match) :
    Hit.InOrder (r.hitsOf names anchor) := by
  unfold hitsOf
  split
  · unfold keyHits
    split
    · exact List.pairwise_singleton ..
    · exact .nil
  · refine Hit.inOrder_flatMap (Pattern.pairwise_matchesIn ..) ?_
    intro m hit hhit
    split at hhit
    · exact m.offset_of_mem_hits hhit
    · cases hhit

/-- A wrapper overreaches another one behind it: it fetches no URL itself, and a
call in its window lies behind a hit of the other. -/
structure Overreaches (r : HookRule) (names : ClientNames) (anchor later : Match) : Prop where
  unkeyed : r.key? anchor = none
  behind : ∃ hit ∈ r.windowHits names anchor, ∃ hit' ∈ r.hitsOf names later,
    hit'.offset < hit.offset

/-- A hit behind one of a later wrapper is a call in the window of the first. -/
theorem overreaches_of_lt {later : Match} {hit' : Hit}
    (hanchors : anchor.stop.offset ≤ later.start.offset)
    (hlater : later.start.offset ≤ later.stop.offset) (h : hit ∈ r.hitsOf names anchor)
    (h' : hit' ∈ r.hitsOf names later) (hlt : hit'.offset < hit.offset) :
    r.Overreaches names anchor later := by
  have hbounds := offset_of_mem_hitsOf h'
  unfold hitsOf at h
  split at h
  · next key hkey =>
    -- with a URL of its own the wrapper's hit is where it ends, before the later one
    have hend := offset_of_mem_keyHits hkey h
    omega
  · next hkey => exact ⟨hkey, hit, h, hit', h', hlt⟩

/-- The hits of a hook rule are in order if and only if no wrapper overreaches
a later one. -/
theorem inOrder_iff (r : HookRule) (names : ClientNames) (c : Cursor) :
    Hit.InOrder (r.hits names c)
      ↔ (r.anchor.matchesIn c).Pairwise fun anchor later => ¬r.Overreaches names anchor later := by
  have hanchors := Pattern.pairwise_matchesIn r.anchor c
  rw [hits_eq, Hit.InOrder, List.pairwise_flatMap]
  constructor
  · intro ⟨_, hpairs⟩
    refine hpairs.imp ?_
    intro anchor later hordered ⟨hkey, hit, hhit, hit', hhit', hlt⟩
    have hof : hit ∈ r.hitsOf names anchor := by
      unfold hitsOf
      rw [hkey]
      exact hhit
    have hle := hordered hit hof hit' hhit'
    omega
  · intro hpairs
    refine ⟨fun anchor _ => r.inOrder_hitsOf names anchor, ?_⟩
    refine (hanchors.and hpairs).imp_of_mem ?_
    intro anchor later _ hmem ⟨hstop, hnot⟩ hit hhit hit' hhit'
    have hlater := (Pattern.bounds_of_mem_matchesIn hmem).2.2
    by_contra hlt
    exact hnot (overreaches_of_lt hstop.2 hlater hhit hhit' (Nat.lt_of_not_le hlt))

/-- A hit of a hook rule comes before a later one, or not a window behind it. -/
theorem pairwise_hits (r : HookRule) (names : ClientNames) (c : Cursor) :
    (r.hits names c).Pairwise fun a b => a.offset < b.offset + window := by
  have hwindow : 0 < window := by decide
  rw [hits_eq, List.pairwise_flatMap]
  constructor
  · intro anchor _
    refine (r.inOrder_hitsOf names anchor).imp ?_
    intro a b hle
    omega
  · refine (Pattern.pairwise_matchesIn r.anchor c).imp_of_mem ?_
    intro anchor later _ hmem hstop a ha b hb
    have hspan := (Pattern.bounds_of_mem_matchesIn hmem).2.2
    have hfirst := offset_of_mem_hitsOf ha
    have hlast := offset_of_mem_hitsOf hb
    omega

end HookRule

-- =================================================================== rules

namespace Rule

/-- One of the rule's wrappers overreaches a later one. -/
def Overreaches (names : ClientNames) (text : Text) : Rule → Prop
  | .call _ => False
  | .hook r => ∃ anchor later, [anchor, later].Sublist (r.anchor.matchesIn (.ofText text))
      ∧ r.Overreaches names anchor later

/-- The hits of a rule are in order if no window reaches over one that is later. -/
theorem inOrder_iff (rule : Rule) (names : ClientNames) (text : Text) :
    Hit.InOrder (rule.hits names text) ↔ ¬rule.Overreaches names text := by
  cases rule with
  | call r => exact iff_of_true (r.inOrder_hits names _) id
  | hook r =>
    refine (r.inOrder_iff names _).trans ?_
    rw [List.pairwise_iff_forall_sublist]
    constructor
    · intro hnone ⟨anchor, later, hpair, hover⟩
      exact hnone hpair hover
    · intro hnone anchor later hpair hover
      exact hnone ⟨anchor, later, hpair, hover⟩

/-- No hit of a rule is a window behind a later one. -/
theorem pairwise_hits (rule : Rule) (names : ClientNames) (text : Text) :
    (rule.hits names text).Pairwise fun a b => a.offset < b.offset + HookRule.window := by
  cases rule with
  | call r =>
    have hwindow : 0 < HookRule.window := by decide
    refine (r.inOrder_hits names _).imp ?_
    intro a b hle
    omega
  | hook r => exact r.pairwise_hits names _

end Rule

-- =============================================================== endpoints

/-- An endpoint is kept if it is the first one of its key. -/
theorem Endpoint.mem_newIn_iff {seen : List Key} {endpoints : List Endpoint} {e : Endpoint} :
    e ∈ newIn seen endpoints
      ↔ e.key ∉ seen ∧ endpoints.find? (fun other => other.key == e.key) = some e := by
  induction endpoints generalizing seen with
  | nil => simp [newIn]
  | cons first rest ih =>
    rw [newIn, List.find?_cons]
    -- the first endpoint has the key, and then it alone counts, or it does not matter
    by_cases hkey : first.key = e.key
    · rw [hkey, beq_self_eq_true, Option.some.injEq]
      split
      · next hseen =>
        rw [ih]
        simp_all
      · next hnew =>
        rw [List.mem_cons, ih]
        simp_all [eq_comm]
    · have hbeq : (first.key == e.key) = false := by simpa using hkey
      have hne : e ≠ first := fun heq => hkey (heq ▸ rfl)
      rw [hbeq]
      split
      · exact ih
      · rw [List.mem_cons, ih, List.mem_cons, not_or]
        constructor
        · intro h
          exact ⟨(h.resolve_left hne).1.2, (h.resolve_left hne).2⟩
        · rintro ⟨hnew, hfind⟩
          exact Or.inr ⟨⟨fun heq => hkey heq.symm, hnew⟩, hfind⟩

theorem Endpoint.mem_deduplicate_iff {endpoints : List Endpoint} {e : Endpoint} :
    e ∈ deduplicate endpoints
      ↔ endpoints.find? (fun other => other.key == e.key) = some e := by
  rw [deduplicate, mem_newIn_iff]
  exact and_iff_right List.not_mem_nil

namespace Source

variable {s : Source} {dialect : Dialect}

/-- The endpoint that a hit in the file is. -/
def endpointOf (s : Source) (hit : Hit) : Endpoint :=
  { file := s.path, line := Line.ofBreaks (Line.breaks s.text) hit.offset, url := hit.url
    method := hit.method, raw := hit.raw }

/-- The hits of a rule in the file. -/
def hitsOf (s : Source) (dialect : Dialect) (rule : Rule) : List Hit :=
  rule.hits (ClientNames.ofText dialect s.text) s.text

/-- The endpoints of a source are those of the hits of each rule, in the order
of the rules. -/
theorem endpoints_eq (hdialect : s.dialect? = some dialect) :
    s.endpoints = dialect.rules.flatMap fun rule =>
      (s.hitsOf dialect rule).map s.endpointOf := by
  unfold endpoints
  rw [hdialect]
  rfl

/-- An endpoint that is kept is at the first hit of the first rule that finds
it. -/
theorem exists_of_mem_deduplicate {e : Endpoint} (hdialect : s.dialect? = some dialect)
    (h : e ∈ Endpoint.deduplicate s.endpoints) :
    ∃ before rule after earlier hit rest, dialect.rules = before ++ rule :: after
      ∧ (∀ r ∈ before, ∀ other ∈ s.hitsOf dialect r, (s.endpointOf other).key ≠ e.key)
      ∧ s.hitsOf dialect rule = earlier ++ hit :: rest
      ∧ (∀ other ∈ earlier, (s.endpointOf other).key ≠ e.key)
      ∧ e = s.endpointOf hit := by
  rw [Endpoint.mem_deduplicate_iff, endpoints_eq hdialect, List.find?_flatMap,
    List.findSome?_eq_some_iff] at h
  obtain ⟨before, rule, after, hrules, hfound, hbefore⟩ := h
  rw [List.find?_map, Option.map_eq_some_iff] at hfound
  obtain ⟨hit, hfind, rfl⟩ := hfound
  obtain ⟨-, earlier, rest, hhits, hearlier⟩ := List.find?_eq_some_iff_append.1 hfind
  refine ⟨before, rule, after, earlier, hit, rest, hrules, ?_, hhits, ?_, rfl⟩
  · intro r hr other hother hkey
    have hnone := List.find?_eq_none.1 (hbefore r hr) _ (List.mem_map_of_mem hother)
    exact hnone (beq_iff_eq.2 hkey)
  · intro other hother hkey
    have hnot := hearlier other hother
    rw [Function.comp_apply, beq_iff_eq.2 hkey] at hnot
    cases hnot

/-- The order of what is found in a file. The hits of a rule come in the order of
their places if and only if none of its wrappers overreaches a later one, and
none comes a window too late. Of the endpoints with one key the one that is kept
is at the first hit of the first rule that finds it; this is the earliest hit of
that rule, and the earliest line, unless a wrapper overreaches. -/
theorem found_in_order (hdialect : s.dialect? = some dialect) :
    (∀ rule ∈ dialect.rules,
      (Hit.InOrder (s.hitsOf dialect rule)
        ↔ ¬rule.Overreaches (ClientNames.ofText dialect s.text) s.text)
      ∧ (s.hitsOf dialect rule).Pairwise fun a b => a.offset < b.offset + HookRule.window)
    ∧ ∀ e ∈ Endpoint.deduplicate s.endpoints,
      ∃ before rule after earlier hit rest, dialect.rules = before ++ rule :: after
        ∧ (∀ r ∈ before, ∀ other ∈ s.hitsOf dialect r, (s.endpointOf other).key ≠ e.key)
        ∧ s.hitsOf dialect rule = earlier ++ hit :: rest
        ∧ (∀ other ∈ earlier, (s.endpointOf other).key ≠ e.key)
        ∧ e = s.endpointOf hit
        ∧ (¬rule.Overreaches (ClientNames.ofText dialect s.text) s.text →
          ∀ other ∈ s.hitsOf dialect rule, (s.endpointOf other).key = e.key →
            hit.offset ≤ other.offset ∧ e.line ≤ (s.endpointOf other).line) := by
  refine ⟨fun rule _ => ⟨rule.inOrder_iff .., rule.pairwise_hits ..⟩, fun e he => ?_⟩
  obtain ⟨before, rule, after, earlier, hit, rest, hrules, hbefore, hhits, hearlier, rfl⟩ :=
    exists_of_mem_deduplicate hdialect he
  refine ⟨before, rule, after, earlier, hit, rest, hrules, hbefore, hhits, hearlier, rfl, ?_⟩
  intro hnone other hother hkey
  have hordered : Hit.InOrder (s.hitsOf dialect rule) := (rule.inOrder_iff ..).2 hnone
  rw [hhits] at hother
  rw [hhits, Hit.InOrder, List.pairwise_append] at hordered
  have hle : hit.offset ≤ other.offset := by
    rcases List.mem_append.1 hother with hbehind | hrest
    · exact absurd hkey (hearlier other hbehind)
    · rcases List.mem_cons.1 hrest with rfl | hlater
      · exact Nat.le_refl _
      · exact List.rel_of_pairwise_cons hordered.2.1 hlater
  exact ⟨hle, Int.ofNat_le.2 (Line.ofBreaks_le _ hle)⟩

/-- A wrapper without a URL, one with a URL, and a call behind both. -/
def hookSource : Source where
  path := "a.js"
  text := "createAsyncThunk('x', f);\nuseQuery('/a', g);\ndb.get('/a');\n"

/-- The call in the window of the first wrapper is found before the second one. -/
theorem hits_out_of_order :
    let hits := hookSource.hitsOf .javascript (.hook Rule.dataHook)
    hookSource.dialect? = some .javascript ∧ Rule.hook Rule.dataHook ∈ Dialect.javascript.rules
      ∧ ¬Hit.InOrder hits
      ∧ hits.map (fun hit => (hookSource.endpointOf hit).key)
        = List.replicate 2 (("a.js", "/a", "GET") : Endpoint.Key)
      ∧ hits.map (fun hit => (hookSource.endpointOf hit).line) = [3, 2]
      ∧ (Endpoint.deduplicate hookSource.endpoints).map Endpoint.line = [3] := by
  -- the rule is run once for all that is asked of its hits
  have hfound : (hookSource.hitsOf .javascript (.hook Rule.dataHook)).map (fun hit =>
      (hit.offset, (hookSource.endpointOf hit).key, (hookSource.endpointOf hit).line))
        = [(45, (("a.js", "/a", "GET") : Endpoint.Key), 3), (35, ("a.js", "/a", "GET"), 2)] := by
    decide +kernel
  refine ⟨by decide +kernel, by simp [Dialect.rules], ?_, ?_, ?_, by decide +kernel⟩
  · intro hordered
    have hsorted : ([45, 35] : List Nat).Pairwise (· ≤ ·) := by
      have hoffsets := congrArg (List.map (·.1)) hfound
      rw [List.map_map] at hoffsets
      rw [← show _ = [45, 35] from hoffsets, List.pairwise_map]
      exact hordered
    exact absurd hsorted (by decide)
  · have hkeys := congrArg (List.map (·.2.1)) hfound
    rw [List.map_map] at hkeys
    exact hkeys
  · have hlines := congrArg (List.map (·.2.2)) hfound
    rw [List.map_map] at hlines
    exact hlines

/-- The first wrapper overreaches the second one. -/
theorem found_in_order_hook :
    hookSource.dialect? = some .javascript
      ∧ (Rule.hook Rule.dataHook).Overreaches
        (ClientNames.ofText .javascript hookSource.text) hookSource.text := by
  have hdialect : hookSource.dialect? = some .javascript := by decide +kernel
  have hlines : (hookSource.hitsOf .javascript (.hook Rule.dataHook)).map
      (fun hit => Line.ofBreaks (Line.breaks hookSource.text) hit.offset) = [3, 2] := by
    decide +kernel
  have hmem : Rule.hook Rule.dataHook ∈ Dialect.javascript.rules := by simp [Dialect.rules]
  have hiff := ((found_in_order hdialect).1 _ hmem).1
  refine ⟨hdialect, ?_⟩
  by_contra hnone
  -- hits in order would be on lines in order
  have hsorted : ([3, 2] : List Nat).Pairwise (· ≤ ·) := by
    rw [← hlines, List.pairwise_map]
    exact (hiff.2 hnone).imp (Line.ofBreaks_le _)
  exact absurd hsorted (by decide)

end Source

end MockApi
