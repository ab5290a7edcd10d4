/-
What patterns take. Between the place where a pattern is tried and the place it leads
on from stands a text that the pattern spells, and what it labels is spelled behind the
label (`exists_spelled`). That says how far a result reaches back; the other way, whether
there is a result does not depend on parts that the pattern never repeats
(`isSome_walk_congr`).
-/
import MockApi.Pattern

namespace MockApi

-- ================================================================== places

namespace Cursor

variable {c stop : Cursor} {t : Text}

/-- To go past two texts is to go past the one, then the other. -/
theorem past?_append (c : Cursor) (s t : Text) :
    c.past? (s ++ t) = (c.past? s).bind fun between => between.past? t := by
  induction s generalizing c with
  | nil => rfl
  | cons x s ih =>
    simp only [List.cons_append, past?]
    split
    · rfl
    · split
      · exact ih _
      · rfl

/-- What was gone past stood in front. -/
theorem rest_of_past? (h : c.past? t = some stop) : c.rest = t ++ stop.rest := by
  induction t generalizing c with
  | nil =>
    rw [past?] at h
    rw [Option.some.inj h]
    rfl
  | cons x t ih =>
    simp only [past?] at h
    split at h
    · cases h
    · next y rest hrest =>
      split at h
      · next hxy =>
        rw [hrest, hxy, List.cons_append]
        exact congrArg (y :: ·) (ih h)
      · cases h

/-- To go past a text is to go as far as it is long. -/
theorem offset_of_past? (h : c.past? t = some stop) : stop.offset = c.offset + t.length := by
  induction t generalizing c with
  | nil =>
    rw [past?] at h
    rw [Option.some.inj h]
    rfl
  | cons x t ih =>
    simp only [past?] at h
    split at h
    · cases h
    · split at h
      · rw [ih h, List.length_cons, Nat.add_assoc, Nat.add_comm 1]
      · cases h

theorem upTo_of_past? (h : c.past? t = some stop) : c.upTo stop = t := by
  rw [upTo, rest_of_past? h, offset_of_past? h, Nat.add_sub_cancel_left, List.take_left]

end Cursor

namespace Pattern

variable {α β : Type} {a : α}

-- ============================================================ what is spelled

/-- The pattern may take the text, for all that is known of what stands around it. -/
inductive Spells : Pattern → Text → Prop
  | piece (t : Text) : Spells (.piece t) t
  | run {test : CodePoint → Bool} {least : Nat} {most : Option Nat} {t : Text}
      (passes : ∀ c ∈ t, test c = true) (enough : least ≤ t.length)
      (bounded : ∀ m, most = some m → t.length ≤ m) : Spells (.run test least most) t
  | seq {p q : Pattern} {s t : Text} (first : Spells p s) (second : Spells q t) :
      Spells (.seq p q) (s ++ t)
  | first {p q : Pattern} {t : Text} (h : Spells p t) : Spells (.either p q) t
  | second {p q : Pattern} {t : Text} (h : Spells q t) : Spells (.either p q) t
  | present {p : Pattern} {t : Text} (h : Spells p t) : Spells (.maybe p) t
  | absent {p : Pattern} : Spells (.maybe p) []
  | part {label : Part} {p : Pattern} {t : Text} (h : Spells p t) : Spells (.part label p) t
  | again (label : Part) (t : Text) : Spells (.again label) t
  | notAfter (test : CodePoint → Bool) : Spells (.notAfter test) []
  | wordEdge : Spells .wordEdge []

/-- The patterns behind the labels of a kind. -/
def behind (kind : Part) : Pattern → List Pattern
  | .seq p q => p.behind kind ++ q.behind kind
  | .either p q => p.behind kind ++ q.behind kind
  | .maybe p => p.behind kind
  | .part label p => (if label = kind then [p] else []) ++ p.behind kind
  | _ => []

/-- A run leads on behind a text of characters that pass, of a length that it allows. -/
theorem runFrom_spelled {test : CodePoint → Bool} {lead : Cursor → Option α} {text : Text}
    {previous : Option CodePoint} {offset least : Nat} {most : Option Nat}
    (h : runFrom test lead text previous offset least most = some a) :
    ∃ t stop, (⟨previous, text, offset⟩ : Cursor).past? t = some stop ∧ lead stop = some a
      ∧ (Pattern.run test least most).Spells t := by
  -- the run may end here if it took enough
  have stay : ∀ {text previous offset least most},
      (if least = 0 then lead ⟨previous, text, offset⟩ else none) = some a →
      ∃ t stop, (⟨previous, text, offset⟩ : Cursor).past? t = some stop ∧ lead stop = some a
        ∧ (Pattern.run test least most).Spells t := by
    intro text previous offset least most hstay
    -- it goes on if it may and if that leads anywhere, or else ends here
    split at hstay
    · next hleast =>
      refine ⟨[], _, rfl, hstay, .run (fun _ hmem => nomatch hmem) ?_ fun m _ => Nat.zero_le m⟩
      exact Nat.le_of_eq hleast
    · cases hstay
  induction text generalizing previous offset least most with
  | nil =>
    rw [runFrom] at h
    exact stay h
  | cons c rest ih =>
    rw [runFrom] at h
    split at h
    · next htakes =>
      split at h
      · next found hfound =>
        rw [h] at hfound
        obtain ⟨t, stop, hpast, hlead, hspells⟩ := ih hfound
        cases hspells with
        | run passes enough bounded =>
          refine ⟨c :: t, stop, ?_, hlead, .run ?_ ?_ fun m hm => ?_⟩
          · simp only [Cursor.past?, if_true]
            exact hpast
          · exact List.forall_mem_cons.2 ⟨htakes.2, passes⟩
          · rw [List.length_cons]
            omega
          · have hpos : m ≠ 0 := fun hzero => htakes.1 (hzero ▸ hm)
            have hrest := bounded (m - 1) (by rw [hm]; rfl)
            rw [List.length_cons]
            omega
      · exact stay h
    · exact stay h

/-- The parts have texts that are spelled behind the labels of the pattern. -/
def Labels (p : Pattern) (new : Parts) : Prop :=
  ∀ entry ∈ new, ∃ q ∈ p.behind entry.1, ∃ t, entry.2.1.past? t = some entry.2.2 ∧ q.Spells t

/-- A pattern with fewer kinds to look back at is labelled by the same parts. -/
theorem Labels.of_subset {p q : Pattern} {new : Parts} (h : p.Labels new)
    (hsub : ∀ kind, p.behind kind ⊆ q.behind kind) : q.Labels new := by
  intro entry hentry
  obtain ⟨r, hr, t, ht⟩ := h entry hentry
  exact ⟨r, hsub _ hr, t, ht⟩

/-- Where a pattern led to a result, it led on behind a text that it spells, with new
parts that it labels. The induction is on the pattern, for all ways on. -/
theorem exists_spelled (p : Pattern) {c : Cursor} {parts : Parts}
    {lead : Cursor → Parts → Option α} (h : p.walk c parts lead = some a) :
    ∃ t stop new, c.past? t = some stop ∧ p.Spells t ∧ lead stop (new ++ parts) = some a
      ∧ p.Labels new := by
  -- patterns that label nothing add no parts
  have nothing : ∀ p : Pattern, p.Labels [] := fun _ _ hmem => nomatch hmem
  induction p generalizing c parts lead with
  | piece t =>
    rw [walk] at h
    split at h
    · next stop hpast => exact ⟨t, stop, [], hpast, .piece t, h, nothing _⟩
    · cases h
  | run test least most =>
    rw [walk] at h
    obtain ⟨t, stop, hpast, hlead, hspells⟩ := runFrom_spelled h
    exact ⟨t, stop, [], hpast, hspells, hlead, nothing _⟩
  | seq p q ihp ihq =>
    rw [walk] at h
    -- the way on of the first pattern is the walk of the second
    obtain ⟨s, between, early, hbetween, hs, hq, hearly⟩ := ihp h
    obtain ⟨t, stop, late, hstop, ht, hlead, hlate⟩ := ihq hq
    refine ⟨s ++ t, stop, late ++ early, ?_, .seq hs ht, ?_, ?_⟩
    · rw [Cursor.past?_append, hbetween]
      exact hstop
    · rw [List.append_assoc]
      exact hlead
    · exact List.forall_mem_append.2
        ⟨hlate.of_subset fun _ => List.subset_append_right .., hearly.of_subset fun _ =>
          List.subset_append_left ..⟩
  | either p q ihp ihq =>
    rw [walk] at h
    split at h
    · next found hfound =>
      rw [h] at hfound
      obtain ⟨t, stop, new, hpast, ht, hlead, hnew⟩ := ihp hfound
      exact ⟨t, stop, new, hpast, .first ht, hlead,
        hnew.of_subset fun _ => List.subset_append_left ..⟩
    · obtain ⟨t, stop, new, hpast, ht, hlead, hnew⟩ := ihq h
      exact ⟨t, stop, new, hpast, .second ht, hlead,
        hnew.of_subset fun _ => List.subset_append_right ..⟩
  | maybe p ih =>
    rw [walk] at h
    split at h
    · next found hfound =>
      rw [h] at hfound
      obtain ⟨t, stop, new, hpast, ht, hlead, hnew⟩ := ih hfound
      exact ⟨t, stop, new, hpast, .present ht, hlead, hnew⟩
    · exact ⟨[], c, [], rfl, .absent, h, nothing _⟩
  | part label p ih =>
    rw [walk] at h
    obtain ⟨t, stop, new, hpast, ht, hlead, hnew⟩ := ih h
    -- the part itself stands in front of those inside it
    refine ⟨t, stop, (label, c, stop) :: new, hpast, .part ht, hlead, ?_⟩
    refine List.forall_mem_cons.2 ⟨⟨p, ?_, t, hpast, ht⟩, ?_⟩
    · show p ∈ (if label = label then [p] else []) ++ p.behind label
      rw [if_pos rfl]
      exact List.mem_cons_self
    · exact hnew.of_subset fun _ => List.subset_append_right ..
  | again label =>
    rw [walk] at h
    split at h
    · next stop hagain =>
      obtain ⟨t, -, hpast⟩ := Option.bind_eq_some_iff.1 hagain
      exact ⟨t, stop, [], hpast, .again label t, h, nothing _⟩
    · cases h
  | notAfter test =>
    rw [walk] at h
    split at h
    · cases h
    · exact ⟨[], c, [], rfl, .notAfter test, h, nothing _⟩
  | wordEdge =>
    rw [walk] at h
    split at h
    · exact ⟨[], c, [], rfl, .wordEdge, h, nothing _⟩
    · cases h

/-- A pattern leaves the text of a part that it does not label. -/
theorem Labels.get?_append {kind : Part} {p : Pattern} {new : Parts} (h : p.Labels new)
    (hnone : p.behind kind = []) (parts : Parts) :
    Parts.get? kind (new ++ parts) = parts.get? kind := by
  have hnew : new.find? (fun entry => entry.1 = kind) = none := by
    refine List.find?_eq_none.2 fun entry hentry hkind => ?_
    obtain ⟨q, hq, -⟩ := h entry hentry
    rw [of_decide_eq_true hkind, hnone] at hq
    cases hq
  rw [Parts.get?, List.find?_append, hnew, Option.none_or]
  rfl

/-- A part of a match is spelled behind a label of the pattern. -/
theorem spells_of_get? {kind : Part} {p : Pattern} {m : Match} {c : Cursor} {t : Text}
    (h : p.matchAt? c = some m) (hpart : m.parts.get? kind = some t) :
    ∃ q ∈ p.behind kind, q.Spells t := by
  obtain ⟨-, stop, new, -, -, hlead, hnew⟩ := p.exists_spelled h
  obtain rfl := Option.some.inj hlead
  obtain ⟨entry, hentry, rfl⟩ := Option.map_eq_some_iff.1 hpart
  have hfound := List.find?_some hentry
  have hkind := of_decide_eq_true hfound
  have hmem := List.mem_of_find?_eq_some hentry
  rw [List.append_nil] at hmem
  obtain ⟨q, hq, w, hw, hspells⟩ := hnew entry hmem
  rw [Cursor.upTo_of_past? hw]
  exact ⟨q, hkind ▸ hq, hspells⟩

-- ========================================================= what is not seen

/-- The pattern asks for the text of a part of the kind. -/
def repeats (kind : Part) : Pattern → Bool
  | .seq p q => p.repeats kind || q.repeats kind
  | .either p q => p.repeats kind || q.repeats kind
  | .maybe p => p.repeats kind
  | .part _ p => p.repeats kind
  | .again label => label == kind
  | _ => false

/-- The parts have the same text but for those of a kind. -/
def AlikeBut (kind : Part) (parts parts' : Parts) : Prop :=
  ∀ label, label ≠ kind → parts.get? label = parts'.get? label

/-- A part that is added on both sides keeps two lists of parts alike. -/
theorem AlikeBut.cons {kind : Part} {parts parts' : Parts} (h : AlikeBut kind parts parts')
    (entry : Part × Cursor × Cursor) : AlikeBut kind (entry :: parts) (entry :: parts') := by
  intro label hlabel
  unfold Parts.get?
  rw [List.find?_cons, List.find?_cons]
  split
  · rfl
  · exact h label hlabel

/-- A part more is of its kind alone. -/
theorem alikeBut_cons (kind : Part) (start stop : Cursor) (parts : Parts) :
    AlikeBut kind ((kind, start, stop) :: parts) parts := by
  intro label hlabel
  unfold Parts.get?
  rw [List.find?_cons_of_neg (by simp [hlabel.symm])]

/-- Whether a run leads anywhere depends on whether its ends do. -/
theorem isSome_runFrom_congr {test : CodePoint → Bool} {lead : Cursor → Option α}
    {lead' : Cursor → Option β} (h : ∀ c, (lead c).isSome = (lead' c).isSome) (text : Text)
    (previous : Option CodePoint) (offset least : Nat) (most : Option Nat) :
    (runFrom test lead text previous offset least most).isSome
      = (runFrom test lead' text previous offset least most).isSome := by
  induction text generalizing previous offset least most with
  | nil =>
    rw [runFrom, runFrom]
    split
    · exact h _
    · rfl
  | cons c rest ih =>
    have stay : (if least = 0 then lead ⟨previous, c :: rest, offset⟩ else none).isSome
        = (if least = 0 then lead' ⟨previous, c :: rest, offset⟩ else none).isSome := by
      split
      · exact h _
      · rfl
    -- both go on or neither does
    have onwards := ih (some c) (offset + 1) (least - 1) (most.map (· - 1))
    rw [runFrom, runFrom]
    split
    · cases hfound : runFrom test lead rest (some c) (offset + 1) (least - 1) (most.map (· - 1)) <;>
        cases hfound' : runFrom test lead' rest (some c) (offset + 1) (least - 1)
          (most.map (· - 1)) <;> rw [hfound, hfound'] at onwards
      · exact stay
      · cases onwards
      · cases onwards
      · rfl
    · exact stay

/-- A pattern that never asks for the parts of a kind leads to a result whatever they
are, if what comes behind it does. -/
theorem isSome_walk_congr (kind : Part) (p : Pattern) (unseen : p.repeats kind = false)
    {lead : Cursor → Parts → Option α} {lead' : Cursor → Parts → Option β}
    (hlead : ∀ c parts parts', AlikeBut kind parts parts' →
      (lead c parts).isSome = (lead' c parts').isSome)
    (c : Cursor) {parts parts' : Parts} (h : AlikeBut kind parts parts') :
    (p.walk c parts lead).isSome = (p.walk c parts' lead').isSome := by
  induction p generalizing c parts parts' lead lead' with
  | piece t =>
    rw [walk, walk]
    split
    · exact hlead _ _ _ h
    · rfl
  | run test least most =>
    rw [walk, walk]
    exact isSome_runFrom_congr (fun c => hlead c _ _ h) ..
  | seq p q ihp ihq =>
    rw [repeats, Bool.or_eq_false_iff] at unseen
    rw [walk, walk]
    -- the way on of the first pattern is the walk of the second
    exact ihp unseen.1 (fun between _ _ halike => ihq unseen.2 hlead between halike) c h
  | either p q ihp ihq =>
    rw [repeats, Bool.or_eq_false_iff] at unseen
    have hp := ihp unseen.1 hlead c h
    rw [walk, walk]
    cases hfound : p.walk c parts lead <;> cases hfound' : p.walk c parts' lead' <;>
      rw [hfound, hfound'] at hp
    · exact ihq unseen.2 hlead c h
    · cases hp
    · cases hp
    · rfl
  | maybe p ih =>
    have hp := ih unseen hlead c h
    rw [walk, walk]
    cases hfound : p.walk c parts lead <;> cases hfound' : p.walk c parts' lead' <;>
      rw [hfound, hfound'] at hp
    · exact hlead _ _ _ h
    · cases hp
    · cases hp
    · rfl
  | part label p ih =>
    rw [walk, walk]
    refine ih unseen (fun stop parts parts' halike => ?_) c h
    exact hlead stop _ _ (halike.cons (label, c, stop))
  | again label =>
    -- the part that is asked for again is of another kind
    rw [walk, walk, h label (beq_eq_false_iff_ne.1 unseen)]
    split
    · exact hlead _ _ _ h
    · rfl
  | notAfter test =>
    rw [walk, walk]
    split
    · rfl
    · exact hlead _ _ _ h
  | wordEdge =>
    rw [walk, walk]
    split
    · exact hlead _ _ _ h
    · rfl

-- =================================================================== words

/-- One of some words spells one of them. -/
theorem mem_of_spells_oneOf {words : List Text} {t : Text}
    (h : (oneOf (words.map .piece)).Spells t) : t ∈ words := by
  induction words with
  | nil =>
    cases h with
    | run passes enough bounded =>
      obtain ⟨c, hc⟩ := List.exists_mem_of_length_pos enough
      cases passes c hc
  | cons first later ih =>
    cases later with
    | nil =>
      cases h
      exact List.mem_singleton.2 rfl
    | cons second later =>
      cases h with
      | first h =>
        cases h
        exact List.mem_cons_self
      | second h => exact List.mem_cons_of_mem _ (ih h)

/-- One of some words that stands here leads on, if anything can behind it. -/
theorem isSome_walk_oneOf {lead : Cursor → Parts → Option α} {c stop : Cursor} {parts : Parts}
    {word : Text} {words : List Text} (hmem : word ∈ words) (hpast : c.past? word = some stop)
    (hlead : (lead stop parts).isSome = true) :
    ((oneOf (words.map .piece)).walk c parts lead).isSome = true := by
  have hword : ((Pattern.piece word).walk c parts lead).isSome = true := by
    rw [walk, hpast]
    exact hlead
  induction words with
  | nil => cases hmem
  | cons first later ih =>
    cases later with
    | nil =>
      obtain rfl := List.mem_singleton.1 hmem
      exact hword
    | cons second later =>
      rw [List.map_cons, List.map_cons, oneOf, walk]
      · cases hfound : (Pattern.piece first).walk c parts lead with
        | some found => rfl
        | none =>
          rcases List.mem_cons.1 hmem with rfl | hlater
          · rw [hfound] at hword
            cases hword
          · exact ih hlater
      · exact List.cons_ne_nil _ _

end Pattern

end MockApi
