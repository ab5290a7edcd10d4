/-
What a pattern takes, said without a matcher. Behind a character and with some parts
found, a pattern may take a text and finds more parts (`Takes`): this is about the
text alone, so it does not matter where the text stands and what comes behind it.

A pattern leads to a result at a place if and only if it may take a text there behind
which there is one (`takes_of_walk`, `isSome_walk_of_takes`); of several texts that it
may take, the matcher decides for one. Edges of words are the exception, for they look
at what comes behind.
-/
import MockApi.Proofs.Pattern.Spelling

namespace MockApi

-- =================================================================== parts

/-- The texts of the parts found so far, the latest first. -/
abbrev Found := List (Part × Text)

/-- The text of a part. -/
def Found.get? (kind : Part) (found : Found) : Option Text :=
  (found.find? fun entry => entry.1 = kind).map (·.2)

/-- The texts of parts. -/
def Parts.texts (parts : Parts) :
    Found := parts.map fun entry => (entry.1, entry.2.1.upTo entry.2.2)

theorem Parts.get?_texts (kind : Part) (parts : Parts) :
    parts.texts.get? kind = parts.get? kind := by
  rw [Found.get?, Parts.texts, List.find?_map, Option.map_map]
  rfl

-- ================================================================== places

namespace Cursor

variable {c stop : Cursor} {t : Text}

/-- The character before the place behind a text. -/
theorem previous_of_past? (h : c.past? t = some stop) :
    stop.previous = t.getLast?.or c.previous := by
  induction t generalizing c with
  | nil =>
    rw [past?] at h
    rw [← Option.some.inj h]
    rfl
  | cons x t ih =>
    simp only [past?] at h
    split at h
    · cases h
    · split at h
      · next hxy =>
        rw [ih h, List.getLast?_cons, ← hxy]
        cases t.getLast? <;> rfl
      · cases h

/-- There is a place behind every text that stands here. -/
theorem exists_past? (h : t <+: c.rest) : ∃ stop, c.past? t = some stop := by
  induction t generalizing c with
  | nil => exact ⟨c, rfl⟩
  | cons x t ih =>
    obtain ⟨back, hback⟩ := h
    have hrest : t <+: (⟨some x, t ++ back, c.offset + 1⟩ : Cursor).rest := List.prefix_append t back
    obtain ⟨stop, hstop⟩ := ih hrest
    refine ⟨stop, ?_⟩
    simp only [past?]
    rw [← hback]
    show (if x = x then past? ⟨some x, t ++ back, c.offset + 1⟩ t else none) = some stop
    rw [if_pos rfl]
    exact hstop

end Cursor

namespace Pattern

variable {α : Type} {a : α}

-- ============================================================ what is taken

/-- Behind a character, if there is one, and with some parts found, the pattern may
take the text, and these parts are found then. -/
inductive Takes : Pattern → Option CodePoint → Found → Text → Found → Prop
  | piece {previous : Option CodePoint} {found : Found} (t : Text) :
      Takes (.piece t) previous found t found
  | run {previous : Option CodePoint} {found : Found} {test : CodePoint → Bool} {least : Nat}
      {most : Option Nat} {t : Text} (passes : ∀ c ∈ t, test c = true) (enough : least ≤ t.length)
      (bounded : ∀ m, most = some m → t.length ≤ m) :
      Takes (.run test least most) previous found t found
  | seq {previous : Option CodePoint} {found between later : Found} {p q : Pattern} {s t : Text}
      (first : Takes p previous found s between)
      (second : Takes q (s.getLast?.or previous) between t later) :
      Takes (.seq p q) previous found (s ++ t) later
  | first {previous : Option CodePoint} {found later : Found} {p q : Pattern} {t : Text}
      (h : Takes p previous found t later) : Takes (.either p q) previous found t later
  | second {previous : Option CodePoint} {found later : Found} {p q : Pattern} {t : Text}
      (h : Takes q previous found t later) : Takes (.either p q) previous found t later
  | present {previous : Option CodePoint} {found later : Found} {p : Pattern} {t : Text}
      (h : Takes p previous found t later) : Takes (.maybe p) previous found t later
  | absent {previous : Option CodePoint} {found : Found} {p : Pattern} :
      Takes (.maybe p) previous found [] found
  | part {previous : Option CodePoint} {found later : Found} {label : Part} {p : Pattern} {t : Text}
      (h : Takes p previous found t later) :
      Takes (.part label p) previous found t ((label, t) :: later)
  | again {previous : Option CodePoint} {found : Found} {label : Part} {t : Text}
      (h : found.get? label = some t) : Takes (.again label) previous found t found
  | notAfter {previous : Option CodePoint} {found : Found} {test : CodePoint → Bool}
      (h : previous.any test = false) : Takes (.notAfter test) previous found [] found
  | wordEdge {previous : Option CodePoint} {found : Found} : Takes .wordEdge previous found [] found

section Cases

variable {previous : Option CodePoint} {found later : Found} {p q : Pattern} {t : Text}

/-- A piece takes itself. -/
theorem takes_piece_iff {w : Text} :
    Takes (.piece w) previous found t later ↔ t = w ∧ later = found := by
  constructor
  · rintro (_ | _)
    exact ⟨rfl, rfl⟩
  · rintro ⟨rfl, rfl⟩
    exact .piece t

/-- A run takes as many characters as it may, all of its kind. -/
theorem takes_run_iff {test : CodePoint → Bool} {least : Nat} {most : Option Nat} :
    Takes (.run test least most) previous found t later
      ↔ (∀ c ∈ t, test c = true) ∧ least ≤ t.length ∧ (∀ m, most = some m → t.length ≤ m)
        ∧ later = found := by
  constructor
  · rintro (_ | ⟨passes, enough, bounded⟩)
    exact ⟨passes, enough, bounded, rfl⟩
  · rintro ⟨passes, enough, bounded, rfl⟩
    exact .run passes enough bounded

/-- A character that passes a test. -/
theorem takes_char_iff {test : CodePoint → Bool} :
    Takes (char test) previous found t later ↔ ∃ c, t = [c] ∧ test c = true ∧ later = found := by
  rw [char, takes_run_iff]
  constructor
  · rintro ⟨passes, enough, bounded, rfl⟩
    obtain ⟨c, rfl⟩ := List.length_eq_one_iff.1 (Nat.le_antisymm (bounded 1 rfl) enough)
    exact ⟨c, rfl, passes c List.mem_cons_self, rfl⟩
  · rintro ⟨c, rfl, hc, rfl⟩
    refine ⟨fun x hx => ?_, Nat.le_refl 1, fun m hm => Nat.le_of_eq (Option.some.inj hm), rfl⟩
    rw [List.mem_singleton.1 hx]
    exact hc

/-- Blanks take any number of blanks. -/
theorem takes_blanks_iff :
    Takes blanks previous found t later ↔ (∀ c ∈ t, Text.isBlank c = true) ∧ later = found := by
  rw [blanks, takes_run_iff]
  constructor
  · rintro ⟨passes, -, -, rfl⟩
    exact ⟨passes, rfl⟩
  · rintro ⟨passes, rfl⟩
    exact ⟨passes, Nat.zero_le _, by simp, rfl⟩

/-- One pattern behind another takes what is behind the other's text. -/
theorem takes_seq_iff :
    Takes (p ++ q) previous found t later
      ↔ ∃ s rest between, t = s ++ rest ∧ Takes p previous found s between
        ∧ Takes q (s.getLast?.or previous) between rest later := by
  constructor
  · rintro (_ | _ | ⟨first, second⟩)
    exact ⟨_, _, _, rfl, first, second⟩
  · rintro ⟨s, rest, between, rfl, first, second⟩
    exact .seq first second

/-- A part takes what its pattern does, and is found with that text. -/
theorem takes_part_iff {label : Part} :
    Takes (.part label p) previous found t later
      ↔ ∃ inner, later = (label, t) :: inner ∧ Takes p previous found t inner := by
  constructor
  · rintro (_ | _ | _ | _ | _ | _ | _ | h)
    exact ⟨_, rfl, h⟩
  · rintro ⟨inner, rfl, h⟩
    exact .part h

/-- What is to come again takes the text that was found. -/
theorem takes_again_iff {label : Part} :
    Takes (.again label) previous found t later ↔ found.get? label = some t ∧ later = found := by
  constructor
  · rintro (_ | _ | _ | _ | _ | _ | _ | _ | h)
    exact ⟨h, rfl⟩
  · rintro ⟨h, rfl⟩
    exact .again h

/-- A look back takes nothing. -/
theorem takes_notAfter_iff {test : CodePoint → Bool} :
    Takes (.notAfter test) previous found t later
      ↔ previous.any test = false ∧ t = [] ∧ later = found := by
  constructor
  · intro h
    cases h with
    | notAfter h => exact ⟨h, rfl, rfl⟩
  · rintro ⟨h, rfl, rfl⟩
    exact .notAfter h

end Cases

/-- The pattern asks for what stands before. -/
def looksBack : Pattern → Bool
  | .seq p q => p.looksBack || q.looksBack
  | .either p q => p.looksBack || q.looksBack
  | .maybe p => p.looksBack
  | .part _ p => p.looksBack
  | .notAfter _ => true
  | .wordEdge => true
  | _ => false

/-- Where a pattern does not look back, it takes a text behind any character. -/
theorem Takes.behind_any {previous : Option CodePoint} {found later : Found} {p : Pattern}
    {t : Text} (h : Takes p previous found t later) (blind : p.looksBack = false)
    (previous' : Option CodePoint) : Takes p previous' found t later := by
  induction h generalizing previous' with
  | piece t => exact .piece t
  | run passes enough bounded => exact .run passes enough bounded
  | seq first second ihp ihq =>
    rw [looksBack, Bool.or_eq_false_iff] at blind
    exact .seq (ihp blind.1 _) (ihq blind.2 _)
  | first h ih =>
    rw [looksBack, Bool.or_eq_false_iff] at blind
    exact .first (ih blind.1 _)
  | second h ih =>
    rw [looksBack, Bool.or_eq_false_iff] at blind
    exact .second (ih blind.2 _)
  | present h ih => exact .present (ih blind _)
  | absent => exact .absent
  | part h ih => exact .part (ih blind _)
  | again h => exact .again h
  | notAfter h => cases blind
  | wordEdge => cases blind

-- ======================================================== what is found

/-- A run that leads to a result took some text of its kind. -/
theorem takes_of_runFrom {test : CodePoint → Bool} {lead : Cursor → Option α} {c : Cursor}
    {least : Nat} {most : Option Nat} (found : Found)
    (h : runFrom test lead c.rest c.previous c.offset least most = some a) :
    ∃ t stop, c.past? t = some stop ∧ lead stop = some a
      ∧ Takes (.run test least most) c.previous found t found := by
  obtain ⟨t, stop, hpast, hlead, hspells⟩ := runFrom_spelled h
  cases hspells with
  | run passes enough bounded => exact ⟨t, stop, hpast, hlead, .run passes enough bounded⟩

/-- Where a pattern led to a result, it took a text, and behind it there is the
result. -/
theorem takes_of_walk (p : Pattern) {c : Cursor} {parts : Parts}
    {lead : Cursor → Parts → Option α} (h : p.walk c parts lead = some a) :
    ∃ t stop later, c.past? t = some stop ∧ Takes p c.previous parts.texts t later.texts
      ∧ lead stop later = some a := by
  induction p generalizing c parts lead with
  | piece t =>
    rw [walk] at h
    split at h
    · next stop hpast => exact ⟨t, stop, parts, hpast, .piece t, h⟩
    · cases h
  | run test least most =>
    rw [walk] at h
    obtain ⟨t, stop, hpast, hlead, htakes⟩ := takes_of_runFrom parts.texts h
    exact ⟨t, stop, parts, hpast, htakes, hlead⟩
  | seq p q ihp ihq =>
    rw [walk] at h
    -- the way on of the first pattern is the walk of the second
    obtain ⟨s, middle, between, hmiddle, hs, hq⟩ := ihp h
    obtain ⟨t, stop, later, hstop, ht, hlead⟩ := ihq hq
    refine ⟨s ++ t, stop, later, ?_, .seq hs ?_, hlead⟩
    · rw [Cursor.past?_append, hmiddle]
      exact hstop
    · rw [← Cursor.previous_of_past? hmiddle]
      exact ht
  | either p q ihp ihq =>
    rw [walk] at h
    split at h
    · next result hresult =>
      rw [h] at hresult
      obtain ⟨t, stop, later, hpast, ht, hlead⟩ := ihp hresult
      exact ⟨t, stop, later, hpast, .first ht, hlead⟩
    · obtain ⟨t, stop, later, hpast, ht, hlead⟩ := ihq h
      exact ⟨t, stop, later, hpast, .second ht, hlead⟩
  | maybe p ih =>
    rw [walk] at h
    split at h
    · next result hresult =>
      rw [h] at hresult
      obtain ⟨t, stop, later, hpast, ht, hlead⟩ := ih hresult
      exact ⟨t, stop, later, hpast, .present ht, hlead⟩
    · exact ⟨[], c, parts, rfl, .absent, h⟩
  | part label p ih =>
    rw [walk] at h
    obtain ⟨t, stop, later, hpast, ht, hlead⟩ := ih h
    -- the part is added behind what was found inside it
    refine ⟨t, stop, (label, c, stop) :: later, hpast, ?_, hlead⟩
    show Takes _ _ _ _ ((label, c.upTo stop) :: later.texts)
    rw [Cursor.upTo_of_past? hpast]
    exact .part ht
  | again label =>
    rw [walk] at h
    split at h
    · next stop hagain =>
      obtain ⟨t, ht, hpast⟩ := Option.bind_eq_some_iff.1 hagain
      refine ⟨t, stop, parts, hpast, .again ?_, h⟩
      rw [Parts.get?_texts, ht]
    · cases h
  | notAfter test =>
    rw [walk] at h
    split at h
    · cases h
    · next hnot => exact ⟨[], c, parts, rfl, .notAfter (Bool.eq_false_iff.2 hnot), h⟩
  | wordEdge =>
    rw [walk] at h
    split at h
    · exact ⟨[], c, parts, rfl, .wordEdge, h⟩
    · cases h

/-- The pattern asks for no edge of a word. -/
def isEdgeless : Pattern → Bool
  | .seq p q => p.isEdgeless && q.isEdgeless
  | .either p q => p.isEdgeless && q.isEdgeless
  | .maybe p => p.isEdgeless
  | .part _ p => p.isEdgeless
  | .wordEdge => false
  | _ => true

/-- A run that may end behind a text leads to a result if there is one behind the text. -/
theorem isSome_runFrom_of_takes {test : CodePoint → Bool} {lead : Cursor → Option α}
    {c stop : Cursor} {least : Nat} {most : Option Nat} {t : Text} (passes : ∀ x ∈ t, test x = true)
    (enough : least ≤ t.length) (bounded : ∀ m, most = some m → t.length ≤ m)
    (hpast : c.past? t = some stop) (hlead : (lead stop).isSome = true) :
    (runFrom test lead c.rest c.previous c.offset least most).isSome = true := by
  induction t generalizing c least most with
  | nil =>
    rw [Cursor.past?] at hpast
    obtain rfl := Option.some.inj hpast
    obtain rfl : least = 0 := by simpa using enough
    obtain ⟨previous, rest, offset⟩ := c
    cases rest with
    | nil =>
      rw [runFrom, if_pos rfl]
      exact hlead
    | cons x rest =>
      rw [runFrom]
      simp only
      -- a longer run may lead to something too; if not, this one ends here
      split
      · split
        · rfl
        · exact hlead
      · exact hlead
  | cons x t ih =>
    obtain ⟨previous, text, offset⟩ := c
    have htext := Cursor.rest_of_past? hpast
    simp only at htext
    subst htext
    have hrest : (⟨some x, t ++ stop.rest, offset + 1⟩ : Cursor).past? t = some stop := by
      simpa [Cursor.past?] using hpast
    -- one more character may be taken, and is of the kind
    have htakes : most ≠ some 0 ∧ test x = true := by
      refine ⟨?_, passes x List.mem_cons_self⟩
      rintro rfl
      exact absurd (bounded 0 rfl) (by simp)
    have onwards := @ih ⟨some x, t ++ stop.rest, offset + 1⟩ (least - 1) (most.map (· - 1))
      (fun y hy => passes y (List.mem_cons_of_mem x hy)) (by simp at enough; omega) (by
        intro m hm
        obtain ⟨n, hn, rfl⟩ := Option.map_eq_some_iff.1 hm
        have hle := bounded n hn
        simp at hle
        omega) hrest
    show (runFrom test lead (x :: (t ++ stop.rest)) previous offset least most).isSome = true
    rw [runFrom]
    simp only
    rw [if_pos htakes]
    split
    · rfl
    · next hnone =>
      rw [hnone] at onwards
      cases onwards

/-- Where a pattern may take a text, it leads to a result if there is one behind the
text, whatever the places of the parts. -/
theorem isSome_walk_of_takes {p : Pattern} {previous : Option CodePoint} {found later : Found}
    {t : Text} (h : Takes p previous found t later) (edgeless : p.isEdgeless = true) {c stop : Cursor}
    {parts : Parts} {lead : Cursor → Parts → Option α} (hprevious : c.previous = previous)
    (hparts : parts.texts = found) (hpast : c.past? t = some stop)
    (hlead : ∀ parts : Parts, parts.texts = later → (lead stop parts).isSome = true) :
    (p.walk c parts lead).isSome = true := by
  induction h generalizing c stop parts lead with
  | piece t =>
    rw [walk, hpast]
    exact hlead parts hparts
  | run passes enough bounded =>
    rw [walk]
    exact isSome_runFrom_of_takes passes enough bounded hpast (hlead parts hparts)
  | @seq previous found between later p q s t first second ihp ihq =>
    rw [isEdgeless, Bool.and_eq_true] at edgeless
    rw [Cursor.past?_append] at hpast
    obtain ⟨middle, hmiddle, hstop⟩ := Option.bind_eq_some_iff.1 hpast
    rw [walk]
    -- what leads on behind the first pattern is the walk of the second
    refine ihp edgeless.1 hprevious hparts hmiddle fun parts hbetween => ?_
    refine ihq edgeless.2 ?_ hbetween hstop hlead
    rw [Cursor.previous_of_past? hmiddle, hprevious]
  | first h ih =>
    rw [isEdgeless, Bool.and_eq_true] at edgeless
    rw [walk]
    split
    · rfl
    · next hnone =>
      -- the first of the two is tried first, and leads to something
      have hfirst := ih edgeless.1 hprevious hparts hpast hlead
      rw [hnone] at hfirst
      cases hfirst
  | second h ih =>
    rw [isEdgeless, Bool.and_eq_true] at edgeless
    rw [walk]
    split
    · rfl
    · exact ih edgeless.2 hprevious hparts hpast hlead
  | present h ih =>
    rw [walk]
    split
    · rfl
    · next hnone =>
      have hpresent := ih edgeless hprevious hparts hpast hlead
      rw [hnone] at hpresent
      cases hpresent
  | absent =>
    rw [walk]
    rw [Cursor.past?] at hpast
    -- what stands here may lead on too, if it is taken
    obtain rfl := Option.some.inj hpast
    split
    · rfl
    · exact hlead parts hparts
  | @part previous found later label p t h ih =>
    rw [walk]
    refine ih edgeless hprevious hparts hpast fun parts hlater => hlead _ ?_
    show (label, c.upTo stop) :: parts.texts = _
    rw [Cursor.upTo_of_past? hpast, hlater]
  | again h =>
    rw [← hparts, Parts.get?_texts] at h
    rw [walk, h, Option.bind_some, hpast]
    exact hlead parts hparts
  | notAfter h =>
    rw [Cursor.past?] at hpast
    obtain rfl := Option.some.inj hpast
    rw [walk, hprevious, h]
    exact hlead parts hparts
  -- an edge looks at what follows, which the pattern does not tell
  | wordEdge => cases edgeless

-- =============================================================== at a place

/-- A match takes a text at its place, and has the parts that are found then. -/
theorem takes_of_matchAt? {p : Pattern} {c : Cursor} {m : Match} (h : p.matchAt? c = some m) :
    m.start = c ∧ c.past? m.text = some m.stop ∧ Takes p c.previous [] m.text m.parts.texts := by
  obtain ⟨t, stop, later, hpast, htakes, hlead⟩ := takes_of_walk p h
  obtain rfl := Option.some.inj hlead
  have htext : (⟨c, stop, later⟩ : Match).text = t := Cursor.upTo_of_past? hpast
  rw [htext]
  exact ⟨rfl, hpast, htakes⟩

/-- What a pattern takes, it matches, if it does not look at edges. -/
theorem exists_matchAt?_of_takes {p : Pattern} (edgeless : p.isEdgeless = true) {c : Cursor}
    {t : Text} {later : Found} (hstarts : t <+: c.rest) (h : Takes p c.previous [] t later) :
    ∃ m, p.matchAt? c = some m := by
  obtain ⟨stop, hpast⟩ := Cursor.exists_past? hstarts
  apply Option.isSome_iff_exists.1
  exact isSome_walk_of_takes h edgeless rfl rfl hpast fun parts _ => rfl

end Pattern

end MockApi
