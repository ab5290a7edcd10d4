/-
How the readers of strings and scalars end. A reader that succeeds takes
something of its text and leaves the end of it (`IsRest`). One that refuses
names a flaw, or it has met a run of more digits than a number may have; that
brackets are nested too deeply it can only say where there are brackets, which
is kept open here for the readers of values (`Ends`).
-/
import Mathlib.Data.List.TakeWhile
import MockApi.Proofs.Json.Parser

namespace MockApi.Json.Parser

variable {α β : Type} {deep deeper : Prop} {t rest : Text}

-- ================================================================ progress

/-- The end of a text of which something was taken. -/
def IsRest (rest t : Text) : Prop := rest <:+ t ∧ rest.length < t.length

/-- A run of more digits than a number may have stands in the text. -/
def HasLongRun (t : Text) : Prop :=
  ∃ run, run <:+: t ∧ run.all Text.isAsciiDigit = true ∧ digitLimit < run.length

/-- What a reader does to a text: it leaves a rest, it names a flaw, it refuses
a run of digits, or, where it gets that deep, it refuses a bracket. -/
def Ends (deep : Prop) (t : Text) : Except Stop (α × Text) → Prop
  | .ok found => IsRest found.2 t
  | .error (.flaw ..) => True
  | .error (.numeral _) => HasLongRun t
  | .error .tooDeep => deep

theorem isRest_cons (c : CodePoint) (rest : Text) : IsRest rest (c :: rest) :=
  ⟨List.suffix_cons c rest, Nat.lt_succ_self _⟩

theorem IsRest.of_suffix {behind : Text} (h : IsRest behind rest) (hrest : rest <:+ t) :
    IsRest behind t :=
  ⟨h.1.trans hrest, Nat.lt_of_lt_of_le h.2 hrest.length_le⟩

theorem IsRest.skip {behind : Text} (h : behind <:+ rest) (hrest : IsRest rest t) :
    IsRest behind t :=
  ⟨h.trans hrest.1, Nat.lt_of_le_of_lt h.length_le hrest.2⟩

theorem IsRest.tail {c : CodePoint} (h : IsRest (c :: rest) t) : IsRest rest t :=
  h.skip (List.suffix_cons c rest)

theorem skipSpaces_suffix (t : Text) : skipSpaces t <:+ t := List.dropWhile_suffix _

theorem IsRest.spaces (h : IsRest rest t) : IsRest (skipSpaces rest) t :=
  h.skip (skipSpaces_suffix rest)

theorem HasLongRun.of_suffix (h : HasLongRun rest) (hrest : rest <:+ t) : HasLongRun t := by
  obtain ⟨run, hrun, hdigits, hlength⟩ := h
  exact ⟨run, hrun.trans hrest.isInfix, hdigits, hlength⟩

/-- A reading that ends well on a rest ends well on the text. -/
theorem Ends.of_suffix {x : Except Stop (α × Text)} (h : Ends deep rest x) (hrest : rest <:+ t) :
    Ends deep t x := by
  match x, h with
  | .ok _, h => exact IsRest.of_suffix h hrest
  | .error (.flaw ..), _ => exact trivial
  | .error (.numeral _), h => exact HasLongRun.of_suffix h hrest
  | .error .tooDeep, h => exact h

/-- The ways to end may be widened. -/
theorem Ends.imp {x : Except Stop (α × Text)} (h : Ends deep t x) (hdeep : deep → deeper) :
    Ends deeper t x := by
  match x, h with
  | .ok _, h => exact h
  | .error (.flaw ..), _ => exact trivial
  | .error (.numeral _), h => exact h
  | .error .tooDeep, h => exact hdeep h

/-- A reader and what goes on behind it. -/
theorem Ends.bind {x : Except Stop (α × Text)} {f : α × Text → Except Stop (β × Text)}
    (hx : Ends deep t x)
    (hf : ∀ a rest, x = .ok (a, rest) → IsRest rest t → Ends deep t (f (a, rest))) :
    Ends deep t (x >>= f) := by
  match x, hx with
  | .ok (a, rest), hx => exact hf a rest rfl hx
  | .error (.flaw ..), _ => exact trivial
  | .error (.numeral _), hx => exact hx
  | .error .tooDeep, hx => exact hx

-- ================================================================= strings

/-- Behind a second half of a pair there is a rest. -/
theorem lowHalf?_suffix {low : Nat} {behind : Text}
    (h : lowHalf? t = .ok (some (low, behind))) : behind <:+ t := by
  unfold lowHalf? at h
  split at h
  · next a b c d next rest =>
    split at h
    · cases h
    · split at h
      · obtain ⟨-, rfl⟩ := Prod.mk.inj (Option.some.inj (Except.ok.inj h))
        exact ⟨[.char '\\', .char 'u', a, b, c, d], rfl⟩
      · cases Except.ok.inj h
  · cases Except.ok.inj h

/-- The second half of a pair is refused for a flaw only. -/
theorem lowHalf?_flaw {e : Stop} (h : lowHalf? t = .error e) :
    ∃ flaw remaining, e = .flaw flaw remaining := by
  unfold lowHalf? at h
  split at h
  · split at h
    · exact ⟨_, _, (Except.error.inj h).symm⟩
    · cases h
  · cases h

/-- A numeric escape ends at a rest, or with a flaw. -/
theorem unicodeEscape_ends (t : Text) : Ends deep t (unicodeEscape t) := by
  unfold unicodeEscape
  split
  · next a b c d next rest =>
    have hrest : IsRest (next :: rest) (a :: b :: c :: d :: next :: rest) :=
      ⟨⟨[a, b, c, d], rfl⟩, by simp⟩
    split
    · exact trivial
    · split
      · cases hlow : lowHalf? (next :: rest) with
        | error e =>
          obtain ⟨flaw, remaining, rfl⟩ := lowHalf?_flaw hlow
          exact trivial
        | ok found =>
          rcases found with _ | ⟨low, behind⟩
          · exact hrest
          · exact hrest.skip (lowHalf?_suffix hlow)
      · exact hrest
  · exact trivial

/-- The body of a string ends at a rest, or with a flaw, by induction on its fuel. -/
theorem stringBody_ends (opened fuel : Nat) (t : Text) :
    Ends deep t (stringBody opened fuel t) := by
  induction fuel generalizing t with
  | zero =>
    unfold stringBody
    exact trivial
  | succ fuel ih =>
    -- every character of the body is one more reader in front of the rest of it
    have hlater : ∀ (c : CodePoint) (rest : Text), IsRest rest t →
        Ends deep t (stringBody opened fuel rest >>= fun body => pure (c :: body.1, body.2)) := by
      intro c rest hrest
      refine ((ih rest).of_suffix hrest.1).bind ?_
      intro body tail _ htail
      exact htail
    cases t with
    | nil => exact trivial
    | cons c rest =>
      unfold stringBody
      simp only
      split
      · exact isRest_cons c rest
      · split
        · cases rest with
          | nil => exact trivial
          | cons e tail =>
            have htail : IsRest tail (c :: e :: tail) := (isRest_cons c (e :: tail)).tail
            simp only
            split
            · refine ((unicodeEscape_ends tail).of_suffix htail.1).bind ?_
              intro escaped behind _ hbehind
              exact hlater escaped behind hbehind
            · split
              · exact trivial
              · exact hlater _ tail htail
        · split
          · exact trivial
          · exact hlater c rest (isRest_cons c rest)

theorem string_ends (t : Text) : Ends deep t (string t) := stringBody_ends ..

-- ================================================================= numbers

/-- The whole part of a number is not empty and stands in front of what is left. -/
theorem append_of_wholePart? {whole : Text} (h : wholePart? t = some (whole, rest)) :
    whole ++ rest = t ∧ whole ≠ [] := by
  unfold wholePart? at h
  split at h
  · obtain ⟨rfl, rfl⟩ := Prod.mk.inj (Option.some.inj h)
    exact ⟨rfl, by decide⟩
  · split at h
    · cases h
    · next ds behind hne hdigits =>
      obtain ⟨rfl, rfl⟩ := Prod.mk.inj (Option.some.inj h)
      obtain ⟨hds, hbehind⟩ := Prod.mk.inj hdigits
      refine ⟨?_, ?_⟩
      · rw [← hds, ← hbehind]
        exact List.takeWhile_append_dropWhile
      · rintro rfl
        exact hne rfl

theorem digits_suffix {ds : Text} (h : digits t = (ds, rest)) : rest <:+ t := by
  rw [← (Prod.mk.inj h).2]
  exact List.dropWhile_suffix _

theorem fraction?_suffix {ds : Text} (h : fraction? t = some (ds, rest)) : rest <:+ t := by
  unfold fraction? at h
  split at h
  · next behind =>
    split at h
    · cases h
    · next hdigits =>
      obtain ⟨rfl, rfl⟩ := Prod.mk.inj (Option.some.inj h)
      exact (digits_suffix hdigits).trans (List.suffix_cons ..)
  · cases h

/-- The exponent of a number leaves a rest. -/
theorem exponent?_suffix {n : Int} (h : exponent? t = some (n, rest)) : rest <:+ t := by
  unfold exponent? at h
  split at h
  · next e behind =>
    have hbehind : ∀ {signed ds tail : Text}, signed <:+ behind →
        digits signed = (ds, tail) → tail <:+ e :: behind := by
      intro signed ds tail hsigned hdigits
      exact ((digits_suffix hdigits).trans hsigned).trans (List.suffix_cons e behind)
    split at h
    -- behind the letter there is a minus, a plus or no sign
    · simp only at h
      split at h
      · cases h
      · next hdigits =>
        obtain ⟨-, rfl⟩ := Prod.mk.inj (Option.some.inj h)
        refine hbehind ?_ hdigits
        split
        · exact List.suffix_cons ..
        · exact List.suffix_cons ..
        · exact List.suffix_refl _
    · cases h
  · cases h

/-- The digits of a number are a run of the text. -/
theorem unsigned_ends {negative : Bool} {read : Except Stop (Json × Text)}
    (h : unsigned negative t = some read) : Ends deep t read := by
  unfold unsigned at h
  split at h
  · cases h
  · next whole behind hwhole =>
    obtain ⟨happend, hne⟩ := append_of_wholePart? hwhole
    -- the whole part is not empty, so all behind it is a rest
    have hbehind : IsRest behind t := by
      rw [← happend]
      refine ⟨List.suffix_append whole behind, ?_⟩
      have hpos := List.length_pos_iff.2 hne
      rw [List.length_append]
      omega
    -- fraction and exponent only skip more; without both the digits are counted
    cases hfraction : fraction? behind with
    | some fraction =>
      have hplaces := hbehind.skip (fraction?_suffix hfraction)
      cases hexponent : exponent? fraction.2 with
      | some exponent =>
        simp only [hfraction, Option.getD_some, hexponent] at h
        rw [← Option.some.inj h]
        exact hplaces.skip (exponent?_suffix hexponent)
      | none =>
        simp only [hfraction, Option.getD_some, hexponent] at h
        rw [← Option.some.inj h]
        exact hplaces
    | none =>
      cases hexponent : exponent? behind with
      | some exponent =>
        simp only [hfraction, Option.getD_none, hexponent] at h
        rw [← Option.some.inj h]
        exact hbehind.skip (exponent?_suffix hexponent)
      | none =>
        simp only [hfraction, Option.getD_none, hexponent] at h
        rw [← Option.some.inj h]
        by_cases hlength : digitLimit < whole.length
        · simp only [Option.isNone_none, Bool.and_self, if_true, hlength]
          exact ⟨whole, ⟨[], behind, happend⟩,
            List.all_eq_true.2 (isAsciiDigit_of_wholePart? hwhole), hlength⟩
        · simp only [Option.isNone_none, Bool.and_self, if_true, hlength, if_false]
          exact hbehind

/-- A value of one word ends at a rest, with a flaw or at a run of digits that
is too long. -/
theorem scalar_ends (t : Text) : Ends deep t (scalar t) := by
  unfold scalar
  split
  · next found hfound =>
    obtain ⟨entry, hmem, hentry⟩ := List.exists_of_findSome?_eq_some hfound
    obtain ⟨behind, hbehind, rfl⟩ := Option.map_eq_some_iff.1 hentry
    have hconstants : ∀ entry ∈ constants, 0 < entry.1.length := by decide
    have hpositive := hconstants entry hmem
    unfold Text.afterPiece? at hbehind
    split at hbehind
    · next hfront =>
      obtain rfl := Option.some.inj hbehind
      have hle := (List.isPrefixOf_iff_prefix.1 hfront).length_le
      refine ⟨List.drop_suffix _ _, ?_⟩
      simp only [List.length_drop]
      omega
    · cases hbehind
  -- a number, behind its sign if it has one
  · have hread : ∀ {u : Text} {found : Option (Except Stop (Json × Text))}, u <:+ t →
        (∀ read, found = some read → Ends deep u read) →
        Ends deep t (found.getD (.error (.flaw .expectingValue t.length))) := by
      intro u found hu hfound
      cases found with
      | none => exact trivial
      | some read => exact (hfound read rfl).of_suffix hu
    unfold number
    simp only
    split
    · next behind _ =>
      refine hread (List.suffix_cons (CodePoint.char '-') behind) fun read h => ?_
      exact unsigned_ends h
    · exact hread (List.suffix_refl t) fun read h => unsigned_ends h

end MockApi.Json.Parser
