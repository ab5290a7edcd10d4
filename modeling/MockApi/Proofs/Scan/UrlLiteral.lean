/-
What becomes of a URL literal. Every replacement puts a colon and a name there,
and the name is the placeholder's or stands in what is replaced; so the URL of a
literal has no more digits than the literal (`countP_normalize?`).
-/
import MockApi.Scan.UrlLiteral
import MockApi.Text.Digit

namespace MockApi.UrlLiteral

variable {read? : Text → Option (Nat × Text)} {t : Text}

/-- The reader takes at least one character, and what it puts in the place of what
it takes has no more digits than that. -/
def AddsNoDigits (read? : Text → Option (Nat × Text)) : Prop :=
  ∀ t length new, read? t = some (length, new) →
    0 < length ∧ new.countP Text.isDigit ≤ (t.take length).countP Text.isDigit

-- ============================================================== replacing

/-- What has been passed over is what the reader took. -/
theorem countP_replaceFrom (h : AddsNoDigits read?) (passed : Nat) (t : Text) :
    (replaceFrom read? passed t).countP Text.isDigit ≤ (t.drop passed).countP Text.isDigit := by
  induction t generalizing passed with
  | nil =>
    rw [replaceFrom]
    exact Nat.zero_le _
  | cons c rest ih =>
    cases passed with
    | succ passed =>
      rw [replaceFrom, List.drop_succ_cons]
      exact ih passed
    | zero =>
      rw [replaceFrom, List.drop_zero]
      split
      · next length new hread =>
        -- the digits of what is put in were in what it replaces
        obtain ⟨hpos, hnew⟩ := h _ _ _ hread
        have hrest := ih (length - 1)
        have hdrop : (c :: rest).drop length = rest.drop (length - 1) := by
          obtain ⟨k, rfl⟩ := Nat.exists_eq_succ_of_ne_zero (Nat.ne_of_gt hpos)
          rfl
        calc (new ++ replaceFrom read? (length - 1) rest).countP Text.isDigit
            = new.countP Text.isDigit
              + (replaceFrom read? (length - 1) rest).countP Text.isDigit := List.countP_append
          _ ≤ ((c :: rest).take length).countP Text.isDigit
              + ((c :: rest).drop length).countP Text.isDigit :=
            Nat.add_le_add hnew (hdrop ▸ hrest)
          _ = (c :: rest).countP Text.isDigit := by
            rw [← List.countP_append, List.take_append_drop]
      · have hrest := ih 0
        rw [List.drop_zero] at hrest
        rw [List.countP_cons, List.countP_cons]
        exact Nat.add_le_add_right hrest _

theorem countP_replaceAll (h : AddsNoDigits read?) (t : Text) :
    (replaceAll read? t).countP Text.isDigit ≤ t.countP Text.isDigit :=
  countP_replaceFrom h 0 t

/-- To leave out a base leaves the rest in order. -/
theorem withoutBase_sublist (read? : Text → Option (Nat × Text)) (t : Text) :
    (withoutBase read? t).Sublist t := by
  unfold withoutBase
  split
  · split
    · exact List.drop_sublist ..
    · exact .refl t
  · exact .refl t

-- ============================================================ the readers

theorem countP_placeholder : placeholder.countP Text.isDigit = 0 := by decide

/-- Braces add no digits. -/
theorem braced_addsNoDigits : AddsNoDigits braced? := by
  intro t length new h
  unfold braced? at h
  split at h
  · obtain ⟨n, -, hread⟩ := Option.map_eq_some_iff.1 h
    obtain ⟨rfl, rfl⟩ := Prod.mk.inj hread
    rw [countP_placeholder]
    exact ⟨Nat.succ_pos n, Nat.zero_le _⟩
  · cases h

/-- Interpolations add no digits. -/
theorem interpolation_addsNoDigits : AddsNoDigits interpolation? := by
  intro t length new h
  unfold interpolation? at h
  split at h
  · obtain ⟨inner, -, hread⟩ := Option.map_eq_some_iff.1 h
    obtain ⟨rfl, rfl⟩ := Prod.mk.inj hread
    rw [countP_placeholder]
    exact ⟨Nat.succ_pos _, Nat.zero_le _⟩
  · cases h

/-- A name is the front of its text. -/
theorem eq_take_of_name? {name : Text} (h : name? t = some name) : name = t.take name.length := by
  unfold name? at h
  simp only at h
  split at h
  · rw [← Option.some.inj h]
    exact List.prefix_iff_eq_take.1 (List.takeWhile_prefix _)
  · cases h

/-- A name that stands in what is taken has no more digits than that. -/
theorem countP_colon_name_le (start : Nat) {length : Nat} {name : Text}
    (h : name? (t.drop start) = some name) (hlength : start + name.length ≤ length) :
    ((':' : CodePoint) :: name).countP Text.isDigit ≤ (t.take length).countP Text.isDigit := by
  have hname : name = (t.take (start + name.length)).drop start := by
    rw [← List.take_drop]
    exact eq_take_of_name? h
  have hsublist : name.Sublist (t.take length) := by
    rw [hname]
    exact (List.drop_sublist ..).trans (List.take_sublist_take_left hlength)
  rw [List.countP_cons_of_neg (by decide)]
  exact hsublist.countP_le

/-- A name in braces adds none, since its own were there. -/
theorem bracedName_addsNoDigits : AddsNoDigits bracedName? := by
  intro t length new h
  unfold bracedName? at h
  split at h
  · next rest =>
    obtain ⟨name, hname, h⟩ := Option.bind_eq_some_iff.1 h
    split at h
    · obtain ⟨rfl, rfl⟩ := Prod.mk.inj (Option.some.inj h)
      exact ⟨Nat.succ_pos _, countP_colon_name_le 1 hname (by omega)⟩
    · obtain ⟨n, -, hread⟩ := Option.map_eq_some_iff.1 h
      obtain ⟨rfl, rfl⟩ := Prod.mk.inj hread
      exact ⟨by omega, countP_colon_name_le 1 hname (by omega)⟩
    · cases h
  · cases h

/-- A name in angle brackets adds no digits, since its own were there. -/
theorem angled_addsNoDigits : AddsNoDigits angled? := by
  intro t length new h
  unfold angled? at h
  split at h
  · next rest =>
    obtain ⟨first, hfirst, h⟩ := Option.bind_eq_some_iff.1 h
    split at h
    · next converted behind hbehind =>
      obtain ⟨name, hname, h⟩ := Option.bind_eq_some_iff.1 h
      obtain ⟨n, -, h⟩ := Option.bind_eq_some_iff.1 h
      obtain ⟨rfl, rfl⟩ := Prod.mk.inj (Option.some.inj h)
      have hdrop : (('<' : CodePoint) :: rest).drop (first.length + 2) = behind := by
        rw [List.drop_succ_cons, ← List.drop_drop, hbehind]
        rfl
      exact ⟨by omega, countP_colon_name_le (first.length + 2) (hdrop ▸ hname) (by omega)⟩
    · obtain ⟨n, -, h⟩ := Option.bind_eq_some_iff.1 h
      obtain ⟨rfl, rfl⟩ := Prod.mk.inj (Option.some.inj h)
      exact ⟨by omega, countP_colon_name_le 1 hfirst (by omega)⟩
  · cases h

-- =========================================================== normalization

/-- To trim a text leaves the rest in order. -/
theorem trim_sublist (t : Text) : (Text.trim t).Sublist t := by
  have hend : ∀ t : Text, (Text.trimEnd t).Sublist t := fun t =>
    List.reverse_sublist.1 (by
      rw [Text.trimEnd, List.reverse_reverse]
      exact List.dropWhile_sublist _)
  exact (hend _).trans (List.dropWhile_sublist _)

/-- The text of a literal once its interpolations are told. -/
theorem countP_interpolated (isFormat : Bool) (t : Text) :
    (replaceAll interpolation? (withoutBase interpolation?
        (if isFormat then replaceAll braced? (withoutBase braced? t) else t))).countP Text.isDigit
      ≤ t.countP Text.isDigit := by
  refine Nat.le_trans (countP_replaceAll interpolation_addsNoDigits _) ?_
  refine Nat.le_trans (withoutBase_sublist ..).countP_le ?_
  split
  · exact Nat.le_trans (countP_replaceAll braced_addsNoDigits _) (withoutBase_sublist ..).countP_le
  · exact Nat.le_refl _

/-- The URL of a literal has no more digits than the literal. -/
theorem countP_normalize? {isFormat : Bool} {literal url : Text}
    (h : normalize? isFormat literal = some url) :
    url.countP Text.isDigit ≤ literal.countP Text.isDigit := by
  unfold normalize? at h
  have hinterpolated := countP_interpolated isFormat (Text.trim literal)
  simp only at h
  generalize replaceAll interpolation? _ = interpolated at h hinterpolated
  split at h
  · cases h
  · split at h
    · cases h
    · rw [← Option.some.inj h]
      refine Nat.le_trans (countP_replaceAll braced_addsNoDigits _) ?_
      refine Nat.le_trans (countP_replaceAll bracedName_addsNoDigits _) ?_
      refine Nat.le_trans (countP_replaceAll angled_addsNoDigits _) ?_
      exact Nat.le_trans hinterpolated (trim_sublist literal).countP_le

/-- Nor has it more digits than a literal may have characters. -/
theorem countP_le_of_normalize? {isFormat : Bool} {literal url : Text} {most : Nat}
    (short : literal.length ≤ most) (h : normalize? isFormat literal = some url) :
    url.countP Text.isDigit ≤ most :=
  calc url.countP Text.isDigit
      ≤ literal.countP Text.isDigit := countP_normalize? h
    _ ≤ literal.length := List.countP_le_length
    _ ≤ most := short

end MockApi.UrlLiteral
