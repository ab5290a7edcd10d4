/-
What can be told of a resource. Everything about the resource of a URL is told
if the URL is legible and has no more digits than a number may have: the name
from the segments, and the ids from the digits among them.
-/
import MockApi.Mock.Resource
import MockApi.Proofs.Decimal.Integer
import MockApi.Proofs.Route.Legible

namespace MockApi.Resource

open MockApi.Path (IsLegible)

variable {url path : Text}

-- ================================================================== segments

theorem routeSegments_isOk_iff (url : Text) :
    (Path.routeSegments url).isOk = true ↔ IsLegible url [] := by
  rw [Path.routeSegments, isOk_map, Path.routePattern_isOk_iff]

theorem nameOf_isOk_iff (url : Text) : (nameOf url).isOk = true ↔ IsLegible url [] := by
  rw [← routeSegments_isOk_iff, nameOf, isOk_bind_iff, isOk_iff_exists]
  exact exists_congr fun parts => and_iff_left rfl

theorem isCollection_isOk_iff (url : Text) : (isCollection url).isOk = true ↔ IsLegible url [] := by
  rw [← routeSegments_isOk_iff, isCollection, isOk_map]

-- ======================================================================= ids

/-- The text without a character at its front. -/
def withoutHead (c : CodePoint) (t : Text) : Text := if t.head? == some c then t.drop 1 else t

/-- What is taken off the head leaves the rest in order. -/
theorem withoutHead_sublist (c : CodePoint) (t : Text) : (withoutHead c t).Sublist t := by
  unfold withoutHead
  split
  · exact List.drop_sublist ..
  · exact .refl t

/-- Another character than the one to be taken off stays. -/
theorem withoutHead_cons {c d : CodePoint} (h : d ≠ c) (t : Text) :
    withoutHead c (d :: t) = d :: t := by
  rw [withoutHead, List.head?_cons, if_neg]
  rw [beq_iff_eq, Option.some_inj]
  exact h

/-- The digits in front of a slash, of a path that is read from its back. -/
def digitsToSlash? (back : Text) : Option Text :=
  let digits := back.takeWhile Text.isDigit
  if digits.isEmpty || (back.drop digits.length).head? != some '/' then none
  else some digits.reverse

theorem finalDigits?_eq (path : Text) :
    finalDigits? path = digitsToSlash? (withoutHead '/' (withoutHead '\n' path.reverse)) := rfl

/-- The digits at the end of a path are digits of the path. -/
theorem of_finalDigits? {digits : Text} (h : finalDigits? path = some digits) :
    digits ≠ [] ∧ (∀ c ∈ digits, Text.isDigit c = true)
      ∧ digits.length ≤ path.countP Text.isDigit := by
  have hback := (withoutHead_sublist '/' _).trans (withoutHead_sublist '\n' path.reverse)
  rw [finalDigits?_eq] at h
  generalize withoutHead '/' (withoutHead '\n' path.reverse) = back at h hback
  unfold digitsToSlash? at h
  simp only at h
  split at h
  · cases h
  · next hnot =>
    obtain rfl := Option.some.inj h
    rw [Bool.or_eq_true, not_or, List.isEmpty_iff] at hnot
    have hdigits : ∀ c ∈ (back.takeWhile Text.isDigit).reverse, Text.isDigit c = true :=
      fun c hc => List.mem_takeWhile_imp (List.mem_reverse.1 hc)
    refine ⟨fun hnil => hnot.1 (List.reverse_eq_nil_iff.1 hnil), hdigits, ?_⟩
    rw [← List.countP_eq_length.2 hdigits, List.countP_reverse, ← List.countP_reverse (l := path)]
    exact ((List.takeWhile_sublist _).trans hback).countP_le

/-- A numeric segment is made of digits and what may stand behind them. -/
theorem exists_of_isNumeric {segment : Text} (h : Path.isNumeric segment = true) :
    ∃ digits tail, segment = digits ++ tail ∧ digits ≠ []
      ∧ (∀ c ∈ digits, Text.isDigit c = true) ∧ IsNumeralEnd tail := by
  unfold Path.isNumeric at h
  simp only at h
  rw [Bool.and_eq_true, Bool.not_eq_true', List.isEmpty_eq_false_iff, Bool.or_eq_true,
    List.isEmpty_iff, beq_iff_eq] at h
  exact ⟨_, _, List.takeWhile_append_dropWhile.symm, h.1, fun _ hc => List.mem_takeWhile_imp hc,
    h.2⟩

/-- With few enough digits, the id of a URL is read if the URL is. -/
theorem idOf?_isOk_iff (few : url.countP Text.isDigit ≤ digitLimit) :
    (idOf? url).isOk = true ↔ IsLegible url [] := by
  rw [← Path.routePattern_isOk_iff, idOf?, isOk_bind_iff, isOk_iff_exists]
  refine exists_congr fun path => ?_
  rw [mapError_eq_ok]
  refine and_iff_left_of_imp fun hpath => ?_
  cases hdigits : finalDigits? path with
  | none => rfl
  | some digits =>
    obtain ⟨hne, hall, hlength⟩ := of_finalDigits? hdigits
    have hfew := Nat.le_trans hlength (Nat.le_trans (Path.countP_routePattern (by decide) hpath) few)
    have hread := readInteger_isOk hne hall hfew (Or.inl rfl)
    rw [List.append_nil] at hread
    change (((readInteger digits).mapError Error.numeral).map some).isOk = true
    rw [isOk_map, isOk_mapError]
    exact hread

/-- With few enough digits, the id in front of an action is read if the URL is. -/
theorem idBeforeAction?_isOk_iff (few : url.countP Text.isDigit ≤ digitLimit) :
    (idBeforeAction? url).isOk = true ↔ IsLegible url [] := by
  rw [← routeSegments_isOk_iff, idBeforeAction?, isOk_bind_iff, isOk_iff_exists]
  refine exists_congr fun parts => ?_
  rw [mapError_eq_ok]
  refine and_iff_left_of_imp fun hparts => ?_
  split
  · next part hpart =>
    split
    · next hnumeric =>
      obtain ⟨digits, tail, rfl, hne, hall, htail⟩ := exists_of_isNumeric hnumeric
      have hmem := List.dropLast_subset _ (List.mem_of_getLast? hpart)
      have hlength : digits.length ≤ url.countP Text.isDigit := by
        rw [← List.countP_eq_length.2 hall]
        exact Nat.le_trans (List.sublist_append_left ..).countP_le
          (Path.countP_of_mem_routeSegments (by decide) hparts hmem)
      change (((readInteger (digits ++ tail)).mapError Error.numeral).map some).isOk = true
      rw [isOk_map, isOk_mapError]
      exact readInteger_isOk hne hall (Nat.le_trans hlength few) htail
    · rfl
  · rfl

-- ==================================================================== causes

/-- The resource cannot be told because the URL cannot be read, or because a number in it
has too many digits. -/
def Error.IsOfUrl : Error → Prop
  | .url _ | .numeral (.tooManyDigits _) => True
  | .numeral _ => False

/-- Digits of a URL are too many to be read, if they are not read. -/
theorem failsOnly_readInteger {digits tail : Text} (h : IsNumeral digits)
    (htail : IsNumeralEnd tail) :
    FailsOnly Error.IsOfUrl ((readInteger (digits ++ tail)).mapError .numeral) := by
  rw [readInteger_numeral h htail]
  split
  · exact failsOnly_error trivial
  · exact failsOnly_ok _ _

/-- The reading of an id fails for the URL or for the number of its digits. -/
theorem failsOnly_idOf? (url : Text) : FailsOnly Error.IsOfUrl (idOf? url) := by
  refine FailsOnly.bind (FailsOnly.mapError fun cause _ => trivial) fun path _ => ?_
  cases hdigits : finalDigits? path with
  | none => exact failsOnly_ok _ _
  | some digits =>
    obtain ⟨hne, hall, -⟩ := of_finalDigits? hdigits
    have hread := failsOnly_readInteger ⟨hne, hall⟩ (.inl rfl)
    rw [List.append_nil] at hread
    exact hread.map some

/-- The reading of an id in front of an action fails for the URL or for the number of
its digits. -/
theorem failsOnly_idBeforeAction? (url : Text) : FailsOnly Error.IsOfUrl (idBeforeAction? url) := by
  refine FailsOnly.bind (FailsOnly.mapError fun cause _ => trivial) fun parts _ => ?_
  split
  · split
    · next hnumeric =>
      obtain ⟨digits, tail, rfl, hne, hall, htail⟩ := exists_of_isNumeric hnumeric
      exact (failsOnly_readInteger ⟨hne, hall⟩ htail).map some
    · exact failsOnly_ok _ _
  · exact failsOnly_ok _ _

end MockApi.Resource
