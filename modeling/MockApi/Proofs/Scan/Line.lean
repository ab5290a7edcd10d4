/-
Lines and the breaks before them. A break starts wherever a carriage return stands, and
at a line feed that has none right in front of it; so whether one starts at an offset is
told by the character there and the one before, and not by how the text is cut into
breaks from its front (`mem_breaks_iff`). What a cut behind an offset takes away
therefore changes no break in front of it, even where it parts a carriage return from
its line feed.

The look-up by halving counts the breaks in front of an offset because they are in
ascending order (`ofBreaks_eq_countP`); that a later offset is on no earlier line holds
for breaks in any order (`ofBreaks_le`).
-/
import Mathlib.Data.List.Nodup
import MockApi.Scan.Line

namespace MockApi.Line

variable {found : Array Nat} {offset later start low high : Nat} {c : CodePoint} {t : Text}

-- ========================================================== looking breaks up

/-- In an ascending array a later entry is no less. -/
theorem getElem_le_of_ascending (ascending : found.toList.Pairwise (· < ·)) {i j : Nat}
    (h : j < found.size) (hij : i ≤ j) : found[i] ≤ found[j] := by
  rcases Nat.lt_or_eq_of_le hij with hlt | rfl
  · exact Nat.le_of_lt (List.pairwise_iff_getElem.1 ascending i j _ h hlt)
  · exact Nat.le_refl _

/-- The place that the search gives lies within its bounds. -/
theorem placeAmong_mem (offset : Nat) (inside : high ≤ found.size) (h : low ≤ high) :
    low ≤ placeAmong found offset low high inside
      ∧ placeAmong found offset low high inside ≤ high := by
  fun_induction placeAmong found offset low high inside with
  | case1 low high inside hlt middle hbefore ih =>
    have hmiddle : middle = (low + high) / 2 := rfl
    obtain ⟨hlow, hhigh⟩ := ih (by omega)
    exact ⟨by omega, hhigh⟩
  | case2 low high inside hlt middle hbehind ih =>
    have hmiddle : middle = (low + high) / 2 := rfl
    obtain ⟨hlow, hhigh⟩ := ih (by omega)
    exact ⟨hlow, by omega⟩
  | case3 low high inside hend => omega

/-- A later offset has no earlier place. The two look-ups take the same way up to a
break between the offsets, which parts them for good. -/
theorem placeAmong_le {inside : high ≤ found.size} (h : offset ≤ later) :
    placeAmong found offset low high inside ≤ placeAmong found later low high inside := by
  fun_induction placeAmong found offset low high inside with
  | case1 low high inside hlt middle hbefore ih =>
    rw [placeAmong.eq_def found later low high, dif_pos hlt]
    simp only
    rw [if_pos (Nat.lt_of_lt_of_le hbefore h)]
    exact ih
  | case2 low high inside hlt middle hbehind ih =>
    rw [placeAmong.eq_def found later low high, dif_pos hlt]
    simp only
    split
    · have hmiddle : middle = (low + high) / 2 := rfl
      have hlow : low ≤ middle := by omega
      have hhigh : middle + 1 ≤ high := by omega
      have hfirst := (placeAmong_mem offset (Nat.le_trans (Nat.le_of_lt hhigh) inside) hlow).2
      have hsecond := (placeAmong_mem later inside hhigh).1
      exact Nat.le_trans hfirst (Nat.le_trans (Nat.le_succ middle) hsecond)
    · exact ih
  | case3 low high inside hend =>
    have hplace : placeAmong found later low high inside = low := by
      rw [placeAmong.eq_def, dif_neg hend]
    exact Nat.le_of_eq hplace.symm

/-- Breaks in ascending order lie before the offset up to its place, and not behind. -/
theorem placeAmong_parts (inside : high ≤ found.size) (ascending : found.toList.Pairwise (· < ·))
    (before : ∀ i (h : i < found.size), i < low → found[i] < offset)
    (behind : ∀ i (h : i < found.size), high ≤ i → offset ≤ found[i]) :
    ∀ i (h : i < found.size),
      found[i] < offset ↔ i < placeAmong found offset low high inside := by
  fun_induction placeAmong found offset low high inside with
  | case1 low high inside hlt middle hbefore ih =>
    refine ih (fun i h hi => ?_) behind
    exact Nat.lt_of_le_of_lt (getElem_le_of_ascending ascending _ (by omega)) hbefore
  | case2 low high inside hlt middle hbehind ih =>
    refine ih before fun i h hi => ?_
    exact Nat.le_trans (Nat.le_of_not_lt hbehind) (getElem_le_of_ascending ascending h hi)
  | case3 low high inside hend =>
    intro i h
    refine ⟨fun hlt => ?_, before i h⟩
    by_contra hnot
    have hbehind := behind i h (by omega)
    omega

theorem ofBreaks_pos (breaks : List Nat) (offset : Nat) : 1 ≤ ofBreaks breaks offset :=
  Nat.le_add_left ..

theorem ofBreaks_le_length (breaks : List Nat) (offset : Nat) :
    ofBreaks breaks offset ≤ breaks.length + 1 :=
  Nat.succ_le_succ (placeAmong_mem offset (by simp) (Nat.zero_le _)).2

/-- Later places are on later lines. -/
theorem ofBreaks_le (breaks : List Nat) (h : offset ≤ later) :
    ofBreaks breaks offset ≤ ofBreaks breaks later :=
  Nat.succ_le_succ (placeAmong_le h)

/-- Of breaks in ascending order the look-up counts those before the offset. -/
theorem ofBreaks_eq_countP {breaks : List Nat} (ascending : breaks.Pairwise (· < ·))
    (offset : Nat) : ofBreaks breaks offset = breaks.countP (· < offset) + 1 := by
  have hinside : breaks.length ≤ breaks.toArray.size := by simp
  have hparts : ∀ i (h : i < breaks.toArray.size),
      breaks.toArray[i] < offset ↔ i < placeAmong breaks.toArray offset 0 breaks.length hinside :=
    placeAmong_parts hinside ascending (fun _ _ h => absurd h (Nat.not_lt_zero _))
      fun i h hi => absurd h (Nat.not_lt.2 hi)
  have hplace := (placeAmong_mem offset hinside (Nat.zero_le _)).2
  unfold ofBreaks
  generalize placeAmong breaks.toArray offset 0 breaks.length _ = place at hparts hplace ⊢
  have hfront : (breaks.take place).countP (· < offset) = place := by
    rw [List.countP_eq_length.2, List.length_take, Nat.min_eq_left hplace]
    intro start hmem
    obtain ⟨i, hi, rfl⟩ := List.mem_take_iff_getElem.1 hmem
    exact decide_eq_true ((hparts i (by simp; omega)).2 (by omega))
  have hback : (breaks.drop place).countP (· < offset) = 0 := by
    rw [List.countP_eq_zero]
    intro start hmem
    obtain ⟨i, hi, rfl⟩ := List.mem_drop_iff_getElem.1 hmem
    rw [decide_eq_true_eq]
    exact fun hlt => absurd ((hparts (place + i) (by simp; omega)).1 hlt) (by omega)
  rw [← List.take_append_drop place breaks, List.countP_append, hfront, hback, Nat.add_zero]

-- =============================================================== the breaks

/-- A break starts at an offset: a carriage return stands there, or a line feed with no
carriage return right in front of it. -/
def startsBreak (t : Text) (offset : Nat) : Bool :=
  t[offset]? == some (.char '\r')
    || t[offset]? == some (.char '\n') && (offset == 0 || t[offset - 1]? != some (.char '\r'))

theorem startsBreak_cons_add_two (c : CodePoint) (t : Text) (k : Nat) :
    startsBreak (c :: t) (k + 2) = startsBreak t (k + 1) := by
  simp [startsBreak]

/-- A character changes no break behind it unless it is a carriage return in front of
its line feed. -/
theorem startsBreak_cons_succ (apart : ¬(c = .char '\r' ∧ t.head? = some (.char '\n')))
    (k : Nat) : startsBreak (c :: t) (k + 1) = startsBreak t k := by
  cases k with
  | zero =>
    unfold startsBreak
    by_cases hc : c = .char '\r'
    · have hfeed : t[0]? ≠ some (.char '\n') := fun h => apart ⟨hc, by rwa [List.head?_eq_getElem?]⟩
      simp [hc, hfeed]
    · have hbefore : (some c != some (.char '\r')) = true := by simpa using hc
      simp [hbefore]
  | succ k => exact startsBreak_cons_add_two c t k

/-- A character that is not in front of its line feed makes no pair with it. -/
theorem not_pair_of_apart
    (apart : ∀ rest, c = .char '\r' → t = .char '\n' :: rest → False) :
    ¬(c = .char '\r' ∧ t.head? = some (.char '\n')) := by
  rintro ⟨hc, hfeed⟩
  obtain ⟨rest, ht⟩ := List.head?_eq_some_iff.1 hfeed
  exact apart rest hc ht

/-- The breaks that are found are the offsets at which one starts. The induction is on the
text as it is cut: behind a break of two characters no character is a line feed whose
carriage return was taken away. -/
theorem mem_breaksFrom_iff (t : Text) (start : Nat) :
    offset ∈ breaksFrom start t ↔ ∃ k, offset = start + k ∧ startsBreak t k = true := by
  fun_induction breaksFrom start t with
  | case1 => simp [startsBreak]
  | case2 start rest ih =>
    -- a pair is one break: its line feed starts none
    have hrest : ∀ k, startsBreak (.char '\r' :: .char '\n' :: rest) (k + 2)
        = startsBreak rest k := by
      intro k
      rw [startsBreak_cons_add_two, startsBreak_cons_succ (by simp)]
    rw [List.mem_cons, ih]
    constructor
    · rintro (rfl | ⟨k, rfl, hk⟩)
      · exact ⟨0, rfl, rfl⟩
      · exact ⟨k + 2, by omega, (hrest k).trans hk⟩
    · rintro ⟨k, rfl, hk⟩
      match k with
      | 0 => exact .inl rfl
      | 1 => cases hk
      | k + 2 => exact .inr ⟨k, by omega, (hrest k).symm.trans hk⟩
  | case3 start c rest apart hbreak ih =>
    -- any other end of a line is a break of one character
    have hfront : startsBreak (c :: rest) 0 = true := by
      rcases hbreak with rfl | rfl
      · rfl
      · rfl
    have hrest := startsBreak_cons_succ (not_pair_of_apart apart)
    rw [List.mem_cons, ih]
    constructor
    · rintro (rfl | ⟨k, rfl, hk⟩)
      · exact ⟨0, rfl, hfront⟩
      · exact ⟨k + 1, by omega, (hrest k).trans hk⟩
    · rintro ⟨k, rfl, hk⟩
      match k with
      | 0 => exact .inl rfl
      | k + 1 => exact .inr ⟨k, by omega, (hrest k).symm.trans hk⟩
  | case4 start c rest apart hother ih =>
    -- no break starts here
    have hfront : startsBreak (c :: rest) 0 = false := by
      simpa [startsBreak] using hother
    have hrest := startsBreak_cons_succ (not_pair_of_apart apart)
    rw [ih]
    constructor
    · rintro ⟨k, rfl, hk⟩
      exact ⟨k + 1, by omega, (hrest k).trans hk⟩
    · rintro ⟨k, rfl, hk⟩
      match k with
      | 0 => exact absurd (hfront.symm.trans hk) Bool.false_ne_true
      | k + 1 => exact ⟨k, by omega, (hrest k).symm.trans hk⟩

/-- Breaks come in ascending order, from the offset on at which they are looked for. -/
theorem ascending_breaksFrom (t : Text) (start : Nat) :
    (breaksFrom start t).Pairwise (· < ·) := by
  fun_induction breaksFrom start t with
  | case1 => exact .nil
  | case2 start rest ih =>
    refine .cons (fun later hlater => ?_) ih
    obtain ⟨k, rfl, -⟩ := (mem_breaksFrom_iff rest _).1 hlater
    omega
  | case3 start c rest apart hbreak ih =>
    refine .cons (fun later hlater => ?_) ih
    obtain ⟨k, rfl, -⟩ := (mem_breaksFrom_iff rest _).1 hlater
    omega
  | case4 start c rest apart hother ih => exact ih

theorem ascending_breaks (t : Text) : (breaks t).Pairwise (· < ·) := ascending_breaksFrom t 0

theorem mem_breaks_iff (t : Text) : offset ∈ breaks t ↔ startsBreak t offset = true := by
  simp [breaks, mem_breaksFrom_iff]

/-- The breaks in front of an offset are counted by the offsets at which they start. -/
theorem countP_breaks (t : Text) (offset : Nat) :
    (breaks t).countP (· < offset) = (List.range offset).countP (startsBreak t) := by
  have hperm : ((breaks t).filter (· < offset)).Perm
      ((List.range offset).filter (startsBreak t)) := by
    refine (List.perm_ext_iff_of_nodup ?_ ?_).2 fun start => ?_
    · exact ((ascending_breaks t).imp Nat.ne_of_lt).filter _
    · exact List.nodup_range.filter _
    · rw [List.mem_filter, List.mem_filter, mem_breaks_iff, List.mem_range, decide_eq_true_eq,
        and_comm]
  rw [List.countP_eq_length_filter, List.countP_eq_length_filter, hperm.length_eq]

-- ================================================================= the lines

/-- A cut behind an offset leaves the break that starts there, if one does. -/
theorem startsBreak_take (t : Text) {start : Nat} (h : start < offset) :
    startsBreak (t.take offset) start = startsBreak t start := by
  unfold startsBreak
  rw [List.getElem?_take_of_lt h, List.getElem?_take_of_lt (by omega)]

/-- The line of an offset. It is one more than the number of offsets in front of it at
which a break starts, no later offset is on an earlier line, and the text in front of the
offset tells it as well as the whole text does, wherever the cut falls. -/
theorem line_of_offset (t : Text) (offset : Nat) :
    ofBreaks (breaks t) offset = (List.range offset).countP (startsBreak t) + 1
      ∧ (∀ later, offset ≤ later → ofBreaks (breaks t) offset ≤ ofBreaks (breaks t) later)
      ∧ ofOffset t offset = ofBreaks (breaks t) offset := by
  have hline : ∀ t : Text,
      ofBreaks (breaks t) offset = (List.range offset).countP (startsBreak t) + 1 := by
    intro t
    rw [ofBreaks_eq_countP (ascending_breaks t), countP_breaks]
  refine ⟨hline t, fun later => ofBreaks_le (breaks t), ?_⟩
  rw [ofOffset, hline, hline]
  congr 1
  refine List.countP_congr fun start hstart => ?_
  rw [startsBreak_take t (List.mem_range.1 hstart)]

/-- Between a carriage return and its line feed an offset is on the next line already. -/
example : (List.range 6).map (ofOffset "a\r\nb\n") = [1, 1, 2, 2, 2, 3] := by decide +kernel

end MockApi.Line
