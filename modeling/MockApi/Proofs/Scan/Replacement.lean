/-
Replacing, text by text. Where no reading of what stands in front reaches into what
stands behind, each is replaced on its own (`replaceAll_append`); what is read as a
whole is replaced as a whole (`replaceAll_read`), and what starts no reading stays
(`replaceAll_unread`).

A reader of braces or angles is stopped by the characters that may not stand inside
them, so such characters are what a reading does not reach over.
-/
import MockApi.Proofs.Text.Basic
import MockApi.Scan.UrlLiteral

namespace MockApi.UrlLiteral

variable {read? : Text → Option (Nat × Text)} {front back t new : Text} {c : CodePoint}

-- ============================================================== replacing

/-- The reader takes at least one character, and no more than there are. -/
def StaysInside (read? : Text → Option (Nat × Text)) : Prop :=
  ∀ t length new, read? t = some (length, new) → 0 < length ∧ length ≤ t.length

/-- No reading of what stands in front of the text reaches into it. -/
def EndsBefore (read? : Text → Option (Nat × Text)) (back : Text) : Prop :=
  ∀ front, front ≠ [] → read? (front ++ back) = read? front

/-- What was passed is not replaced. -/
theorem replaceFrom_length (t back : Text) :
    replaceFrom read? t.length (t ++ back) = replaceAll read? back := by
  induction t with
  | nil => rfl
  | cons c t ih =>
    rw [List.length_cons, List.cons_append, replaceFrom]
    exact ih

/-- Two texts that no replacement reaches across are replaced on their own. -/
theorem replaceFrom_append (inside : StaysInside read?) (apart : EndsBefore read? back)
    {passed : Nat} (h : passed ≤ front.length) :
    replaceFrom read? passed (front ++ back)
      = replaceFrom read? passed front ++ replaceAll read? back := by
  induction front generalizing passed with
  | nil =>
    obtain rfl : passed = 0 := by simpa using h
    rfl
  | cons c front ih =>
    cases passed with
    | succ passed =>
      rw [List.cons_append, replaceFrom, replaceFrom]
      apply ih
      simpa using h
    | zero =>
      -- what is read here is read without what stands behind
      have hsame := apart (c :: front) (List.cons_ne_nil c front)
      rw [List.cons_append] at hsame ⊢
      rw [replaceFrom, replaceFrom, hsame]
      cases hread : read? (c :: front) with
      | none =>
        show c :: replaceFrom read? 0 (front ++ back) = c :: replaceFrom read? 0 front ++ _
        rw [ih (Nat.zero_le _), List.cons_append]
      | some found =>
        obtain ⟨length, new⟩ := found
        -- and it does not go beyond the front, so the rest is passed within it
        have hlength := (inside _ _ _ hread).2
        rw [List.length_cons] at hlength
        show new ++ replaceFrom read? (length - 1) (front ++ back)
          = new ++ replaceFrom read? (length - 1) front ++ _
        rw [ih (by omega), List.append_assoc]

/-- Two texts are replaced one after the other, if no reading reaches from the first
into the second. -/
theorem replaceAll_append (inside : StaysInside read?) (apart : EndsBefore read? back)
    (front : Text) :
    replaceAll read? (front ++ back) = replaceAll read? front ++ replaceAll read? back :=
  replaceFrom_append inside apart (Nat.zero_le _)

/-- What is read as a whole is replaced as a whole. -/
theorem replaceAll_read (hne : t ≠ []) (h : read? (t ++ back) = some (t.length, new)) :
    replaceAll read? (t ++ back) = new ++ replaceAll read? back := by
  cases t with
  | nil => exact absurd rfl hne
  | cons c t =>
    rw [List.cons_append] at h ⊢
    rw [replaceAll, replaceFrom, h]
    show new ++ replaceFrom read? ((c :: t).length - 1) (t ++ back) = _
    rw [List.length_cons, Nat.add_sub_cancel, replaceFrom_length]

/-- Characters that start no reading stay. -/
theorem replaceAll_unread (h : ∀ c ∈ t, ∀ rest, read? (c :: rest) = none) (back : Text) :
    replaceAll read? (t ++ back) = t ++ replaceAll read? back := by
  induction t with
  | nil => rfl
  | cons c t ih =>
    have hrest := ih fun d hd => h d (List.mem_cons_of_mem c hd)
    rw [List.cons_append, replaceAll, replaceFrom, h c List.mem_cons_self]
    show c :: replaceAll read? (t ++ back) = _
    rw [hrest, List.cons_append]

/-- A text in which nothing is read is left as it is. -/
theorem replaceAll_eq_self (h : ∀ c ∈ t, ∀ rest, read? (c :: rest) = none) :
    replaceAll read? t = t := by
  have happend := replaceAll_unread h []
  rw [List.append_nil] at happend
  rw [happend]
  show t ++ [] = t
  rw [List.append_nil]

/-- Nothing gets longer if nothing that is put there is longer than what was read. -/
theorem length_replaceFrom_le
    (h : ∀ t length new, read? t = some (length, new) → 0 < length ∧ new.length ≤ length)
    (inside : StaysInside read?) (passed : Nat) (t : Text) :
    (replaceFrom read? passed t).length ≤ t.length - passed := by
  induction t generalizing passed with
  | nil =>
    rw [replaceFrom]
    exact Nat.zero_le _
  | cons c rest ih =>
    cases passed with
    | succ passed =>
      have hrest := ih passed
      rw [replaceFrom, List.length_cons]
      omega
    | zero =>
      rw [replaceFrom, List.length_cons]
      split
      · next length new hread =>
        -- what is put in is no longer than what it replaces
        obtain ⟨hpos, hnew⟩ := h _ _ _ hread
        have hinside := (inside _ _ _ hread).2
        have hrest := ih (length - 1)
        rw [List.length_cons] at hinside
        rw [List.length_append]
        omega
      · have hrest := ih 0
        rw [List.length_cons]
        omega

/-- A text holds nothing new but what is put there. -/
theorem of_mem_replaceFrom {p : CodePoint → Prop}
    (h : ∀ t length new, read? t = some (length, new) → ∀ c ∈ new, p c ∨ c ∈ t) {passed : Nat}
    (hc : c ∈ replaceFrom read? passed t) : p c ∨ c ∈ t := by
  induction t generalizing passed with
  | nil =>
    rw [replaceFrom] at hc
    cases hc
  | cons d rest ih =>
    have later : ∀ {passed}, c ∈ replaceFrom read? passed rest → p c ∨ c ∈ d :: rest :=
      fun hmem => (ih hmem).imp_right (List.mem_cons_of_mem d)
    cases passed with
    -- inside what was replaced, the character is dropped
    | succ passed =>
      rw [replaceFrom] at hc
      exact later hc
    | zero =>
      rw [replaceFrom] at hc
      split at hc
      -- something is read here: what is new, or what comes behind it
      · next length new hread =>
        rcases List.mem_append.1 hc with hnew | hrest
        · exact h _ _ _ hread c hnew
        · exact later hrest
      · rcases List.mem_cons.1 hc with rfl | hrest
        · exact .inr List.mem_cons_self
        · exact later hrest

-- ============================================================== in braces

/-- A closing brace stands within the text. -/
theorem closed?_le {limit n : Nat} (h : closed? limit t = some n) : n ≤ t.length := by
  unfold closed? at h
  simp only at h
  split at h
  · next hclosed =>
    have hlt : (t.takeWhile isPlain).length < t.length := by
      by_contra hle
      rw [List.drop_eq_nil_of_le (Nat.le_of_not_lt hle)] at hclosed
      exact absurd hclosed.2 nofun
    rw [← Option.some.inj h]
    exact hlt
  · cases h

/-- Plain characters up to a closing brace, no more of them than there may be. -/
theorem closed?_append {limit : Nat} (hplain : ∀ c ∈ t, isPlain c = true)
    (hshort : t.length ≤ limit) (back : Text) :
    closed? limit (t ++ .char '}' :: back) = some (t.length + 1) := by
  have hbody : (t ++ .char '}' :: back).takeWhile isPlain = t := by
    rw [Text.takeWhile_append_cons (by decide)]
    exact List.takeWhile_eq_self_iff.2 hplain
  unfold closed?
  simp only
  rw [hbody, List.drop_left, if_pos ⟨hshort, rfl⟩]

/-- No expression reaches over an opening brace, even behind more that is plain. -/
theorem closed?_append_opening {limit : Nat} (hplain : ∀ c ∈ t, isPlain c = true)
    (front back : Text) : closed? limit (front ++ t ++ .char '{' :: back) = closed? limit front := by
  have htake : (front ++ t ++ .char '{' :: back).takeWhile isPlain
      = (front ++ t).takeWhile isPlain := Text.takeWhile_append_cons (by decide) ..
  unfold closed?
  simp only
  rw [htake]
  -- if all is plain up to the opening brace, nothing closes; if not, the front decides
  by_cases hfront : ∀ c ∈ front, isPlain c = true
  · have hall : (front ++ t).takeWhile isPlain = front ++ t := by
      rw [List.takeWhile_eq_self_iff]
      exact List.forall_mem_append.2 ⟨hfront, hplain⟩
    rw [hall, List.takeWhile_eq_self_iff.2 hfront, List.drop_left, List.drop_length]
    rw [if_neg fun h => absurd h.2 (by simp), if_neg fun h => absurd h.2 nofun]
  · have hlt : (front.takeWhile isPlain).length < front.length := by
      by_contra hle
      have hself : front.takeWhile isPlain = front :=
        (List.takeWhile_prefix isPlain).eq_of_length_le (Nat.le_of_not_lt hle)
      exact hfront (List.takeWhile_eq_self_iff.1 hself)
    have hsame : (front ++ t).takeWhile isPlain = front.takeWhile isPlain := by
      rw [List.takeWhile_append, if_neg (Nat.ne_of_lt hlt)]
    have hne : front.drop (front.takeWhile isPlain).length ≠ [] := by
      rw [ne_eq, List.drop_eq_nil_iff]
      exact Nat.not_le.2 hlt
    obtain ⟨c, rest, hrest⟩ := List.exists_cons_of_ne_nil hne
    rw [hsame, List.append_assoc, List.drop_append_of_le_length (Nat.le_of_lt hlt), hrest]
    rfl

/-- Braces stay inside the text that is read. -/
theorem braced?_inside : StaysInside braced? := by
  intro t length new h
  unfold braced? at h
  split at h
  · obtain ⟨n, hn, hread⟩ := Option.map_eq_some_iff.1 h
    obtain ⟨rfl, -⟩ := Prod.mk.inj hread
    have hle := closed?_le hn
    rw [List.length_cons]
    omega
  · cases h

/-- Interpolations stay inside the text that is read. -/
theorem interpolation?_inside : StaysInside interpolation? := by
  intro t length new h
  unfold interpolation? at h
  split at h
  · obtain ⟨found, hfound, hread⟩ := Option.map_eq_some_iff.1 h
    obtain ⟨rfl, -⟩ := Prod.mk.inj hread
    have hle := (braced?_inside _ _ _ hfound).2
    rw [List.length_cons]
    omega
  · cases h

/-- Braces begin with one. -/
theorem braced?_cons_of_ne (h : c ≠ '{') (rest : Text) : braced? (c :: rest) = none := by
  unfold braced?
  split
  · next heq => exact absurd (List.cons.inj heq).1 h
  · rfl

/-- An interpolation begins with a dollar sign. -/
theorem interpolation?_cons_of_ne (h : c ≠ '$') (rest : Text) :
    interpolation? (c :: rest) = none := by
  unfold interpolation?
  split
  · next heq => exact absurd (List.cons.inj heq).1 h
  · rfl

end MockApi.UrlLiteral
