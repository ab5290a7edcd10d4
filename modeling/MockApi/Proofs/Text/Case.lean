/-
Upper and lower case of ASCII characters. Each has one character as its upper
case, and that is in upper case already, so putting a text in upper case twice is
putting it there once. A letter's is a letter, so a word of letters stays one, and
its lower case does not tell whether it was put in upper case before.

The lower case of any text goes character by character but for the form of a sigma, so
where ASCII pieces are looked for in it, the characters around do not matter. If all of
its characters take one byte, it is its own lower case.
-/
import Mathlib.Data.List.Basic
import MockApi.Text.Case

namespace MockApi.Text

/-- A word of the basic Latin alphabet: at least one letter and nothing else. -/
def IsLatinWord (t : Text) : Prop := t ≠ [] ∧ ∀ c ∈ t, isAsciiLetter c = true

instance (t : Text) : Decidable t.IsLatinWord :=
  inferInstanceAs (Decidable (t ≠ [] ∧ ∀ c ∈ t, isAsciiLetter c = true))

/-- A letter of ASCII has a number below 128. -/
theorem toNat_lt_of_isAsciiLetter {c : CodePoint} (h : isAsciiLetter c = true) : c.toNat < 128 := by
  rw [isAsciiLetter, Bool.or_eq_true, Bool.and_eq_true, Bool.and_eq_true, decide_eq_true_eq,
    decide_eq_true_eq, decide_eq_true_eq, decide_eq_true_eq] at h
  have hz : CodePoint.toNat 'z' = 122 := rfl
  have hZ : CodePoint.toNat 'Z' = 90 := rfl
  rcases h with ⟨-, h⟩ | ⟨-, h⟩
  · have hle : c.toNat ≤ CodePoint.toNat 'z' := h
    omega
  · have hle : c.toNat ≤ CodePoint.toNat 'Z' := h
    omega

/-- A letter of ASCII is a character. -/
theorem exists_char_of_isAsciiLetter {c : CodePoint} (h : isAsciiLetter c = true) :
    ∃ x : Char, c = .char x := by
  cases c with
  | char x => exact ⟨x, rfl⟩
  | surrogate half =>
    have hlow : half.toNat < 128 := toNat_lt_of_isAsciiLetter h
    have hhigh := half.isHalf.1
    omega

/-- A text of ASCII characters. -/
def IsAscii (t : Text) : Prop := ∀ c ∈ t, c.toNat < 128

instance (t : Text) : Decidable t.IsAscii := inferInstanceAs (Decidable (∀ c ∈ t, c.toNat < 128))

theorem IsLatinWord.isAscii {t : Text} (h : IsLatinWord t) : IsAscii t :=
  fun c hc => toNat_lt_of_isAsciiLetter (h.2 c hc)

/-- The upper case of an ASCII character is one character, which is in upper case,
and a letter's is a letter. -/
theorem upperChar_of_ascii {c : CodePoint} (h : c.toNat < 128) :
    ∃ u, upperChar c = [u] ∧ (isAsciiLetter c = true → isAsciiLetter u = true)
      ∧ upperChar u = [u] := by
  have hall : ∀ n : Fin 128, ((upperChar (.ofNat n)).head?.any fun u =>
      upperChar (.ofNat n) == [u] && (!isAsciiLetter (.ofNat n) || isAsciiLetter u)
        && upperChar u == [u]) = true := by
    decide +kernel
  have hc := hall ⟨c.toNat, h⟩
  rw [CodePoint.ofNat_toNat] at hc
  obtain ⟨u, -, hu⟩ := (Option.any_eq_true ..).1 hc
  rw [Bool.and_eq_true, Bool.and_eq_true, beq_iff_eq, beq_iff_eq, Bool.or_eq_true,
    Bool.not_eq_true'] at hu
  obtain ⟨⟨hone, hletter⟩, hupper⟩ := hu
  refine ⟨u, hone, ?_, hupper⟩
  intro hc
  rw [hc] at hletter
  exact hletter.resolve_left Bool.noConfusion

/-- The upper case of a letter is one letter, which is in upper case. -/
theorem upperChar_of_isAsciiLetter {c : CodePoint} (h : isAsciiLetter c = true) :
    ∃ u, upperChar c = [u] ∧ isAsciiLetter u = true ∧ upperChar u = [u] := by
  obtain ⟨u, hone, hletter, hupper⟩ := upperChar_of_ascii (toNat_lt_of_isAsciiLetter h)
  exact ⟨u, hone, hletter h, hupper⟩

/-- Letters in upper case are letters in upper case. -/
theorem of_mem_upper {t : Text} {u : CodePoint} (h : ∀ c ∈ t, isAsciiLetter c = true)
    (hu : u ∈ upper t) : isAsciiLetter u = true ∧ upperChar u = [u] := by
  obtain ⟨c, hc, hmem⟩ := List.mem_flatMap.1 hu
  obtain ⟨v, hv, hletter, hupper⟩ := upperChar_of_isAsciiLetter (h c hc)
  rw [hv, List.mem_singleton] at hmem
  rw [hmem]
  exact ⟨hletter, hupper⟩

/-- Upper case leaves nothing of a text only if there is nothing. -/
theorem upper_ne_nil {t : Text} (h : IsAscii t) (hne : t ≠ []) : upper t ≠ [] := by
  intro hnil
  rw [upper, List.flatMap_eq_nil_iff] at hnil
  obtain ⟨c, hc⟩ := List.exists_mem_of_ne_nil t hne
  obtain ⟨u, hu, -⟩ := upperChar_of_ascii (h c hc)
  rw [hnil c hc] at hu
  cases hu

theorem IsLatinWord.upper {t : Text} (h : IsLatinWord t) : IsLatinWord (upper t) :=
  ⟨upper_ne_nil h.isAscii h.1, fun _ hu => (of_mem_upper h.2 hu).1⟩

/-- A text whose characters are in upper case is in upper case. -/
theorem upper_eq_self {t : Text} (h : ∀ c ∈ t, upperChar c = [c]) : upper t = t := by
  induction t with
  | nil => rfl
  | cons c rest ih =>
    have hrest := ih fun d hd => h d (List.mem_cons_of_mem _ hd)
    rw [upper, List.flatMap_cons, h c List.mem_cons_self, ← upper, hrest, List.singleton_append]

/-- The upper case of ASCII is its own upper case. -/
theorem upper_upper_of_ascii {t : Text} (h : IsAscii t) : upper (upper t) = upper t := by
  apply upper_eq_self
  intro u hu
  obtain ⟨c, hc, hmem⟩ := List.mem_flatMap.1 hu
  obtain ⟨v, hv, -, hupper⟩ := upperChar_of_ascii (h c hc)
  rw [hv, List.mem_singleton] at hmem
  rw [hmem]
  exact hupper

theorem upper_upper {t : Text} (h : IsLatinWord t) : upper (upper t) = upper t :=
  upper_upper_of_ascii h.isAscii

-- ============================================================== lower case

/-- Without a capital sigma the lower case goes character by character. -/
theorem lowerFrom_of_no_sigma {t : Text} (h : ∀ c ∈ t, c ≠ '\u03a3') (before : Text) :
    lowerFrom before t = t.flatMap lowerChar := by
  induction t generalizing before with
  | nil => rfl
  | cons c rest ih =>
    rw [lowerFrom, if_neg (h c List.mem_cons_self),
      ih (fun d hd => h d (List.mem_cons_of_mem _ hd)), List.flatMap_cons]

theorem ne_sigma_of_isAsciiLetter {c : CodePoint} (h : isAsciiLetter c = true) :
    c ≠ '\u03a3' := by
  rintro rfl
  exact absurd h (by decide)

/-- The lower case of a letter is that of its upper case. -/
theorem lowerChar_of_isAsciiLetter {c : CodePoint} (h : isAsciiLetter c = true) :
    (upperChar c).flatMap lowerChar = lowerChar c := by
  have hall : ∀ n : Fin 128, isAsciiLetter (.ofNat n) = true →
      (upperChar (.ofNat n)).flatMap lowerChar = lowerChar (.ofNat n) := by
    decide +kernel
  have hc := hall ⟨c.toNat, toNat_lt_of_isAsciiLetter h⟩
  rw [CodePoint.ofNat_toNat] at hc
  exact hc h

/-- To raise ASCII letters before they are lowered makes no difference. -/
theorem lower_upper {t : Text} (h : ∀ c ∈ t, isAsciiLetter c = true) :
    lower (upper t) = lower t := by
  rw [lower, lower,
    lowerFrom_of_no_sigma fun _ hc => ne_sigma_of_isAsciiLetter (of_mem_upper h hc).1,
    lowerFrom_of_no_sigma fun c hc => ne_sigma_of_isAsciiLetter (h c hc), upper, List.flatMap_assoc]
  exact List.flatMap_congr fun c hc => lowerChar_of_isAsciiLetter (h c hc)

-- ================================================================ single bytes

/-- Every character takes one byte. -/
def IsSingleByte (t : Text) : Prop := ∀ c ∈ t, c.toNat < 0x100

/-- Lower case beyond ASCII comes from runs that give no capital of one byte: a small k,
or a letter behind all of them. -/
theorem imageOf_lowerRuns {run : CaseRun} (h : run ∈ lowerRuns) {n image : Nat}
    (himage : run.imageOf? n = some image) : image = 0x6b ∨ 0xdf ≤ image := by
  have hall : ∀ run ∈ lowerRuns,
      0xdf ≤ run.image ∨ run.image = 0x6b ∧ run.first = run.last := by
    decide +kernel
  have hrun := hall run h
  unfold CaseRun.imageOf? at himage
  split at himage
  · have hvalue := Option.some.inj himage
    omega
  · cases himage

/-- A number is that of its code point, or it is none and stands for zero. -/
theorem toNat_ofNat (n : Nat) :
    (CodePoint.ofNat n).toNat = n ∨ CodePoint.ofNat n = .char '\x00' := by
  unfold CodePoint.ofNat
  split
  · exact .inl rfl
  · by_cases valid : n.isValidChar
    · exact .inl (congrArg Char.toNat (dif_pos valid))
    · exact .inr (congrArg CodePoint.char (dif_neg valid))

/-- A lower case of one byte is its own lower case. -/
theorem lowerChar_of_mem_lowerChar {c d : CodePoint} (h : d ∈ lowerChar c)
    (byte : d.toNat < 0x100) : lowerChar d = [d] := by
  -- three finite tables: the letters of ASCII, the images of the case runs that have one
  -- byte, and the one character whose lower case is two
  have hascii : ∀ k : Fin 128, lowerChar ((CodePoint.ofNat k).mapChar Char.toLower)
      = [(CodePoint.ofNat k).mapChar Char.toLower] := by
    decide +kernel
  have hsmall : ∀ k : Fin 0x100, k = 0x6b ∨ 0xdf ≤ k → lowerChar (.ofNat k) = [.ofNat k] := by
    decide +kernel
  have hdotted : ∀ d ∈ ofString "i\u0307", d.toNat < 0x100 → lowerChar d = [d] := by
    decide +kernel
  unfold lowerChar at h
  split at h
  · next hlow =>
    have hfixed := hascii ⟨c.toNat, hlow⟩
    rw [CodePoint.ofNat_toNat] at hfixed
    rw [List.mem_singleton.1 h]
    exact hfixed
  · next hbeyond =>
    split at h
    · exact hdotted d h byte
    · next hdot =>
      rw [List.mem_singleton, CaseRun.map] at h
      split at h
      -- an image of a run is a small letter, so its own lower case is read off the table
      · next image hrun =>
        obtain ⟨run, hmem, himage⟩ := List.exists_of_findSome?_eq_some hrun
        have hletter := imageOf_lowerRuns hmem himage
        rw [h] at byte ⊢
        rcases toNat_ofNat image with hnumber | hzero
        · rw [hnumber] at byte
          exact hsmall ⟨image, byte⟩ (hletter.imp Fin.ext id)
        · rw [hzero]
          rfl
      -- in no run: the character is its own lower case by the same tests
      · next hnone =>
        rw [h, lowerChar, if_neg hbeyond, if_neg hdot, CaseRun.map, hnone]

/-- What is in a text in lower case is a sigma, or the lower case of something in it. -/
theorem mem_lower {t : Text} {d : CodePoint} (h : d ∈ lower t) :
    d = '\u03c2' ∨ d = '\u03c3' ∨ ∃ c ∈ t, d ∈ lowerChar c := by
  have hfrom : ∀ (rest before : Text), d ∈ lowerFrom before rest →
      d = '\u03c2' ∨ d = '\u03c3' ∨ ∃ c ∈ rest, d ∈ lowerChar c := by
    intro rest
    induction rest with
    | nil => nofun
    | cons c rest ih =>
      intro before hd
      rw [lowerFrom, List.mem_append] at hd
      rcases hd with himage | hrest
      · split at himage
        · rw [List.mem_singleton] at himage
          split at himage
          · exact .inl himage
          · exact .inr (.inl himage)
        · exact .inr (.inr ⟨c, List.mem_cons_self, himage⟩)
      · rcases ih _ hrest with hfinal | hplain | ⟨c, hc, hd⟩
        · exact .inl hfinal
        · exact .inr (.inl hplain)
        · exact .inr (.inr ⟨c, List.mem_cons_of_mem _ hc, hd⟩)
  exact hfrom t [] h

/-- A text in lower case that takes one byte for each character is in lower case. -/
theorem lower_lower {t : Text} (h : IsSingleByte (lower t)) : lower (lower t) = lower t := by
  have hfixed : ∀ d ∈ lower t, lowerChar d = [d] := by
    intro d hd
    have hbyte := h d hd
    rcases mem_lower hd with rfl | rfl | ⟨c, -, hc⟩
    · exact absurd hbyte (by decide)
    · exact absurd hbyte (by decide)
    · exact lowerChar_of_mem_lowerChar hc hbyte
  have hsigma : ∀ d ∈ lower t, d ≠ '\u03a3' := by
    rintro d hd rfl
    exact absurd (h _ hd) (by decide)
  generalize lower t = small at hfixed hsigma
  rw [lower, lowerFrom_of_no_sigma hsigma, List.flatMap_congr hfixed, List.flatMap_singleton']

/-- The lower case of a character of one byte is one. -/
theorem IsSingleByte.lower {t : Text} (h : IsSingleByte t) : IsSingleByte (lower t) := by
  have hall : ∀ k : Fin 0x100, ∀ d ∈ lowerChar (.ofNat k), d.toNat < 0x100 := by
    decide +kernel
  have hsigma : ∀ c ∈ t, c ≠ '\u03a3' := by
    rintro c hc rfl
    exact absurd (h _ hc) (by decide)
  intro d hd
  rw [Text.lower, lowerFrom_of_no_sigma hsigma] at hd
  obtain ⟨c, hc, hmem⟩ := List.mem_flatMap.1 hd
  refine hall ⟨c.toNat, h c hc⟩ d ?_
  rw [CodePoint.ofNat_toNat]
  exact hmem

-- ============================================================= pieces of it

/-- The sigma that does not end a word. -/
def plainSigma (c : CodePoint) : CodePoint := if c = '\u03c2' then '\u03c3' else c

/-- But for the form of a sigma the lower case goes character by character. -/
theorem map_plainSigma_lower (t : Text) :
    (lower t).map plainSigma = t.flatMap fun c => (lowerChar c).map plainSigma := by
  have hfrom : ∀ (rest before : Text), (lowerFrom before rest).map plainSigma
      = rest.flatMap fun c => (lowerChar c).map plainSigma := by
    intro rest
    induction rest with
    | nil => exact fun _ => rfl
    | cons c rest ih =>
      intro before
      rw [lowerFrom, List.map_append, ih, List.flatMap_cons]
      congr 1
      by_cases hc : c = '\u03a3'
      · -- both forms of a small sigma are the plain one
        rw [if_pos hc, hc]
        split <;> decide
      · rw [if_neg hc]
  exact hfrom t []

theorem map_plainSigma_eq_self {t : Text} (h : ∀ c ∈ t, c ≠ '\u03c2') : t.map plainSigma = t :=
  (List.map_congr_left fun c hc => if_neg (h c hc)).trans (List.map_id' t)

/-- No ASCII character is a sigma, so the form of one does not matter to a piece. -/
theorem isInfix_map_plainSigma_iff {piece t : Text} (h : IsAscii piece) :
    piece <:+: t.map plainSigma ↔ piece <:+: t := by
  have hother : ∀ c ∈ piece, c ≠ '\u03c2' ∧ c ≠ '\u03c3' := by
    intro c hc
    have hlt := h c hc
    constructor <;>
    · rintro rfl
      exact absurd hlt (by decide)
  constructor
  · intro hpiece
    obtain ⟨own, hown, rfl⟩ := List.infix_map_iff.1 hpiece
    have hfinal : ∀ c ∈ own, c ≠ '\u03c2' := by
      rintro c hc rfl
      exact (hother _ (List.mem_map_of_mem hc)).2 (if_pos rfl)
    rw [map_plainSigma_eq_self hfinal]
    exact hown
  · intro hpiece
    rw [← map_plainSigma_eq_self fun c hc => (hother c hc).1]
    exact hpiece.map plainSigma

/-- An `s` behind a text stands behind its lower case, sigmas read as plain ones. -/
theorem map_plainSigma_lower_concat (t : Text) :
    (lower (t ++ "s")).map plainSigma = (lower t).map plainSigma ++ [.char 's'] := by
  rw [map_plainSigma_lower, List.flatMap_append, ← map_plainSigma_lower]
  rfl

/-- An ASCII piece that does not end in a small s is found no more often where a small s
is put behind the text. -/
theorem isInfix_lower_concat_iff {piece t : Text} (h : IsAscii piece)
    (hlast : piece.getLast? ≠ some (.char 's')) :
    piece <:+: lower (t ++ "s") ↔ piece <:+: lower t := by
  rw [← isInfix_map_plainSigma_iff h, map_plainSigma_lower_concat, List.infix_concat_iff,
    isInfix_map_plainSigma_iff h]
  refine or_iff_right_of_imp fun hsuffix => ?_
  rcases List.suffix_concat_iff.1 hsuffix with rfl | ⟨front, rfl, -⟩
  · exact List.nil_infix
  · exact absurd List.getLast?_concat hlast

/-- What is found in lower case is found where a small s is put behind the text. -/
theorem isInfix_lower_concat {piece t : Text} (h : IsAscii piece) (hpiece : piece <:+: lower t) :
    piece <:+: lower (t ++ "s") := by
  rw [← isInfix_map_plainSigma_iff h, map_plainSigma_lower_concat]
  exact ((isInfix_map_plainSigma_iff h).2 hpiece).trans (List.prefix_append ..).isInfix

end MockApi.Text
