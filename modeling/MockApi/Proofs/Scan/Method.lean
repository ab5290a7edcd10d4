/-
The methods of calls. A rule tells them in one of four ways (`CallRule.TellsMethods`):
by the verb of the match, by what the rule is for, by the options of a request, or by
a list. Whichever it is, they are words of three to seven letters in upper case
(`CallRule.isMethod_of_mem_methods`).

A list names its methods in any case, and what differs only by case from an ASCII
letter need not be ASCII: a long s and a dotless i have one as their upper case. A
capital i with a dot has not, so a file that holds one is left out.
-/
import MockApi.Proofs.Pattern.Binding
import MockApi.Proofs.Scan.Fetch
import MockApi.Proofs.Text.Case

namespace MockApi

open Pattern Lexeme

-- ================================================================== words

namespace Text

variable {t : Text} {c : CodePoint}

/-- A capital letter of the basic Latin alphabet. -/
def isCapital (c : CodePoint) : Bool := 'A' ≤ c && c ≤ 'Z'

/-- A verb as it may stand in a call: three to seven letters. -/
def IsVerb (t : Text) : Prop := 3 ≤ t.length ∧ t.length ≤ 7 ∧ ∀ c ∈ t, isAsciiLetter c = true

/-- A method: three to seven capital letters. -/
def IsMethod (t : Text) : Prop := 3 ≤ t.length ∧ t.length ≤ 7 ∧ ∀ c ∈ t, isCapital c = true

instance (t : Text) : Decidable t.IsVerb :=
  inferInstanceAs (Decidable (3 ≤ t.length ∧ t.length ≤ 7 ∧ ∀ c ∈ t, isAsciiLetter c = true))

instance (t : Text) : Decidable t.IsMethod :=
  inferInstanceAs (Decidable (3 ≤ t.length ∧ t.length ≤ 7 ∧ ∀ c ∈ t, isCapital c = true))

/-- A letter of ASCII has one capital. -/
theorem exists_capital (h : isAsciiLetter c = true) :
    ∃ u, upperChar c = [u] ∧ isCapital u = true := by
  have hall : ∀ n : Fin 128, isAsciiLetter (.ofNat n) = true →
      ((upperChar (.ofNat n)).head?.any fun u =>
        upperChar (.ofNat n) == [u] && isCapital u) = true := by
    decide
  have hc := hall ⟨c.toNat, toNat_lt_of_isAsciiLetter h⟩
  rw [CodePoint.ofNat_toNat] at hc
  obtain ⟨u, -, hu⟩ := (Option.any_eq_true ..).1 (hc h)
  rw [Bool.and_eq_true, beq_iff_eq] at hu
  exact ⟨u, hu⟩

/-- A text of ASCII letters is as long in upper case. -/
theorem length_upper (h : ∀ c ∈ t, isAsciiLetter c = true) : (upper t).length = t.length := by
  induction t with
  | nil => rfl
  | cons c rest ih =>
    obtain ⟨u, hu, -⟩ := exists_capital (h c List.mem_cons_self)
    have hrest := ih fun d hd => h d (List.mem_cons_of_mem _ hd)
    rw [upper, List.flatMap_cons, hu, ← upper, List.length_append, hrest, List.length_singleton,
      List.length_cons, Nat.add_comm]

/-- A verb in upper case is a method. -/
theorem IsVerb.isMethod_upper (h : IsVerb t) : IsMethod (upper t) := by
  obtain ⟨hleast, hmost, hletters⟩ := h
  have hlength := length_upper hletters
  refine ⟨hlength ▸ hleast, hlength ▸ hmost, fun u hu => ?_⟩
  obtain ⟨c, hc, hmem⟩ := List.mem_flatMap.1 hu
  obtain ⟨v, hv, hcapital⟩ := exists_capital (hletters c hc)
  rw [hv, List.mem_singleton] at hmem
  rw [hmem]
  exact hcapital

end Text

open Text

-- ================================================================== verbs

/-- Every match of the pattern has a verb. -/
structure Pattern.BindsVerb (p : Pattern) : Prop where
  binds : p.binds .verb = true
  isVerb : ∀ q ∈ p.behind .verb, ∀ t, q.Spells t → IsVerb t

/-- A pattern whose verb is one of several words binds one if these are verbs. -/
theorem Pattern.bindsVerb_of_words {p : Pattern} {words : List Text} (hbinds : p.binds .verb = true)
    (hbehind : p.behind .verb = [oneOf (words.map .piece)]) (hwords : ∀ word ∈ words, IsVerb word) :
    p.BindsVerb where
  binds := hbinds
  isVerb := by
    intro q hq t hspells
    rw [hbehind, List.mem_singleton] at hq
    subst hq
    exact hwords t (mem_of_spells_oneOf hspells)

namespace Match

variable {p : Pattern} {m : Match} {c : Cursor} {method : Text}

/-- The verb of a match is a method. -/
theorem isMethod_verb (hverb : p.BindsVerb) (h : p.matchAt? c = some m)
    (hmethod : method ∈ m.verbMethod) : IsMethod method := by
  obtain ⟨q, hq, hspells⟩ := spells_get h hverb.binds
  rw [verbMethod, List.mem_singleton] at hmethod
  rw [hmethod]
  exact (hverb.isVerb q hq _ hspells).isMethod_upper

-- ================================================================ options

/-- The option of a method binds a verb. -/
theorem bindsVerb_methodOption : methodOption.BindsVerb where
  binds := rfl
  isVerb := by
    intro q hq t hspells
    have hbehind : methodOption.behind .verb = [run isAsciiLetter 3 (some 7)] := rfl
    rw [hbehind, List.mem_singleton] at hq
    subst hq
    cases hspells with
    | run passes enough bounded => exact ⟨enough, bounded 7 rfl, passes⟩

/-- What such an option names is a method. -/
theorem isMethod_foundMethods (c : Cursor) (h : method ∈ foundMethods (methodOption.firstIn? c)) :
    IsMethod method := by
  cases hfirst : methodOption.firstIn? c with
  | none =>
    rw [hfirst, foundMethods, List.mem_singleton] at h
    rw [h]
    decide
  | some found =>
    rw [hfirst] at h
    obtain ⟨start, hstart⟩ := exists_of_mem_matchesIn (List.mem_of_mem_head? hfirst)
    exact isMethod_verb bindsVerb_methodOption hstart h

-- ================================================================== lists

/-- The spellings of a capital letter, but for one, have it as their upper case. -/
theorem upperChar_of_mem_spellings {letter c : CodePoint} (hletter : isCapital letter = true)
    (h : c ∈ spellings letter) (hdot : c ≠ 'İ') : upperChar c = [letter] := by
  have hbound : letter.toNat < 128 := by
    apply toNat_lt_of_isAsciiLetter
    rw [isAsciiLetter, Bool.or_eq_true]
    exact .inr hletter
  have hall : ∀ n : Fin 128, isCapital (.ofNat n) = true →
      ∀ c ∈ spellings (.ofNat n), c ≠ 'İ' → upperChar c = [.ofNat n] := by
    decide
  have hc := hall ⟨letter.toNat, hbound⟩
  rw [CodePoint.ofNat_toNat] at hc
  exact hc hletter c h hdot

/-- A word in any case has the word as its upper case. -/
theorem upper_of_spells_anyCase {word t : Text} (hword : ∀ c ∈ word, isCapital c = true)
    (h : (anyCase word).Spells t) (hdot : ('İ' : CodePoint) ∉ t) : upper t = word := by
  induction word generalizing t with
  | nil =>
    cases h
    rfl
  | cons letter rest ih =>
    cases h with
    | @seq _ _ s t hletter hrest =>
      cases hletter with
      | run passes enough bounded =>
        obtain ⟨c, rfl⟩ := List.length_eq_one_iff.1 (Nat.le_antisymm (bounded 1 rfl) enough)
        rw [List.mem_append, not_or, List.mem_singleton] at hdot
        have hspelling := List.contains_iff_mem.1 (passes c List.mem_cons_self)
        have hupper := upperChar_of_mem_spellings (hword _ List.mem_cons_self) hspelling
          (Ne.symm hdot.1)
        have hlater := ih (fun c hc => hword c (List.mem_cons_of_mem _ hc)) hrest hdot.2
        rw [List.singleton_append, upper, List.flatMap_cons, hupper, ← upper, hlater,
          List.singleton_append]

/-- A text that is one of several words in any case is one of them in some case. -/
theorem exists_word_of_spells {words : List Text} {t : Text}
    (h : (oneOf (words.map anyCase)).Spells t) : ∃ word ∈ words, (anyCase word).Spells t := by
  induction words with
  | nil =>
    cases h with
    | run passes enough bounded =>
      obtain ⟨c, hc⟩ := List.exists_mem_of_length_pos enough
      cases passes c hc
  | cons first later ih =>
    cases later with
    | nil => exact ⟨first, List.mem_cons_self, h⟩
    | cons second later =>
      cases h with
      | first h => exact ⟨first, List.mem_cons_self, h⟩
      | second h =>
        obtain ⟨word, hmem, hspells⟩ := ih h
        exact ⟨word, List.mem_cons_of_mem _ hmem, hspells⟩

/-- What a list names is one of the known methods. -/
theorem mem_knownMethods_of_listed {t : Text} (h : m ∈ listedMethod.matchesIn (.ofText t))
    (hdot : ('İ' : CodePoint) ∉ t) (hmethod : method ∈ m.verbMethod) : method ∈ knownMethods := by
  obtain ⟨start, hstart⟩ := exists_of_mem_matchesIn h
  have hbehind : listedMethod.behind .verb = [oneOf (knownMethods.map anyCase)] := rfl
  have hbinds : listedMethod.binds .verb = true := rfl
  obtain ⟨q, hq, hspells⟩ := spells_get hstart hbinds
  rw [hbehind, List.mem_singleton] at hq
  subst hq
  obtain ⟨word, hword, hspells⟩ := exists_word_of_spells hspells
  have hverb : m.get .verb <:+: t :=
    (get_infix_text hstart .verb).trans (takes_of_mem_matchesFrom h).1
  have hcapitals : ∀ word ∈ knownMethods, ∀ c ∈ word, isCapital c = true := by decide
  rw [verbMethod, List.mem_singleton] at hmethod
  rw [hmethod, upper_of_spells_anyCase (hcapitals word hword) hspells fun hmem =>
    hdot (hverb.subset hmem)]
  exact hword

/-- What is listed among arguments is a method, if no capital i with a dot is there. -/
theorem isMethod_listed (hdot : ('İ' : CodePoint) ∉ m.get .arguments)
    (h : method ∈ m.listedMethods) : IsMethod method := by
  have hget : IsMethod "GET" := by decide
  have hknown : ∀ word ∈ knownMethods, IsMethod word := by decide
  unfold listedMethods at h
  simp only at h
  split at h
  · split at h
    · rw [List.mem_singleton.1 h]
      exact hget
    · obtain ⟨found, hfound, hmethod⟩ := List.mem_flatMap.1 (List.mem_eraseDups.1 h)
      exact hknown _ (mem_knownMethods_of_listed hfound hdot hmethod)
  · rw [List.mem_singleton.1 h]
    exact hget

end Match

-- ================================================================== rules

/-- The ways in which a rule tells the methods of a match. -/
inductive CallRule.TellsMethods (r : CallRule) : Prop
  | verb (methods : r.methods = Match.verbMethod) (binds : r.pattern.BindsVerb)
  | reading (methods : r.methods = fun _ => [("GET" : Text)])
  | options (methods : r.methods = Match.fetchMethods)
  | listed (methods : r.methods = Match.listedMethods)

/-- The methods of a match are methods, if there is no capital i with a dot in it. -/
theorem CallRule.isMethod_of_mem_methods {r : CallRule} {m : Match} {c : Cursor} {method : Text}
    (tells : r.TellsMethods) (h : r.pattern.matchAt? c = some m) (hdot : ('İ' : CodePoint) ∉ m.text)
    (hmethod : method ∈ r.methods m) : IsMethod method := by
  cases tells with
  | verb methods binds =>
    rw [methods] at hmethod
    exact Match.isMethod_verb binds h hmethod
  | reading methods =>
    rw [methods, List.mem_singleton] at hmethod
    rw [hmethod]
    decide
  | options methods =>
    rw [methods, Match.fetchMethods_eq] at hmethod
    exact Match.isMethod_foundMethods _ hmethod
  | listed methods =>
    rw [methods] at hmethod
    have hpiece := get_infix_text h .arguments
    exact Match.isMethod_listed (fun hmem => hdot (hpiece.subset hmem)) hmethod

end MockApi
