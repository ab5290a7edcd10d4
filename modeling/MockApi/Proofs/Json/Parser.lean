/-
What is read can be written. A text with an integer of more digits than text
may hold is refused, so every integer of a value that was read has a text; a
value with a larger one is never read but only made.

The induction is on the reader's fuel, over its three mutual readers at once.
-/
import MockApi.Json.Parser
import MockApi.Proofs.Decimal.Integer
import MockApi.Proofs.Json.Fields
import MockApi.Proofs.Json.Printer
import MockApi.Proofs.Outcome

namespace MockApi.Json

namespace Parser

-- ================================================================ numbers

/-- The whole part of a number is written in digits. -/
theorem isAsciiDigit_of_wholePart? {t whole rest : Text} (h : wholePart? t = some (whole, rest)) :
    ∀ c ∈ whole, Text.isAsciiDigit c = true := by
  unfold wholePart? at h
  split at h
  · obtain ⟨rfl, -⟩ := Prod.mk.inj (Option.some.inj h)
    decide
  · split at h
    · cases h
    · next ds behind hdigits =>
      obtain ⟨rfl, -⟩ := Prod.mk.inj (Option.some.inj h)
      obtain ⟨rfl, -⟩ := Prod.mk.inj hdigits
      exact List.all_eq_true.1 List.all_takeWhile

/-- A run of digits has fewer digits than its value has zeros behind a one. -/
theorem digitsValue_lt {ds : Text} (h : ∀ c ∈ ds, Text.isAsciiDigit c = true) :
    digitsValue ds < 10 ^ ds.length := by
  have hlt : ∀ d ∈ ds.map fun c => c.toNat - CodePoint.toNat '0', d < 10 := by
    intro d hd
    obtain ⟨c, hc, rfl⟩ := List.mem_map.1 hd
    have hdigit := h c hc
    rw [Text.isAsciiDigit, Bool.and_eq_true, decide_eq_true_eq, decide_eq_true_eq] at hdigit
    have hle : c.toNat ≤ 57 := hdigit.2
    show c.toNat - 48 < 10
    omega
  have hvalue := natOfDigits_lt hlt
  rw [List.length_map] at hvalue
  exact hvalue

/-- A number of few enough digits can be written, with either sign. -/
theorem isWritable_digitsValue (negative : Bool) {ds : Text}
    (h : ∀ c ∈ ds, Text.isAsciiDigit c = true) (hlength : ds.length ≤ digitLimit) :
    (Json.int (if negative then -(digitsValue ds : Int) else digitsValue ds)).isWritable
      = true := by
  have hlt : digitsValue ds < 10 ^ digitLimit :=
    Nat.lt_of_lt_of_le (digitsValue_lt h) (Nat.pow_le_pow_right (by decide) hlength)
  have hfits : ∀ n : Int, n.natAbs = digitsValue ds → (Json.int n).isWritable = true := by
    intro n hn
    rw [Json.isWritable, Json.allIntegers, fitsInText, decide_eq_true_eq, hn]
    exact hlt
  cases negative with
  | false => exact hfits _ rfl
  | true => exact hfits _ (Int.natAbs_neg _)

/-- A number that was read can be written again. -/
theorem isWritable_of_unsigned {negative : Bool} {t rest : Text} {v : Json}
    (h : unsigned negative t = some (.ok (v, rest))) : v.isWritable = true := by
  unfold unsigned at h
  -- the whole part decides: more digits than the limit are refused
  split at h
  · cases h
  · next whole behind hwhole =>
    -- a fraction or an exponent makes a float, which is always writable
    cases hfraction : fraction? behind with
    | some fraction =>
      simp only [hfraction, Option.isNone_some, Bool.false_and] at h
      obtain ⟨rfl, -⟩ := Prod.mk.inj (Except.ok.inj (Option.some.inj h))
      rfl
    | none =>
      cases hexponent : exponent? behind with
      | some exponent =>
        simp only [hfraction, Option.getD_none, hexponent, Option.isNone_some, Bool.and_false] at h
        obtain ⟨rfl, -⟩ := Prod.mk.inj (Except.ok.inj (Option.some.inj h))
        rfl
      | none =>
        simp only [hfraction, Option.getD_none, hexponent, Option.isNone_none, Bool.and_true,
          if_true] at h
        have h := Option.some.inj h
        split at h
        · cases h
        · next hlength =>
          obtain ⟨rfl, -⟩ := Prod.mk.inj (Except.ok.inj h)
          exact isWritable_digitsValue negative (isAsciiDigit_of_wholePart? hwhole)
            (Nat.le_of_not_lt hlength)

/-- A value of one word that was read can be written again. -/
theorem isWritable_of_scalar {t rest : Text} {v : Json} (h : scalar t = .ok (v, rest)) :
    v.isWritable = true := by
  unfold scalar at h
  split at h
  · next found hfound =>
    obtain ⟨entry, hmem, hentry⟩ := List.exists_of_findSome?_eq_some hfound
    obtain ⟨behind, -, heq⟩ := Option.map_eq_some_iff.1 hentry
    rw [← heq] at h
    obtain ⟨rfl, -⟩ := Prod.mk.inj (Except.ok.inj h)
    have hconstants : ∀ entry ∈ constants, entry.2.isWritable = true := by decide
    exact hconstants entry hmem
  · unfold number at h
    simp only at h
    have hread : ∀ found : Option (Except Stop (Json × Text)),
        found.getD (.error (.flaw .expectingValue t.length)) = .ok (v, rest) →
          found = some (.ok (v, rest)) := by
      intro found hfound
      cases found with
      | none => cases hfound
      | some found => rw [show found = .ok (v, rest) from hfound]
    split at h
    · exact isWritable_of_unsigned (hread _ h)
    · exact isWritable_of_unsigned (hread _ h)

-- ================================================================= values

/-- All values that the three readers read with so much fuel can be written. -/
structure ReadsWritable [JsonReader] (fuel : Nat) : Prop where
  value : ∀ depth t v rest, value fuel depth t = .ok (v, rest) → v.isWritable = true
  items : ∀ depth t vs rest, items fuel depth t = .ok (vs, rest) → ∀ v ∈ vs, v.isWritable = true
  fields : ∀ depth t pairs rest, fields fuel depth t = .ok (pairs, rest) →
    ∀ pair ∈ pairs, pair.2.isWritable = true

variable {fuel depth : Nat} {t rest : Text}

/-- A value is a string, an object of fields, an array of items or a scalar. -/
theorem ReadsWritable.value_succ [JsonReader] (h : ReadsWritable fuel) {v : Json}
    (hv : Parser.value (fuel + 1) depth t = .ok (v, rest)) : v.isWritable = true := by
  unfold Parser.value at hv
  split at hv
  · cases hv
  · next c behind =>
    split at hv
    -- a string
    · obtain ⟨⟨s, behind⟩, -, hv⟩ := bind_eq_ok.1 hv
      obtain ⟨rfl, -⟩ := Prod.mk.inj (Except.ok.inj hv)
      rfl
    · split at hv
      -- an object, which may be too deep or empty
      · split at hv
        · cases hv
        · split at hv
          · obtain ⟨rfl, -⟩ := Prod.mk.inj (Except.ok.inj hv)
            rfl
          · obtain ⟨⟨pairs, behind⟩, hpairs, hv⟩ := bind_eq_ok.1 hv
            obtain ⟨rfl, -⟩ := Prod.mk.inj (Except.ok.inj hv)
            rw [isWritable_obj, List.all_eq_true]
            exact fun field hfield => h.fields _ _ _ _ hpairs field (Fields.mem_ofPairs hfield)
      · split at hv
        -- an array, likewise
        · split at hv
          · cases hv
          · split at hv
            · obtain ⟨rfl, -⟩ := Prod.mk.inj (Except.ok.inj hv)
              rfl
            · obtain ⟨⟨vs, behind⟩, hvs, hv⟩ := bind_eq_ok.1 hv
              obtain ⟨rfl, -⟩ := Prod.mk.inj (Except.ok.inj hv)
              rw [isWritable_arr, List.all_eq_true]
              exact h.items _ _ _ _ hvs
        · exact isWritable_of_scalar hv

/-- Items are a value and further items. -/
theorem ReadsWritable.items_succ [JsonReader] (h : ReadsWritable fuel) {vs : List Json}
    (hvs : Parser.items (fuel + 1) depth t = .ok (vs, rest)) : ∀ v ∈ vs, v.isWritable = true := by
  unfold Parser.items at hvs
  obtain ⟨⟨v, behind⟩, hv, hvs⟩ := bind_eq_ok.1 hvs
  have hwritable := h.value depth t v behind hv
  simp only at hvs
  split at hvs
  · obtain ⟨rfl, -⟩ := Prod.mk.inj (Except.ok.inj hvs)
    intro item hitem
    rw [List.mem_singleton.1 hitem]
    exact hwritable
  · obtain ⟨⟨later, behind⟩, hlater, hvs⟩ := bind_eq_ok.1 hvs
    obtain ⟨rfl, -⟩ := Prod.mk.inj (Except.ok.inj hvs)
    intro item hitem
    rcases List.mem_cons.1 hitem with rfl | hmem
    · exact hwritable
    · exact h.items _ _ _ _ hlater item hmem
  · cases hvs

/-- Fields are a key with a value and further fields. -/
theorem ReadsWritable.fields_succ [JsonReader] (h : ReadsWritable fuel) {pairs : List (Text × Json)}
    (hpairs : Parser.fields (fuel + 1) depth t = .ok (pairs, rest)) :
    ∀ pair ∈ pairs, pair.2.isWritable = true := by
  unfold Parser.fields at hpairs
  -- behind the first member either the object is closed or a comma leads to more
  split at hpairs
  · obtain ⟨⟨key, behind⟩, -, hpairs⟩ := bind_eq_ok.1 hpairs
    simp only at hpairs
    split at hpairs
    · obtain ⟨⟨v, behind⟩, hv, hpairs⟩ := bind_eq_ok.1 hpairs
      have hwritable := h.value _ _ _ _ hv
      simp only at hpairs
      split at hpairs
      · obtain ⟨rfl, -⟩ := Prod.mk.inj (Except.ok.inj hpairs)
        intro pair hpair
        rw [List.mem_singleton.1 hpair]
        exact hwritable
      · obtain ⟨⟨later, behind⟩, hlater, hpairs⟩ := bind_eq_ok.1 hpairs
        obtain ⟨rfl, -⟩ := Prod.mk.inj (Except.ok.inj hpairs)
        intro pair hpair
        rcases List.mem_cons.1 hpair with rfl | hmem
        · exact hwritable
        · exact h.fields _ _ _ _ hlater pair hmem
      · cases hpairs
    · cases hpairs
  · cases hpairs

/-- With any fuel, what is read can be written. -/
theorem readsWritable [JsonReader] (fuel : Nat) : ReadsWritable fuel := by
  induction fuel with
  | zero =>
    refine ⟨?_, ?_, ?_⟩
    · intro depth t v rest h
      unfold Parser.value at h
      cases h
    · intro depth t vs rest h
      unfold Parser.items at h
      cases h
    · intro depth t pairs rest h
      unfold Parser.fields at h
      cases h
  | succ fuel ih =>
    exact ⟨fun _ _ _ _ h => ih.value_succ h, fun _ _ _ _ h => ih.items_succ h,
      fun _ _ _ _ h => ih.fields_succ h⟩

end Parser

/-- What is parsed can be written. -/
theorem isWritable_of_parse [JsonReader] {t : Text} {v : Json} (h : parse t = .ok v) :
    v.isWritable = true := by
  unfold parse at h
  split at h
  · next read hread =>
    obtain rfl := Except.ok.inj h
    unfold Parser.document at hread
    obtain ⟨⟨v, behind⟩, hv, hread⟩ := bind_eq_ok.1 hread
    simp only at hread
    split at hread
    · obtain rfl := Except.ok.inj hread
      exact (Parser.readsWritable _).value _ _ _ _ hv
    · cases hread
  · cases h
  · cases h
  · cases h

/-- A value that was read can be written. -/
theorem isWritable_of_parseText [JsonReader] {t : Text} {v : Json} (h : parseText t = .ok v) :
    v.isWritable = true := by
  unfold parseText at h
  split at h
  · cases h
  · exact isWritable_of_parse h

end MockApi.Json
