/-
How a value is read from its parts. With enough fuel the readers follow the
grammar: what is read behind a bracket, a comma or a colon makes up what is read
in front of it. Here the fuel disappears; each law has one reader's step and the
parts that are read in it.
-/
import MockApi.Proofs.Json.Nesting

namespace MockApi.Json.Parser

variable {depth : Nat} {t inside behind rest more : Text} {v : Json} {vs : List Json}
  {pairs : Fields} {key : Text}

/-- The items at the front of a text, with the bracket that closes them. -/
def ReadsItems [JsonReader] (depth : Nat) (t : Text) (vs : List Json) (rest : Text) : Prop :=
  ∃ fuel, 2 * t.length + 1 < fuel ∧ items fuel depth t = .ok (vs, rest)

/-- The members at the front of a text, with the bracket that closes them. -/
def ReadsFields [JsonReader] (depth : Nat) (t : Text) (pairs : Fields) (rest : Text) : Prop :=
  ∃ fuel, 2 * t.length < fuel ∧ fields fuel depth t = .ok (pairs, rest)

/-- What reads as items does so with any fuel that is enough. -/
theorem ReadsItems.items_eq [JsonReader] {fuel : Nat} (h : ReadsItems depth t vs rest)
    (hfuel : 2 * t.length + 1 < fuel) : items fuel depth t = .ok (vs, rest) := by
  obtain ⟨enough, henough, hread⟩ := h
  rw [(agrees fuel enough).items depth t hfuel henough]
  exact hread

theorem ReadsFields.fields_eq [JsonReader] {fuel : Nat} (h : ReadsFields depth t pairs rest)
    (hfuel : 2 * t.length < fuel) : fields fuel depth t = .ok (pairs, rest) := by
  obtain ⟨enough, henough, hread⟩ := h
  rw [(agrees fuel enough).fields depth t hfuel henough]
  exact hread

-- ================================================================= scalars

/-- A value of one word is read where no string and no bracket begins. -/
theorem reads_scalar [JsonReader] {c : CodePoint} (hquote : c ≠ '"')
    (hbracket : Text.isBracket c = false)
    (h : scalar (c :: t) = .ok (v, rest)) : Reads depth (c :: t) v rest := by
  rw [Text.isBracket, Bool.or_eq_false_iff, beq_eq_false_iff_ne, beq_eq_false_iff_ne] at hbracket
  refine ⟨2 * (c :: t).length + 1, Nat.lt_succ_self _, ?_⟩
  unfold value
  simp only
  rw [if_neg hquote, if_neg hbracket.1, if_neg hbracket.2]
  exact h

/-- A string is read behind its quote. -/
theorem reads_string [JsonReader] {s : Text} (h : string inside = .ok (s, rest)) :
    Reads depth (.char '"' :: inside) (.str s) rest := by
  refine ⟨2 * (CodePoint.char '"' :: inside).length + 1, Nat.lt_succ_self _, ?_⟩
  show (string inside >>= fun found => pure (Json.str found.1, found.2)) = _
  rw [h]
  rfl

-- ================================================================== arrays

/-- An array that is closed at once is empty. -/
theorem reads_emptyArray [JsonReader] (room : depth < nestingLimit)
    (closed : skipSpaces inside = .char ']' :: rest) :
    Reads depth (.char '[' :: inside) (.arr []) rest := by
  refine ⟨2 * (CodePoint.char '[' :: inside).length + 1, Nat.lt_succ_self _, ?_⟩
  show (if nestingLimit ≤ depth then _ else _) = _
  rw [if_neg (Nat.not_le.2 room), closed]
  rfl

/-- An array is read as its items, one level deeper. -/
theorem reads_array [JsonReader] (room : depth < nestingLimit)
    (h : ReadsItems (depth + 1) (skipSpaces inside) vs rest) :
    Reads depth (.char '[' :: inside) (.arr vs) rest := by
  have hlength := (skipSpaces_suffix inside).length_le
  have hitems : items (2 * inside.length + 2) (depth + 1) (skipSpaces inside) = .ok (vs, rest) :=
    h.items_eq (by omega)
  refine ⟨2 * inside.length + 3, by rw [List.length_cons]; omega, ?_⟩
  show (if nestingLimit ≤ depth then _ else _) = _
  rw [if_neg (Nat.not_le.2 room)]
  split
  · next behind hclosed =>
    rw [hclosed, items_of_closed] at hitems
    cases hitems
  · rw [hitems]
    rfl

/-- The last item stands before the closing bracket. -/
theorem readsItems_last [JsonReader] (h : Reads depth t v behind)
    (closed : skipSpaces behind = .char ']' :: rest) : ReadsItems depth t [v] rest := by
  refine ⟨2 * t.length + 2, Nat.lt_succ_self _, ?_⟩
  unfold items
  rw [h.value_eq (by omega)]
  simp only [bind, Except.bind, closed]
  rfl

/-- Each other item stands before a comma and the items behind it. -/
theorem readsItems_cons [JsonReader] (h : Reads depth t v behind)
    (comma : skipSpaces behind = .char ',' :: more)
    (hmore : ReadsItems depth (skipSpaces more) vs rest) : ReadsItems depth t (v :: vs) rest := by
  have hspaces := h.isRest.spaces
  rw [comma] at hspaces
  have hlength := hspaces.tail.spaces.2
  refine ⟨2 * t.length + 2, Nat.lt_succ_self _, ?_⟩
  unfold items
  rw [h.value_eq (by omega)]
  simp only [bind, Except.bind, comma]
  rw [hmore.items_eq (by omega)]
  rfl

-- ================================================================= objects

/-- An object that is closed at once is empty. -/
theorem reads_emptyObject [JsonReader] (room : depth < nestingLimit)
    (closed : skipSpaces inside = .char '\x7d' :: rest) :
    Reads depth (.char '\x7b' :: inside) (.obj []) rest := by
  refine ⟨2 * (CodePoint.char '\x7b' :: inside).length + 1, Nat.lt_succ_self _, ?_⟩
  show (if nestingLimit ≤ depth then _ else _) = _
  rw [if_neg (Nat.not_le.2 room), closed]
  rfl

/-- An object is read as its members, one level deeper, a later one of a key winning. -/
theorem reads_object [JsonReader] (room : depth < nestingLimit)
    (h : ReadsFields (depth + 1) (skipSpaces inside) pairs rest) :
    Reads depth (.char '\x7b' :: inside) (.obj (Fields.ofPairs pairs)) rest := by
  have hlength := (skipSpaces_suffix inside).length_le
  have hfields : fields (2 * inside.length + 2) (depth + 1) (skipSpaces inside)
      = .ok (pairs, rest) := h.fields_eq (by omega)
  refine ⟨2 * inside.length + 3, by rw [List.length_cons]; omega, ?_⟩
  show (if nestingLimit ≤ depth then _ else _) = _
  rw [if_neg (Nat.not_le.2 room)]
  split
  · next behind hclosed =>
    rw [hclosed] at hfields
    unfold fields at hfields
    cases hfields
  · rw [hfields]
    rfl

/-- The place of a value behind its key. -/
theorem isRest_of_key (hkey : string inside = .ok (key, behind))
    (colon : skipSpaces behind = .char ':' :: more) :
    IsRest (skipSpaces more) (.char '"' :: inside) :=
  (Keyed.key hkey colon).isRest

/-- The last member stands before the closing brace. -/
theorem readsFields_last [JsonReader] (hkey : string inside = .ok (key, behind))
    (colon : skipSpaces behind = .char ':' :: more) {tail : Text}
    (h : Reads depth (skipSpaces more) v tail) (closed : skipSpaces tail = .char '\x7d' :: rest) :
    ReadsFields depth (.char '"' :: inside) [(key, v)] rest := by
  have hlength := (isRest_of_key hkey colon).2
  have hvalue : value (2 * (inside.length + 1)) depth (skipSpaces more) = .ok (v, tail) :=
    h.value_eq (by rw [List.length_cons] at hlength; omega)
  refine ⟨2 * (inside.length + 1) + 1, Nat.lt_succ_self _, ?_⟩
  unfold fields
  simp only [hkey, bind, Except.bind, colon, hvalue, closed]
  rfl

/-- Each other member stands before a comma and the members behind it. -/
theorem readsFields_cons [JsonReader] (hkey : string inside = .ok (key, behind))
    (colon : skipSpaces behind = .char ':' :: more) {tail later : Text}
    (h : Reads depth (skipSpaces more) v tail) (comma : skipSpaces tail = .char ',' :: later)
    (hlater : ReadsFields depth (skipSpaces later) pairs rest) :
    ReadsFields depth (.char '"' :: inside) ((key, v) :: pairs) rest := by
  have hfirst := isRest_of_key hkey colon
  have hlength := hfirst.2
  have hspaces := (h.isRest.of_suffix hfirst.1).spaces
  rw [comma] at hspaces
  have hshorter := hspaces.tail.spaces.2
  rw [List.length_cons] at hlength hshorter
  have hvalue : value (2 * (inside.length + 1)) depth (skipSpaces more) = .ok (v, tail) :=
    h.value_eq (by omega)
  have hpairs : fields (2 * (inside.length + 1)) depth (skipSpaces later) = .ok (pairs, rest) :=
    hlater.fields_eq (by omega)
  refine ⟨2 * (inside.length + 1) + 1, Nat.lt_succ_self _, ?_⟩
  unfold fields
  simp only [hkey, bind, Except.bind, colon, hvalue, comma, hpairs]
  rfl

-- =============================================================== documents

/-- A value with nothing but spaces around it is what a text says. -/
theorem parse_of_reads [JsonReader] (h : Reads 0 (skipSpaces t) v rest)
    (hrest : skipSpaces rest = []) :
    parse t = .ok v := by
  have hlength := (skipSpaces_suffix t).length_le
  unfold parse document
  rw [h.value_eq (by omega)]
  simp only [bind, Except.bind, hrest]
  rfl

end MockApi.Json.Parser
