/-
Which texts are nested too deeply. The reader goes from bracket to bracket: past
the items and members that it has read it comes to the value that it reads next
(`ItemAt`, `MemberAt`). It gives up where that value opens a bracket inside as
many as may be open, and nowhere else (`value_eq_tooDeep_iff`).

The induction on the fuel says for any amount of it how a reader ends; that a
reader is too deep means something only where the fuel was enough (`Sound`). With
enough fuel the amount does not matter (`Agrees`), so that a value that was read
with one amount is read with another.
-/
import MockApi.Proofs.Json.Progress

namespace MockApi

/-- The code point opens an object or an array. -/
def Text.isBracket (c : CodePoint) : Bool := c == '{' || c == '['

namespace Json.Parser

variable {fuel depth : Nat} {t rest : Text}

-- ============================================================ ways inside

/-- The value at the front of a text inside so many open brackets, and what is
left behind it. -/
def Reads [JsonReader] (depth : Nat) (t : Text) (v : Json) (rest : Text) : Prop :=
  ∃ fuel, 2 * t.length < fuel ∧ value fuel depth t = .ok (v, rest)

/-- From where an item stands to where it or a later one does, past items that
are read. -/
inductive ItemAt [JsonReader] (depth : Nat) : Text → Text → Prop where
  | here (t : Text) : ItemAt depth t t
  | later {t rest behind item : Text} {v : Json} (read : Reads depth t v rest)
      (comma : skipSpaces rest = .char ',' :: behind)
      (next : ItemAt depth (skipSpaces behind) item) : ItemAt depth t item

/-- From where a key stands to where its value does. -/
inductive Keyed : Text → Text → Prop where
  | key {inside rest behind key : Text} (read : string inside = .ok (key, rest))
      (colon : skipSpaces rest = .char ':' :: behind) :
      Keyed (.char '"' :: inside) (skipSpaces behind)

/-- From where a key stands to where its value or that of a later key does, past
values that are read. -/
inductive MemberAt [JsonReader] (depth : Nat) : Text → Text → Prop where
  | here {t item : Text} (key : Keyed t item) : MemberAt depth t item
  | later {t first rest behind item : Text} {v : Json} (key : Keyed t first)
      (read : Reads depth first v rest) (comma : skipSpaces rest = .char ',' :: behind)
      (next : MemberAt depth (skipSpaces behind) item) : MemberAt depth t item

/-- The value at the front of a text inside so many open brackets leads to a
bracket that is one too many. -/
inductive Exceeds [JsonReader] : Nat → Text → Prop where
  | bracket {depth : Nat} {c : CodePoint} {rest : Text} (full : nestingLimit ≤ depth)
      (opens : Text.isBracket c = true) : Exceeds depth (c :: rest)
  | array {depth : Nat} {rest item : Text} (way : ItemAt (depth + 1) (skipSpaces rest) item)
      (exceeds : Exceeds (depth + 1) item) : Exceeds depth (.char '[' :: rest)
  | object {depth : Nat} {rest item : Text} (way : MemberAt (depth + 1) (skipSpaces rest) item)
      (exceeds : Exceeds (depth + 1) item) : Exceeds depth (.char '\x7b' :: rest)

-- ========================================================= how readers end

/-- How the three readers end with so much fuel. -/
structure Sound [JsonReader] (fuel : Nat) : Prop where
  value : ∀ depth t, Ends (2 * t.length < fuel → Exceeds depth t) t (value fuel depth t)
  items : ∀ depth t,
    Ends (2 * t.length + 1 < fuel → ∃ item, ItemAt depth t item ∧ Exceeds depth item) t
      (items fuel depth t)
  fields : ∀ depth t,
    Ends (2 * t.length < fuel → ∃ item, MemberAt depth t item ∧ Exceeds depth item) t
      (fields fuel depth t)

/-- One more step of fuel for a value keeps the reading sound. -/
theorem Sound.value_succ [JsonReader] (h : Sound fuel) (depth : Nat) (t : Text) :
    Ends (2 * t.length < fuel + 1 → Exceeds depth t) t (Parser.value (fuel + 1) depth t) := by
  unfold Parser.value
  split
  · exact trivial
  · next c behind =>
    have hinside : IsRest (skipSpaces behind) (c :: behind) := (isRest_cons c behind).spaces
    have hlength := hinside.2
    -- by the first character: a string, an object, an array, or one word
    split
    · refine ((string_ends behind).of_suffix (List.suffix_cons c behind)).bind ?_
      intro body rest _ hrest
      exact hrest
    · split
      · next hc =>
        split
        · next hfull => exact fun _ => .bracket hfull (by rw [hc]; rfl)
        · split
          · next rest hempty =>
            rw [hempty] at hinside
            exact hinside.tail
          · refine Ends.bind (((h.fields (depth + 1) _).of_suffix hinside.1).imp ?_) ?_
            · intro hdeep hfuel
              obtain ⟨item, hitem, hexceeds⟩ := hdeep (by omega)
              rw [hc]
              exact .object hitem hexceeds
            · intro pairs rest _ hrest
              exact hrest
      · split
        · next hc =>
          split
          · next hfull => exact fun _ => .bracket hfull (by rw [hc]; rfl)
          · split
            · next rest hempty =>
              rw [hempty] at hinside
              exact hinside.tail
            · refine Ends.bind (((h.items (depth + 1) _).of_suffix hinside.1).imp ?_) ?_
              · intro hdeep hfuel
                obtain ⟨item, hitem, hexceeds⟩ := hdeep (by omega)
                rw [hc]
                exact .array hitem hexceeds
              · intro vs rest _ hrest
                exact hrest
        · exact scalar_ends _

/-- One more step of fuel keeps the reading of items sound: the first is one of them, and
the others are those of the rest. -/
theorem Sound.items_succ [JsonReader] (h : Sound fuel) (depth : Nat) (t : Text) :
    Ends (2 * t.length + 1 < fuel + 1 → ∃ item, ItemAt depth t item ∧ Exceeds depth item) t
      (Parser.items (fuel + 1) depth t) := by
  unfold Parser.items
  -- the first item nests too deeply, or one of the later ones does
  refine Ends.bind ((h.value depth t).imp ?_) ?_
  · intro hdeep hfuel
    exact ⟨t, .here t, hdeep (by omega)⟩
  · intro v behind hv hbehind
    have hspaces := hbehind.spaces
    simp only
    split
    · next rest hclosed =>
      rw [hclosed] at hspaces
      exact hspaces.tail
    · next rest hcomma =>
      rw [hcomma] at hspaces
      have hrest := hspaces.tail.spaces
      have hlength := hrest.2
      refine Ends.bind (((h.items depth _).of_suffix hrest.1).imp ?_) ?_
      · intro hdeep hfuel
        obtain ⟨item, hitem, hexceeds⟩ := hdeep (by omega)
        exact ⟨item, .later ⟨fuel, by omega, hv⟩ hcomma hitem, hexceeds⟩
      · intro vs rest _ hrest
        exact hrest
    · exact trivial

/-- One more step of fuel keeps the reading of members sound. -/
theorem Sound.fields_succ [JsonReader] (h : Sound fuel) (depth : Nat) (t : Text) :
    Ends (2 * t.length < fuel + 1 → ∃ item, MemberAt depth t item ∧ Exceeds depth item) t
      (Parser.fields (fuel + 1) depth t) := by
  unfold Parser.fields
  -- a string is the key of the first member; nothing else begins one
  split
  · next inside =>
    refine ((string_ends inside).of_suffix (List.suffix_cons ..)).bind ?_
    intro key behind hkey hbehind
    have hspaces := hbehind.spaces
    simp only
    split
    · next rest hcolon =>
      rw [hcolon] at hspaces
      have hfirst := hspaces.tail.spaces
      have hlength := hfirst.2
      -- the value of the first member stands behind its key
      have hkeyed := Keyed.key hkey hcolon
      refine Ends.bind (((h.value depth _).of_suffix hfirst.1).imp ?_) ?_
      · intro hdeep hfuel
        exact ⟨_, .here hkeyed, hdeep (by omega)⟩
      · intro v behind hv hbehind
        have hspaces := hbehind.spaces
        simp only
        split
        · next rest hclosed =>
          rw [hclosed] at hspaces
          exact hspaces.tail
        · next rest hcomma =>
          rw [hcomma] at hspaces
          have hrest := hspaces.tail.spaces
          have hshorter := hrest.2
          refine Ends.bind (((h.fields depth _).of_suffix hrest.1).imp ?_) ?_
          · intro hdeep hfuel
            obtain ⟨item, hitem, hexceeds⟩ := hdeep (by omega)
            exact ⟨item, .later hkeyed ⟨fuel, by omega, hv⟩ hcomma hitem, hexceeds⟩
          · intro pairs rest _ hrest
            exact hrest
        · exact trivial
    · exact trivial
  · exact trivial

/-- With any fuel the reading is sound. -/
theorem sound [JsonReader] (fuel : Nat) : Sound fuel := by
  induction fuel with
  | zero =>
    refine ⟨?_, ?_, ?_⟩
    · intro depth t
      unfold Parser.value
      exact fun hfuel => absurd hfuel (Nat.not_lt_zero _)
    · intro depth t
      unfold Parser.items
      exact fun hfuel => absurd hfuel (Nat.not_lt_zero _)
    · intro depth t
      unfold Parser.fields
      exact fun hfuel => absurd hfuel (Nat.not_lt_zero _)
  | succ fuel ih => exact ⟨ih.value_succ, ih.items_succ, ih.fields_succ⟩

/-- What is left behind a value is a rest of the text. -/
theorem Reads.isRest [JsonReader] {v : Json} (h : Reads depth t v rest) : IsRest rest t := by
  obtain ⟨fuel, -, hread⟩ := h
  have hends := (sound fuel).value depth t
  rw [hread] at hends
  exact hends

-- ======================================================== enough is enough

/-- With enough fuel it does not matter to the three readers how much it is. -/
structure Agrees [JsonReader] (fuel more : Nat) : Prop where
  value : ∀ depth t, 2 * t.length < fuel → 2 * t.length < more →
    value fuel depth t = value more depth t
  items : ∀ depth t, 2 * t.length + 1 < fuel → 2 * t.length + 1 < more →
    items fuel depth t = items more depth t
  fields : ∀ depth t, 2 * t.length < fuel → 2 * t.length < more →
    fields fuel depth t = fields more depth t

variable {more : Nat}

/-- One more step of fuel on both sides keeps two readings of a value alike. -/
theorem Agrees.value_succ [JsonReader] (h : Agrees fuel more) (hfuel : 2 * t.length < fuel + 1)
    (hmore : 2 * t.length < more + 1) :
    Parser.value (fuel + 1) depth t = Parser.value (more + 1) depth t := by
  unfold Parser.value
  cases t with
  | nil => rfl
  | cons c behind =>
    have hlength := (skipSpaces_suffix behind).length_le
    rw [List.length_cons] at hfuel hmore
    -- what is inside the brackets is shorter by one character, so
    -- both fuels are enough for it
    have hfields := h.fields (depth + 1) (skipSpaces behind) (by omega) (by omega)
    have hitems := h.items (depth + 1) (skipSpaces behind) (by omega) (by omega)
    simp only
    split
    · rfl
    · split
      · split
        · rfl
        · split
          · rfl
          · rw [hfields]
      · split
        · split
          · rfl
          · split
            · rfl
            · rw [hitems]
        · rfl

/-- One more step of fuel on both sides keeps two readings of items alike. -/
theorem Agrees.items_succ [JsonReader] (h : Agrees fuel more) (hfuel : 2 * t.length + 1 < fuel + 1)
    (hmore : 2 * t.length + 1 < more + 1) :
    Parser.items (fuel + 1) depth t = Parser.items (more + 1) depth t := by
  unfold Parser.items
  rw [h.value depth t (by omega) (by omega)]
  cases hv : Parser.value more depth t with
  | error e => rfl
  | ok found =>
    obtain ⟨v, behind⟩ := found
    have hspaces := (Reads.isRest ⟨more, by omega, hv⟩).spaces
    simp only [bind, Except.bind]
    split
    · rfl
    · next rest hcomma =>
      rw [hcomma] at hspaces
      have hlength := hspaces.tail.spaces.2
      rw [h.items depth (skipSpaces rest) (by omega) (by omega)]
    · rfl

/-- One more step of fuel on both sides keeps two readings of members alike. -/
theorem Agrees.fields_succ [JsonReader] (h : Agrees fuel more) (hfuel : 2 * t.length < fuel + 1)
    (hmore : 2 * t.length < more + 1) :
    Parser.fields (fuel + 1) depth t = Parser.fields (more + 1) depth t := by
  unfold Parser.fields
  split
  · next inside =>
    cases hkey : string inside with
    | error e => rfl
    | ok found =>
      obtain ⟨key, behind⟩ := found
      have hends : Ends False inside (string inside) := string_ends inside
      rw [hkey] at hends
      -- the key takes characters, and so does the value: each rest is shorter
      have hspaces := (hends.of_suffix (List.suffix_cons (CodePoint.char '"') inside)).spaces
      simp only [bind, Except.bind]
      split
      · next rest hcolon =>
        rw [hcolon] at hspaces
        have hfirst := hspaces.tail.spaces
        have hlength := hfirst.2
        rw [h.value depth (skipSpaces rest) (by omega) (by omega)]
        cases hv : Parser.value more depth (skipSpaces rest) with
        | error e => rfl
        | ok found =>
          obtain ⟨v, behind⟩ := found
          have hspaces := ((Reads.isRest ⟨more, by omega, hv⟩).of_suffix hfirst.1).spaces
          simp only
          split
          · rfl
          · next rest hcomma =>
            rw [hcomma] at hspaces
            have hlength := hspaces.tail.spaces.2
            rw [h.fields depth (skipSpaces rest) (by omega) (by omega)]
          · rfl
      · rfl
  · rfl

/-- Any two amounts of fuel that are enough give one reading. -/
theorem agrees [JsonReader] (fuel more : Nat) : Agrees fuel more := by
  -- no fuel is enough for no text, so both have some to give
  induction fuel generalizing more with
  | zero =>
    refine ⟨?_, ?_, ?_⟩
    · intro depth t hfuel
      exact absurd hfuel (Nat.not_lt_zero _)
    · intro depth t hfuel
      exact absurd hfuel (Nat.not_lt_zero _)
    · intro depth t hfuel
      exact absurd hfuel (Nat.not_lt_zero _)
  | succ fuel ih =>
    cases more with
    | zero =>
      refine ⟨?_, ?_, ?_⟩
      · intro depth t _ hmore
        exact absurd hmore (Nat.not_lt_zero _)
      · intro depth t _ hmore
        exact absurd hmore (Nat.not_lt_zero _)
      · intro depth t _ hmore
        exact absurd hmore (Nat.not_lt_zero _)
    | succ more =>
      exact ⟨fun _ _ => (ih more).value_succ, fun _ _ => (ih more).items_succ,
        fun _ _ => (ih more).fields_succ⟩

/-- What is read of a text is read with any fuel that is enough. -/
theorem Reads.value_eq [JsonReader] {v : Json} (h : Reads depth t v rest)
    (hfuel : 2 * t.length < fuel) :
    value fuel depth t = .ok (v, rest) := by
  obtain ⟨more, hmore, hread⟩ := h
  rw [(agrees fuel more).value depth t hfuel hmore]
  exact hread

-- ============================================================== too deep

/-- What keeps the reader of an item from going on keeps that of the items. -/
theorem items_of_itemAt [JsonReader] {item : Text} {e : Stop} (h : ItemAt depth t item)
    (hitem : ∀ fuel, 2 * item.length < fuel → value fuel depth item = .error e)
    (hfuel : 2 * t.length + 1 < fuel) : items fuel depth t = .error e := by
  induction h generalizing fuel with
  | here t =>
    obtain ⟨fuel, rfl⟩ := Nat.exists_eq_add_of_lt hfuel
    unfold items
    rw [hitem _ (by omega)]
    rfl
  | later read comma next ih =>
    have hspaces := read.isRest.spaces
    rw [comma] at hspaces
    have hlength := hspaces.tail.spaces.2
    obtain ⟨fuel, rfl⟩ := Nat.exists_eq_add_of_lt hfuel
    unfold items
    rw [read.value_eq (by omega)]
    simp only [bind, Except.bind, comma]
    rw [ih hitem (by omega)]

/-- What stands behind a key is a rest of the text. -/
theorem Keyed.isRest {item : Text} (h : Keyed t item) : IsRest item t := by
  obtain @⟨inside, rest, behind, name, read, colon⟩ := h
  have hends : Ends False inside (string inside) := string_ends inside
  rw [read] at hends
  have hspaces := (hends.of_suffix (List.suffix_cons (CodePoint.char '"') inside)).spaces
  rw [colon] at hspaces
  exact hspaces.tail.spaces

/-- Where the reading of one member ends is where that of all ends. -/
theorem fields_of_memberAt [JsonReader] {item : Text} {e : Stop} (h : MemberAt depth t item)
    (hitem : ∀ fuel, 2 * item.length < fuel → value fuel depth item = .error e)
    (hfuel : 2 * t.length < fuel) : fields fuel depth t = .error e := by
  induction h generalizing fuel with
  | here key =>
    have hlength := key.isRest.2
    obtain ⟨fuel, rfl⟩ : ∃ more, fuel = more + 1 := ⟨fuel - 1, by omega⟩
    have hvalue := hitem fuel (by omega)
    obtain ⟨hkey, colon⟩ := key
    unfold fields
    simp only [hkey, bind, Except.bind, colon, hvalue]
  | later key read comma next ih =>
    have hfirst := key.isRest
    have hshorter := hfirst.2
    have hspaces := (read.isRest.of_suffix hfirst.1).spaces
    rw [comma] at hspaces
    have hlength := hspaces.tail.spaces.2
    obtain ⟨fuel, rfl⟩ : ∃ more, fuel = more + 1 := ⟨fuel - 1, by omega⟩
    have hvalue : value fuel depth _ = _ := read.value_eq (by omega)
    have hlater : fields fuel depth _ = _ := ih hitem (by omega)
    obtain ⟨hkey, colon⟩ := key
    unfold fields
    simp only [hkey, bind, Except.bind, colon, hvalue, comma, hlater]

/-- No item starts with a closing bracket. -/
theorem items_of_closed [JsonReader] (fuel depth : Nat) (rest : Text) :
    items (fuel + 2) depth (.char ']' :: rest)
      = .error (.flaw .expectingValue (rest.length + 1)) := by
  unfold items value
  rfl

/-- A bracket that is one too many is refused as it stands. -/
theorem value_of_full [JsonReader] {c : CodePoint} (full : nestingLimit ≤ depth)
    (opens : Text.isBracket c = true) : value (fuel + 1) depth (c :: rest) = .error .tooDeep := by
  rw [Text.isBracket, Bool.or_eq_true, beq_iff_eq, beq_iff_eq] at opens
  unfold value
  rcases opens with rfl | rfl
  · exact if_pos full
  · exact if_pos full

/-- A text that nests too deeply is refused for it, with any fuel that is enough. -/
theorem value_of_exceeds [JsonReader] (h : Exceeds depth t) (hfuel : 2 * t.length < fuel) :
    value fuel depth t = .error .tooDeep := by
  -- along the way to the bracket that is one too many
  induction h generalizing fuel with
  | bracket full opens =>
    obtain ⟨fuel, rfl⟩ := Nat.exists_eq_add_of_lt hfuel
    exact value_of_full full opens
  | @array depth rest item way exceeds ih =>
    rw [List.length_cons] at hfuel
    have hlength := (skipSpaces_suffix rest).length_le
    obtain ⟨fuel, rfl⟩ : ∃ more, fuel = more + 3 := ⟨fuel - 3, by omega⟩
    have hitems : items (fuel + 2) (depth + 1) (skipSpaces rest) = .error .tooDeep :=
      items_of_itemAt way (fun _ => ih) (by omega)
    -- the array may be too deep itself; if not, it is not closed before the item
    by_cases hfull : nestingLimit ≤ depth
    · exact value_of_full hfull rfl
    · show (if nestingLimit ≤ depth then _ else _) = _
      rw [if_neg hfull]
      split
      · next behind hclosed =>
        rw [hclosed, items_of_closed] at hitems
        cases hitems
      · rw [hitems]
        rfl
  | @object depth rest item way exceeds ih =>
    rw [List.length_cons] at hfuel
    have hlength := (skipSpaces_suffix rest).length_le
    obtain ⟨fuel, rfl⟩ : ∃ more, fuel = more + 2 := ⟨fuel - 2, by omega⟩
    have hfields : fields (fuel + 1) (depth + 1) (skipSpaces rest) = .error .tooDeep :=
      fields_of_memberAt way (fun _ => ih) (by omega)
    by_cases hfull : nestingLimit ≤ depth
    · exact value_of_full hfull rfl
    · show (if nestingLimit ≤ depth then _ else _) = _
      rw [if_neg hfull]
      split
      · next behind hclosed =>
        rw [hclosed] at hfields
        unfold fields at hfields
        cases hfields
      · rw [hfields]
        rfl

/-- The reader of values gives up on a text that leads to a bracket too many, and
on no other. -/
theorem value_eq_tooDeep_iff [JsonReader] (hfuel : 2 * t.length < fuel) :
    value fuel depth t = .error .tooDeep ↔ Exceeds depth t := by
  constructor
  · intro h
    have hends := (sound fuel).value depth t
    rw [h] at hends
    exact hends hfuel
  · intro h
    exact value_of_exceeds h hfuel

/-- A document is refused for its nesting if its text exceeds the limit, and only then. -/
theorem document_eq_tooDeep_iff [JsonReader] (t : Text) :
    document t = .error .tooDeep ↔ Exceeds 0 (skipSpaces t) := by
  have hlength := (skipSpaces_suffix t).length_le
  have hfuel : 2 * (skipSpaces t).length < 2 * t.length + 2 := by omega
  rw [← value_eq_tooDeep_iff hfuel]
  unfold document
  cases value (2 * t.length + 2) 0 (skipSpaces t) with
  | error e => simp [bind, Except.bind]
  | ok found =>
    simp only [bind, Except.bind]
    split
    · exact iff_of_false nofun nofun
    · exact iff_of_false nofun nofun

-- ============================================================== how many

/-- An item is the end of a text from some place on. -/
theorem ItemAt.suffix [JsonReader] {item : Text} (h : ItemAt depth t item) : item <:+ t := by
  induction h with
  | here t => exact List.suffix_refl t
  | later read comma next ih =>
    have hspaces := read.isRest.spaces
    rw [comma] at hspaces
    exact ih.trans hspaces.tail.spaces.1

/-- The value of a member is the end of a text from some place on. -/
theorem MemberAt.suffix [JsonReader] {item : Text} (h : MemberAt depth t item) : item <:+ t := by
  induction h with
  | here key => exact key.isRest.1
  | later key read comma next ih =>
    have hspaces := (read.isRest.of_suffix key.isRest.1).spaces
    rw [comma] at hspaces
    exact ih.trans hspaces.tail.spaces.1

/-- There are more brackets than may be nested. -/
theorem Exceeds.lt_brackets [JsonReader] (h : Exceeds depth t) :
    nestingLimit < depth + t.countP Text.isBracket := by
  have hbehind : ∀ {rest item : Text}, item <:+ skipSpaces rest →
      item.countP Text.isBracket ≤ rest.countP Text.isBracket := fun hitem =>
    (hitem.trans (skipSpaces_suffix _)).sublist.countP_le
  induction h with
  | bracket full opens =>
    rw [List.countP_cons_of_pos opens]
    omega
  | array way exceeds ih =>
    have hle := hbehind way.suffix
    rw [List.countP_cons_of_pos rfl]
    omega
  | object way exceeds ih =>
    have hle := hbehind way.suffix
    rw [List.countP_cons_of_pos rfl]
    omega

/-- Brackets alone, so many that the last is one too many, whatever follows. -/
theorem exceeds_replicate [JsonReader] {count : Nat} (h : nestingLimit ≤ depth + count)
    (rest : Text) :
    Exceeds depth (List.replicate (count + 1) (.char '[') ++ rest) := by
  induction count generalizing depth with
  | zero => exact .bracket h rfl
  | succ count ih => exact .array (.here _) (ih (by omega))

end Json.Parser

end MockApi
