/-
What is written is read back. A value without floating point numbers, with distinct keys
and no more brackets than may be nested, is read from its text in every layout that
separates items with commas and keys with colons (`parse_layout`): key order and all, with
the halves of surrogate pairs joined where the text is in ASCII. A file says what the value
is (`parse_text`).

The induction is on the value, for any text behind it that starts with a break, as one
does wherever a value is written; so the items of an array and the members of an object
are read one behind the other.
-/
import MockApi.Proofs.Json.Escape
import MockApi.Proofs.Json.Reading
import MockApi.Proofs.Json.Scalar

namespace MockApi

namespace Json

mutual

/-- No floating point number is in the value, and no key twice in an object. -/
def isExact : Json → Bool
  | .float _ => false
  | .arr items => isExactOf items
  | .obj fields => decide (fields.map (·.1)).Nodup && isExactIn fields
  | _ => true

def isExactOf : List Json → Bool
  | [] => true
  | item :: rest => isExact item && isExactOf rest

def isExactIn : List (Text × Json) → Bool
  | [] => true
  | (_, value) :: rest => isExact value && isExactIn rest

end

mutual

/-- How many brackets of the value are open at a time at most. -/
def nesting : Json → Nat
  | .arr items => nestingOf items + 1
  | .obj fields => nestingIn fields + 1
  | _ => 0

def nestingOf : List Json → Nat
  | [] => 0
  | item :: rest => max (nesting item) (nestingOf rest)

def nestingIn : List (Text × Json) → Nat
  | [] => 0
  | (_, value) :: rest => max (nesting value) (nestingIn rest)

end

end Json

/-- Pairs of distinct keys are fields as they stand. -/
theorem Fields.ofPairs_of_nodup {α : Type} {pairs : List (Text × α)}
    (h : (pairs.map (·.1)).Nodup) : ofPairs pairs = pairs := by
  have hfold : ∀ (pairs start : List (Text × α)), ((start ++ pairs).map (·.1)).Nodup →
      pairs.foldl (fun fields pair => put pair.1 pair.2 fields) start = start ++ pairs := by
    intro pairs
    induction pairs with
    | nil =>
      intro start _
      rw [List.append_nil]
      rfl
    | cons pair rest ih =>
      intro start hnodup
      have hnew : pair.1 ∉ start.map (·.1) := by
        rw [List.map_append, List.nodup_append] at hnodup
        intro hmem
        exact hnodup.2.2 _ hmem pair.1 (by simp) rfl
      have happend : start ++ [pair] ++ rest = start ++ pair :: rest := by simp
      rw [List.foldl_cons, put_of_not_mem pair.2 hnew, ih (start ++ [pair]) (happend ▸ hnodup),
        happend]
  exact hfold pairs [] h

open Json.Parser

/-- The layout separates items with commas and keys with colons, with nothing but spaces
behind them. -/
structure JsonLayout.IsReadable (layout : JsonLayout) : Prop where
  items : ∃ gap, layout.itemSeparator = .char ',' :: gap ∧ ∀ c ∈ gap, isSpace c = true
  keys : ∃ gap, layout.keySeparator = .char ':' :: gap ∧ ∀ c ∈ gap, isSpace c = true

theorem JsonLayout.isReadable_file : JsonLayout.file.IsReadable where
  items := ⟨[], rfl, nofun⟩
  keys := ⟨[.char ' '], rfl, by decide⟩

theorem JsonLayout.isReadable_body : JsonLayout.body.IsReadable where
  items := ⟨[.char ' '], rfl, by decide⟩
  keys := ⟨[.char ' '], rfl, by decide⟩

namespace Json

mutual

/-- The value with another text for each text. Where two keys of an object get the same
text, the later value counts. -/
def mapText (f : Text → Text) : Json → Json
  | .str t => .str (f t)
  | .arr items => .arr (mapTextOf f items)
  | .obj fields => .obj (Fields.ofPairs (mapTextIn f fields))
  | v => v

def mapTextOf (f : Text → Text) : List Json → List Json
  | [] => []
  | item :: rest => mapText f item :: mapTextOf f rest

def mapTextIn (f : Text → Text) : List (Text × Json) → List (Text × Json)
  | [] => []
  | (key, value) :: rest => (f key, mapText f value) :: mapTextIn f rest

end

/-- What is read of a value that was written in a layout. -/
def reread (layout : JsonLayout) (v : Json) : Json := v.mapText (Parser.reread layout.asciiOnly)

variable {layout : JsonLayout} {depth level : Nat} {rest gap : Text}

-- ================================================================== spaces

theorem skipSpaces_gap (h : ∀ c ∈ gap, isSpace c = true) (t : Text) :
    skipSpaces (gap ++ t) = skipSpaces t :=
  List.dropWhile_append_of_pos h

/-- Whatever its layout, a break between lines is skipped. -/
theorem skipSpaces_lineBreak (layout : JsonLayout) (level : Nat) (t : Text) :
    skipSpaces (layout.lineBreak level ++ t) = skipSpaces t := by
  refine skipSpaces_gap (fun c hc => ?_) t
  unfold JsonLayout.lineBreak at hc
  split at hc
  · cases hc
  · rcases List.mem_cons.1 hc with rfl | hspace
    · rfl
    · rw [List.eq_of_mem_replicate hspace]
      rfl

/-- The text of a value starts with something other than a space. -/
theorem skipSpaces_textAt {v : Json} (exact : v.isExact = true) (t : Text) :
    skipSpaces (textAt layout level v ++ t) = textAt layout level v ++ t := by
  have hstart : ∃ c more, textAt layout level v = c :: more ∧ isSpace c = false := by
    cases v with
    | null => exact ⟨_, _, rfl, rfl⟩
    | bool b => cases b <;> exact ⟨_, _, rfl, rfl⟩
    | int n =>
      cases n with
      | ofNat n =>
        obtain ⟨c, ds, htext, hc⟩ := exists_cons_decimalOfNat n
        exact ⟨c, ds, htext, isSpace_of_isAsciiDigit hc⟩
      | negSucc n => exact ⟨_, _, rfl, rfl⟩
    | float x => cases exact
    | str t => exact ⟨_, _, rfl, rfl⟩
    | arr items => cases items <;> exact ⟨_, _, rfl, rfl⟩
    | obj fields => cases fields <;> exact ⟨_, _, rfl, rfl⟩
  obtain ⟨c, more, htext, hc⟩ := hstart
  rw [htext]
  exact List.dropWhile_cons_of_neg (by simp [hc])

/-- A closing bracket is a break, with or without the line break in front of it. -/
theorem isBreak_closing {c : CodePoint} (hc : c = .char ']' ∨ c = .char '\x7d') (level : Nat)
    (t : Text) : IsBreak (layout.lineBreak level ++ c :: t) := by
  unfold JsonLayout.lineBreak
  split
  · intro first hfirst
    rw [← Option.some.inj hfirst]
    exact .inr (.inr hc)
  · intro first hfirst
    exact .inr (.inl (Option.some.inj hfirst).symm)

/-- What separates items ends a number. -/
theorem isBreak_comma (readable : layout.IsReadable) (t : Text) :
    IsBreak (layout.itemSeparator ++ t) := by
  obtain ⟨gap, hitems, -⟩ := readable.items
  rw [hitems]
  intro c hc
  exact .inl (Option.some.inj hc).symm

/-- Behind an item or a member there is a comma, a line break or a bracket. -/
theorem isBreak_itemsText (readable : layout.IsReadable) (level : Nat) (items : List Json)
    (t : Text) :
    IsBreak (itemsText layout (level + 1) items ++ (layout.lineBreak level ++ .char ']' :: t)) := by
  cases items with
  | nil => exact isBreak_closing (.inl rfl) level t
  | cons item more =>
    simp only [itemsText, List.append_assoc]
    exact isBreak_comma readable _

/-- What closes the members of an object, or goes on with them, is a break. -/
theorem isBreak_fieldsText (readable : layout.IsReadable) (level : Nat) (fields : Fields)
    (t : Text) : IsBreak (fieldsText layout (level + 1) fields
      ++ (layout.lineBreak level ++ .char '\x7d' :: t)) := by
  cases fields with
  | nil => exact isBreak_closing (.inr rfl) level t
  | cons field more =>
    simp only [fieldsText, List.append_assoc]
    exact isBreak_comma readable _

-- ================================================================== values

/-- The value is read from its text at any level, inside so many open brackets
that its own are not too many, whatever break follows. -/
def ReadsBack [JsonReader] (layout : JsonLayout) (v : Json) : Prop :=
  ∀ level depth rest, depth + v.nesting ≤ nestingLimit → IsBreak rest →
    Reads depth (textAt layout level v ++ rest) (v.reread layout) rest

/-- An integer within the limit of digits is read back. -/
theorem readsBack_int [JsonReader] {n : Int} (fits : fitsInText n = true) :
    (Json.int n).ReadsBack layout := by
  intro level depth rest _ hrest
  have hscalar := scalar_decimal fits hrest
  have hstart : ∃ c more, decimal n = c :: more ∧ c ≠ .char '"' ∧ Text.isBracket c = false := by
    cases n with
    | ofNat n =>
      obtain ⟨c, ds, htext, hc⟩ := exists_cons_decimalOfNat n
      refine ⟨c, ds, htext, ?_, ?_⟩
      · rintro rfl
        cases hc
      · rw [← Bool.not_eq_true]
        intro hbracket
        rw [Text.isBracket, Bool.or_eq_true, beq_iff_eq, beq_iff_eq] at hbracket
        rcases hbracket with rfl | rfl
        · cases hc
        · cases hc
    | negSucc n => exact ⟨_, _, rfl, by decide, rfl⟩
  obtain ⟨c, more, htext, hquote, hbracket⟩ := hstart
  rw [textAt]
  rw [htext, List.cons_append] at hscalar ⊢
  exact reads_scalar hquote hbracket hscalar

/-- A string in front of a rest is its quote, the escaped text and its quote. -/
theorem stringText_append (asciiOnly : Bool) (t rest : Text) :
    stringText asciiOnly t ++ rest
      = .char '"' :: (t.flatMap (escapeChar asciiOnly) ++ .char '"' :: rest) := by
  unfold stringText
  simp only [List.append_assoc]
  rfl

/-- A string is read back as what its layout makes of it. -/
theorem readsBack_str [JsonReader] (t : Text) : (Json.str t).ReadsBack layout := by
  intro level depth rest _ _
  show Reads depth (stringText layout.asciiOnly t ++ rest) _ _
  rw [stringText_append]
  exact reads_string (string_of_escaped layout.asciiOnly t rest)

-- =================================================================== arrays

/-- Items are read one behind the other. -/
theorem readsItems_of_readsBack [JsonReader] (readable : layout.IsReadable) {first : Json}
    {items : List Json} (hfirst : first.ReadsBack layout)
    (hitems : ∀ item ∈ items, item.isExact = true ∧ item.ReadsBack layout) (level : Nat)
    (rest : Text) (room : depth + nestingOf (first :: items) ≤ nestingLimit) :
    ReadsItems depth (textAt layout (level + 1) first ++ (itemsText layout (level + 1) items
      ++ (layout.lineBreak level ++ .char ']' :: rest)))
      (mapTextOf (Parser.reread layout.asciiOnly) (first :: items)) rest := by
  induction items generalizing first with
  | nil =>
    rw [nestingOf, nestingOf] at room
    refine readsItems_last (hfirst _ _ _ (by omega) (isBreak_itemsText readable _ [] _)) ?_
    exact skipSpaces_lineBreak ..
  | cons item more ih =>
    rw [nestingOf] at room
    obtain ⟨hexact, hitem⟩ := hitems item List.mem_cons_self
    obtain ⟨gap, hcomma, hgap⟩ := readable.items
    have hmore := ih hitem (fun v hv => hitems v (List.mem_cons_of_mem _ hv)) (by omega)
    have hbreak := isBreak_itemsText readable level (item :: more) rest
    have hbehind : itemsText layout (level + 1) (item :: more)
        ++ (layout.lineBreak level ++ .char ']' :: rest)
        = .char ',' :: (gap ++ (layout.lineBreak (level + 1) ++ (textAt layout (level + 1) item
          ++ (itemsText layout (level + 1) more
            ++ (layout.lineBreak level ++ .char ']' :: rest))))) := by
      simp only [itemsText, hcomma, List.append_assoc, List.cons_append]
    refine readsItems_cons (hfirst _ _ _ (by omega) hbreak) (congrArg skipSpaces hbehind) ?_
    rw [skipSpaces_gap hgap, skipSpaces_lineBreak, skipSpaces_textAt hexact]
    exact hmore

/-- An array is read back if its items are. -/
theorem readsBack_arr [JsonReader] (readable : layout.IsReadable) {items : List Json}
    (hitems : ∀ item ∈ items, item.isExact = true ∧ item.ReadsBack layout) :
    (Json.arr items).ReadsBack layout := by
  intro level depth rest room _
  cases items with
  | nil => exact reads_emptyArray (by rw [nesting] at room; omega) rfl
  | cons first more =>
    rw [nesting] at room
    obtain ⟨hexact, hfirst⟩ := hitems first List.mem_cons_self
    have hread := readsItems_of_readsBack readable hfirst
      (fun v hv => hitems v (List.mem_cons_of_mem _ hv)) level rest
      (show depth + 1 + nestingOf (first :: more) ≤ nestingLimit by omega)
    have htext : textAt layout level (.arr (first :: more)) ++ rest
        = .char '[' :: (layout.lineBreak (level + 1) ++ (textAt layout (level + 1) first
          ++ (itemsText layout (level + 1) more
          ++ (layout.lineBreak level ++ .char ']' :: rest)))) := by
      simp only [textAt, List.append_assoc]
      rfl
    rw [htext]
    refine reads_array (by omega) ?_
    rw [skipSpaces_lineBreak, skipSpaces_textAt hexact]
    exact hread

-- ================================================================== objects

/-- The text of members from a key on, up to the closing bracket. -/
theorem fieldsText_from_key {key : Text} {value : Json} {fields : Fields}
    (hcolon : layout.keySeparator = .char ':' :: gap) (t : Text) :
    stringText layout.asciiOnly key ++ (layout.keySeparator ++ (textAt layout level value
        ++ (fieldsText layout level fields ++ t)))
      = .char '"' :: (key.flatMap (escapeChar layout.asciiOnly) ++ .char '"' :: (.char ':'
        :: (gap ++ (textAt layout level value ++ (fieldsText layout level fields ++ t))))) := by
  rw [stringText_append, hcolon, List.cons_append]

/-- Members are read one behind the other. -/
theorem readsFields_of_readsBack [JsonReader] (readable : layout.IsReadable) (key : Text)
    {first : Json}
    {fields : Fields} (hexact : first.isExact = true) (hfirst : first.ReadsBack layout)
    (hfields : ∀ field ∈ fields, field.2.isExact = true ∧ field.2.ReadsBack layout) (level : Nat)
    (rest : Text) (room : depth + nestingIn ((key, first) :: fields) ≤ nestingLimit) :
    ReadsFields depth (stringText layout.asciiOnly key ++ (layout.keySeparator
        ++ (textAt layout (level + 1) first ++ (fieldsText layout (level + 1) fields
        ++ (layout.lineBreak level ++ .char '\x7d' :: rest)))))
      (mapTextIn (Parser.reread layout.asciiOnly) ((key, first) :: fields)) rest := by
  obtain ⟨gap, hcolon, hgap⟩ := readable.keys
  obtain ⟨comma, hcomma, hspaces⟩ := readable.items
  -- the induction is on the members behind the first
  induction fields generalizing key first with
  | nil =>
    rw [nestingIn, nestingIn] at room
    have hvalue := hfirst (level + 1) depth _ (by omega)
      (isBreak_fieldsText readable level [] rest)
    rw [fieldsText_from_key hcolon]
    rw [← skipSpaces_textAt hexact, ← skipSpaces_gap hgap] at hvalue
    exact readsFields_last (string_of_escaped layout.asciiOnly key _) rfl hvalue
      (skipSpaces_lineBreak ..)
  | cons field more ih =>
    obtain ⟨name, value⟩ := field
    rw [nestingIn] at room
    obtain ⟨hexactValue, hvalue⟩ := hfields (name, value) List.mem_cons_self
    have hroom : depth + nestingIn ((name, value) :: more) ≤ nestingLimit := by omega
    have hmore := ih name hexactValue hvalue
      (fun v hv => hfields v (List.mem_cons_of_mem _ hv)) hroom
    have hread := hfirst (level + 1) depth _ (by omega)
      (isBreak_fieldsText readable level ((name, value) :: more) rest)
    -- behind the value: a comma, the break of a line, and the next member
    have hbehind : fieldsText layout (level + 1) ((name, value) :: more)
        ++ (layout.lineBreak level ++ .char '\x7d' :: rest)
        = .char ',' :: (comma ++ (layout.lineBreak (level + 1)
          ++ (stringText layout.asciiOnly name ++ (layout.keySeparator
          ++ (textAt layout (level + 1) value ++ (fieldsText layout (level + 1) more
          ++ (layout.lineBreak level ++ .char '\x7d' :: rest))))))) := by
      simp only [fieldsText, hcomma, List.append_assoc, List.cons_append]
    rw [← skipSpaces_textAt hexact, ← skipSpaces_gap hgap] at hread
    rw [fieldsText_from_key hcolon]
    refine readsFields_cons (string_of_escaped layout.asciiOnly key _) rfl hread
      (congrArg skipSpaces hbehind) ?_
    rw [skipSpaces_gap hspaces, skipSpaces_lineBreak, stringText_append]
    rw [stringText_append] at hmore
    exact hmore

/-- An object is read back if the values of its members are. -/
theorem readsBack_obj [JsonReader] (readable : layout.IsReadable) {fields : Fields}
    (hfields : ∀ field ∈ fields, field.2.isExact = true ∧ field.2.ReadsBack layout) :
    (Json.obj fields).ReadsBack layout := by
  intro level depth rest room _
  -- an empty object is written without a break of lines
  cases fields with
  | nil => exact reads_emptyObject (by rw [nesting] at room; omega) rfl
  | cons field more =>
    obtain ⟨key, first⟩ := field
    rw [nesting] at room
    obtain ⟨hexact, hfirst⟩ := hfields (key, first) List.mem_cons_self
    have hread := readsFields_of_readsBack readable key hexact hfirst
      (fun v hv => hfields v (List.mem_cons_of_mem _ hv)) level rest
      (show depth + 1 + nestingIn ((key, first) :: more) ≤ nestingLimit by omega)
    have htext : textAt layout level (.obj ((key, first) :: more)) ++ rest
        = .char '\x7b' :: (layout.lineBreak (level + 1) ++ (stringText layout.asciiOnly key
          ++ (layout.keySeparator ++ (textAt layout (level + 1) first
          ++ (fieldsText layout (level + 1) more
          ++ (layout.lineBreak level ++ .char '\x7d' :: rest)))))) := by
      simp only [textAt, List.append_assoc]
      rfl
    rw [htext]
    refine reads_object (by omega) ?_
    rw [skipSpaces_lineBreak, stringText_append]
    rw [stringText_append] at hread
    exact hread

-- ================================================================= any value

mutual

/-- Every value that can be written is read back, by induction over the value. -/
theorem readsBack [JsonReader] (readable : layout.IsReadable) :
    ∀ v : Json, v.isExact = true → v.isWritable = true → v.ReadsBack layout
  | .null => by
    intro _ _ level depth rest _ _
    exact reads_scalar (by decide) rfl rfl
  | .bool true => by
    intro _ _ level depth rest _ _
    exact reads_scalar (by decide) rfl rfl
  | .bool false => by
    intro _ _ level depth rest _ _
    exact reads_scalar (by decide) rfl rfl
  | .int n => by
    intro _ writable
    rw [isWritable, allIntegers] at writable
    exact readsBack_int writable
  -- no float is exact: its digits need not be read back
  | .float x => by
    intro exact
    cases exact
  | .str t => fun _ _ => readsBack_str t
  | .arr items => by
    intro exact writable
    rw [isExact] at exact
    rw [isWritable_arr, List.all_eq_true] at writable
    exact readsBack_arr readable (readsBack_items readable items exact writable)
  | .obj fields => by
    intro exact writable
    rw [isExact, Bool.and_eq_true, decide_eq_true_eq] at exact
    rw [isWritable_obj, List.all_eq_true] at writable
    exact readsBack_obj readable (readsBack_fields readable fields exact.2 writable)

/-- The items of an array are read back, each on its own. -/
theorem readsBack_items [JsonReader] (readable : layout.IsReadable) :
    ∀ items : List Json, isExactOf items = true → (∀ item ∈ items, item.isWritable = true) →
      ∀ item ∈ items, item.isExact = true ∧ item.ReadsBack layout
  | [] => by
    intro _ _ item hitem
    cases hitem
  | item :: more => by
    intro exact writable v hv
    rw [isExactOf, Bool.and_eq_true] at exact
    rcases List.mem_cons.1 hv with heq | hmem
    · rw [heq]
      exact ⟨exact.1, readsBack readable item exact.1 (writable item List.mem_cons_self)⟩
    · exact readsBack_items readable more exact.2
        (fun w hw => writable w (List.mem_cons_of_mem _ hw)) v hmem

/-- The values of an object's members are read back, each on its own. -/
theorem readsBack_fields [JsonReader] (readable : layout.IsReadable) :
    ∀ fields : List (Text × Json), isExactIn fields = true →
      (∀ field ∈ fields, field.2.isWritable = true) →
      ∀ field ∈ fields, field.2.isExact = true ∧ field.2.ReadsBack layout
  | [] => by
    intro _ _ field hfield
    cases hfield
  | (key, value) :: more => by
    intro exact writable field hfield
    rw [isExactIn, Bool.and_eq_true] at exact
    rcases List.mem_cons.1 hfield with rfl | hmem
    · exact ⟨exact.1, readsBack readable value exact.1 (writable (key, value) List.mem_cons_self)⟩
    · exact readsBack_fields readable more exact.2
        (fun w hw => writable w (List.mem_cons_of_mem _ hw)) field hmem

end

/-- A value is read from its text, with nothing but spaces behind it. -/
theorem parse_layout [JsonReader] (readable : layout.IsReadable) {v : Json}
    (exact : v.isExact = true)
    (writable : v.isWritable = true) (room : v.nesting ≤ nestingLimit) (hrest : IsBreak rest)
    (hspaces : skipSpaces rest = []) :
    parse (v.text layout ++ rest) = .ok (v.reread layout) := by
  have hstart : skipSpaces (v.text layout ++ rest) = v.text layout ++ rest :=
    skipSpaces_textAt exact _
  have hread := readsBack readable v exact writable 0 0 rest (by omega) hrest
  refine parse_of_reads ?_ hspaces
  rw [hstart]
  exact hread

-- ============================================================ nothing to join

mutual

/-- Where no text changes the value does not. -/
theorem mapText_eq_self {f : Text → Text} :
    ∀ {v : Json}, v.isExact = true → (∀ t, v.Says t → f t = t) → v.mapText f = v
  | .null, _, _ => rfl
  | .bool _, _, _ => rfl
  | .int _, _, _ => rfl
  | .float _, _, _ => rfl
  | .str t, _, same => congrArg Json.str (same t (.str t))
  | .arr items, exact, same => by
    rw [isExact] at exact
    rw [mapText, mapTextOf_eq_self exact fun v hmem t h => same t (.item hmem h)]
  | .obj fields, exact, same => by
    rw [isExact, Bool.and_eq_true, decide_eq_true_eq] at exact
    rw [mapText, mapTextIn_eq_self exact.2 fun key v hmem =>
      ⟨same key (.key hmem), fun t h => same t (.value hmem h)⟩, Fields.ofPairs_of_nodup exact.1]

/-- Texts that are kept one by one are kept in items. -/
theorem mapTextOf_eq_self {f : Text → Text} :
    ∀ {items : List Json}, isExactOf items = true →
      (∀ v ∈ items, ∀ t, v.Says t → f t = t) → mapTextOf f items = items
  | [], _, _ => rfl
  | item :: more, exact, same => by
    rw [isExactOf, Bool.and_eq_true] at exact
    rw [mapTextOf, mapText_eq_self exact.1 (same item List.mem_cons_self),
      mapTextOf_eq_self exact.2 fun v hv => same v (List.mem_cons_of_mem _ hv)]

/-- Texts that are kept one by one are kept in members, keys among them. -/
theorem mapTextIn_eq_self {f : Text → Text} :
    ∀ {fields : List (Text × Json)}, isExactIn fields = true →
      (∀ key v, (key, v) ∈ fields → f key = key ∧ ∀ t, v.Says t → f t = t) →
      mapTextIn f fields = fields
  | [], _, _ => rfl
  | (key, value) :: more, exact, same => by
    rw [isExactIn, Bool.and_eq_true] at exact
    obtain ⟨hkey, hvalue⟩ := same key value List.mem_cons_self
    rw [mapTextIn, hkey, mapText_eq_self exact.1 hvalue,
      mapTextIn_eq_self exact.2 fun k v hv => same k v (List.mem_cons_of_mem _ hv)]

end

theorem reread_file {v : Json} (exact : v.isExact = true) : v.reread .file = v :=
  mapText_eq_self exact fun _ _ => rfl

/-- What a file says of a value is that value. -/
theorem parse_text [JsonReader] {v : Json} (exact : v.isExact = true)
    (writable : v.isWritable = true)
    (room : v.nesting ≤ nestingLimit) : parse (v.text .file ++ "\n") = .ok v := by
  have hbreak : IsBreak "\n" := by
    intro c hc
    exact .inr (.inl (Option.some.inj hc).symm)
  rw [parse_layout JsonLayout.isReadable_file exact writable room hbreak rfl, reread_file exact]

/-- The text of a response is the value, unless halves next to each other were joined. -/
theorem reread_body {v : Json} (exact : v.isExact = true) (joined : ∀ t, v.Says t → IsJoined t) :
    v.reread .body = v :=
  mapText_eq_self exact fun t h => joinHalves_of_isJoined (joined t h)

end Json

end MockApi
