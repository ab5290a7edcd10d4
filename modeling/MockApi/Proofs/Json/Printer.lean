/-
Laws of JSON text on one line. Without an indentation the depth of a value
does not show, so the text of an array is made of the texts of its items, and
that of its last item stands right before the closing bracket. Whatever a value says
at any depth stands in its text in quotes (`Says.isInfix_text`), and its plain parts
stand there as they are.
-/
import MockApi.Json.Printer

namespace MockApi.Json

variable {layout : JsonLayout}

-- ================================================================ the depth

theorem lineBreak_of_indent_none (h : layout.indent = none) (depth : Nat) :
    layout.lineBreak depth = [] := by
  unfold JsonLayout.lineBreak
  rw [h]

mutual

/-- Without an indentation a value has the same text at every depth. -/
theorem textAt_depth (h : layout.indent = none) (d e : Nat) :
    ∀ v : Json, textAt layout d v = textAt layout e v
  | .null => rfl
  | .bool true => rfl
  | .bool false => rfl
  | .int _ => rfl
  | .float _ => rfl
  | .str _ => rfl
  | .arr [] => rfl
  | .arr (item :: rest) => by
    rw [textAt, textAt, textAt_depth h (d + 1) (e + 1) item, itemsText_depth h (d + 1) (e + 1) rest]
    simp only [lineBreak_of_indent_none h]
  | .obj [] => rfl
  | .obj ((key, value) :: rest) => by
    rw [textAt, textAt, textAt_depth h (d + 1) (e + 1) value,
      fieldsText_depth h (d + 1) (e + 1) rest]
    simp only [lineBreak_of_indent_none h]

/-- Without indents the items of an array are written alike at all depths. -/
theorem itemsText_depth (h : layout.indent = none) (d e : Nat) :
    ∀ items : List Json, itemsText layout d items = itemsText layout e items
  | [] => rfl
  | item :: rest => by
    rw [itemsText, itemsText, textAt_depth h d e item, itemsText_depth h d e rest]
    simp only [lineBreak_of_indent_none h]

theorem fieldsText_depth (h : layout.indent = none) (d e : Nat) :
    ∀ fields : List (Text × Json), fieldsText layout d fields = fieldsText layout e fields
  | [] => rfl
  | (key, value) :: rest => by
    rw [fieldsText, fieldsText, textAt_depth h d e value, fieldsText_depth h d e rest]
    simp only [lineBreak_of_indent_none h]

end

-- ================================================================ the items

/-- Items that follow others are written behind them. -/
theorem itemsText_append (depth : Nat) (front back : List Json) :
    itemsText layout depth (front ++ back)
      = itemsText layout depth front ++ itemsText layout depth back := by
  induction front with
  | nil => rfl
  | cons item rest ih =>
    rw [List.cons_append, itemsText, itemsText, ih]
    simp only [List.append_assoc]

/-- The text of an array ends with that of its last item and a bracket. -/
theorem text_suffix_arr (h : layout.indent = none) (items : List Json) (v : Json) :
    v.text layout ++ ("]" : Text) <:+ (Json.arr (items ++ [v])).text layout := by
  cases items with
  | nil =>
    refine ⟨"[", ?_⟩
    unfold text
    rw [List.nil_append, textAt, itemsText, textAt_depth h (0 + 1) 0 v]
    simp only [lineBreak_of_indent_none h, List.append_nil, List.append_assoc]
  | cons item rest =>
    refine ⟨"[" ++ textAt layout (0 + 1) item ++ itemsText layout (0 + 1) rest
      ++ layout.itemSeparator, ?_⟩
    unfold text
    rw [List.cons_append, textAt, itemsText_append, itemsText, itemsText,
      textAt_depth h (0 + 1) 0 v]
    simp only [lineBreak_of_indent_none h, List.append_nil, List.append_assoc]

-- ============================================================ what is said

/-- The text is a string or a key at some depth of the value. -/
inductive Says : Json → Text → Prop
  | str (t : Text) : Says (.str t) t
  | item {items : List Json} {v : Json} {t : Text} (hmem : v ∈ items) (h : Says v t) :
      Says (.arr items) t
  | key {fields : Fields} {key : Text} {v : Json} (hmem : (key, v) ∈ fields) :
      Says (.obj fields) key
  | value {fields : Fields} {key : Text} {v : Json} {t : Text} (hmem : (key, v) ∈ fields)
      (h : Says v t) : Says (.obj fields) t

/-- Each item stands in the text of the items. -/
theorem isInfix_itemsText {v : Json} {items : List Json} (h : v ∈ items) (depth : Nat) :
    textAt layout depth v <:+: itemsText layout depth items := by
  obtain ⟨front, back, rfl⟩ := List.append_of_mem h
  rw [itemsText_append, itemsText]
  exact ⟨itemsText layout depth front ++ (layout.itemSeparator ++ layout.lineBreak depth),
    itemsText layout depth back, by simp only [List.append_assoc]⟩

/-- Each item stands in the text of its array. -/
theorem isInfix_arr {v : Json} {items : List Json} (h : v ∈ items) (depth : Nat) :
    textAt layout (depth + 1) v <:+: textAt layout depth (.arr items) := by
  cases items with
  | nil => cases h
  | cons first rest =>
    rw [textAt]
    rcases List.mem_cons.1 h with rfl | hmem
    · exact ⟨"[" ++ layout.lineBreak (depth + 1),
        itemsText layout (depth + 1) rest ++ (layout.lineBreak depth ++ "]"),
        by simp only [List.append_assoc]⟩
    · refine (isInfix_itemsText hmem (depth + 1)).trans ?_
      exact ⟨"[" ++ layout.lineBreak (depth + 1) ++ textAt layout (depth + 1) first,
        layout.lineBreak depth ++ "]", by simp only [List.append_assoc]⟩

/-- A field behind the first one, and what stands around it. -/
theorem isInfix_fieldsText {key : Text} {v : Json} {fields : Fields} (h : (key, v) ∈ fields)
    (depth : Nat) :
    stringText layout.asciiOnly key ++ layout.keySeparator ++ textAt layout depth v
      <:+: fieldsText layout depth fields := by
  induction fields with
  | nil => cases h
  | cons field rest ih =>
    obtain ⟨otherKey, other⟩ := field
    rw [fieldsText]
    rcases List.mem_cons.1 h with heq | hmem
    · obtain ⟨rfl, rfl⟩ := Prod.mk.inj heq
      exact ⟨layout.itemSeparator ++ layout.lineBreak depth, fieldsText layout depth rest,
        by simp only [List.append_assoc]⟩
    · exact (ih hmem).trans (List.suffix_append ..).isInfix

/-- Each member stands in the text of its object, the key before the value. -/
theorem isInfix_obj {key : Text} {v : Json} {fields : Fields} (h : (key, v) ∈ fields)
    (depth : Nat) :
    stringText layout.asciiOnly key ++ layout.keySeparator ++ textAt layout (depth + 1) v
      <:+: textAt layout depth (.obj fields) := by
  cases fields with
  | nil => cases h
  | cons field rest =>
    obtain ⟨otherKey, other⟩ := field
    rw [textAt]
    rcases List.mem_cons.1 h with heq | hmem
    · obtain ⟨rfl, rfl⟩ := Prod.mk.inj heq
      exact ⟨"\x7b" ++ layout.lineBreak (depth + 1),
        fieldsText layout (depth + 1) rest ++ (layout.lineBreak depth ++ "\x7d"),
        by simp only [List.append_assoc]⟩
    · refine (isInfix_fieldsText hmem (depth + 1)).trans ?_
      exact ⟨"\x7b" ++ layout.lineBreak (depth + 1) ++ stringText layout.asciiOnly otherKey
        ++ layout.keySeparator ++ textAt layout (depth + 1) other,
        layout.lineBreak depth ++ "\x7d", by simp only [List.append_assoc]⟩

/-- What a value says stands in its text, in quotes and escaped. -/
theorem Says.isInfix_textAt {v : Json} {t : Text} (h : v.Says t) (depth : Nat) :
    stringText layout.asciiOnly t <:+: textAt layout depth v := by
  induction h generalizing depth with
  | str t => exact List.infix_rfl
  | item hmem _ ih => exact (ih (depth + 1)).trans (isInfix_arr hmem depth)
  | key hmem =>
    refine List.IsInfix.trans ?_ (isInfix_obj hmem depth)
    rw [List.append_assoc]
    exact (List.prefix_append ..).isInfix
  | value hmem _ ih =>
    refine (ih (depth + 1)).trans (List.IsInfix.trans ?_ (isInfix_obj hmem depth))
    exact (List.suffix_append ..).isInfix

/-- A character that every layout writes as it is. -/
def isVerbatim (c : CodePoint) : Bool := ' ' ≤ c && c ≤ '~' && c != '"' && c != '\\'

/-- A character that needs no escape is written as it is. -/
theorem escapeChar_of_isVerbatim {c : CodePoint} (asciiOnly : Bool) (h : isVerbatim c = true) :
    escapeChar asciiOnly c = [c] := by
  simp only [isVerbatim, Bool.and_eq_true, decide_eq_true_eq, bne_iff_ne, ne_eq] at h
  obtain ⟨⟨⟨hlow, hhigh⟩, hquote⟩, hbackslash⟩ := h
  have hcontrol : ¬c < .char ' ' := Nat.not_lt.2 hlow
  have hascii : ¬.char '~' < c := Nat.not_lt.2 hhigh
  have hne : ∀ d : CodePoint, d < .char ' ' → c ≠ d := by
    rintro d hd rfl
    exact hcontrol hd
  unfold escapeChar
  rw [if_neg hquote, if_neg hbackslash, if_neg (hne _ (by decide)), if_neg (hne _ (by decide)),
    if_neg (hne _ (by decide)), if_neg (hne _ (by decide)), if_neg (hne _ (by decide)),
    if_neg hcontrol]
  simp [hascii]

/-- A text of characters that need no escape is written as it is. -/
theorem flatMap_escapeChar {t : Text} (asciiOnly : Bool) (h : ∀ c ∈ t, isVerbatim c = true) :
    t.flatMap (escapeChar asciiOnly) = t := by
  induction t with
  | nil => rfl
  | cons c rest ih =>
    rw [List.forall_mem_cons] at h
    rw [List.flatMap_cons, escapeChar_of_isVerbatim asciiOnly h.1, ih h.2]
    rfl

/-- A part of what a value says that needs no escapes stands in its text as it is. -/
theorem Says.isInfix_text {v : Json} {t piece : Text} (h : v.Says t) (hpiece : piece <:+: t)
    (hverbatim : ∀ c ∈ piece, isVerbatim c = true) : piece <:+: v.text layout := by
  obtain ⟨before, after, rfl⟩ := hpiece
  refine List.IsInfix.trans ?_ (h.isInfix_textAt 0)
  rw [stringText, List.flatMap_append, List.flatMap_append, flatMap_escapeChar _ hverbatim]
  exact ⟨"\"" ++ before.flatMap (escapeChar layout.asciiOnly),
    after.flatMap (escapeChar layout.asciiOnly) ++ "\"", by simp only [List.append_assoc]⟩

-- ============================================================ being written

/-- An array can be written if its items can. -/
theorem isWritable_arr (items : List Json) :
    (Json.arr items).isWritable = items.all isWritable := by
  have h : allIntegersOf fitsInText items = items.all isWritable := by
    induction items with
    | nil => rfl
    | cons item rest ih =>
      rw [allIntegersOf, ih, List.all_cons]
      rfl
  exact h

/-- An object can be written if the values of its members can. -/
theorem isWritable_obj (fields : Fields) :
    (Json.obj fields).isWritable = fields.all (·.2.isWritable) := by
  have h : allIntegersIn fitsInText fields = fields.all (·.2.isWritable) := by
    induction fields with
    | nil => rfl
    | cons field rest ih =>
      rw [allIntegersIn, ih, List.all_cons]
      rfl
  exact h

end MockApi.Json
