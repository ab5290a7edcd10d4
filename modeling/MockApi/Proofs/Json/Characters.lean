/-
The characters of a text that was written. Brackets, separators, numbers and constants
are visible characters; what else there is comes from the strings and from the line breaks
of the layout (`forall_textAt`). So the only control character of a file is the line feed
(`return_not_mem_text`), and the text of a response can be encoded (`encode?_text`).
-/
import MockApi.Proofs.Json.RoundTrip
import MockApi.Proofs.Text.Utf8

namespace MockApi

open Json.Parser

/-- Whatever is written in the layout has characters of one kind only. -/
structure JsonLayout.Writes (layout : JsonLayout) (p : CodePoint → Prop) : Prop where
  visible : ∀ c, IsVisible c → p c
  separators : ∀ c ∈ layout.itemSeparator ++ layout.keySeparator, IsVisible c
  lineBreaks : ∀ level, ∀ c ∈ layout.lineBreak level, p c
  escaped : ∀ c, ∀ x ∈ Json.escapeChar layout.asciiOnly c, p x

/-- The digits of an integer are visible characters. -/
theorem Json.isVisible_decimal (n : Int) : ∀ c ∈ decimal n, IsVisible c := by
  have hdigits : ∀ n, ∀ c ∈ decimalOfNat n, IsVisible c := by
    intro n c hc
    have hdigit := isAsciiDigit_of_mem_decimalOfNat hc
    rw [Text.isAsciiDigit, Bool.and_eq_true, decide_eq_true_eq, decide_eq_true_eq] at hdigit
    exact ⟨Nat.le_trans (by decide : 32 ≤ 48) hdigit.1,
      Nat.le_trans hdigit.2 (by decide : 57 ≤ 126)⟩
  cases n with
  | ofNat n => exact hdigits n
  | negSucc n => exact List.forall_mem_cons.2 ⟨by decide, hdigits (n + 1)⟩

variable {layout : JsonLayout} {p : CodePoint → Prop}

section

variable (writes : layout.Writes p)
include writes

theorem JsonLayout.Writes.of_visible {t : Text} (h : ∀ c ∈ t, IsVisible c) : ∀ c ∈ t, p c :=
  fun c hc => writes.visible c (h c hc)

theorem JsonLayout.Writes.itemSeparator : ∀ c ∈ layout.itemSeparator, p c :=
  fun c hc => writes.visible c (writes.separators c (List.mem_append_left _ hc))

theorem JsonLayout.Writes.keySeparator : ∀ c ∈ layout.keySeparator, p c :=
  fun c hc => writes.visible c (writes.separators c (List.mem_append_right _ hc))

theorem JsonLayout.Writes.stringText (t : Text) :
    ∀ c ∈ Json.stringText layout.asciiOnly t, p c := by
  have hquote : ∀ c ∈ ("\"" : Text), p c := writes.of_visible (by decide)
  unfold Json.stringText
  rw [List.forall_mem_append, List.forall_mem_append]
  refine ⟨⟨hquote, fun x hx => ?_⟩, hquote⟩
  obtain ⟨c, -, hc⟩ := List.mem_flatMap.1 hx
  exact writes.escaped c x hc

namespace Json

mutual

/-- All characters of a value's text are of the layout's kind. -/
theorem forall_textAt :
    ∀ (v : Json) (level : Nat), v.isExact = true → ∀ c ∈ textAt layout level v, p c
  | .null, _, _ => writes.of_visible (t := "null") (by decide)
  | .bool true, _, _ => writes.of_visible (t := "true") (by decide)
  | .bool false, _, _ => writes.of_visible (t := "false") (by decide)
  | .int n, _, _ => writes.of_visible (isVisible_decimal n)
  | .float _, _, exact => nomatch exact
  | .str t, _, _ => writes.stringText t
  | .arr [], _, _ => writes.of_visible (t := "[]") (by decide)
  | .arr (item :: more), level, exact => by
    rw [isExact, isExactOf, Bool.and_eq_true] at exact
    rw [textAt]
    simp only [List.forall_mem_append]
    exact ⟨⟨⟨⟨⟨writes.of_visible (by decide), writes.lineBreaks _⟩, forall_textAt item _ exact.1⟩,
      forall_itemsText more _ exact.2⟩, writes.lineBreaks _⟩, writes.of_visible (by decide)⟩
  | .obj [], _, _ => writes.of_visible (t := "\x7b\x7d") (by decide)
  | .obj ((key, value) :: more), level, exact => by
    rw [isExact, isExactIn, Bool.and_eq_true, Bool.and_eq_true] at exact
    rw [textAt]
    simp only [List.forall_mem_append]
    exact ⟨⟨⟨⟨⟨⟨⟨writes.of_visible (by decide), writes.lineBreaks _⟩, writes.stringText key⟩,
      writes.keySeparator⟩, forall_textAt value _ exact.2.1⟩, forall_fieldsText more _ exact.2.2⟩,
      writes.lineBreaks _⟩, writes.of_visible (by decide)⟩

/-- All characters of the items' text are of the layout's kind. -/
theorem forall_itemsText :
    ∀ (items : List Json) (level : Nat), isExactOf items = true →
      ∀ c ∈ itemsText layout level items, p c
  | [], _, _ => nofun
  | item :: more, level, exact => by
    rw [isExactOf, Bool.and_eq_true] at exact
    rw [itemsText]
    simp only [List.forall_mem_append]
    exact ⟨⟨⟨writes.itemSeparator, writes.lineBreaks _⟩, forall_textAt item _ exact.1⟩,
      forall_itemsText more _ exact.2⟩

/-- All characters of the members' text are of the layout's kind. -/
theorem forall_fieldsText :
    ∀ (fields : List (Text × Json)) (level : Nat), isExactIn fields = true →
      ∀ c ∈ fieldsText layout level fields, p c
  | [], _, _ => nofun
  | (key, value) :: more, level, exact => by
    rw [isExactIn, Bool.and_eq_true] at exact
    rw [fieldsText]
    simp only [List.forall_mem_append]
    exact ⟨⟨⟨⟨⟨writes.itemSeparator, writes.lineBreaks _⟩, writes.stringText key⟩,
      writes.keySeparator⟩, forall_textAt value _ exact.1⟩, forall_fieldsText more _ exact.2⟩

end

end Json

end

namespace Json

-- ================================================================== layouts

/-- The only control character of a file is the line feed. -/
theorem writes_file : JsonLayout.file.Writes fun c => c = .char '\n' ∨ ¬c < .char ' ' where
  visible := fun c hc => .inr (Nat.not_lt.2 hc.1)
  separators := by decide
  lineBreaks := by
    intro level c hc
    rcases List.mem_cons.1 hc with hfeed | hspace
    · exact .inl hfeed
    · rw [List.eq_of_mem_replicate hspace]
      exact .inr (by decide)
  escaped := fun c x hx => .inr ((escapeChar_spec false c).2.1 x hx)

/-- A response has visible characters only. -/
theorem writes_body : JsonLayout.body.Writes IsVisible where
  visible := fun _ hc => hc
  separators := by decide
  lineBreaks := fun _ => nofun
  escaped := fun c => (escapeChar_spec true c).2.2 rfl

/-- A file that is written has no carriage returns. -/
theorem return_not_mem_text {v : Json} (exact : v.isExact = true) :
    .char '\r' ∉ v.text .file ++ "\n" := by
  intro hmem
  rcases List.mem_append.1 hmem with htext | hbreak
  · exact absurd (forall_textAt writes_file v 0 exact _ htext) (by decide)
  · exact absurd hbreak (by decide)

/-- An object's text carries no mark that would keep it from being read. -/
theorem parseText_text_obj [JsonReader] {fields : Fields} (t : Text) :
    parseText ((Json.obj fields).text .file ++ t) = parse ((Json.obj fields).text .file ++ t) := by
  cases fields with
  | nil => rfl
  | cons field more => rfl

/-- The text of a response has bytes. -/
theorem encode?_text {v : Json} (exact : v.isExact = true) :
    ∃ bytes, Utf8.encode? (v.text .body) = some bytes := by
  refine Utf8.exists_encode? fun c hc => ?_
  have hvisible : IsVisible c := forall_textAt writes_body v 0 exact c hc
  cases c with
  | char c => exact ⟨c, rfl⟩
  | surrogate half =>
    have hlow : 0xd800 ≤ half.toNat := half.isHalf.1
    have hhigh : half.toNat ≤ 126 := hvisible.2
    omega

end Json

end MockApi
