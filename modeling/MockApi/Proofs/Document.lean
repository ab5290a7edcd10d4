/-
Documents on a disk. A document is read, or found flawed with the flaw's place,
whenever the reader of JSON decides on its text (`isDecided_iff`); the disk and
the encoding only ever add flaws. The two other endings of that reader are the
only ones that a document and a bundle can have beside these.
-/
import MockApi.Mock.Bundle
import MockApi.Proofs.Disk
import MockApi.Proofs.Json.Decided
import MockApi.Proofs.Text.Utf8

namespace MockApi

variable {disk : Disk} {path : FilePath}

namespace Disk

/-- What was read stands at the place that its path leads to. -/
theorem locate_of_read {bytes : Bytes} (h : disk.read path = .ok bytes) :
    ∃ location, disk.locate path = .ok location ∧ (disk.file? location).isSome = true := by
  obtain ⟨location, hlocate, hread⟩ := bind_eq_ok.1 h
  unfold readFile at hread
  split at hread
  · next bytes' hfile =>
    refine ⟨location, hlocate, ?_⟩
    rw [hfile]
    rfl
  · cases hread

/-- What was read is a file. -/
theorem isFile_of_read {bytes : Bytes} (h : disk.read path = .ok bytes) :
    disk.isFile path = .ok true := by
  obtain ⟨location, hlocate, hfile⟩ := locate_of_read h
  unfold isFile leadsTo
  rw [hlocate]
  exact congrArg Except.ok hfile

/-- The path of what was read leads somewhere. -/
theorem holds_of_read {bytes : Bytes} (h : disk.read path = .ok bytes) :
    disk.holds path = .ok true := by
  obtain ⟨location, hlocate, hfile⟩ := locate_of_read h
  unfold holds leadsTo
  rw [hlocate]
  simp [hfile]

end Disk

-- ============================================================= plain text

/-- The codes of the ten digits are those from `0x30` to `0x39`. -/
theorem Text.isAsciiDigit_ofNat {n : Nat} (h : 0x30 ≤ n ∧ n ≤ 0x39) :
    isAsciiDigit (CodePoint.ofNat n) = true
      ∧ (n ≠ 0x30 → CodePoint.ofNat n ≠ CodePoint.char '0') := by
  have hdigit : ∀ k : Fin 10, isAsciiDigit (CodePoint.ofNat (0x30 + k.val)) = true
      ∧ (0x30 + k.val ≠ 0x30 → CodePoint.ofNat (0x30 + k.val) ≠ CodePoint.char '0') := by
    decide
  obtain ⟨k, rfl⟩ := Nat.exists_eq_add_of_le h.1
  exact hdigit ⟨k, by omega⟩

/-- A text without carriage returns keeps its ends of lines. -/
theorem Text.withLineFeeds_of_not_mem {t : Text} (h : CodePoint.char '\r' ∉ t) :
    withLineFeeds t = t := by
  induction t with
  | nil => rfl
  | cons c rest ih =>
    have hc : c ≠ CodePoint.char '\r' := fun heq => h (heq ▸ List.mem_cons_self)
    have hrest := ih fun hmem => h (List.mem_cons_of_mem _ hmem)
    rw [withLineFeeds.eq_3 _ _ (fun _ heq _ => hc heq), if_neg hc, hrest]

namespace Document

-- ================================================================= reading

/-- The reader of the file decides on its text, if the file has one. -/
def IsDecided [JsonReader] (disk : Disk) (path : FilePath) : Prop :=
  ∀ t, readText disk path = .ok t → Json.IsDecided t

/-- What becomes of the refusal of a document's text. -/
def refusal : JsonError → DocumentError
  | .flawed flaw place => .flawed (.grammar flaw place)
  | .numeral cause => .numeral cause
  | .tooDeep => .tooDeep

/-- A document is read as its text is parsed. -/
theorem read_of_readText [JsonReader] {t : Text} (h : readText disk path = .ok t) :
    read disk path = (Json.parseText t).mapError refusal := by
  unfold read
  rw [h]
  dsimp only [Except.mapError, bind, Except.bind]
  cases Json.parseText t with
  | ok v => rfl
  | error e => cases e <;> rfl

/-- A document without a text is refused for the flaw in that. -/
theorem read_of_unreadable [JsonReader] {flaw : DocumentFlaw}
    (h : readText disk path = .error flaw) :
    read disk path = .error (.flawed flaw) := by
  unfold read
  rw [h]
  rfl

/-- Only flaws keep a document from being read if and only if its reader
decides. -/
theorem isDecided_iff [JsonReader] :
    IsDecided disk path ↔ ∀ e, read disk path = .error e → ∃ flaw, e = .flawed flaw := by
  constructor
  · intro h e he
    -- a document without a text fails with a flaw already
    cases htext : readText disk path with
    | error flaw =>
      rw [read_of_unreadable htext] at he
      exact ⟨flaw, (Except.error.inj he).symm⟩
    | ok t =>
      rw [read_of_readText htext] at he
      cases hparse : Json.parseText t with
      | ok v =>
        rw [hparse] at he
        cases he
      | error cause =>
        obtain ⟨flaw, place, rfl⟩ := h t htext cause hparse
        rw [hparse] at he
        exact ⟨_, (Except.error.inj he).symm⟩
  · intro h t htext cause hparse
    have hread := read_of_readText htext
    rw [hparse] at hread
    cases cause with
    | flawed flaw place => exact ⟨flaw, place, rfl⟩
    | numeral cause =>
      obtain ⟨flaw, hflaw⟩ := h _ hread
      cases hflaw
    | tooDeep =>
      obtain ⟨flaw, hflaw⟩ := h _ hread
      cases hflaw

/-- A file of nothing but too many digits is neither read nor found flawed. -/
theorem read_of_digits [JsonReader] {b : UInt8} {rest : Bytes}
    (hdigits : ∀ d ∈ b :: rest, 0x30 ≤ d.toNat ∧ d.toNat ≤ 0x39) (hzero : b ≠ 0x30)
    (hlength : digitLimit < (b :: rest).length) (h : disk.read path = .ok (b :: rest)) :
    read disk path = .error (.numeral (.tooManyDigits (b :: rest).length)) := by
  -- digits are ASCII and hold no end of a line, so the text is the bytes one by one
  have htext : readText disk path = .ok ((b :: rest).map fun b => CodePoint.ofNat b.toNat) := by
    have hascii : ∀ d ∈ b :: rest, d.toNat < 0x80 := by
      intro d hd
      have := hdigits d hd
      omega
    have hbreak : CodePoint.char '\r' ∉ (b :: rest).map fun b => CodePoint.ofNat b.toNat := by
      intro hmem
      obtain ⟨d, hd, heq⟩ := List.mem_map.1 hmem
      have hreturn := (Text.isAsciiDigit_ofNat (hdigits d hd)).1
      rw [heq] at hreturn
      exact absurd hreturn (by decide)
    unfold readText
    rw [h]
    change (Utf8.decode (b :: rest)).mapError DocumentFlaw.encoding >>= _ = _
    rw [Utf8.decode_of_ascii hascii]
    change Except.ok (Text.withLineFeeds _) = _
    rw [Text.withLineFeeds_of_not_mem hbreak]
  have hall : ((b :: rest).map fun b => CodePoint.ofNat b.toNat).all Text.isAsciiDigit = true := by
    rw [List.all_map, List.all_eq_true]
    intro d hd
    exact (Text.isAsciiDigit_ofNat (hdigits d hd)).1
  -- a leading zero would be a number of its own
  have hfirst : CodePoint.ofNat b.toNat ≠ CodePoint.char '0' := by
    refine (Text.isAsciiDigit_ofNat (hdigits b List.mem_cons_self)).2 fun hb => hzero ?_
    exact UInt8.toNat_inj.1 hb
  rw [read_of_readText htext, List.map_cons, Json.parseText_of_digits hall hfirst]
  · rw [List.length_cons, List.length_map, List.length_cons]
    rfl
  · rw [List.length_cons, List.length_map]
    exact hlength

/-- A document of too many ones is refused for their number. -/
theorem read_of_ones [JsonReader] {n : Nat} (hlength : digitLimit < n)
    (h : disk.read path = .ok (List.replicate n 0x31)) :
    read disk path = .error (.numeral (.tooManyDigits n)) := by
  obtain ⟨n, rfl⟩ := Nat.exists_eq_add_of_lt hlength
  have hcount : (0x31 :: List.replicate (digitLimit + n) 0x31 : Bytes).length
      = digitLimit + n + 1 := by
    rw [List.length_cons, List.length_replicate]
  rw [List.replicate_succ] at h
  rw [← hcount] at hlength ⊢
  refine read_of_digits ?_ (by decide) hlength h
  intro d hd
  rw [← List.replicate_succ] at hd
  rw [List.eq_of_mem_replicate hd]
  decide

theorem read_of_readText_isOk {t : Text} (h : readText disk path = .ok t) :
    ∃ bytes, disk.read path = .ok bytes := by
  obtain ⟨bytes, hbytes, -⟩ := bind_eq_ok.1 h
  exact ⟨bytes, mapError_eq_ok.1 hbytes⟩

/-- A document that is no file is decided. -/
theorem isDecided_of_isFile [JsonReader] (h : disk.isFile path = .ok false) :
    IsDecided disk path := by
  intro t htext
  obtain ⟨bytes, hread⟩ := read_of_readText_isOk htext
  rw [Disk.isFile_of_read hread] at h
  cases h

-- ================================================================= writing

/-- A text that can be encoded is written wherever its file can be opened. -/
theorem writeText_eq {t : Text} {bytes : Bytes} (h : Utf8.encode? t = some bytes) :
    writeText disk path (.ok t) = match disk.openFile path with
      | .ok (location, made) => .ok (made.put location bytes)
      | .error cause => .error (.disk cause) := by
  unfold writeText
  cases disk.openFile path with
  | error cause => rfl
  | ok opened =>
    dsimp only [Except.mapError, bind, Except.bind]
    rw [h]
    rfl

end Document

namespace Bundle

/-- A bundle file is read or found flawed if and only if its reader decides. -/
theorem load_isFlawed_iff [JsonReader] (named : path.IsNamed) :
    (∀ e, load disk path = .error e → ∃ flaw, e = .flawed flaw)
      ↔ Document.IsDecided disk path := by
  obtain ⟨present, hpresent⟩ : ∃ present, disk.isFile path = .ok present :=
    Disk.leadsTo_isOk named _
  -- a bundle that is not there is loaded as none
  cases present with
  | false =>
    have hload : load disk path = .ok [] := by
      unfold load
      rw [hpresent]
    refine iff_of_true (fun e he => ?_) (Document.isDecided_of_isFile hpresent)
    rw [hload] at he
    cases he
  | true =>
    -- behind a document that was read, only flaws are added
    rw [Document.isDecided_iff]
    unfold load
    rw [hpresent]
    simp only
    constructor
    · intro h e he
      cases e with
      | flawed flaw => exact ⟨flaw, rfl⟩
      | numeral cause =>
        obtain ⟨flaw, hflaw⟩ := h (.numeral cause) (by rw [he])
        cases hflaw
      | tooDeep =>
        obtain ⟨flaw, hflaw⟩ := h .tooDeep (by rw [he])
        cases hflaw
    · intro h e he
      split at he
      · cases he
      · exact ⟨_, (Except.error.inj he).symm⟩
      · exact ⟨_, (Except.error.inj he).symm⟩
      · next hread =>
        obtain ⟨flaw, hflaw⟩ := h _ hread
        cases hflaw
      · next hread =>
        obtain ⟨flaw, hflaw⟩ := h _ hread
        cases hflaw

end Bundle

end MockApi
