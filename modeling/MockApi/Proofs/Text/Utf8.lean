/-
Whether bytes are text, and which. Reading a character never lengthens what is
left, so the number of bytes is fuel enough and more of it changes nothing
(`isOk_decodeFrom`); and the mark in front of a text is a character itself, so
taking it away leaves bytes that are text exactly where they were
(`isOk_decode_withoutMark`).

The bytes of a text say that text again (`decode_of_encode?`). What has to be
seen is that no character's bytes are refused: its first byte bounds the second
one, and the bounds are there for the forms that encode nothing, so the bytes
that a character does have keep them (`character_of_encoded`).
-/
import MockApi.Proofs.Outcome
import MockApi.Text.Utf8

namespace MockApi.Utf8

/-- The bytes that follow a lead leave no more than there were. -/
theorem following_length {count least greatest value taken : Nat} {bytes : Bytes} {c : Read}
    (h : following count least greatest value taken bytes = .ok c) :
    c.rest.length ≤ bytes.length := by
  induction count generalizing least greatest value taken bytes with
  | zero =>
    obtain rfl := Except.ok.inj h
    exact Nat.le_refl _
  | succ count ih =>
    cases bytes with
    | nil => cases h
    | cons b rest =>
      rw [following] at h
      split at h
      · have hrest := ih h
        rw [List.length_cons]
        omega
      · cases h

/-- A whole character leaves no more bytes than there were. -/
theorem character_length {b : UInt8} {rest : Bytes} {c : Read} (h : character b rest = .ok c) :
    c.rest.length ≤ rest.length := by
  unfold character at h
  split at h
  · cases h
  · exact following_length h

/-- With fuel for every byte it matters neither how much there is nor where the
bytes stand. -/
theorem isOk_decodeFrom {fuel fuel' : Nat} (position position' : Nat) {bytes : Bytes}
    (hfuel : bytes.length ≤ fuel) (hfuel' : bytes.length ≤ fuel') :
    (decodeFrom fuel position bytes).isOk = (decodeFrom fuel' position' bytes).isOk := by
  induction fuel generalizing fuel' position position' bytes with
  | zero =>
    obtain rfl := List.length_eq_zero_iff.1 (Nat.le_zero.1 hfuel)
    cases fuel' with
    | zero => rfl
    | succ fuel' => rfl
  | succ fuel ih =>
    cases bytes with
    | nil =>
      cases fuel' with
      | zero => rfl
      | succ fuel' => rfl
    | cons b rest =>
      cases fuel' with
      | zero => cases hfuel'
      | succ fuel' =>
        rw [decodeFrom, decodeFrom]
        cases hc : character b rest with
        | error e => rfl
        | ok c =>
          -- a character takes one byte at least, so there is fuel for the rest of both
          have hle := character_length hc
          rw [List.length_cons] at hfuel hfuel'
          change ((decodeFrom fuel _ c.rest).map _).isOk = ((decodeFrom fuel' _ c.rest).map _).isOk
          rw [isOk_map, isOk_map]
          exact ih _ _ (by omega) (by omega)

/-- A mark of the byte order does not decide whether the bytes can be decoded. -/
theorem isOk_decode_withoutMark (bytes : Bytes) :
    (decode (withoutMark bytes)).isOk = (decode bytes).isOk := by
  unfold withoutMark
  split
  · next hmark =>
    obtain ⟨rest, rfl⟩ := List.isPrefixOf_iff_prefix.1 hmark
    rw [List.drop_left]
    change _ = ((decodeFrom (rest.length + 2) 3 rest).map _).isOk
    rw [isOk_map]
    exact isOk_decodeFrom _ _ (Nat.le_refl _) (by omega)
  · rfl

-- ============================================================== plain bytes

/-- A byte of ASCII is a character. -/
theorem character_of_ascii {b : UInt8} (h : b.toNat < 0x80) (rest : Bytes) :
    character b rest = .ok ⟨b.toNat, 1, rest⟩ := by
  unfold character lead?
  rw [if_pos h]
  rfl

/-- A byte without its highest bit is a character of its own. -/
theorem decode_of_ascii {bytes : Bytes} (h : ∀ b ∈ bytes, b.toNat < 0x80) :
    decode bytes = .ok (bytes.map fun b => CodePoint.ofNat b.toNat) := by
  have hfrom : ∀ position, decodeFrom bytes.length position bytes
      = .ok (bytes.map fun b => CodePoint.ofNat b.toNat) := by
    induction bytes with
    | nil =>
      intro position
      rfl
    | cons b rest ih =>
      intro position
      have hb := h b List.mem_cons_self
      have hrest := ih (fun b hb => h b (List.mem_cons_of_mem _ hb)) (position + 1)
      rw [List.length_cons, decodeFrom, character_of_ascii hb]
      change (decodeFrom rest.length (position + 1) rest).map _ = _
      rw [hrest]
      rfl
  exact hfrom 0

-- ==================================================== characters and their bytes

variable {rest : Bytes}

theorem lead?_of_two {b : Nat} (h : 0xc2 ≤ b ∧ b < 0xe0) :
    lead? b = some { count := 1, value := b - 0xc0 } := by
  unfold lead?
  rw [if_neg (by omega), if_neg (by omega), if_pos h.2]

/-- What leads three, with the bounds of the second that leave out longer forms of shorter
ones, and the halves of pairs. -/
theorem lead?_of_three {b : Nat} (h : 0xe0 ≤ b ∧ b < 0xf0) :
    ∃ lead, lead? b = some lead ∧ lead.count = 2 ∧ lead.value = b - 0xe0
      ∧ lead.least = (if b = 0xe0 then 0xa0 else 0x80)
      ∧ lead.greatest = (if b = 0xed then 0x9f else 0xbf) := by
  unfold lead?
  rw [if_neg (by omega), if_neg (by omega), if_neg (by omega)]
  by_cases hfirst : b = 0xe0
  · subst hfirst
    exact ⟨_, rfl, rfl, rfl, rfl, rfl⟩
  · rw [if_neg hfirst, if_neg hfirst]
    by_cases hlast : b = 0xed
    · subst hlast
      exact ⟨_, rfl, rfl, rfl, rfl, rfl⟩
    · rw [if_neg hlast, if_neg hlast, if_pos h.2]
      exact ⟨_, rfl, rfl, rfl, rfl, rfl⟩

/-- What leads four, with the bounds that leave out shorter ones and what lies beyond the
last plane. -/
theorem lead?_of_four {b : Nat} (h : 0xf0 ≤ b ∧ b ≤ 0xf4) :
    ∃ lead, lead? b = some lead ∧ lead.count = 3 ∧ lead.value = b - 0xf0
      ∧ lead.least = (if b = 0xf0 then 0x90 else 0x80)
      ∧ lead.greatest = (if b = 0xf4 then 0x8f else 0xbf) := by
  unfold lead?
  rw [if_neg (by omega), if_neg (by omega), if_neg (by omega), if_neg (by omega),
    if_neg (by omega), if_neg (by omega)]
  by_cases hfirst : b = 0xf0
  · subst hfirst
    exact ⟨_, rfl, rfl, rfl, rfl, rfl⟩
  · rw [if_neg hfirst, if_neg hfirst]
    by_cases hlast : b = 0xf4
    · subst hlast
      exact ⟨_, rfl, rfl, rfl, rfl, rfl⟩
    · rw [if_pos (by omega), if_neg hlast]
      exact ⟨_, rfl, rfl, rfl, rfl, rfl⟩

/-- A byte that follows and fits adds its six bits. -/
theorem following_cons {count least greatest value taken : Nat} {b : UInt8}
    (h : least ≤ b.toNat ∧ b.toNat ≤ greatest) :
    following (count + 1) least greatest value taken (b :: rest)
      = following count 0x80 0xbf (value * 0x40 + (b.toNat - 0x80)) (taken + 1) rest := by
  rw [following, if_pos h]

theorem character_of_lead {b : UInt8} {lead : Lead} (h : lead? b.toNat = some lead) :
    character b rest = following lead.count lead.least lead.greatest lead.value 1 rest := by
  unfold character
  rw [h]

theorem character_of_two {b c : UInt8} (hb : 0xc2 ≤ b.toNat ∧ b.toNat < 0xe0)
    (hc : 0x80 ≤ c.toNat ∧ c.toNat ≤ 0xbf) :
    character b (c :: rest)
      = .ok ⟨(b.toNat - 0xc0) * 0x40 + (c.toNat - 0x80), 2, rest⟩ := by
  rw [character_of_lead (lead?_of_two hb), following_cons hc, following]

/-- Three bytes make one, within the bounds of the second. -/
theorem character_of_three {b c d : UInt8} (hb : 0xe0 ≤ b.toNat ∧ b.toNat < 0xf0)
    (hc : (if b.toNat = 0xe0 then 0xa0 else 0x80) ≤ c.toNat
      ∧ c.toNat ≤ (if b.toNat = 0xed then 0x9f else 0xbf))
    (hd : 0x80 ≤ d.toNat ∧ d.toNat ≤ 0xbf) :
    character b (c :: d :: rest)
      = .ok ⟨((b.toNat - 0xe0) * 0x40 + (c.toNat - 0x80)) * 0x40 + (d.toNat - 0x80), 3, rest⟩ := by
  obtain ⟨lead, hlead, hcount, hvalue, hleast, hgreatest⟩ := lead?_of_three hb
  rw [character_of_lead hlead, hcount, hvalue, hleast, hgreatest, following_cons hc,
    following_cons hd, following]

theorem character_of_four {b c d e : UInt8} (hb : 0xf0 ≤ b.toNat ∧ b.toNat ≤ 0xf4)
    (hc : (if b.toNat = 0xf0 then 0x90 else 0x80) ≤ c.toNat
      ∧ c.toNat ≤ (if b.toNat = 0xf4 then 0x8f else 0xbf))
    (hd : 0x80 ≤ d.toNat ∧ d.toNat ≤ 0xbf) (he : 0x80 ≤ e.toNat ∧ e.toNat ≤ 0xbf) :
    character b (c :: d :: e :: rest)
      = .ok ⟨(((b.toNat - 0xf0) * 0x40 + (c.toNat - 0x80)) * 0x40 + (d.toNat - 0x80)) * 0x40
          + (e.toNat - 0x80), 4, rest⟩ := by
  obtain ⟨lead, hlead, hcount, hvalue, hleast, hgreatest⟩ := lead?_of_four hb
  rw [character_of_lead hlead, hcount, hvalue, hleast, hgreatest, following_cons hc,
    following_cons hd, following_cons he, following]

theorem toNat_ofNat_byte {n : Nat} (h : n < 256) : (UInt8.ofNat n).toNat = n := by
  rw [UInt8.toNat_ofNat']
  exact Nat.mod_eq_of_lt h

/-- The bytes of a character are read as that character. -/
theorem character_of_encoded (c : Char) (rest : Bytes) :
    ∃ b tail count, String.utf8EncodeChar c = b :: tail
      ∧ character b (tail ++ rest) = .ok ⟨c.toNat, count, rest⟩ := by
  have hvalid : c.toNat < 0xd800 ∨ (0xdfff < c.toNat ∧ c.toNat < 0x110000) := c.valid
  unfold String.utf8EncodeChar
  simp only
  generalize hv : c.val.toNat = v
  have hnumber : c.toNat = v := hv
  rw [hnumber] at hvalid ⊢
  -- one case for each number of bytes
  by_cases hone : v ≤ 0x7f
  · rw [if_pos hone]
    have hb := toNat_ofNat_byte (n := v) (by omega)
    refine ⟨_, [], 1, rfl, ?_⟩
    rw [List.nil_append, character_of_ascii (by omega), hb]
  · rw [if_neg hone]
    by_cases htwo : v ≤ 0x7ff
    · rw [if_pos htwo]
      have hb := toNat_ofNat_byte (n := v / 64 % 0x20 + 0xc0) (by omega)
      have hb' := toNat_ofNat_byte (n := v % 0x40 + 0x80) (by omega)
      refine ⟨_, _, 2, rfl, ?_⟩
      rw [List.cons_append, List.nil_append, character_of_two (by omega) (by omega), hb, hb']
      have hvalue : (v / 64 % 0x20 + 0xc0 - 0xc0) * 0x40 + (v % 0x40 + 0x80 - 0x80) = v := by omega
      rw [hvalue]
    · rw [if_neg htwo]
      by_cases hthree : v ≤ 0xffff
      · rw [if_pos hthree]
        have hb := toNat_ofNat_byte (n := v / 4096 % 0x10 + 0xe0) (by omega)
        have hb' := toNat_ofNat_byte (n := v / 64 % 0x40 + 0x80) (by omega)
        have hb'' := toNat_ofNat_byte (n := v % 0x40 + 0x80) (by omega)
        have hsecond : (if v / 4096 % 0x10 + 0xe0 = 0xe0 then 0xa0 else 0x80) ≤ v / 64 % 0x40 + 0x80
            ∧ v / 64 % 0x40 + 0x80 ≤ (if v / 4096 % 0x10 + 0xe0 = 0xed then 0x9f else 0xbf) := by
          constructor
          · split <;> omega
          · split <;> omega
        refine ⟨_, _, 3, rfl, ?_⟩
        rw [List.cons_append, List.cons_append, List.nil_append,
          character_of_three (by omega) (by rw [hb, hb']; exact hsecond) (by omega), hb, hb', hb'']
        have hvalue : ((v / 4096 % 0x10 + 0xe0 - 0xe0) * 0x40 + (v / 64 % 0x40 + 0x80 - 0x80)) * 0x40
            + (v % 0x40 + 0x80 - 0x80) = v := by omega
        rw [hvalue]
      · rw [if_neg hthree]
        have hb := toNat_ofNat_byte (n := v / 262144 % 8 + 0xf0) (by omega)
        have hb' := toNat_ofNat_byte (n := v / 4096 % 0x40 + 0x80) (by omega)
        have hb'' := toNat_ofNat_byte (n := v / 64 % 0x40 + 0x80) (by omega)
        have hb''' := toNat_ofNat_byte (n := v % 0x40 + 0x80) (by omega)
        have hsecond : (if v / 262144 % 8 + 0xf0 = 0xf0 then 0x90 else 0x80) ≤ v / 4096 % 0x40 + 0x80
            ∧ v / 4096 % 0x40 + 0x80 ≤ (if v / 262144 % 8 + 0xf0 = 0xf4 then 0x8f else 0xbf) := by
          constructor
          · split <;> omega
          · split <;> omega
        refine ⟨_, _, 4, rfl, ?_⟩
        rw [List.cons_append, List.cons_append, List.cons_append, List.nil_append,
          character_of_four (by omega) (by rw [hb, hb']; exact hsecond) (by omega) (by omega), hb, hb',
          hb'', hb''']
        have hvalue : (((v / 262144 % 8 + 0xf0 - 0xf0) * 0x40 + (v / 4096 % 0x40 + 0x80 - 0x80)) * 0x40
            + (v / 64 % 0x40 + 0x80 - 0x80)) * 0x40 + (v % 0x40 + 0x80 - 0x80) = v := by omega
        rw [hvalue]

-- ============================================================== the round trip

/-- The characters of an encoded text come back, whatever fuel there is for
them and wherever they stand. -/
theorem decodeFrom_of_chars {chars : List Char} {fuel : Nat} (hfuel : chars.length ≤ fuel)
    (position : Nat) :
    decodeFrom fuel position (chars.flatMap String.utf8EncodeChar)
      = .ok (chars.map CodePoint.char) := by
  induction chars generalizing fuel position with
  | nil =>
    rw [List.flatMap_nil]
    cases fuel with
    | zero => rfl
    | succ fuel => rfl
  | cons c chars ih =>
    cases fuel with
    | zero => cases hfuel
    | succ fuel =>
      obtain ⟨b, tail, count, hbytes, hread⟩ :=
        character_of_encoded c (chars.flatMap String.utf8EncodeChar)
      have hrest := ih (Nat.le_of_succ_le_succ hfuel) (position + count)
      rw [List.flatMap_cons, hbytes, List.cons_append, decodeFrom, hread]
      show (decodeFrom fuel (position + count) _).map _ = _
      rw [hrest]
      show Except.ok (CodePoint.ofNat c.toNat :: chars.map CodePoint.char) = _
      rw [show CodePoint.ofNat c.toNat = CodePoint.char c from CodePoint.ofNat_toNat (.char c)]
      rfl

/-- A text has at least as many bytes as characters. -/
theorem length_le_bytes (chars : List Char) :
    chars.length ≤ (chars.flatMap String.utf8EncodeChar).length := by
  induction chars with
  | nil => exact Nat.le_refl 0
  | cons c chars ih =>
    obtain ⟨b, tail, -, hbytes, -⟩ := character_of_encoded c []
    rw [List.flatMap_cons, hbytes, List.length_append, List.length_cons, List.length_cons]
    omega

/-- A text with bytes is one of characters alone. -/
theorem eq_map_of_mapM_char? {t : Text} {chars : List Char}
    (h : t.mapM CodePoint.char? = some chars) : t = chars.map CodePoint.char := by
  induction t generalizing chars with
  | nil =>
    obtain rfl : [] = chars := Option.some.inj h
    rfl
  | cons c rest ih =>
    rw [List.mapM_cons] at h
    obtain ⟨first, hfirst, h⟩ := Option.bind_eq_some_iff.1 h
    obtain ⟨others, hothers, h⟩ := Option.bind_eq_some_iff.1 h
    obtain rfl : first :: others = chars := Option.some.inj h
    rw [List.map_cons, ← ih hothers]
    cases c with
    | char c =>
      obtain rfl : c = first := Option.some.inj hfirst
      rfl
    | surrogate half => cases hfirst

/-- A text of characters alone has bytes. -/
theorem exists_encode? {t : Text} (h : ∀ c ∈ t, ∃ d : Char, c = .char d) :
    ∃ bytes, encode? t = some bytes := by
  have hchars : ∃ chars, t.mapM CodePoint.char? = some chars := by
    induction t with
    | nil => exact ⟨[], rfl⟩
    | cons c rest ih =>
      rw [List.forall_mem_cons] at h
      obtain ⟨⟨d, rfl⟩, hrest⟩ := h
      obtain ⟨chars, hchars⟩ := ih hrest
      exact ⟨d :: chars, by rw [List.mapM_cons, hchars]; rfl⟩
  obtain ⟨chars, hchars⟩ := hchars
  exact ⟨_, congrArg (Option.map _) hchars⟩

/-- What a text's bytes say is the text. -/
theorem decode_of_encode? {t : Text} {bytes : Bytes} (h : encode? t = some bytes) :
    decode bytes = .ok t := by
  obtain ⟨chars, hchars, hbytes⟩ := Option.map_eq_some_iff.1 h
  subst hbytes
  rw [eq_map_of_mapM_char? hchars]
  exact decodeFrom_of_chars (length_le_bytes chars) 0

end MockApi.Utf8
