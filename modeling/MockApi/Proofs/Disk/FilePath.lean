/-
Paths as text. A path that was read has parts that are names or steps, so its text
splits at the slashes into the parts again, behind what its anchor puts in front of
them (`splitOn_text`): nothing, once or twice.

Names in one directory lead to places in it that differ by the names alone
(`Disk.exists_place`), as the disk gives them back; and names of characters are given
back as they are (`FileName.canonical_of_chars`).
-/
import MockApi.Proofs.Disk
import MockApi.Proofs.Text.Utf8

namespace MockApi

/-- What stands between the slashes in front of a path: nothing. -/
def PathAnchor.steps : PathAnchor → List Text
  | relative => []
  | root => [[]]
  | doubleRoot => [[], []]

namespace FilePath

variable {path : FilePath}

/-- Every part of the path is a name or a step. -/
def IsProper (path : FilePath) : Prop := ∀ part ∈ path.parts, part ≠ [] ∧ ('/' : CodePoint) ∉ part

/-- A path read from text is a proper one. -/
theorem isProper_ofText (t : Text) : (ofText t).IsProper := by
  intro part hpart
  obtain ⟨hsplit, hkept⟩ := List.mem_filter.1 hpart
  refine ⟨?_, Text.not_mem_of_mem_splitOn hsplit⟩
  rintro rfl
  cases hkept

/-- Two proper paths make a proper one. -/
theorem isProper_append {other : FilePath} (h : path.IsProper) (h' : other.IsProper) :
    (path.append other).IsProper := by
  unfold append
  split
  · exact List.forall_mem_append.2 ⟨h, h'⟩
  · exact h'

/-- Taking steps back adds no part. -/
theorem mem_of_mem_foldl_steps {parts taken : List Text} {part : Text}
    (h : part ∈ parts.foldl (fun parts (part : Text) =>
      if part = ".." then parts.dropLast else parts ++ [part]) taken) :
    part ∈ taken ∨ part ∈ parts := by
  induction parts generalizing taken with
  | nil => exact .inl h
  | cons first rest ih =>
    rw [List.foldl_cons] at h
    rcases ih h with hmem | hrest
    · split at hmem
      · exact .inl (List.dropLast_subset _ hmem)
      · rw [List.mem_append, List.mem_singleton] at hmem
        rcases hmem with hold | rfl
        · exact .inl hold
        · exact .inr List.mem_cons_self
    · exact .inr (List.mem_cons_of_mem _ hrest)

/-- A proper path stays one where it is resolved. -/
theorem isProper_resolvedFrom {directory : FilePath} (hdirectory : directory.IsProper)
    (h : path.IsProper) : (resolvedFrom directory path).IsProper := by
  intro part hpart
  rcases mem_of_mem_foldl_steps hpart with hnone | hmem
  · cases hnone
  · exact isProper_append hdirectory h part hmem

theorem isPlain_ofText {t : Text} (h : ∀ c ∈ t, FileName.IsPlain c) : (ofText t).IsPlain := by
  intro part hpart c hc
  exact h c (Text.mem_of_mem_splitOn (List.mem_filter.1 hpart).1 hc)

theorem text_of_parts (hne : path.parts ≠ []) :
    path.text = path.anchor.text ++ Text.join "/" path.parts := by
  unfold text
  rw [if_neg fun h => hne h.2]

/-- The parts of a path are read back from its text. -/
theorem splitOn_text (proper : path.IsProper) (hne : path.parts ≠ []) :
    Text.splitOn '/' path.text = path.anchor.steps ++ path.parts := by
  have hjoin : Text.splitOn '/' (Text.join "/" path.parts) = path.parts :=
    Text.splitOn_join hne fun part hpart => (proper part hpart).2
  rw [text_of_parts hne]
  cases path.anchor with
  | relative => exact hjoin
  | root =>
    change [] :: Text.splitOn '/' (Text.join "/" path.parts) = _
    rw [hjoin]
    rfl
  | doubleRoot =>
    change [] :: [] :: Text.splitOn '/' (Text.join "/" path.parts) = _
    rw [hjoin]
    rfl

/-- A path starts at the root if its text starts with a slash. -/
theorem head?_text (proper : path.IsProper) (hne : path.parts ≠ []) :
    ∃ c, path.text.head? = some c ∧ (c == '/') = (path.anchor != .relative) := by
  rw [text_of_parts hne]
  cases path.anchor with
  | relative =>
    obtain ⟨part, rest, hparts⟩ := List.exists_cons_of_ne_nil hne
    obtain ⟨hpart, hslash⟩ := proper part (hparts ▸ List.mem_cons_self)
    obtain ⟨c, tail, rfl⟩ := List.exists_cons_of_ne_nil hpart
    have hc : c ≠ '/' := fun heq => hslash (heq ▸ List.mem_cons_self)
    refine ⟨c, ?_, by simpa using hc⟩
    rw [hparts]
    cases rest with
    | nil => rfl
    | cons second rest => rfl
  | root => exact ⟨'/', rfl, rfl⟩
  | doubleRoot => exact ⟨'/', rfl, rfl⟩

end FilePath

-- =================================================================== names

namespace FileName

variable {name name' : Text}

/-- A text that is one name, and no step. -/
structure IsPart (name : Text) : Prop where
  noSlash : ('/' : CodePoint) ∉ name
  noStep : name ≠ [] ∧ name ≠ "." ∧ name ≠ ".."

/-- A name with more than two characters is no step. -/
theorem IsPart.of_length (noSlash : ('/' : CodePoint) ∉ name) (h : 2 < name.length) :
    IsPart name := by
  refine ⟨noSlash, ?_, ?_, ?_⟩
  · rintro rfl
    exact absurd h (by decide)
  · rintro rfl
    exact absurd h (by decide)
  · rintro rfl
    exact absurd h (by decide)

/-- Characters have the bytes of their code. -/
theorem bytes?_of_chars (chars : List Char) :
    bytes? (chars.map CodePoint.char) = some (chars.flatMap String.utf8EncodeChar) := by
  induction chars with
  | nil => rfl
  | cons c chars ih => rw [List.map_cons, bytes?, ih, List.flatMap_cons, Option.map_some]

/-- The bytes of characters are read as these characters. -/
theorem ofBytesFrom_of_chars {chars : List Char} {fuel : Nat} (hfuel : chars.length ≤ fuel) :
    ofBytesFrom fuel (chars.flatMap String.utf8EncodeChar) = chars.map CodePoint.char := by
  induction chars generalizing fuel with
  | nil =>
    cases fuel with
    | zero => rfl
    | succ fuel => rfl
  | cons c chars ih =>
    cases fuel with
    | zero => cases hfuel
    | succ fuel =>
      obtain ⟨b, tail, count, hbytes, hread⟩ :=
        Utf8.character_of_encoded c (chars.flatMap String.utf8EncodeChar)
      rw [List.flatMap_cons, hbytes, List.cons_append, ofBytesFrom, hread]
      show CodePoint.ofNat c.toNat :: ofBytesFrom fuel _ = _
      rw [ih (Nat.le_of_succ_le_succ hfuel),
        show CodePoint.ofNat c.toNat = CodePoint.char c from CodePoint.ofNat_toNat (.char c)]
      rfl

/-- A name of characters is given back as it is. -/
theorem canonical_of_chars (chars : List Char) :
    canonical (chars.map CodePoint.char) = chars.map CodePoint.char := by
  rw [canonical, bytes?_of_chars, Option.map_some, Option.getD_some, ofBytes]
  exact ofBytesFrom_of_chars (Utf8.length_le_bytes chars)

end FileName

namespace FilePath

variable {directory : FilePath} {name : Text}

/-- A name that is one part is read as that part. -/
theorem parts_ofText_of_isPart (h : FileName.IsPart name) : (ofText name).parts = [name] := by
  have hsplit : Text.splitOn '/' (Text.join "/" [name]) = [name] :=
    Text.splitOn_join (List.cons_ne_nil name []) (by simpa using h.noSlash)
  rw [Text.join, List.intercalate_singleton] at hsplit
  have hkept : (!(name.isEmpty || name == ".")) = true := by simp [h.noStep]
  unfold ofText
  rw [hsplit, List.filter_cons, if_pos hkept, List.filter_nil]

/-- A name that is one part hangs on no root. -/
theorem anchor_ofText_of_isPart (h : FileName.IsPart name) : (ofText name).anchor = .relative := by
  have hfront : name.takeWhile (· == ('/' : CodePoint)) = [] := by
    obtain ⟨c, rest, rfl⟩ := List.exists_cons_of_ne_nil h.noStep.1
    have hc : c ≠ '/' := fun heq => h.noSlash (heq ▸ List.mem_cons_self)
    exact List.takeWhile_cons_of_neg (by simpa using hc)
  unfold ofText
  rw [hfront]
  rfl

/-- One name is looked up in the directory. -/
theorem child_of_isPart (h : FileName.IsPart name) :
    directory.child name = directory.descend [name] := by
  show directory.append (ofText name) = _
  rw [append, if_pos (anchor_ofText_of_isPart h), parts_ofText_of_isPart h]
  rfl

theorem parent_child_of_isPart (h : FileName.IsPart name) :
    (directory.child name).parent = directory := by
  rw [child_of_isPart h, parent, descend, List.dropLast_concat]

end FilePath

namespace Disk

variable {disk : Disk} {directory : FilePath} {name name' : Text} {location location' : Location}

/-- The step to a part is one place further, under the name that the disk has for it. -/
theorem behind?_of_isPart (h : FileName.IsPart name) {next : Location}
    (hbehind : behind? location name = some next) : next = location ++ [FileName.canonical name] := by
  rw [behind?, if_neg (by simpa using ⟨h.noStep.1, h.noStep.2.1⟩),
    if_neg (by simpa using h.noStep.2.2)] at hbehind
  split at hbehind
  · cases hbehind
  · exact (Option.some.inj hbehind).symm

/-- A child is found where its directory is, one place further. -/
theorem exists_of_locate_child (h : FileName.IsPart name)
    (hlocate : disk.locate (directory.child name) = .ok location) :
    ∃ place, directory.parts.foldlM (disk.step []) (disk.start (directory.anchor != .relative))
        = .ok place ∧ location = place ++ [FileName.canonical name] := by
  rw [FilePath.child_of_isPart h] at hlocate
  obtain ⟨_, -, hsteps⟩ := bind_eq_ok.1 hlocate
  rw [FilePath.descend, List.foldlM_append] at hsteps
  obtain ⟨place, hplace, hlast⟩ := bind_eq_ok.1 hsteps
  rw [List.foldlM_cons] at hlast
  obtain ⟨next, hnext, hend⟩ := bind_eq_ok.1 hlast
  obtain rfl : next = location := Except.ok.inj hend
  obtain ⟨-, -, hbehind⟩ := step_eq_ok.1 hnext
  exact ⟨place, steps_of_text hplace [], behind?_of_isPart h hbehind⟩

/-- Names in one directory lead to places that differ by the names alone. -/
theorem exists_place (h : FileName.IsPart name) (h' : FileName.IsPart name')
    (hlocate : disk.locate (directory.child name) = .ok location)
    (hlocate' : disk.locate (directory.child name') = .ok location') :
    ∃ place, location = place ++ [FileName.canonical name]
      ∧ location' = place ++ [FileName.canonical name'] := by
  obtain ⟨place, hplace, hlocation⟩ := exists_of_locate_child h hlocate
  obtain ⟨place', hplace', hlocation'⟩ := exists_of_locate_child h' hlocate'
  rw [hplace] at hplace'
  obtain rfl := Except.ok.inj hplace'
  exact ⟨place, hlocation, hlocation'⟩

end Disk

end MockApi
