/-
What a disk answers about paths, and what writing leaves. A path whose names can
be names, none of them too long, is one that a system can be asked about, and
then every question has an answer (`leadsTo_isOk`); opening a file for writing
may still be refused, but never because there is no such path.

Writing makes the directories above a file and then puts the file. That other
files stay (`file?_of_openFile`) is not as plain as it looks: with the new
directories a path that steps back by ".." can lead to a file that it did not
lead to before. A path without such a step leads to a file only where it led
there already (`locate_of_made`), for the directories on its way were there.
-/
import MockApi.Document
import MockApi.Proofs.Outcome
import MockApi.Proofs.Text.Basic

namespace MockApi

-- =================================================================== names

namespace FileName

/-- A code point that a name may hold. -/
def IsPlain (c : CodePoint) : Prop := (bytes? [c]).isSome = true ∧ c ≠ '\x00'

instance : DecidablePred IsPlain := fun c =>
  inferInstanceAs (Decidable ((bytes? [c]).isSome = true ∧ c ≠ '\x00'))

/-- A text has bytes if each of its code points has. -/
theorem bytes?_isSome {t : Text} (h : ∀ c ∈ t, (bytes? [c]).isSome = true) :
    (bytes? t).isSome = true := by
  induction t with
  | nil => rfl
  | cons c rest ih =>
    have hrest := ih fun c hc => h c (List.mem_cons_of_mem _ hc)
    obtain ⟨behind, hbehind⟩ := Option.isSome_iff_exists.1 hrest
    cases c with
    | char c => simp [bytes?, hbehind]
    | surrogate half =>
      have hhalf := h (.surrogate half) List.mem_cons_self
      cases hbyte : escapedByte? half with
      | none => simp [bytes?, hbyte] at hhalf
      | some b => simp [bytes?, hbyte, hbehind]

end FileName

namespace FilePath

/-- Every part of the path can be part of a name. -/
def IsPlain (path : FilePath) : Prop := ∀ part ∈ path.parts, ∀ c ∈ part, FileName.IsPlain c

instance : DecidablePred IsPlain := fun path =>
  inferInstanceAs (Decidable (∀ part ∈ path.parts, ∀ c ∈ part, FileName.IsPlain c))

/-- A path that a system can be asked about: its names can be names, and
neither they nor the whole of it are too long. -/
structure IsNamed (path : FilePath) : Prop where
  plain : path.IsPlain
  short : ∀ part ∈ path.parts, FileName.size part ≤ Disk.nameLimit
  fits : FileName.size path.text < Disk.pathLimit

instance : DecidablePred IsNamed := fun path =>
  decidable_of_iff
    (path.IsPlain ∧ (∀ part ∈ path.parts, FileName.size part ≤ Disk.nameLimit)
      ∧ FileName.size path.text < Disk.pathLimit)
    ⟨fun ⟨plain, short, fits⟩ => ⟨plain, short, fits⟩, fun h => ⟨h.plain, h.short, h.fits⟩⟩

variable {path : FilePath}

theorem IsPlain.parent (h : path.IsPlain) : path.parent.IsPlain :=
  fun part hpart => h part (List.dropLast_subset _ hpart)

/-- A plain path is written in plain code points. -/
theorem IsPlain.text (h : path.IsPlain) : ∀ c ∈ path.text, FileName.IsPlain c := by
  have hpoint : FileName.IsPlain '.' := ⟨by decide, by decide⟩
  have hslash : FileName.IsPlain '/' := ⟨by decide, by decide⟩
  intro c hc
  unfold FilePath.text at hc
  split at hc
  · rw [List.mem_singleton.1 hc]
    exact hpoint
  · rcases List.mem_append.1 hc with hanchor | hjoin
    · have hall : ∀ anchor : PathAnchor, ∀ c ∈ anchor.text, c = (CodePoint.char '/') := by
        intro anchor
        cases anchor <;> decide
      rw [hall _ c hanchor]
      exact hslash
    · rcases Text.of_mem_join hjoin with hbetween | ⟨part, hpart, hmem⟩
      · rw [List.mem_singleton.1 hbetween]
        exact hslash
      · exact h part hpart c hmem

end FilePath

namespace Disk

variable {disk made : Disk} {path : FilePath} {e : DiskError}

-- ============================================================ being refused

/-- A plain path is refused for its length only. -/
theorem checkPath_of_isPlain (h : path.IsPlain) :
    checkPath path.text = if pathLimit ≤ FileName.size path.text then .error (.nameTooLong path.text)
      else .ok () := by
  have hbytes := FileName.bytes?_isSome fun c hc => (h.text c hc).1
  have hzero : path.text.contains '\x00' = false := by
    rw [List.contains_eq_mem, decide_eq_false_iff_not]
    exact fun hmem => (h.text _ hmem).2 rfl
  have hnone : (FileName.bytes? path.text).isNone = false := by
    rw [← Option.not_isSome, hbytes]
    rfl
  unfold checkPath
  rw [hnone, hzero]
  rfl

/-- A name leads from a location to another unless something is in its way. -/
theorem step_error {text name : Text} {location : Location}
    (h : disk.step text location name = .error e) :
    e = .notDirectory text ∨ e = .missing text
      ∨ e = .nameTooLong text ∧ nameLimit < FileName.size name := by
  unfold step at h
  split at h
  · exact .inl (Except.error.inj h).symm
  · split at h
    · exact .inr (.inl (Except.error.inj h).symm)
    · split at h
      · cases h
      · split at h
        · cases h
        · split at h
          · next hlong => exact .inr (.inr ⟨(Except.error.inj h).symm, hlong⟩)
          · cases h

/-- The steps of a path can fail in three ways: at a file, at a gap, and at a name that
is too long. -/
theorem steps_error {text : Text} {names : List Text} {location : Location}
    (h : names.foldlM (disk.step text) location = .error e) :
    e = .notDirectory text ∨ e = .missing text
      ∨ e = .nameTooLong text ∧ ∃ name ∈ names, nameLimit < FileName.size name := by
  induction names generalizing location with
  | nil => cases h
  | cons name rest ih =>
    rw [List.foldlM_cons] at h
    cases hstep : disk.step text location name with
    | error cause =>
      rw [hstep] at h
      obtain rfl : cause = e := Except.error.inj h
      rcases step_error hstep with h | h | ⟨h, hlong⟩
      · exact .inl h
      · exact .inr (.inl h)
      · exact .inr (.inr ⟨h, name, List.mem_cons_self, hlong⟩)
    | ok next =>
      rw [hstep] at h
      rcases ih h with h | h | ⟨h, name, hmem, hlong⟩
      · exact .inl h
      · exact .inr (.inl h)
      · exact .inr (.inr ⟨h, name, List.mem_cons_of_mem _ hmem, hlong⟩)

/-- The disk is asked about a plain path, whatever it answers. -/
theorem isNoPath_of_locate (h : path.IsPlain) (hlocate : disk.locate path = .error e) :
    e.isNoPath = false := by
  unfold locate at hlocate
  rw [checkPath_of_isPlain h] at hlocate
  split at hlocate
  · rw [← Except.error.inj hlocate]
    rfl
  · rcases steps_error hlocate with rfl | rfl | ⟨rfl, -⟩ <;> rfl

/-- A path that can be asked about leads to something or to nothing. -/
theorem leadsTo_isOk (h : path.IsNamed) (property : Location → Bool) :
    ∃ answer, disk.leadsTo path property = .ok answer := by
  have hlocate : ∀ text, disk.locate path ≠ .error (.nameTooLong text) := by
    intro text hlocate
    unfold locate at hlocate
    rw [checkPath_of_isPlain h.plain, if_neg (Nat.not_le.2 h.fits)] at hlocate
    rcases steps_error hlocate with h | h | ⟨-, name, hmem, hlong⟩
    · cases h
    · cases h
    · exact absurd (h.short name hmem) (Nat.not_le.2 hlong)
  unfold leadsTo
  split
  · exact ⟨_, rfl⟩
  · next text hlong => exact absurd hlong (hlocate text)
  · exact ⟨_, rfl⟩

-- ====================================================== making directories

/-- The disk with other directories and nothing else changed. -/
def HasMade (disk made : Disk) : Prop := ∃ directories, made = { disk with directories }

/-- The disk with more directories behind its own and nothing else changed. -/
def Grows (disk made : Disk) : Prop :=
  ∃ more, made = { disk with directories := disk.directories ++ more }

theorem Grows.refl (disk : Disk) : disk.Grows disk := ⟨[], by rw [List.append_nil]⟩

theorem Grows.trans {first second third : Disk} (h : first.Grows second) (h' : second.Grows third) :
    first.Grows third := by
  obtain ⟨more, rfl⟩ := h
  obtain ⟨more', rfl⟩ := h'
  exact ⟨more ++ more', by rw [List.append_assoc]⟩

theorem Grows.hasMade (h : disk.Grows made) : disk.HasMade made := by
  obtain ⟨more, rfl⟩ := h
  exact ⟨_, rfl⟩

/-- A directory that is made is added behind the others. -/
theorem grows_of_makeDirectory (h : disk.makeDirectory path = .ok made) : disk.Grows made := by
  obtain ⟨location, -, h⟩ := bind_eq_ok.1 h
  split at h
  · cases h
  · rw [← Except.ok.inj h]
    exact ⟨_, rfl⟩

/-- The making of a directory at a plain path does not fail for the path's characters. -/
theorem isNoPath_of_makeDirectory (h : path.IsPlain) (hmake : disk.makeDirectory path = .error e) :
    e.isNoPath = false := by
  unfold makeDirectory at hmake
  cases hlocate : disk.locate path with
  | error cause =>
    rw [hlocate] at hmake
    obtain rfl : cause = e := Except.error.inj hmake
    exact isNoPath_of_locate h hlocate
  | ok location =>
    rw [hlocate] at hmake
    change (do
      if (disk.file? location).isSome || disk.isDirectoryAt location then
        throw (.alreadyExists path.text)
      return { disk with directories := disk.directories ++ [location] }) = Except.error e at hmake
    split at hmake
    · rw [← Except.error.inj hmake]
      rfl
    · cases hmake

/-- With its parents, a directory is added behind the others too. -/
theorem grows_of_ensureDirectory (h : disk.ensureDirectory path = .ok made) : disk.Grows made := by
  fun_induction ensureDirectory disk path generalizing made with
  | case1 path there hmake =>
    obtain rfl := Except.ok.inj h
    exact grows_of_makeDirectory hmake
  | case2 => cases h
  | case3 path text _ _ _ ih =>
    -- the directory above is made first, and then the directory itself
    obtain ⟨above, habove, h⟩ := bind_eq_ok.1 h
    split at h
    · obtain rfl := Except.ok.inj h
      exact ih habove
    · exact (ih habove).trans (grows_of_makeDirectory h)
  | case4 =>
    obtain rfl := Except.ok.inj h
    exact .refl _
  | case5 => cases h

/-- A directory at a plain path, with its parents, does not fail for the path's
characters. -/
theorem isNoPath_of_ensureDirectory (h : path.IsPlain)
    (hensure : disk.ensureDirectory path = .error e) : e.isNoPath = false := by
  -- the recursion is on the parents: they are plain as the path is
  fun_induction ensureDirectory disk path generalizing e with
  | case1 => cases hensure
  | case2 =>
    rw [← Except.error.inj hensure]
    rfl
  | case3 path text _ _ _ ih =>
    cases habove : disk.ensureDirectory path.parent with
    | error cause =>
      rw [habove] at hensure
      obtain rfl : cause = e := Except.error.inj hensure
      exact ih h.parent habove
    | ok above =>
      rw [habove] at hensure
      change (if above.isDirectory path = true then pure above else above.makeDirectory path)
        = Except.error e at hensure
      split at hensure
      · cases hensure
      · exact isNoPath_of_makeDirectory h hensure
  | case4 => cases hensure
  | case5 path cause _ hmake =>
    obtain rfl := Except.error.inj hensure
    exact isNoPath_of_makeDirectory h hmake

/-- Behind a directory that could be made, a file is opened if nothing stands
in its place. -/
theorem openFile_of_ok {above : Disk} {location : Location}
    (habove : disk.ensureDirectory path.parent = .ok above)
    (hlocate : above.locate path = .ok location) :
    disk.openFile path =
      if above.isDirectoryAt location = true then .error (.isDirectory path.text)
      else if above.closed.contains location = true then .error (.denied path.text)
      else .ok (location, above) := by
  unfold openFile
  rw [habove]
  change (above.locate path >>= _) = _
  rw [hlocate]
  change (if above.isDirectoryAt location = true then _ else _) = _
  split
  · rfl
  · split
    · rfl
    · rfl

/-- To open a file may add directories, and the file is found on the disk they leave. -/
theorem grows_of_openFile {location : Location} (h : disk.openFile path = .ok (location, made)) :
    disk.Grows made ∧ made.locate path = .ok location := by
  obtain ⟨above, habove, hfile⟩ := bind_eq_ok.1 h
  obtain ⟨found, hfound, -⟩ := bind_eq_ok.1 hfile
  rw [openFile_of_ok habove hfound] at h
  split at h
  · cases h
  · split at h
    · cases h
    · obtain ⟨rfl, rfl⟩ := Prod.mk.inj (Except.ok.inj h)
      exact ⟨grows_of_ensureDirectory habove, hfound⟩

theorem of_openFile {location : Location} (h : disk.openFile path = .ok (location, made)) :
    disk.HasMade made ∧ made.locate path = .ok location :=
  ⟨(grows_of_openFile h).1.hasMade, (grows_of_openFile h).2⟩

/-- The opening of a file at a plain path does not fail for the path's characters. -/
theorem isNoPath_of_openFile (h : path.IsPlain) (hopen : disk.openFile path = .error e) :
    e.isNoPath = false := by
  -- the directory, the way to the file, and what stands in its place fail in turn
  cases habove : disk.ensureDirectory path.parent with
  | error cause =>
    unfold openFile at hopen
    rw [habove] at hopen
    obtain rfl : cause = e := Except.error.inj hopen
    exact isNoPath_of_ensureDirectory h.parent habove
  | ok above =>
    cases hlocate : above.locate path with
    | error cause =>
      unfold openFile at hopen
      rw [habove] at hopen
      change (above.locate path >>= _) = _ at hopen
      rw [hlocate] at hopen
      obtain rfl : cause = e := Except.error.inj hopen
      exact isNoPath_of_locate h hlocate
    | ok location =>
      rw [openFile_of_ok habove hlocate] at hopen
      split at hopen
      · rw [← Except.error.inj hopen]
        rfl
      · split at hopen
        · rw [← Except.error.inj hopen]
          rfl
        · cases hopen

-- ============================================================ what is kept

/-- Setting a file leaves every entry its name. -/
theorem comp_replaced (location other : Location) (bytes : Bytes) :
    ((fun entry : Location × Bytes => entry.1 == other) ∘ fun entry =>
      if entry.1 == location then (location, bytes) else entry) = fun entry => entry.1 == other := by
  funext entry
  by_cases hentry : entry.1 = location
  · simp [hentry]
  · simp [hentry]

/-- A file that is written leaves the others as they are. -/
theorem file?_put_of_ne {location other : Location} (h : location ≠ other) (bytes : Bytes) :
    (disk.put location bytes).file? other = disk.file? other := by
  unfold put
  split
  · unfold file?
    rw [List.find?_map, comp_replaced]
    cases hfound : disk.files.find? fun entry => entry.1 == other with
    | none => rfl
    | some entry =>
      have hother : entry.1 = other := by simpa using List.find?_some hfound
      have hentry : ¬entry.1 = location := fun heq => h (heq.symm.trans hother)
      simp [hentry]
  · have hnew : [(location, bytes)].find? (fun entry => entry.1 == other) = none := by
      simp [h]
    unfold file?
    rw [List.find?_append, hnew, Option.or_none]

/-- Where a name leads from a directory. -/
def behind? (location : Location) (name : Text) : Option Location :=
  if name.isEmpty || name == "." then some location
  else if name == ".." then some location.dropLast
  else if nameLimit < FileName.size name then none
  else some (location ++ [FileName.canonical name])

/-- A name is followed from a directory, and the text of the path is only for
refusals. -/
theorem step_eq_ok {text name : Text} {location next : Location} :
    disk.step text location name = .ok next ↔
      (disk.file? location).isSome = false ∧ disk.isDirectoryAt location = true
        ∧ behind? location name = some next := by
  unfold step behind?
  cases (disk.file? location).isSome with
  | true => simp
  | false =>
    cases disk.isDirectoryAt location with
    | false => simp
    | true =>
      simp only [Bool.not_true, Bool.false_eq_true, if_false, true_and]
      split
      · simp
      · split
        · simp
        · split
          · simp
          · simp

/-- A name that is no step back leads to the location itself or below it. -/
theorem prefix_of_behind? {name : Text} {location next : Location} (hname : name ≠ "..")
    (h : behind? location name = some next) : location <+: next := by
  unfold behind? at h
  split at h
  · obtain rfl := Option.some.inj h
    exact List.prefix_refl _
  · rw [if_neg (by simpa using hname)] at h
    split at h
    · cases h
    · rw [← Option.some.inj h]
      exact List.prefix_append ..

/-- The places above a file are directories. -/
theorem isDirectoryAt_of_prefix {location file : Location} (h : (disk.file? file).isSome = true)
    (hfront : location <+: file) (hne : location ≠ file) : disk.isDirectoryAt location = true := by
  obtain ⟨bytes, hbytes⟩ := Option.isSome_iff_exists.1 h
  obtain ⟨entry, hfind, -⟩ := Option.map_eq_some_iff.1 hbytes
  have hmem := List.mem_of_find?_eq_some hfind
  have hentry : entry.1 = file := by simpa using List.find?_some hfind
  have hlength : location.length < file.length := by
    have hle := hfront.length_le
    have hlt : location.length ≠ file.length := fun heq => hne (hfront.eq_of_length heq)
    omega
  have hany : (disk.files.any fun entry =>
      location.isPrefixOf entry.1 && location.length < entry.1.length) = true := by
    refine List.any_eq_true.2 ⟨entry, hmem, ?_⟩
    rw [hentry, Bool.and_eq_true]
    exact ⟨List.isPrefixOf_iff_prefix.2 hfront, decide_eq_true hlength⟩
  unfold isDirectoryAt
  rw [hany, Bool.or_true]

/-- Without a step back, a path that leads to a file with other directories
made leads to it without them. -/
theorem steps_of_made {text : Text} {names : List Text} {location file : Location}
    {directories : List Location} (hnames : ∀ name ∈ names, name ≠ "..")
    (h : names.foldlM ({ disk with directories }.step text) location = .ok file)
    (hfile : (disk.file? file).isSome = true) :
    location <+: file ∧ names.foldlM (disk.step text) location = .ok file := by
  induction names generalizing location with
  | nil =>
    obtain rfl : location = file := Except.ok.inj h
    exact ⟨List.prefix_refl _, rfl⟩
  | cons name rest ih =>
    rw [List.foldlM_cons] at h
    obtain ⟨next, hnext, h⟩ := bind_eq_ok.1 h
    obtain ⟨hbelow, hrest⟩ := ih (fun name hname => hnames name (List.mem_cons_of_mem _ hname)) h
    obtain ⟨hfree, -, hbehind⟩ := step_eq_ok.1 hnext
    have hlocation := (prefix_of_behind? (hnames name List.mem_cons_self) hbehind).trans hbelow
    have hne : location ≠ file := by
      rintro rfl
      exact absurd hfile (Bool.eq_false_iff.1 hfree)
    have hstep : disk.step text location name = .ok next :=
      step_eq_ok.2 ⟨hfree, isDirectoryAt_of_prefix hfile hlocation hne, hbehind⟩
    refine ⟨hlocation, ?_⟩
    rw [List.foldlM_cons, hstep]
    exact hrest

/-- A path without a step back that leads to a file when other directories are
made led to it before. -/
theorem locate_of_made {file : Location} (hmade : disk.HasMade made)
    (hparts : ∀ part ∈ path.parts, part ≠ "..") (hlocate : made.locate path = .ok file)
    (hfile : (disk.file? file).isSome = true) : disk.locate path = .ok file := by
  obtain ⟨directories, rfl⟩ := hmade
  obtain ⟨_, hcheck, hsteps⟩ := bind_eq_ok.1 hlocate
  unfold locate
  rw [hcheck]
  exact (steps_of_made hparts hsteps hfile).2

-- ------------------------------------------------ where nothing is made

/-- The steps of a path do not depend on the text they are reported with. -/
theorem steps_of_text {text : Text} {names : List Text} {location last : Location}
    (h : names.foldlM (disk.step text) location = .ok last) (other : Text) :
    names.foldlM (disk.step other) location = .ok last := by
  induction names generalizing location with
  | nil => exact h
  | cons name rest ih =>
    rw [List.foldlM_cons] at h ⊢
    obtain ⟨next, hnext, hrest⟩ := bind_eq_ok.1 h
    rw [step_eq_ok.2 (step_eq_ok.1 hnext)]
    exact ih hrest

/-- No check of a path finds that it is missing. -/
theorem checkPath_ne_missing {text : Text} (h : checkPath text = .error e) (other : Text) :
    e ≠ .missing other := by
  unfold checkPath at h
  split at h
  · rw [← Except.error.inj h]
    nofun
  · split at h
    · rw [← Except.error.inj h]
      nofun
    · split at h
      · rw [← Except.error.inj h]
        nofun
      · cases h

/-- Where the names of a path lead to a directory, making it is refused, and
not for something that is missing. -/
theorem makeDirectory_of_steps {text : Text} {location : Location}
    (hsteps : path.parts.foldlM (disk.step text) (disk.start (path.anchor != .relative))
      = .ok location)
    (hdirectory : disk.isDirectoryAt location = true) :
    ∃ e, disk.makeDirectory path = .error e ∧ ∀ other, e ≠ .missing other := by
  unfold makeDirectory locate
  cases hcheck : checkPath path.text with
  | error e => exact ⟨e, rfl, checkPath_ne_missing hcheck⟩
  | ok _ =>
    refine ⟨.alreadyExists path.text, ?_, nofun⟩
    change (path.parts.foldlM (disk.step path.text) _ >>= _) = _
    rw [steps_of_text hsteps]
    change (if ((disk.file? location).isSome || disk.isDirectoryAt location) = true
      then throw (DiskError.alreadyExists path.text) else _) = _
    rw [hdirectory, Bool.or_true, if_pos rfl]
    rfl

/-- A directory that is there is not made again. -/
theorem eq_of_ensureDirectory {text : Text} {location : Location}
    (hsteps : path.parts.foldlM (disk.step text) (disk.start (path.anchor != .relative))
      = .ok location)
    (hdirectory : disk.isDirectoryAt location = true)
    (h : disk.ensureDirectory path = .ok made) : made = disk := by
  obtain ⟨e, hmake, hne⟩ := makeDirectory_of_steps hsteps hdirectory
  unfold ensureDirectory at h
  rw [hmake] at h
  split at h
  · next hok => cases hok
  · next other hmissing => exact absurd (Except.error.inj hmissing) (hne other)
  · split at h
    · exact (Except.ok.inj h).symm
    · cases h

/-- The steps to a name go through a directory that has it. -/
theorem steps_of_append {text name : Text} {names : List Text} {location last : Location}
    (h : (names ++ [name]).foldlM (disk.step text) location = .ok last) :
    ∃ above, names.foldlM (disk.step text) location = .ok above
      ∧ disk.isDirectoryAt above = true := by
  rw [List.foldlM_append] at h
  obtain ⟨above, habove, hlast⟩ := bind_eq_ok.1 h
  rw [List.foldlM_cons] at hlast
  obtain ⟨next, hnext, -⟩ := bind_eq_ok.1 hlast
  exact ⟨above, habove, (step_eq_ok.1 hnext).2.1⟩

-- --------------------------------------------------------- what is written

/-- Where nothing is at a path, writing it leaves every file that is there,
unless the path leads to one only with the directories made for it. -/
theorem file?_of_openFile {location other : Location} {bytes : Bytes}
    (hnothing : disk.holds path = .ok false)
    (hopen : disk.openFile path = .ok (location, made))
    (hlocate : made.locate path = .ok other → disk.locate path = .ok other)
    (hother : (disk.file? other).isSome = true) :
    (made.put location bytes).file? other = disk.file? other := by
  obtain ⟨⟨directories, rfl⟩, hfound⟩ := of_openFile hopen
  have hne : location ≠ other := by
    rintro rfl
    unfold holds leadsTo at hnothing
    rw [hlocate hfound] at hnothing
    simp [hother] at hnothing
  rw [file?_put_of_ne hne]
  rfl

end Disk
end MockApi
