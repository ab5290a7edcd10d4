/-
Disks as trees. Every file has one place, nothing is below it, and its names are
names that a system gives (`IsTree`). In a tree the way from a directory to a file
below it is free, so what reading the file answers depends on no other file
(`locate_descend`, `read_without`).

Taking a file out of a tree therefore changes nothing but that file. Its directory
stays, and a path that led through the file led nowhere and does not now, though
for another reason (`locate_without`).
-/
import MockApi.Proofs.Disk.FilePath
import MockApi.Proofs.Disk.Walk

namespace MockApi

-- =================================================================== names

/-- A name that a system gives to a file. -/
structure FileName.IsName (name : Text) : Prop where
  plain : ∀ c ∈ name, IsPlain c
  noSlash : ('/' : CodePoint) ∉ name
  noStep : name ≠ [] ∧ name ≠ "." ∧ name ≠ ".."
  /-- The system gives it back as it is. -/
  fixed : canonical name = name

instance : DecidablePred FileName.IsName := fun name =>
  decidable_of_iff
    ((∀ c ∈ name, FileName.IsPlain c) ∧ ('/' : CodePoint) ∉ name
      ∧ (name ≠ [] ∧ name ≠ "." ∧ name ≠ "..") ∧ FileName.canonical name = name)
    ⟨fun ⟨plain, noSlash, noStep, fixed⟩ => ⟨plain, noSlash, noStep, fixed⟩,
      fun h => ⟨h.plain, h.noSlash, h.noStep, h.fixed⟩⟩

theorem FileName.IsName.isPart {name : Text} (h : IsName name) : IsPart name :=
  ⟨h.noSlash, h.noStep⟩

/-- A proper path stays one along names of files. -/
theorem FilePath.IsProper.descend {path : FilePath} {names : List Text} (h : path.IsProper)
    (hnames : ∀ name ∈ names, FileName.IsName name) : (path.descend names).IsProper := by
  intro part hpart
  rcases List.mem_append.1 hpart with hfront | hname
  · exact h part hfront
  · exact ⟨(hnames part hname).noStep.1, (hnames part hname).noSlash⟩

namespace Disk

/-- Files in directories. -/
structure IsTree (disk : Disk) : Prop where
  nodup : (disk.files.map (·.1)).Nodup
  /-- No file is a directory. -/
  apart : ∀ file ∈ disk.files.map (·.1), disk.isDirectoryAt file = false
  named : ∀ file ∈ disk.files.map (·.1), ∀ name ∈ file, FileName.IsName name

instance : DecidablePred IsTree := fun disk =>
  decidable_of_iff
    ((disk.files.map (·.1)).Nodup
      ∧ (∀ file ∈ disk.files.map (·.1), disk.isDirectoryAt file = false)
      ∧ ∀ file ∈ disk.files.map (·.1), ∀ name ∈ file, FileName.IsName name)
    ⟨fun ⟨nodup, apart, named⟩ => ⟨nodup, apart, named⟩, fun h => ⟨h.nodup, h.apart, h.named⟩⟩

/-- The disk with a file taken out of its directory. -/
def without (disk : Disk) (file : Location) : Disk :=
  { disk with
    files := disk.files.filter (·.1 != file)
    directories := disk.directories ++ [file.dropLast] }

variable {disk : Disk} {file location directory last : Location} {name text : Text}
  {path : FilePath}

/-- A directory of a tree is no file. -/
theorem IsTree.file?_eq_none (tree : disk.IsTree) (h : disk.isDirectoryAt location = true) :
    (disk.file? location).isSome = false := by
  apply Bool.eq_false_iff.2
  intro hfile
  rw [tree.apart location (file?_isSome_iff.1 hfile)] at h
  cases h

theorem isDirectoryAt_root (disk : Disk) : disk.isDirectoryAt [] = true :=
  isDirectoryAt_iff.2 ⟨_, List.mem_cons_self, List.nil_prefix⟩

-- ============================================================ what is left

/-- A file that is taken away is the only one that is gone. -/
theorem file?_without_of_ne (h : location ≠ file) :
    (disk.without file).file? location = disk.file? location := by
  unfold file? without
  rw [List.find?_filter]
  congr 2
  funext entry
  by_cases hentry : entry.1 = location
  · simp [hentry, h]
  · simp [hentry]

/-- The directory of the file stays. -/
theorem mem_places_without (h : (disk.file? file).isSome = true) (place : Location) :
    place ∈ (disk.without file).places ↔ place ∈ disk.places := by
  obtain ⟨entry, hentry, rfl⟩ := List.mem_map.1 (file?_isSome_iff.1 h)
  unfold places without
  simp only [List.cons_append, List.mem_cons, List.mem_append, List.mem_map, List.mem_filter,
    bne_iff_ne, List.not_mem_nil, or_false]
  constructor
  · rintro (hplace | (hplace | rfl) | ⟨other, ⟨hother, -⟩, rfl⟩)
    · exact .inl hplace
    · exact .inr (.inl hplace)
    · exact .inr (.inr ⟨entry, hentry, rfl⟩)
    · exact .inr (.inr ⟨other, hother, rfl⟩)
  · rintro (hplace | hplace | ⟨other, hother, rfl⟩)
    · exact .inl hplace
    · exact .inr (.inl (.inl hplace))
    · by_cases heq : other.1 = entry.1
      · rw [heq]
        exact .inr (.inl (.inr rfl))
      · exact .inr (.inr ⟨other, ⟨hother, heq⟩, rfl⟩)

theorem isDirectoryAt_without (h : (disk.file? file).isSome = true) (location : Location) :
    (disk.without file).isDirectoryAt location = disk.isDirectoryAt location := by
  rw [isDirectoryAt_congr (mem_places_without h)]

/-- A tree stays one without a file. -/
theorem IsTree.without (tree : disk.IsTree) (h : (disk.file? file).isSome = true) :
    (disk.without file).IsTree := by
  have hsub : ((disk.without file).files.map (·.1)).Sublist (disk.files.map (·.1)) :=
    List.filter_sublist.map _
  refine ⟨tree.nodup.sublist hsub, fun other hother => ?_, fun other hother => ?_⟩
  · rw [isDirectoryAt_without h]
    exact tree.apart other (hsub.subset hother)
  · exact tree.named other (hsub.subset hother)

/-- A directory lists all its files but the one that was taken away. -/
theorem fileNames_without (disk : Disk) (file directory : Location) :
    (disk.without file).fileNames directory
      = (disk.fileNames directory).filter fun name => directory ++ [name] != file := by
  unfold fileNames Disk.without
  rw [Text.filter_sorted, List.filter_filterMap, List.filterMap_filter]
  congr 2
  funext entry
  cases hname : nameIn? directory entry.1 with
  | none => rw [ite_self, Option.filter_none]
  | some name => rw [nameIn?_eq_some.1 hname, Option.filter_some]

-- ========================================================= following paths

/-- A step leads where it did before. -/
theorem step_without (tree : disk.IsTree) (h : (disk.file? file).isSome = true) {next : Location} :
    (disk.without file).step text location name = .ok next
      ↔ disk.step text location name = .ok next := by
  rw [step_eq_ok, step_eq_ok, isDirectoryAt_without h]
  by_cases hlocation : location = file
  · -- no way leads through a file, and none through where one was
    rw [hlocation, tree.apart file (file?_isSome_iff.1 h)]
    simp
  · rw [file?_without_of_ne hlocation]

/-- Without a file, the steps along names lead where they did before. -/
theorem steps_without (tree : disk.IsTree) (h : (disk.file? file).isSome = true)
    {names : List Text} :
    names.foldlM ((disk.without file).step text) location = .ok last
      ↔ names.foldlM (disk.step text) location = .ok last := by
  induction names generalizing location with
  | nil => rfl
  | cons name rest ih =>
    rw [List.foldlM_cons, List.foldlM_cons, bind_eq_ok, bind_eq_ok]
    simp only [step_without tree h, ih]

/-- A path is found where it was before. -/
theorem locate_without (tree : disk.IsTree) (h : (disk.file? file).isSome = true) :
    (disk.without file).locate path = .ok location ↔ disk.locate path = .ok location := by
  unfold locate
  rw [bind_eq_ok, bind_eq_ok]
  exact exists_congr fun _ => and_congr_right fun _ => steps_without tree h

-- ===================================================== reading what is listed

/-- In a tree nothing is in the way to a file. -/
theorem steps_to_file (tree : disk.IsTree) {names : List Text}
    (h : (disk.file? (directory ++ names)).isSome = true) :
    names.foldlM (disk.step text) directory
      = if names.any (nameLimit < FileName.size ·) then .error (.nameTooLong text)
        else .ok (directory ++ names) := by
  induction names generalizing directory with
  | nil => simp; rfl
  | cons name rest ih =>
    have hname := tree.named _ (file?_isSome_iff.1 h) name (by simp)
    have hfront : directory <+: directory ++ name :: rest := List.prefix_append ..
    have hdirectory := isDirectoryAt_of_prefix h hfront (by simp)
    have hstep : disk.step text directory name
        = if nameLimit < FileName.size name then .error (.nameTooLong text)
          else .ok (directory ++ [name]) := by
      unfold step
      rw [tree.file?_eq_none hdirectory, hdirectory, hname.fixed]
      simp [hname.noStep]
    rw [List.foldlM_cons, hstep, List.any_cons]
    by_cases hlong : nameLimit < FileName.size name
    · rw [if_pos hlong, decide_eq_true hlong, Bool.true_or, if_pos rfl]
      rfl
    · rw [if_neg hlong, decide_eq_false hlong, Bool.false_or]
      rw [List.append_cons] at h
      change rest.foldlM (disk.step text) (directory ++ [name]) = _
      rw [ih h, ← List.append_cons]

/-- Where the path to a file in a directory leads depends on the file and the
directory only. -/
theorem locate_descend (tree : disk.IsTree) {root : FilePath}
    (hroot : disk.locate root = .ok directory)
    (h : (disk.file? (directory ++ location)).isSome = true) :
    disk.locate (root.descend location) = checkPath (root.descend location).text >>= fun _ =>
      if location.any (nameLimit < FileName.size ·) then
        .error (.nameTooLong (root.descend location).text)
      else .ok (directory ++ location) := by
  obtain ⟨_, -, hsteps⟩ := bind_eq_ok.1 hroot
  have hfront := steps_of_text hsteps (root.descend location).text
  unfold locate
  congr 1
  funext _
  change (root.parts ++ location).foldlM (disk.step (root.descend location).text)
    (disk.start (root.anchor != .relative)) = _
  rw [List.foldlM_append, hfront]
  exact steps_to_file tree h

/-- The bytes that are read at the path to a file are those of the file. -/
theorem file?_of_read (tree : disk.IsTree) {root : FilePath}
    (hroot : disk.locate root = .ok directory)
    (h : (disk.file? (directory ++ location)).isSome = true) {bytes : Bytes}
    (hread : disk.read (root.descend location) = .ok bytes) :
    disk.file? (directory ++ location) = some bytes := by
  obtain ⟨found, hfound, hbytes⟩ := bind_eq_ok.1 hread
  rw [locate_descend tree hroot h] at hfound
  obtain ⟨_, -, hfound⟩ := bind_eq_ok.1 hfound
  split at hfound
  · cases hfound
  · obtain rfl := Except.ok.inj hfound
    unfold readFile at hbytes
    split at hbytes
    · next there hthere =>
      split at hbytes
      · cases hbytes
      · rw [hthere, Except.ok.inj hbytes]
    · cases hbytes

/-- Trees that have the same file at a place behind the same root read the same there. -/
theorem read_congr {other : Disk} (tree : disk.IsTree) (tree' : other.IsTree) {root : FilePath}
    (hroot : disk.locate root = .ok directory) (hroot' : other.locate root = .ok directory)
    (hfile : (disk.file? (directory ++ location)).isSome = true)
    (hsame : other.file? (directory ++ location) = disk.file? (directory ++ location))
    (hclosed : other.closed = disk.closed) :
    other.read (root.descend location) = disk.read (root.descend location) := by
  have hfile' : (other.file? (directory ++ location)).isSome = true := by
    rw [hsame]
    exact hfile
  unfold read
  rw [locate_descend tree hroot hfile, locate_descend tree' hroot' hfile']
  cases checkPath (root.descend location).text with
  | error e => rfl
  | ok _ =>
    change (if _ then _ else _) >>= _ = (if _ then _ else _) >>= _
    split
    · rfl
    · change other.readFile _ (directory ++ location) = disk.readFile _ _
      obtain ⟨bytes, hbytes⟩ := Option.isSome_iff_exists.1 hfile
      unfold readFile
      rw [hsame, hbytes, hclosed]

/-- Another file of a tree is read as before. -/
theorem read_without (tree : disk.IsTree) (h : (disk.file? file).isSome = true) {root : FilePath}
    (hroot : disk.locate root = .ok directory)
    (hother : (disk.file? (directory ++ location)).isSome = true)
    (hne : directory ++ location ≠ file) :
    (disk.without file).read (root.descend location) = disk.read (root.descend location) :=
  read_congr tree (tree.without h) hroot ((locate_without tree h).2 hroot) hother
    (file?_without_of_ne hne) rfl

/-- The reading at a plain path does not fail for the path's characters. -/
theorem isNoPath_of_read (h : path.IsPlain) {e : DiskError} (hread : disk.read path = .error e) :
    e.isNoPath = false := by
  cases hlocate : disk.locate path with
  | error cause =>
    unfold read at hread
    rw [hlocate] at hread
    obtain rfl := Except.error.inj hread
    exact isNoPath_of_locate h hlocate
  | ok location =>
    unfold read at hread
    rw [hlocate] at hread
    change disk.readFile path.text location = _ at hread
    unfold readFile at hread
    split at hread
    · split at hread
      · rw [← Except.error.inj hread]
        rfl
      · cases hread
    · rw [← Except.error.inj hread]
      split
      · rfl
      · rfl

-- ================================================================ as text

/-- Nothing between two slashes stays at the root. -/
theorem steps_of_anchor (tree : disk.IsTree) (anchor : PathAnchor) :
    anchor.steps.foldlM (disk.step text) (disk.start (anchor != .relative))
      = .ok (disk.start (anchor != .relative)) := by
  have hroot : disk.step text [] [] = .ok [] :=
    step_eq_ok.2 ⟨tree.file?_eq_none disk.isDirectoryAt_root, disk.isDirectoryAt_root, rfl⟩
  cases anchor with
  | relative => rfl
  | root =>
    change disk.step text [] [] >>= pure = .ok []
    rw [hroot]
    rfl
  | doubleRoot =>
    change (disk.step text [] [] >>= fun next => disk.step text next [] >>= pure) = .ok []
    rw [hroot]
    change disk.step text [] [] >>= pure = .ok []
    rw [hroot]
    rfl

/-- In a tree the text of a path leads where the path leads. -/
theorem readAt_text (tree : disk.IsTree) (proper : path.IsProper) (hne : path.parts ≠ []) :
    disk.readAt path.text = disk.read path := by
  obtain ⟨c, hhead, hc⟩ := FilePath.head?_text proper hne
  have hempty : path.text.isEmpty = false := by
    cases htext : path.text with
    | nil =>
      rw [htext] at hhead
      cases hhead
    | cons first rest => rfl
  have hstart : (path.text.head? == some '/') = (path.anchor != .relative) := by
    rw [hhead, ← hc]
    rfl
  unfold readAt read locate
  rw [hempty, FilePath.splitOn_text proper hne, hstart, List.foldlM_append, steps_of_anchor tree]
  cases checkPath path.text with
  | error e => rfl
  | ok _ => rfl

end Disk

end MockApi
