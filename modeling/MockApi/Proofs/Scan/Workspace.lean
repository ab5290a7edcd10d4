/-
Scanning a tree of files. A listed file that is no text has no endpoints, whatever
keeps it from being one, and no file has a part in how another one is read. So a
file that cannot be scanned is met as one that is not there (`scan_isolated`).
-/
import MockApi.Proofs.Scan.Batch
import MockApi.Proofs.Scan.Walk
import MockApi.Proofs.Text.Utf8

namespace MockApi

-- ============================================================== what is skipped

namespace Workspace

/-- Why a file below a directory adds nothing to a scan. -/
inductive IsSkipped (disk : Disk) (limit : Int) (root : FilePath) (location : Location)
    (bytes : Bytes) : Prop where
  | unreadable {e : DiskError} (h : disk.readAt (root.descend location).text = .error e)
  | tooLarge (h : limit < bytes.length)
  | binary (h : 0 ∈ bytes.take Source.zeroWindow)
  | notText {e : Utf8.DecodeError} (h : Utf8.decode bytes = .error e)
  | unsupported (h : Dialect.ofPath? (root.descend location) = none)
  | excluded (h : ∃ name ∈ location.dropLast, name ∈ excludedDirectories)

end Workspace

namespace Source

/-- Bytes are read if there are not too many, none of the first is zero, and they can
be decoded. -/
theorem decode_eq_ok {limit : Int} {bytes : Bytes} {text : Text} :
    decode limit bytes = .ok text ↔ (bytes.length : Int) ≤ limit
      ∧ 0 ∉ bytes.take zeroWindow ∧ Utf8.decode (Utf8.withoutMark bytes) = .ok text := by
  unfold decode
  by_cases hlarge : limit < bytes.length
  · rw [if_pos hlarge]
    refine iff_of_false nofun fun h => ?_
    have hle := h.1
    omega
  · rw [if_neg hlarge]
    by_cases hzero : (bytes.take zeroWindow).contains 0 = true
    · rw [if_pos hzero]
      refine iff_of_false nofun fun h => h.2.1 ?_
      simpa using hzero
    · rw [if_neg hzero, mapError_eq_ok]
      have hmem : 0 ∉ bytes.take zeroWindow := by simpa using hzero
      exact ⟨fun h => ⟨by omega, hmem, h⟩, fun h => h.2.2⟩

/-- A file is read as its bytes are. -/
theorem readText_eq_ok {disk : Disk} {path text : Text} {limit : Int} :
    readText disk path limit = .ok text
      ↔ ∃ bytes, disk.readAt path = .ok bytes ∧ decode limit bytes = .ok text := by
  unfold readText
  rw [mapError_eq_ok, bind_eq_ok]
  simp only [mapError_eq_ok]

/-- An error of the disk is that of reading the bytes. -/
theorem readAt_of_readText {disk : Disk} {path path' : Text} {limit : Int} {cause : DiskError}
    (h : readText disk path limit = .error ⟨path', .disk cause⟩) :
    disk.readAt path = .error cause := by
  unfold readText at h
  cases hread : disk.readAt path with
  | error e =>
    rw [hread] at h
    cases h
    rfl
  | ok bytes =>
    rw [hread] at h
    -- once the bytes are there, every error is one of decoding them
    change (decode limit bytes).mapError _ = _ at h
    unfold decode at h
    split at h
    · cases h
    · split at h
      · cases h
      · cases htext : Utf8.decode (Utf8.withoutMark bytes) with
        | error e =>
          rw [htext] at h
          cases h
        | ok text =>
          rw [htext] at h
          cases h

/-- A file that cannot be read has no endpoints. -/
theorem endpointsAt_eq_nil {disk : Disk} {path : Text} {limit : Int}
    (h : ∀ text, readText disk path limit ≠ .ok text) : endpointsAt disk limit path = [] := by
  unfold endpointsAt
  split
  · next text htext => exact absurd htext (h text)
  · rfl

theorem endpointsAt_congr {disk other : Disk} {path : Text} {limit : Int}
    (h : disk.readAt path = other.readAt path) :
    endpointsAt disk limit path = endpointsAt other limit path := by
  unfold endpointsAt readText
  rw [h]

end Source

-- ========================================================== files of a tree

/-- The files of a tree below a root that is a path. -/
structure Workspace.IsBelow (disk : Disk) (root : FilePath) (directory location : Location) :
    Prop where
  tree : disk.IsTree
  plain : root.IsPlain
  proper : root.IsProper
  leads : disk.locate root = .ok directory
  isFile : (disk.file? (directory ++ location)).isSome = true
  inside : location ≠ []

namespace Workspace.IsBelow

variable {disk : Disk} {root : FilePath} {directory location : Location}

theorem isName (h : IsBelow disk root directory location) {name : Text} (hname : name ∈ location) :
    FileName.IsName name :=
  h.tree.named _ (Disk.file?_isSome_iff.1 h.isFile) name (List.mem_append_right _ hname)

/-- The path to what is below is plain, if the root is. -/
theorem isPlain (h : IsBelow disk root directory location) : (root.descend location).IsPlain := by
  intro part hpart
  rcases List.mem_append.1 hpart with hroot | hname
  · exact h.plain part hroot
  · exact (h.isName hname).plain

/-- What is below is read along the path to it. -/
theorem readAt (h : IsBelow disk root directory location) :
    disk.readAt (root.descend location).text = disk.read (root.descend location) := by
  apply Disk.readAt_text h.tree
  · exact h.proper.descend fun name hname => h.isName hname
  · exact List.append_ne_nil_of_right_ne_nil _ h.inside

/-- A scan does not stop at a file. -/
theorem scanFile (h : IsBelow disk root directory location) (x : Extractor) :
    x.scanFile disk (root.descend location).text
      = .ok (Source.endpointsAt disk x.limit (root.descend location).text) := by
  unfold Extractor.scanFile Source.endpointsAt
  split
  · next text htext => rw [htext]
  · next path cause hcause =>
    have hread := Source.readAt_of_readText hcause
    rw [h.readAt] at hread
    rw [hcause, Disk.isNoPath_of_read h.isPlain hread]
    rfl
  · next _ _ he => rw [he]

/-- Without another file it is read as before. -/
theorem readAt_without (h : IsBelow disk root directory location) {file : Location}
    (hfile : (disk.file? file).isSome = true) (hne : directory ++ location ≠ file) :
    (disk.without file).readAt (root.descend location).text
      = disk.readAt (root.descend location).text := by
  have hbelow : IsBelow (disk.without file) root directory location := {
    tree := h.tree.without hfile
    plain := h.plain
    proper := h.proper
    leads := (Disk.locate_without h.tree hfile).2 h.leads
    isFile := by
      rw [Disk.file?_without_of_ne hne]
      exact h.isFile
    inside := h.inside }
  rw [hbelow.readAt, h.readAt]
  exact Disk.read_without h.tree hfile h.leads h.isFile hne

/-- A skipped file is not listed or has no endpoints. -/
theorem endpointsAt_of_isSkipped (h : IsBelow disk root directory location) {levels : Nat}
    {limit : Int} {bytes : Bytes} (hbytes : disk.file? (directory ++ location) = some bytes)
    (skipped : IsSkipped disk limit root location bytes)
    (hwalk : location ∈ walk disk levels directory) :
    Source.endpointsAt disk limit (root.descend location).text = [] := by
  obtain ⟨above, name, rfl, listed⟩ := mem_walk.1 hwalk
  apply Source.endpointsAt_eq_nil
  intro text htext
  obtain ⟨found, hread, hdecode⟩ := Source.readText_eq_ok.1 htext
  obtain ⟨hsize, hzero, htext⟩ := Source.decode_eq_ok.1 hdecode
  rw [h.readAt] at hread
  obtain rfl : bytes = found :=
    Option.some.inj (hbytes.symm.trans (Disk.file?_of_read h.tree h.leads h.isFile hread))
  -- each reason contradicts one of the steps that were taken to read the file,
  -- or the walk that led to it
  cases skipped with
  | unreadable herror =>
    rw [h.readAt, hread] at herror
    cases herror
  | tooLarge hlarge => omega
  | binary hmem => exact hzero hmem
  | notText herror =>
    have hok := Utf8.isOk_decode_withoutMark bytes
    rw [htext, herror] at hok
    cases hok
  | unsupported hnone =>
    rw [ofPath?_descend (h.isName (by simp))] at hnone
    have hsource := listed.isSource
    unfold isSource at hsource
    rw [hnone] at hsource
    cases hsource
  | excluded hexcluded =>
    rw [List.dropLast_concat] at hexcluded
    obtain ⟨other, hother, hmem⟩ := hexcluded
    exact listed.notExcluded other hother hmem

end Workspace.IsBelow

-- ============================================================ a whole scan

/-- Items that give nothing may be left out. -/
theorem flatMap_filter_eq {α β : Type} {f g : α → List β} {p : α → Bool} {items : List α}
    (hkeep : ∀ a ∈ items, p a = true → f a = g a) (hdrop : ∀ a ∈ items, p a = false → g a = []) :
    (items.filter p).flatMap f = items.flatMap g := by
  induction items with
  | nil => rfl
  | cons a rest ih =>
    obtain ⟨ha, hrest⟩ := List.forall_mem_cons.1 hkeep
    obtain ⟨ha', hrest'⟩ := List.forall_mem_cons.1 hdrop
    rw [List.flatMap_cons, ← ih hrest hrest']
    cases hp : p a with
    | true => rw [List.filter_cons_of_pos hp, List.flatMap_cons, ha hp]
    | false => rw [List.filter_cons_of_neg (Bool.not_eq_true _ ▸ hp), ha' hp, List.nil_append]

namespace Workspace

variable {disk : Disk} {root : FilePath} {directory location : Location} {limit : Int}

theorem endpoints_of_leads (hroot : disk.locate root = .ok directory) :
    endpoints disk root limit = Endpoint.deduplicate ((walk disk disk.depth directory).flatMap
      fun location => Source.endpointsAt disk limit (root.descend location).text) := by
  unfold endpoints sourceFiles
  rw [hroot, List.flatMap_map]

/-- Without a file that is skipped, the endpoints are the same. -/
theorem endpoints_without (h : IsBelow disk root directory location) {bytes : Bytes}
    (hbytes : disk.file? (directory ++ location) = some bytes)
    (skipped : IsSkipped disk limit root location bytes) :
    endpoints (disk.without (directory ++ location)) root limit = endpoints disk root limit := by
  have hroot := (Disk.locate_without h.tree h.isFile).2 h.leads
  rw [endpoints_of_leads h.leads, endpoints_of_leads hroot,
    Disk.depth_congr (Disk.mem_places_without h.isFile), walk_without h.isFile]
  congr 1
  apply flatMap_filter_eq
  · intro other hother hne
    obtain ⟨above, name, rfl, listed⟩ := mem_walk.1 hother
    have hbelow : IsBelow disk root directory (above ++ [name]) :=
      { h with isFile := listed.isFile, inside := by simp }
    apply Source.endpointsAt_congr
    exact hbelow.readAt_without h.isFile (by simpa using hne)
  · intro other hother heq
    obtain rfl : other = location := by simpa using heq
    exact h.endpointsAt_of_isSkipped hbytes skipped hother

end Workspace

namespace Extractor

variable {disk : Disk} {pool : Pool Text (Except DiskError (List Endpoint))}

/-- Under a plain root the source files are found. -/
theorem discover_eq {root : FilePath} (plain : root.IsPlain) :
    discover disk root = .ok (Workspace.sourceFiles disk root) := by
  unfold discover
  split
  · next cause hcause =>
    rw [Disk.isNoPath_of_locate plain hcause]
    unfold Workspace.sourceFiles
    rw [hcause]
    rfl
  · rfl

/-- A scan of a plain root gives the endpoints of its source files. -/
theorem scan_eq (tree : disk.IsTree) {root : FilePath} (plain : root.IsPlain)
    (proper : root.IsProper) (ordered : pool.IsOrdered) (x : Extractor) :
    x.scan pool disk root = .ok (Workspace.endpoints disk root x.limit) := by
  have hfiles : ∀ path ∈ Workspace.sourceFiles disk root,
      (id ∘ x.scanFile disk ∘ FilePath.text) path
        = .ok (Source.endpointsAt disk x.limit path.text) := by
    intro path hpath
    obtain ⟨directory, above, name, hroot, rfl, hfile, -, -⟩ := (Workspace.mem_sourceFiles tree).1 hpath
    have hbelow : Workspace.IsBelow disk root directory (above ++ [name]) :=
      ⟨tree, plain, proper, hroot, hfile, by simp⟩
    exact hbelow.scanFile x
  unfold scan
  rw [discover_eq plain]
  change ((x.share pool (x.scanFile disk) ((Workspace.sourceFiles disk root).map _)).mapM id
    >>= _) = _
  rw [share_eq_map ordered, List.map_map, List.mapM_map, mapM_eq_ok hfiles]
  rw [Workspace.endpoints, List.flatMap_def]
  rfl

/-- A file that cannot be scanned stands alone. A scan of a tree always ends well;
it lists every source file below the root once, unless a directory between the two
is an excluded one; and of a file that cannot be read, is too large, holds a zero
byte, is no UTF-8, has the extension of no dialect or is in an excluded directory,
it tells as much as if the file were not there. -/
theorem scan_isolated (tree : disk.IsTree) {root : Text} (plain : ∀ c ∈ root, FileName.IsPlain c)
    (ordered : pool.IsOrdered) (x : Extractor) :
    (∃ endpoints, x.scan pool disk root = .ok endpoints)
      ∧ (∃ files, discover disk root = .ok files ∧ files.Nodup
        ∧ ∀ path, path ∈ files ↔ Workspace.IsSourceFile disk root path)
      ∧ ∀ directory location bytes, disk.locate root = .ok directory → location ≠ [] →
        disk.file? (directory ++ location) = some bytes →
        Workspace.IsSkipped disk x.limit root location bytes →
        x.scan pool (disk.without (directory ++ location)) root = x.scan pool disk root := by
  have hplain := FilePath.isPlain_ofText plain
  have hproper := FilePath.isProper_ofText root
  refine ⟨⟨_, scan_eq tree hplain hproper ordered x⟩, ⟨_, discover_eq hplain, ?_, ?_⟩, ?_⟩
  · exact Workspace.nodup_sourceFiles tree root
  · intro path
    exact Workspace.mem_sourceFiles tree
  · intro directory location bytes hroot hinside hbytes skipped
    have hfile : (disk.file? (directory ++ location)).isSome = true := by
      rw [hbytes]
      rfl
    have hbelow : Workspace.IsBelow disk root directory location :=
      ⟨tree, hplain, hproper, hroot, hfile, hinside⟩
    rw [scan_eq tree hplain hproper ordered, scan_eq (tree.without hfile) hplain hproper ordered,
      Workspace.endpoints_without hbelow hbytes skipped]

/-- A source file next to one that begins with a zero byte. -/
def blobDisk : Disk :=
  { workingDirectory := "/w"
    files := [(["w", "src", "api.js"], "fetch('/users')".toUTF8.toList),
      (["w", "src", "blob.js"], [0, 1, 2])] }

/-- The bytes that are no text are met as if they were not there. -/
theorem scan_isolated_blob :
    let x : Extractor := { workers := 2 }
    (∃ endpoints, x.scan backwards blobDisk ("." : Text) = .ok endpoints)
      ∧ x.scan backwards (blobDisk.without ["w", "src", "blob.js"]) ("." : Text)
        = x.scan backwards blobDisk ("." : Text) := by
  intro x
  have tree : blobDisk.IsTree := by decide +kernel
  have plain : ∀ c ∈ ("." : Text), FileName.IsPlain c := by decide
  obtain ⟨hends, -, hwithout⟩ := scan_isolated tree plain isOrdered_backwards x
  refine ⟨hends, ?_⟩
  apply hwithout ["w"] ["src", "blob.js"] [0, 1, 2]
  · rfl
  · decide
  · decide
  · exact .binary (by decide)

end Extractor

end MockApi
