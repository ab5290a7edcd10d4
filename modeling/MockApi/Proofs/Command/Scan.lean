/-
The file of endpoints after a scan. A scan writes the endpoints that it found, but
nothing if it found none: then the file of an earlier scan stays as it was. So the file
shows the endpoints of the latest scan if and only if there are some, or no earlier
scan has left any in it (`run_scan_shows_iff`).

A second scan changes nothing. What the first has written is within the project's own
directory, which is not scanned, so the same endpoints are found and the same bytes are
put where they are.
-/
import MockApi.Command.Run
import MockApi.Proofs.Scan.Excluded

namespace MockApi

-- ================================================================ vocabulary

/-- The file of endpoints, if there is one, is the document of these endpoints. -/
def Project.Shows (p : Project) (disk : Disk) (endpoints : List Endpoint) : Prop :=
  ∀ location bytes, disk.locate p.endpointsFile = .ok location → disk.file? location = some bytes →
    ∃ t, Document.text (Endpoint.entries (some p.root) endpoints) = .ok t
      ∧ Utf8.encode? t = some bytes

/-- A file that shows no endpoints is a document without entries. -/
theorem Project.Shows.encode_eq {p : Project} {disk : Disk} (h : p.Shows disk [])
    {location : Location} {bytes : Bytes} (hlocate : disk.locate p.endpointsFile = .ok location)
    (hfile : disk.file? location = some bytes) : Utf8.encode? "[]\n" = some bytes := by
  obtain ⟨t, htext, hbytes⟩ := h location bytes hlocate hfile
  have hentries : Endpoint.entries (some p.root) [] = .arr [] := by
    rw [Endpoint.entries, Endpoint.sorted, List.map_nil, List.mergeSort_nil, List.map_nil]
  have hempty : Document.text (.arr []) = .ok "[]\n" := rfl
  rw [hentries, hempty] at htext
  rw [Except.ok.inj htext]
  exact hbytes

/-- What surrounds the next task. -/
def Surroundings.after (around : Surroundings) (outcome : Outcome) : Surroundings :=
  { around with disk := outcome.disk }

namespace Surroundings

variable {around : Surroundings} {p : Project} {verbose : Bool} {outcome : Outcome}

-- ================================================================= one scan

/-- A scan that found nothing leaves the disk alone. -/
theorem disk_of_scan_nil (hnone : around.endpoints p = [])
    (h : around.scan p verbose = .ok outcome) : outcome.disk = around.disk := by
  unfold scan at h
  rw [hnone] at h
  rw [← Except.ok.inj h]

/-- A scan that found endpoints wrote their entries. -/
theorem write_of_scan (hsome : around.endpoints p ≠ []) (h : around.scan p verbose = .ok outcome) :
    Document.write around.disk p.endpointsFile
      (Endpoint.entries (some p.root) (around.endpoints p)) = .ok outcome.disk := by
  have hfull : (around.endpoints p).isEmpty = false := by simpa using hsome
  unfold scan at h
  simp only [hfull, Bool.false_eq_true, if_false] at h
  obtain ⟨disk, hdisk, h⟩ := bind_eq_ok.1 h
  rw [← Except.ok.inj h]
  exact mapError_eq_ok.1 hdisk

/-- A scan with the same endpoints that leaves the same disk has the same outcome. -/
theorem scan_congr {other : Surroundings} (hsome : around.endpoints p ≠ [])
    (hsame : other.endpoints p = around.endpoints p)
    (hwrite : Document.write other.disk p.endpointsFile
      (Endpoint.entries (some p.root) (around.endpoints p)) = .ok outcome.disk)
    (h : around.scan p verbose = .ok outcome) : other.scan p verbose = .ok outcome := by
  have hfull : (around.endpoints p).isEmpty = false := by simpa using hsome
  unfold scan at h ⊢
  simp only [hsame, hfull, Bool.false_eq_true, if_false, hwrite] at h ⊢
  obtain ⟨disk, hdisk, h⟩ := bind_eq_ok.1 h
  rw [← Except.ok.inj h]
  rfl

/-- Entries that were written are shown. -/
theorem shows_of_write {endpoints : List Endpoint} {disk written : Disk}
    (h : Document.write disk p.endpointsFile (Endpoint.entries (some p.root) endpoints)
      = .ok written) : p.Shows written endpoints := by
  obtain ⟨t, bytes, location, made, htext, hbytes, hopen, rfl⟩ := Document.of_writeText h
  intro location' bytes' hlocate hfile
  obtain ⟨hunused, -⟩ := Disk.free_of_openFile hopen
  have hplace := Disk.locate_put hunused (Disk.grows_of_openFile hopen).2 bytes
  rw [hplace] at hlocate
  obtain rfl := Except.ok.inj hlocate
  rw [Disk.file?_put_self] at hfile
  exact ⟨t, htext, hbytes.trans hfile⟩

/-- After a scan the file shows what was found, unless nothing was found and the file
showed something before. -/
theorem shows_iff (h : around.scan p verbose = .ok outcome) :
    p.Shows outcome.disk (around.endpoints p)
      ↔ around.endpoints p ≠ [] ∨ p.Shows around.disk [] := by
  by_cases hnone : around.endpoints p = []
  · rw [disk_of_scan_nil hnone h, hnone]
    simp
  · exact iff_of_true (shows_of_write (write_of_scan hnone h)) (.inl hnone)

-- ================================================================ a second one

/-- Where something was found, there is a directory with a file below it. -/
theorem exists_source (tree : around.disk.IsTree) (hsome : around.endpoints p ≠ []) :
    ∃ directory, around.disk.locate p.root = .ok directory
      ∧ around.disk.isDirectoryAt directory = true ∧ ∀ name ∈ directory, FileName.IsName name := by
  obtain ⟨e, he⟩ := List.exists_mem_of_ne_nil _ hsome
  obtain ⟨path, hpath, -⟩ := List.mem_flatMap.1 ((Endpoint.newIn_sublist ..).subset he)
  obtain ⟨directory, above, name, hroot, -, hfile, -, -⟩ := (Workspace.mem_sourceFiles tree).1 hpath
  refine ⟨directory, hroot, ?_, fun name hname => ?_⟩
  · exact Disk.isDirectoryAt_of_prefix hfile (List.prefix_append ..) (by simp)
  · exact tree.named _ (Disk.file?_isSome_iff.1 hfile) name (List.mem_append_left _ hname)

/-- What a scan writes is not scanned. -/
theorem endpoints_after_scan (tree : around.disk.IsTree) (proper : p.root.IsProper)
    (h : around.scan p verbose = .ok outcome) :
    (around.after outcome).endpoints p = around.endpoints p := by
  by_cases hnone : around.endpoints p = []
  · unfold after
    rw [disk_of_scan_nil hnone h]
  · obtain ⟨directory, hroot, hdirectory, hnames⟩ := exists_source tree hnone
    obtain ⟨t, bytes, location, made, -, -, hopen, hdisk⟩ :=
      Document.of_writeText (write_of_scan hnone h)
    have habove : FileName.IsName ".mockgen" := by decide
    have hname : FileName.IsName "endpoints.json" := by decide
    have hhidden : (".mockgen" : Text) ∈ Workspace.excludedDirectories := by decide
    change around.disk.openFile ((p.root.child ".mockgen").child "endpoints.json") = _ at hopen
    show Workspace.endpoints outcome.disk p.root _ = Workspace.endpoints around.disk p.root _
    rw [hdisk]
    exact Workspace.endpoints_of_differsWithin tree
      (Disk.isTree_of_openFile habove hname hroot hdirectory hopen tree hnames bytes)
      (Disk.differsWithin_of_openFile habove hname hroot hdirectory hopen bytes) hhidden proper hroot
      (Disk.locate_put_of_openFile hopen bytes hroot) _

/-- A second scan has the outcome of the first, and so leaves the file as it is. -/
theorem scan_again (tree : around.disk.IsTree) (proper : p.root.IsProper)
    (h : around.scan p verbose = .ok outcome) :
    (around.after outcome).scan p verbose = .ok outcome := by
  have hsame := endpoints_after_scan tree proper h
  by_cases hnone : around.endpoints p = []
  · unfold after
    rw [disk_of_scan_nil hnone h]
    exact h
  · exact scan_congr hnone hsame (Document.writeText_again (write_of_scan hnone h)) h

-- ==================================================================== the task

/-- A scan stays in its working directory. -/
theorem workingDirectory_of_scan (h : around.scan p verbose = .ok outcome) :
    outcome.disk.workingDirectory = around.disk.workingDirectory := by
  by_cases hnone : around.endpoints p = []
  · rw [disk_of_scan_nil hnone h]
  · obtain ⟨t, bytes, location, made, -, -, hopen, hdisk⟩ :=
      Document.of_writeText (write_of_scan hnone h)
    obtain ⟨⟨more, rfl⟩, -⟩ := Disk.grows_of_openFile hopen
    rw [hdisk, (Disk.directories_put _ _ bytes).1]

/-- The root of a project is a proper place if the working directory is. -/
theorem isProper_of_project {root : Text} (proper : around.disk.workingDirectory.IsProper)
    (h : around.project root = .ok p) : p.root.IsProper := by
  have hroot := FilePath.isProper_resolvedFrom proper (FilePath.isProper_ofText root)
  unfold project at h
  split at h
  · rw [← Except.ok.inj h]
    exact hroot
  · rw [← Except.ok.inj h]
    exact hroot
  · cases h

/-- Running an invocation to scan is scanning the project of its root. -/
theorem run_eq_ok_iff [JsonReader] {i : Invocation} {root : Text}
    (htask : i.task = .scan root verbose) :
    around.run i = .ok outcome ↔ i.hasNumbers = true
      ∧ ∃ p, around.project root = .ok p ∧ around.scan p verbose = .ok outcome := by
  have hroot : i.task.root = root := by rw [htask]; rfl
  unfold run
  rw [hroot]
  cases around.project root with
  | error cause =>
    refine iff_of_false nofun ?_
    rintro ⟨-, p, hp, -⟩
    cases hp
  | ok p =>
    change (if (!i.hasNumbers) = true then throw TaskError.noNumber else _) = _ ↔ _
    rw [htask]
    cases i.hasNumbers with
    | false =>
      refine iff_of_false nofun ?_
      rintro ⟨hfalse, -⟩
      cases hfalse
    | true =>
      refine ⟨fun h => ⟨rfl, p, rfl, h⟩, ?_⟩
      rintro ⟨-, p', hp', h⟩
      obtain rfl := Except.ok.inj hp'
      exact h

/-- The file of endpoints after a scan, if there is one, shows what this scan has found,
if and only if it has found something or an earlier scan has left nothing in the file;
and a scan of what it leaves finds the same endpoints and has the same outcome, the file
included. -/
theorem run_scan_shows_iff [JsonReader] (tree : around.disk.IsTree)
    (proper : around.disk.workingDirectory.IsProper) {i : Invocation} {root : Text}
    (htask : i.task = .scan root verbose) (h : around.run i = .ok outcome) :
    ∃ p, around.project root = .ok p
      ∧ (p.Shows outcome.disk (around.endpoints p)
        ↔ around.endpoints p ≠ [] ∨ p.Shows around.disk [])
      ∧ (around.after outcome).endpoints p = around.endpoints p
      ∧ (around.after outcome).run i = .ok outcome := by
  obtain ⟨hnumbers, p, hp, hscan⟩ := (run_eq_ok_iff htask).1 h
  have hproper := isProper_of_project proper hp
  have hproject : (around.after outcome).project root = .ok p := by
    rw [← hp]
    unfold project after
    rw [workingDirectory_of_scan hscan]
  refine ⟨p, hp, shows_iff hscan, endpoints_after_scan tree hproper hscan, ?_⟩
  exact (run_eq_ok_iff htask).2 ⟨hnumbers, p, hproject, scan_again tree hproper hscan⟩

-- ================================================================ stale entries

/-- A directory with one source, which calls once. -/
def callingSurroundings : Surroundings where
  disk := { workingDirectory := "/w", files := [(["w", "a.js"], "fetch('/a');".toUTF8.toList)] }
  now := ⟨2024, 1, 15, 10, 30, 0⟩
  chance := ⟨[]⟩

/-- A scan of the working directory. -/
def scanHere : Invocation := ⟨.scan "." false, .warnings, true⟩

/-- The project of the directory. -/
def workProject : Project := ⟨⟨.root, ["w"]⟩⟩

/-- A project is found from the working directory alone. -/
theorem project_eq_work
    (h : around.disk.workingDirectory = callingSurroundings.disk.workingDirectory) :
    around.project "." = .ok workProject := by
  have hwork : (callingSurroundings.project ".").toOption.map (·.root) = some workProject.root := by
    decide
  obtain ⟨p, hp, hroot⟩ := Option.map_eq_some_iff.1 hwork
  obtain ⟨root⟩ := p
  unfold project at hp ⊢
  rw [h, toOption_eq_some.1 hp]
  exact congrArg (fun root => Except.ok (Project.mk root)) hroot

/-- The source without its call, beside what the first scan has left. -/
def withoutCall (first : Outcome) : Surroundings :=
  { callingSurroundings with disk := first.disk.put ["w", "a.js"] "// gone".toUTF8.toList }

/-- What is found with the call and without it, and that the bytes which the first scan
has left are not those of a document without entries. -/
theorem scans_evaluated :
    callingSurroundings.endpoints workProject ≠ []
      ∧ ((callingSurroundings.run scanHere).toOption.map fun first =>
        (((withoutCall first).run scanHere).isOk, (withoutCall first).endpoints workProject,
          (((withoutCall first).disk.locate workProject.endpointsFile).toOption.bind
            (withoutCall first).disk.file?).any (Utf8.encode? "[]\n" ≠ some ·)))
        = some (true, [], true) := by
  decide +kernel

/-- The call is found and shown, and shown again by a second scan. -/
theorem run_scan_shows_iff_call :
    callingSurroundings.disk.IsTree ∧ callingSurroundings.disk.workingDirectory.IsProper
      ∧ ∃ outcome, callingSurroundings.run scanHere = .ok outcome
        ∧ workProject.Shows outcome.disk (callingSurroundings.endpoints workProject)
        ∧ (callingSurroundings.after outcome).run scanHere = .ok outcome := by
  have tree : callingSurroundings.disk.IsTree := by decide
  have proper : callingSurroundings.disk.workingDirectory.IsProper := FilePath.isProper_ofText "/w"
  obtain ⟨hfound, hscans⟩ := scans_evaluated
  obtain ⟨outcome, houtcome, -⟩ := Option.map_eq_some_iff.1 hscans
  have hrun := toOption_eq_some.1 houtcome
  obtain ⟨p, hp, hshows, -, hagain⟩ := run_scan_shows_iff tree proper rfl hrun
  rw [project_eq_work rfl] at hp
  obtain rfl := Except.ok.inj hp
  exact ⟨tree, proper, outcome, hrun, hshows.2 (.inl hfound), hagain⟩

/-- The call is gone when the directory is scanned again, and its entry is not. -/
theorem stale_entries_stay :
    ∃ first second, callingSurroundings.run scanHere = .ok first
      ∧ (withoutCall first).run scanHere = .ok second
      ∧ (withoutCall first).project "." = .ok workProject
      ∧ (withoutCall first).endpoints workProject = []
      ∧ ¬workProject.Shows second.disk [] := by
  obtain ⟨first, houtcome, hparts⟩ := Option.map_eq_some_iff.1 scans_evaluated.2
  have hfirst := toOption_eq_some.1 houtcome
  simp only [Prod.mk.injEq] at hparts
  obtain ⟨hok, hnone, hthere⟩ := hparts
  obtain ⟨second, hsecond⟩ := exists_of_isOk hok
  have hproject : (withoutCall first).project "." = .ok workProject := by
    obtain ⟨-, p, -, hscan⟩ := (run_eq_ok_iff rfl).1 hfirst
    apply project_eq_work
    rw [← workingDirectory_of_scan hscan]
    exact (Disk.directories_put ..).1
  refine ⟨first, second, hfirst, hsecond, hproject, hnone, fun hshows => ?_⟩
  obtain ⟨-, p, hp, hscan⟩ := (run_eq_ok_iff rfl).1 hsecond
  rw [hproject] at hp
  obtain rfl := Except.ok.inj hp
  rw [disk_of_scan_nil hnone hscan] at hshows
  -- the bytes there would have to be those of a document without entries
  obtain ⟨bytes, hbytes, hne⟩ := (Option.any_eq_true ..).1 hthere
  obtain ⟨location, hlocate, hfile⟩ := Option.bind_eq_some_iff.1 hbytes
  exact of_decide_eq_true hne (hshows.encode_eq (toOption_eq_some.1 hlocate) hfile)

end Surroundings

end MockApi
