/-
Lenient loading. Reloading the bundle and loading the configuration end in a
result for every content of their files whose reader decides, and for no other
(`loading_isLenient`): what is wrong with a file is reported, and the routes
stay as they are or the default configuration is used. A disk that refuses, a
byte that is no text and a document of the wrong shape are all of that kind.
The two contents that are not are those of `Json.IsDecided`, and a file of 4301
digits is one of them (`loading_of_manyDigits`).

Loading a configuration is the only one of the two that writes, and it does so
only where nothing is. With a root that steps back by ".." through a directory
that is still to be made, something may be there after all; so that files are
kept is said of roots without such a step, and of projects that have a bundle,
for whose configuration no directory has to be made.
-/
import MockApi.Config
import MockApi.Proofs.Document
import MockApi.Proofs.Server.Reload

namespace MockApi

variable {disk made : Disk} {path : FilePath} {project : Project}

namespace Project

/-- A project whose files a system can be asked about. -/
structure IsNamed (project : Project) : Prop where
  bundle : project.bundleFile.IsNamed
  config : project.configFile.IsNamed

/-- The path of the configuration steps back only where the root does. -/
theorem parts_configFile (project : Project) :
    project.configFile.parts = project.root.parts ++ ([".mockgen", "config.json"] : List Text) := by
  have hdirectory : FilePath.ofText ".mockgen" = ⟨.relative, [".mockgen"]⟩ := by decide
  have hfile : FilePath.ofText "config.json" = ⟨.relative, ["config.json"]⟩ := by decide
  unfold configFile directory FilePath.child
  rw [hdirectory, hfile]
  change (project.root.parts ++ [(".mockgen" : Text)]) ++ [("config.json" : Text)] = _
  rw [List.append_assoc]
  rfl

/-- The bundle and the configuration are in one directory. -/
theorem bundleFile_eq (project : Project) :
    project.bundleFile = { project.configFile.parent with
      parts := project.configFile.parent.parts ++ ([("mock.json" : Text)]) } := by
  have hbundle : FilePath.ofText "mock.json" = ⟨.relative, ["mock.json"]⟩ := by decide
  have hfile : FilePath.ofText "config.json" = ⟨.relative, ["config.json"]⟩ := by decide
  have hparent : project.configFile.parent = project.directory := by
    unfold configFile FilePath.child FilePath.parent
    rw [hfile]
    change { project.directory with
      parts := (project.directory.parts ++ [("config.json" : Text)]).dropLast } = _
    rw [List.dropLast_concat]
  rw [hparent]
  unfold bundleFile FilePath.child
  rw [hbundle]
  rfl

end Project

namespace Config

/-- The default configuration can be written and encoded. -/
theorem encode_default :
    ∃ t bytes, Document.text (toJson {}) = .ok t ∧ Utf8.encode? t = some bytes := by
  have h : ((Document.text (toJson {})).toOption.bind Utf8.encode?).isSome = true := by
    decide
  obtain ⟨bytes, hbytes⟩ := Option.isSome_iff_exists.1 h
  obtain ⟨t, ht, hencode⟩ := Option.bind_eq_some_iff.1 hbytes
  cases htext : Document.text (toJson {}) with
  | error cause =>
    rw [htext] at ht
    cases ht
  | ok t' =>
    rw [htext] at ht
    obtain rfl : t' = t := Option.some.inj ht
    exact ⟨_, bytes, rfl, hencode⟩

variable {config : Config} {log : Log}

/-- Where there is no configuration the default one is written, or the disk
says why not. -/
theorem load_of_absent [JsonReader] (plain : project.configFile.IsPlain)
    (absent : disk.holds project.configFile = .ok false) :
    ∃ bytes log, load disk project = match disk.openFile project.configFile with
      | .ok (location, made) => .ok ({}, [], made.put location bytes)
      | .error _ => .ok ({}, log, disk) := by
  obtain ⟨t, bytes, htext, hbytes⟩ := encode_default
  unfold load
  simp only [absent, Document.write, htext, Document.writeText_eq hbytes]
  cases hopen : disk.openFile project.configFile with
  | ok opened => exact ⟨bytes, [], rfl⟩
  | error cause =>
    have hcause := Disk.isNoPath_of_openFile plain hopen
    simp only [hcause]
    exact ⟨bytes, _, rfl⟩

/-- A configuration that is there is the one that is read, and a flaw in it is reported. -/
theorem load_of_present [JsonReader] (present : disk.holds project.configFile = .ok true) :
    load disk project = match read disk project.configFile with
      | .ok config => .ok (config, [], disk)
      | .error (.flawed flaw) =>
        .ok ({}, [.warning (flaw.message ++ "; using default config")], disk)
      | .error e => .error e := by
  cases hread : read disk project.configFile with
  | ok config => simp [load, present, hread]
  | error e => cases e <;> simp [load, present, hread]

/-- Only flaws keep a configuration from being read if and only if the reader
of its document decides. -/
theorem read_isFlawed_iff [JsonReader] :
    (∀ e, read disk path = .error e → ∃ flaw, e = .flawed flaw)
      ↔ Document.IsDecided disk path := by
  rw [Document.isDecided_iff]
  -- behind a document that was read, the configuration adds flaws only
  unfold read
  constructor
  · intro h e he
    cases e with
    | flawed flaw => exact ⟨flaw, rfl⟩
    | numeral cause =>
      obtain ⟨flaw, hflaw⟩ := h (.numeral cause) (by rw [he])
      cases hflaw
    | tooDeep =>
      obtain ⟨flaw, hflaw⟩ := h .tooDeep (by rw [he])
      cases hflaw
  · intro h e he
    split at he
    · next document hread =>
      cases hconfig : ofJson document with
      | ok config =>
        rw [hconfig] at he
        cases he
      | error flaw =>
        rw [hconfig] at he
        exact ⟨flaw, (Except.error.inj he).symm⟩
    · exact ⟨_, (Except.error.inj he).symm⟩
    · next hread =>
      obtain ⟨flaw, hflaw⟩ := h _ hread
      cases hflaw
    · next hread =>
      obtain ⟨flaw, hflaw⟩ := h _ hread
      cases hflaw

/-- A configuration is loaded if and only if the reader of its document
decides. -/
theorem load_isOk_iff [JsonReader] (named : project.configFile.IsNamed) :
    (∃ loaded, load disk project = .ok loaded)
      ↔ Document.IsDecided disk project.configFile := by
  obtain ⟨present, hpresent⟩ : ∃ present, disk.holds project.configFile = .ok present :=
    Disk.leadsTo_isOk named _
  -- a file that is not there is decided, and written with the default
  cases present with
  | false =>
    obtain ⟨bytes, log, hload⟩ := load_of_absent named.plain hpresent
    constructor
    · intro _ t htext
      obtain ⟨bytes, hread⟩ := Document.read_of_readText_isOk htext
      rw [Disk.holds_of_read hread] at hpresent
      cases hpresent
    · intro _
      rw [hload]
      split
      · exact ⟨_, rfl⟩
      · exact ⟨_, rfl⟩
  | true =>
    -- a file that is there is loaded if its reading fails for flaws at most
    rw [load_of_present hpresent, ← read_isFlawed_iff]
    constructor
    · rintro ⟨loaded, hloaded⟩ e he
      rw [he] at hloaded
      cases e with
      | flawed flaw => exact ⟨flaw, rfl⟩
      | numeral cause => cases hloaded
      | tooDeep => cases hloaded
      | unreachable cause => cases hloaded
      | unwritable cause => cases hloaded
    · intro h
      cases hread : read disk project.configFile with
      | ok config => exact ⟨_, rfl⟩
      | error e =>
        obtain ⟨flaw, rfl⟩ := h e hread
        exact ⟨_, rfl⟩

/-- A configuration of too many ones stops the loading. -/
theorem load_of_ones [JsonReader] {n : Nat} (hlength : digitLimit < n)
    (h : disk.read project.configFile = .ok (List.replicate n 0x31)) :
    load disk project = .error (.numeral (.tooManyDigits n)) := by
  have hread : read disk project.configFile = .error (.numeral (.tooManyDigits n)) := by
    unfold read
    rw [Document.read_of_ones hlength h]
  rw [load_of_present (Disk.holds_of_read h), hread]

-- ============================================================ what is kept

/-- The loading of a configuration that is there leaves the disk as it is. -/
theorem eq_of_load_of_present [JsonReader] (present : disk.holds project.configFile = .ok true)
    (h : load disk project = .ok (config, log, made)) : made = disk := by
  rw [load_of_present present] at h
  split at h
  · exact (Prod.mk.inj (Prod.mk.inj (Except.ok.inj h)).2).2.symm
  · exact (Prod.mk.inj (Prod.mk.inj (Except.ok.inj h)).2).2.symm
  · cases h

/-- Where there is a bundle, no directory is made for the configuration. -/
theorem eq_of_openFile {location : Location} (bundle : disk.isFile project.bundleFile = .ok true)
    (h : disk.openFile project.configFile = .ok (location, made)) : made = disk := by
  obtain ⟨file, hfile⟩ : ∃ file, disk.locate project.bundleFile = .ok file := by
    unfold Disk.isFile Disk.leadsTo at bundle
    split at bundle
    · next file hfile => exact ⟨file, hfile⟩
    · cases bundle
    · cases bundle
  obtain ⟨_, -, hsteps⟩ := bind_eq_ok.1 hfile
  rw [project.bundleFile_eq] at hsteps
  obtain ⟨directory, hdirectory, hthere⟩ := Disk.steps_of_append hsteps
  obtain ⟨above, habove, hopen⟩ := bind_eq_ok.1 h
  obtain ⟨found, hfound, -⟩ := bind_eq_ok.1 hopen
  rw [Disk.openFile_of_ok habove hfound] at h
  split at h
  · cases h
  · split at h
    · cases h
    · rw [← (Prod.mk.inj (Except.ok.inj h)).2]
      exact Disk.eq_of_ensureDirectory hdirectory hthere habove

/-- The file of the configuration lies below the project wherever the project
does not climb. -/
theorem parts_forward (h : ∀ part ∈ project.root.parts, part ≠ "..") :
    ∀ part ∈ project.configFile.parts, part ≠ ".." := by
  intro part hpart
  rw [project.parts_configFile, List.mem_append] at hpart
  rcases hpart with hroot | hown
  · exact h part hroot
  · have hnames : ∀ name ∈ ([".mockgen", "config.json"] : List Text), name ≠ ".." := by decide
    exact hnames part hown

/-- Loading a configuration leaves every file that is there: it writes only
where nothing is. -/
theorem file?_of_load [JsonReader] (named : project.configFile.IsNamed)
    (safe : (∀ part ∈ project.root.parts, part ≠ "..") ∨ disk.isFile project.bundleFile = .ok true)
    (h : load disk project = .ok (config, log, made)) {location : Location}
    (hfile : (disk.file? location).isSome = true) : made.file? location = disk.file? location := by
  obtain ⟨present, hpresent⟩ : ∃ present, disk.holds project.configFile = .ok present :=
    Disk.leadsTo_isOk named _
  cases present with
  | true => rw [eq_of_load_of_present hpresent h]
  | false =>
    obtain ⟨bytes, report, hload⟩ := load_of_absent named.plain hpresent
    rw [hload] at h
    split at h
    · next found above hopen =>
      rw [← (Prod.mk.inj (Prod.mk.inj (Except.ok.inj h)).2).2]
      refine Disk.file?_of_openFile hpresent hopen (fun hlocate => ?_) hfile
      rcases safe with hforward | hbundle
      · exact Disk.locate_of_made (Disk.of_openFile hopen).1 (parts_forward hforward) hlocate hfile
      · rw [eq_of_openFile hbundle hopen] at hlocate
        exact hlocate
    · rw [(Prod.mk.inj (Prod.mk.inj (Except.ok.inj h)).2).2]

end Config

-- ============================================================ both loaders

/-- Reloading a project's bundle and loading its configuration end in results
if and only if their readers decide. A flawed bundle leaves the server as it
was, and a flawed configuration counts as the default one; what is on the disk
stays there. -/
theorem loading_isLenient [JsonReader] (named : project.IsNamed) (s : Server) :
    ((∃ changed, (s.reload disk project).1 = .ok changed)
        ↔ Document.IsDecided disk project.bundleFile)
      ∧ ((∃ loaded, Config.load disk project = .ok loaded)
        ↔ Document.IsDecided disk project.configFile)
      ∧ (∀ t path, Document.readText disk path = .ok t → t.IsModest →
        Document.IsDecided disk path)
      ∧ (∀ flaw, Bundle.load disk project.bundleFile = .error (.flawed flaw) →
        (s.reload disk project).1 = .ok false ∧ (s.reload disk project).2.1 = s)
      ∧ (∀ flaw, disk.holds project.configFile = .ok true →
        Config.read disk project.configFile = .error (.flawed flaw) →
        ∃ log, Config.load disk project = .ok ({}, log, disk))
      ∧ ∀ config log made, Config.load disk project = .ok (config, log, made) →
        (disk.holds project.configFile = .ok true → made = disk)
          ∧ ((∀ part ∈ project.root.parts, part ≠ "..")
              ∨ disk.isFile project.bundleFile = .ok true →
            ∀ location, (disk.file? location).isSome = true →
              made.file? location = disk.file? location) := by
  refine ⟨Server.reload_isOk_iff named.bundle s, Config.load_isOk_iff named.config, ?_, ?_, ?_, ?_⟩
  · intro t path htext hmodest t' htext'
    obtain rfl := Except.ok.inj (htext.symm.trans htext')
    exact Json.isDecided_of_isModest hmodest
  · intro flaw hflawed
    rw [Server.reload_of_flawed hflawed]
    exact ⟨rfl, rfl⟩
  · intro flaw hpresent hread
    rw [Config.load_of_present hpresent, hread]
    exact ⟨_, rfl⟩
  · intro config log made hload
    refine ⟨fun hpresent => Config.eq_of_load_of_present hpresent hload, ?_⟩
    intro hsafe location hfile
    exact Config.file?_of_load named.config hsafe hload hfile

/-- A disk with one content for the bundle and one for the configuration. -/
def Disk.storing (bundle config : Bytes) : Disk :=
  { workingDirectory := ⟨.root, ["work"]⟩
    files := [(["work", ".mockgen", "mock.json"], bundle),
      (["work", ".mockgen", "config.json"], config)] }

/-- Both documents of a project are read back from a disk that stores them. -/
theorem Disk.read_storing (bundle config : Bytes) :
    let project : Project := ⟨FilePath.ofText "."⟩
    (storing bundle config).read project.bundleFile = .ok bundle
      ∧ (storing bundle config).read project.configFile = .ok config :=
  ⟨rfl, rfl⟩

/-- A bundle that ends too early and a configuration that is no object. -/
theorem loading_isLenient_flawed :
    let disk := Disk.storing [0x7b] [0x5b, 0x5d]
    let project : Project := ⟨FilePath.ofText "."⟩
    let s := Server.create {} [] ⟨[]⟩
    project.IsNamed ∧ (s.reload disk project).1 = .ok false
      ∧ Document.IsDecided disk project.bundleFile
      ∧ (∃ loaded, Config.load disk project = .ok loaded)
      ∧ Document.IsDecided disk project.configFile := by
  intro disk project s
  have hnamed : project.IsNamed := ⟨by decide +kernel, by decide +kernel⟩
  have hreload : (s.reload disk project).1 = .ok false := by decide +kernel
  have hload : ∃ loaded, Config.load disk project = .ok loaded := by
    refine ⟨_, rfl⟩
  exact ⟨hnamed, hreload, (loading_isLenient hnamed s).1.1 ⟨false, hreload⟩, hload,
    (loading_isLenient hnamed s).2.1.1 hload⟩

/-- Both loaders fail at a run of 4301 digits. -/
theorem loading_of_manyDigits :
    let disk := Disk.storing (List.replicate 4301 0x31) (List.replicate 4301 0x31)
    let project : Project := ⟨FilePath.ofText "."⟩
    ((Server.create {} [] ⟨[]⟩).reload disk project).1 = .error (.numeral (.tooManyDigits 4301))
      ∧ ¬∃ loaded, Config.load disk project = .ok loaded := by
  obtain ⟨hbundle, hconfig⟩ :=
    Disk.read_storing (List.replicate 4301 0x31) (List.replicate 4301 0x31)
  have hlength : digitLimit < 4301 := by decide
  constructor
  · rw [Server.reload_of_ones hlength hbundle]
  · rw [Config.load_of_ones hlength hconfig]
    rintro ⟨loaded, hload⟩
    cases hload

end MockApi
