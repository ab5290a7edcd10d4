/-
Starts that fail. `Started` lists the six ways a start can go, each with its
result, the server behind it and what became of the sockets; what a start does
is read off these cases.

A start that fails is undone by the server itself (`IsUndone`), except in one of
the ways: where the port is bound and the bundle file then cannot be read, and
not for a flaw, the server is left listening, with its socket open and no start
to come (`IsLeft`). A flawed bundle is no such case, for it is reported and does
not fail the start. What remains is a document on which its reader does not
decide (`isUndone_iff`), and one of 4301 digits is such a document
(`start_of_manyDigits`).
-/
import MockApi.Proofs.Loading

namespace MockApi.Server

variable {s : Server} {disk : Disk} {project : Project} {ports : Int → BindOutcome}
  {service : Service} {port : Int} {e : ListenError}

-- ============================================================== binding

/-- A search that ends at a port has an open socket. -/
theorem exists_isOpen_of_tryPorts {c : ServerConfig} {left : Nat} {first : Int}
    (h : (tryPorts c left first ports).1 = .ok port) :
    ∃ a ∈ (tryPorts c left first ports).2, a.isOpen = true := by
  fun_induction tryPorts c left first ports with
  | case1 => exact ⟨_, List.mem_cons_self, rfl⟩
  | case2 => cases h
  | case3 => cases h
  | case4 _ _ _ _ _ _ _ _ htry ih =>
    rw [htry] at ih
    obtain ⟨a, hmem, hopen⟩ := ih h
    exact ⟨a, List.mem_cons_of_mem _ hmem, hopen⟩
  | case5 => cases h

/-- Ports are refused neither because the server is listening nor because of
the bundle. -/
theorem ne_of_tryPorts {c : ServerConfig} {left : Nat} {first : Int}
    (h : (tryPorts c left first ports).1 = .error e) :
    (∀ busy, e ≠ .alreadyListening busy) ∧ ∀ cause, e ≠ .bundle cause := by
  fun_induction tryPorts c left first ports with
  | case1 => cases h
  | case2 =>
    rw [← Except.error.inj h]
    exact ⟨nofun, nofun⟩
  | case3 =>
    rw [← Except.error.inj h]
    exact ⟨nofun, nofun⟩
  | case4 _ _ _ _ _ _ _ _ htry ih =>
    rw [htry] at ih
    exact ih h
  | case5 =>
    rw [← Except.error.inj h]
    exact ⟨nofun, nofun⟩

/-- A binding that fails leaves the server as it was. -/
theorem bind_of_error (h : (s.bind ports).result = .error e) :
    (tryPorts s.config (attempts s.config - 1) s.config.port ports).1 = .error e
      ∧ (s.bind ports).server = s := by
  unfold bind at h ⊢
  rcases htry : tryPorts s.config (attempts s.config - 1) s.config.port ports with
    ⟨result, tried⟩
  rw [htry] at h
  cases result with
  | ok port => cases h
  | error cause =>
    obtain rfl : cause = e := Except.error.inj h
    exact ⟨rfl, rfl⟩

/-- A binding that succeeds has an open socket. -/
theorem exists_isOpen_of_bind (h : (s.bind ports).result = .ok port) :
    ∃ a ∈ (s.bind ports).tried, a.isOpen = true := by
  unfold bind at h ⊢
  rcases htry : tryPorts s.config (attempts s.config - 1) s.config.port ports with
    ⟨result, tried⟩
  rw [htry] at h
  cases result with
  | ok bound =>
    have hresult : (tryPorts s.config (attempts s.config - 1) s.config.port ports).1
        = .ok bound := by rw [htry]
    have hopen := exists_isOpen_of_tryPorts hresult
    rw [htry] at hopen
    exact hopen
  | error cause => cases h

-- ============================================================ the bundle

/-- The bundle of a session that was opened is read, or there is none, if and
only if its reader decides. -/
theorem readBundle_isOk_iff [JsonReader] (named : project.bundleFile.IsNamed) (s : Server) :
    (∃ changed, (s.readBundle disk project).1 = .ok changed)
      ↔ Document.IsDecided disk project.bundleFile := by
  obtain ⟨present, hpresent⟩ : ∃ present, disk.isFile project.bundleFile = .ok present :=
    Disk.leadsTo_isOk named _
  unfold readBundle
  rw [hpresent]
  cases present with
  | false => exact iff_of_true ⟨true, rfl⟩ (Document.isDecided_of_isFile hpresent)
  | true => exact s.reload_isOk_iff named

theorem listening_readBundle [JsonReader] (s : Server) (disk : Disk) (project : Project) :
    (s.readBundle disk project).2.1.listening = s.listening := by
  obtain ⟨routes, h⟩ := s.readBundle_server project disk
  rw [h]

-- ============================================================= the start

/-- The ways a start can go, each with its result, the server behind it and the
attempts to bind a port. -/
inductive Started [JsonReader] (s : Server) (disk : Disk) (project : Project)
    (ports : Int → BindOutcome)
    (service : Service) : Except ListenError Int → Server → List Attempt → Prop where
  /-- The server is listening. -/
  | rejected (busy : s.listening = true) :
    Started s disk project ports service (.error (.alreadyListening s.port)) s []
  /-- No port could be bound. -/
  | unbound {e : ListenError} (idle : s.listening = false)
    (refused : (s.bind ports).result = .error e) :
    Started s disk project ports service (.error e) s (s.bind ports).tried
  /-- The bundle could not be read. -/
  | unread {bound : Int} {cause : BundleError} (idle : s.listening = false)
    (bind : (s.bind ports).result = .ok bound)
    (read : ((s.opened ports).readBundle disk project).1 = .error cause) :
    Started s disk project ports service (.error (.bundle cause))
      ((s.opened ports).readBundle disk project).2.1 (s.bind ports).tried
  /-- The server goes on in the background. -/
  | serving {bound : Int} {changed : Bool} (idle : s.listening = false)
    (bind : (s.bind ports).result = .ok bound)
    (read : ((s.opened ports).readBundle disk project).1 = .ok changed)
    (background : service = .background) :
    Started s disk project ports service (.ok bound)
      ((s.opened ports).readBundle disk project).2.1 (s.bind ports).tried
  /-- The server has gone on in the foreground until it was stopped. -/
  | ended {bound : Int} {changed : Bool} (idle : s.listening = false)
    (bind : (s.bind ports).result = .ok bound)
    (read : ((s.opened ports).readBundle disk project).1 = .ok changed)
    (foreground : service = .foreground) :
    Started s disk project ports service (.ok bound)
      ((s.opened ports).readBundle disk project).2.1.shut
      ((s.bind ports).tried.map Attempt.close)
  /-- The server ended before it had started. -/
  | failed {bound : Int} {changed : Bool} (idle : s.listening = false)
    (bind : (s.bind ports).result = .ok bound)
    (read : ((s.opened ports).readBundle disk project).1 = .ok changed)
    (failing : service = .failing) :
    Started s disk project ports service (.error .failedToStart)
      ((s.opened ports).readBundle disk project).2.1.shut
      ((s.bind ports).tried.map Attempt.close)

/-- Every start goes one of the ways that `Started` lists. -/
theorem started [JsonReader] (s : Server) (disk : Disk) (project : Project)
    (ports : Int → BindOutcome) (service : Service) :
    Started s disk project ports service (s.start disk project ports service).result
      (s.start disk project ports service).server
      (s.start disk project ports service).tried := by
  cases hlistening : s.listening with
  | true =>
    unfold start
    rw [if_pos hlistening]
    exact .rejected hlistening
  | false =>
    cases hbind : (s.bind ports).result with
    | error e =>
      have hstart : s.start disk project ports service
          = { s.bind ports with result := .error e } := by
        unfold start
        rw [if_neg (by simp [hlistening])]
        simp only [hbind]
      rw [hstart]
      -- the server that comes of a failed binding is the one before it
      simp only [(bind_of_error hbind).2]
      exact .unbound hlistening hbind
    | ok bound =>
      rw [start_of_bound hlistening hbind]
      cases hread : ((s.opened ports).readBundle disk project).1 with
      | error cause =>
        simp only [hread]
        exact .unread hlistening hbind hread
      | ok changed =>
        simp only [hread]
        -- the routes are read before anything is served, so what serving does comes last
        cases service with
        | background => exact .serving hlistening hbind hread rfl
        | foreground => exact .ended hlistening hbind hread rfl
        | failing => exact .failed hlistening hbind hread rfl

/-- A server that is not listening is not refused for listening. -/
theorem start_ne_alreadyListening [JsonReader] (idle : s.listening = false) (disk : Disk)
    (ports : Int → BindOutcome) (service : Service) (busy : Option Int) :
    (s.start disk project ports service).result ≠ .error (.alreadyListening busy) := by
  have hstarted := s.started disk project ports service
  intro h
  rw [h] at hstarted
  generalize (s.start disk project ports service).server = t,
    (s.start disk project ports service).tried = tried at hstarted
  cases hstarted with
  | rejected hbusy =>
    rw [idle] at hbusy
    cases hbusy
  | unbound _ hrefused =>
    exact (ne_of_tryPorts (bind_of_error hrefused).1).1 busy rfl

-- ======================================================= the failed start

theorem listening_after [JsonReader] (s : Server) (event : Event) :
    (s.after project event).listening = s.listening := by
  obtain ⟨_, _, _, _, _, h⟩ := s.after_server project event
  rw [h]

theorem listening_run [JsonReader] (s : Server) (events : List Event) :
    (s.run project events).listening = s.listening := by
  induction events generalizing s with
  | nil => rfl
  | cons event rest ih => rw [run_cons, ih, listening_after]

/-- What a start leaves where nothing is left of it. -/
structure IsUndone [JsonReader] (s : Server) (project : Project) (ports : Int → BindOutcome)
    (step : Step Int) : Prop where
  stopped : step.server.listening = false
  /-- If a port was bound, no socket is open. -/
  closed : ∀ port, (s.bind ports).result = .ok port → ∀ a ∈ step.tried, a.isOpen = false
  /-- Whatever the server meets then, a later start finds it stopped. -/
  startable : ∀ events disk ports service busy,
    ((step.server.run project events).start disk project ports service).result
      ≠ .error (.alreadyListening busy)

/-- What a start leaves where it has opened a session and not ended it. -/
structure IsLeft [JsonReader] (project : Project) (step : Step Int) : Prop where
  listening : step.server.listening = true
  isOpen : ∃ a ∈ step.tried, a.isOpen = true
  rejected : ∀ disk ports service,
    (step.server.start disk project ports service).result
      = .error (.alreadyListening step.server.port)

/-- A start that ends with the server listening, and its socket open, is left
as it stands. -/
theorem isLeft_of_listening [JsonReader] {step : Step Int}
    (listening : step.server.listening = true)
    (isOpen : ∃ a ∈ step.tried, a.isOpen = true) : IsLeft project step := by
  refine ⟨listening, isOpen, fun disk ports service => ?_⟩
  unfold start
  rw [if_pos listening]

/-- A start that ends with the server stopped, and no socket open, is undone. -/
theorem isUndone_of_stopped [JsonReader] {step : Step Int} (stopped : step.server.listening = false)
    (closed : ∀ port, (s.bind ports).result = .ok port → ∀ a ∈ step.tried, a.isOpen = false) :
    s.IsUndone project ports step := by
  refine ⟨stopped, closed, fun events disk ports service busy => ?_⟩
  refine start_ne_alreadyListening ?_ disk ports service busy
  rw [listening_run, stopped]

/-- A start of a stopped server that fails is undone unless a port is bound and
the reader of the bundle's document does not decide. No other bundle makes a
start fail, and where this one does nothing is undone. -/
theorem isUndone_iff [JsonReader] (named : project.bundleFile.IsNamed) (idle : s.listening = false)
    (failed : (s.start disk project ports service).result = .error e) :
    (s.IsUndone project ports (s.start disk project ports service)
        ↔ ((∃ port, (s.bind ports).result = .ok port) →
          Document.IsDecided disk project.bundleFile))
      ∧ ((∃ cause, e = .bundle cause)
        ↔ (∃ port, (s.bind ports).result = .ok port)
          ∧ ¬Document.IsDecided disk project.bundleFile)
      ∧ ((∃ cause, e = .bundle cause) →
        IsLeft project (s.start disk project ports service)) := by
  have hstarted := s.started disk project ports service
  rw [failed] at hstarted
  generalize hstep : s.start disk project ports service = step at hstarted ⊢
  obtain ⟨result, t, log, printed, tried⟩ := step
  simp only at hstarted
  cases hstarted with
  | rejected hbusy =>
    rw [idle] at hbusy
    cases hbusy
  | unbound _ hrefused =>
    have hunbound : ¬∃ port, (s.bind ports).result = .ok port := by
      rintro ⟨port, hport⟩
      rw [hport] at hrefused
      cases hrefused
    have hcause : ¬∃ cause, e = .bundle cause := by
      rintro ⟨cause, hcause⟩
      exact (ne_of_tryPorts (bind_of_error hrefused).1).2 cause hcause
    refine ⟨iff_of_true ?_ fun h => absurd h hunbound, iff_of_false hcause fun h => hunbound h.1,
      fun h => absurd h hcause⟩
    exact isUndone_of_stopped idle fun port hport => absurd ⟨port, hport⟩ hunbound
  | @unread bound cause _ hbind hread =>
    have hundecided : ¬Document.IsDecided disk project.bundleFile := by
      rw [← readBundle_isOk_iff named (s.opened ports), hread]
      rintro ⟨changed, h⟩
      cases h
    -- the session was opened, and nobody has ended it
    have hlistening : ((s.opened ports).readBundle disk project).2.1.listening = true :=
      listening_readBundle (s.opened ports) disk project
    refine ⟨iff_of_false (fun h => ?_) fun h => hundecided (h ⟨bound, hbind⟩),
      iff_of_true ⟨cause, rfl⟩ ⟨⟨bound, hbind⟩, hundecided⟩, fun _ => ?_⟩
    · exact absurd (hlistening.symm.trans h.stopped) (by decide)
    · exact isLeft_of_listening hlistening (exists_isOpen_of_bind hbind)
  | @failed bound changed _ hbind hread hfailing =>
    have hdecided := (readBundle_isOk_iff named (s.opened ports)).1 ⟨changed, hread⟩
    have hcause : ¬∃ cause, ListenError.failedToStart = .bundle cause := by
      rintro ⟨cause, hcause⟩
      cases hcause
    refine ⟨iff_of_true ?_ fun _ => hdecided, iff_of_false hcause fun h => h.2 hdecided,
      fun h => absurd h hcause⟩
    refine isUndone_of_stopped rfl fun port _ a ha => ?_
    obtain ⟨attempt, -, rfl⟩ := List.mem_map.1 ha
    rfl

/-- A server that ends before it has started, with a bundle that ends too
early. -/
theorem isUndone_iff_flawed :
    let disk := Disk.storing [0x7b] []
    let project : Project := ⟨FilePath.ofText "."⟩
    let s := Server.create {} [] ⟨[]⟩
    project.bundleFile.IsNamed ∧ s.listening = false
      ∧ (s.start disk project .bound .failing).result = .error .failedToStart
      ∧ s.IsUndone project .bound (s.start disk project .bound .failing) := by
  intro disk project s
  have hnamed : project.bundleFile.IsNamed := by decide +kernel
  have hfailed : (s.start disk project .bound .failing).result = .error .failedToStart := by
    decide +kernel
  have hdecided : Document.IsDecided disk project.bundleFile :=
    (s.reload_isOk_iff hnamed).1 ⟨false, by decide +kernel⟩
  exact ⟨hnamed, rfl, hfailed, (isUndone_iff hnamed rfl hfailed).1.2 fun _ => hdecided⟩

-- ========================================================= too many digits

/-- A bundle of too many ones stops a start that has bound its port. -/
theorem start_of_ones [JsonReader] {n : Nat} (hlength : digitLimit < n)
    (h : disk.read project.bundleFile = .ok (List.replicate n 0x31)) (idle : s.listening = false)
    (bound : (s.bind ports).result = .ok port) (service : Service) :
    s.start disk project ports service =
      { result := .error (.bundle (.numeral (.tooManyDigits n))), server := s.opened ports
        log := (s.bind ports).log, tried := (s.bind ports).tried } := by
  have hread : (s.opened ports).readBundle disk project
      = (.error (.numeral (.tooManyDigits n)), s.opened ports, []) := by
    unfold readBundle
    rw [Disk.isFile_of_read h]
    exact reload_of_ones hlength h _
  rw [start_of_bound idle bound, hread]
  simp only [List.append_nil]

/-- Where the bundle is a run of 4301 digits, a start fails and leaves the
server listening with its socket open, so that it cannot be started again. -/
theorem start_of_manyDigits :
    let disk := Disk.storing (List.replicate 4301 0x31) []
    let project : Project := ⟨FilePath.ofText "."⟩
    let step := (Server.create {} [] ⟨[]⟩).start disk project .bound .background
    step.result = .error (.bundle (.numeral (.tooManyDigits 4301)))
      ∧ step.server.listening = true ∧ step.tried = [⟨3000, true⟩]
      ∧ (step.server.start (Disk.empty ⟨.root, []⟩) project .bound .background).result
        = .error (.alreadyListening (some 3000)) := by
  have hlength : digitLimit < 4301 := by decide
  have hread := (Disk.read_storing (List.replicate 4301 0x31) []).1
  have hbound : ((Server.create {} [] ⟨[]⟩).bind .bound).result = .ok 3000 := rfl
  intro disk project step
  have hstep : step = _ := start_of_ones hlength hread rfl hbound .background
  rw [hstep]
  exact ⟨rfl, rfl, rfl, rfl⟩

end MockApi.Server
