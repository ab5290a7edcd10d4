/-
Ports up to the last one. The next port to try is the sum of the first one and the number
of attempts, and nothing keeps it below the last port there is. So where all ports from the
first one to the last are in use and a further attempt is left, a number is tried that is
no port (`PassesLast`): that failure is not one of binding, and its socket stays open.

`closes_iff` says that this is the only way to it. In all other cases an error says that a
port was refused or that all are in use, and no socket is left open behind it.
-/
import MockApi.Proofs.Server.Ports

namespace MockApi

/-- The error of a port that was refused, or of ports that are all in use. -/
def ListenError.IsOfBinding : ListenError → Prop
  | refused .. | allInUse .. => True
  | _ => False

namespace Server

variable {c : ServerConfig} {s : Server} {ports : Int → BindOutcome} {first : Int} {k : Nat}

/-- Every port from the first one to the last is in use, and a number behind the last
may be tried. -/
structure PassesLast (ports : Int → BindOutcome) (first : Int) (count : Nat) : Prop where
  busy : ∀ port, first ≤ port → port ≤ lastPort → (ports port).IsInUse
  beyond : lastPort < first + count - 1

/-- An error of the step is one of binding, and no socket is open behind it. -/
def Closes (step : Step Int) : Prop :=
  ∀ e, step.result = .error e → e.IsOfBinding ∧ ∀ attempt ∈ step.tried, attempt.isOpen = false

/-- No attempt that failed leaves a socket open. -/
theorem isOpen_of_mem_failed {window : List Int} :
    ∀ attempt ∈ window.map Attempt.failed, attempt.isOpen = false := by
  intro attempt hmem
  obtain ⟨port, -, rfl⟩ := List.mem_map.1 hmem
  rfl

-- =============================================================== the last port

/-- A number that is no port ends the attempts, with its socket open. -/
theorem tryPorts_of_noSuchPort (h : ports first = .noSuchPort) (left : Nat) :
    tryPorts c left first ports = (.error .noSuchPort, [⟨first, true⟩]) := by
  rw [tryPorts.eq_def, h]

/-- A number that is no port ends the search, and leaves its socket open. -/
theorem bind_of_noSuchPort (h : IsDeciding ports s.config.port (attempts s.config) k)
    (hnone : ports (s.config.port + k) = .noSuchPort) :
    s.bind ports
      = { result := .error .noSuchPort
          server := s
          tried := (portWindow s.config.port k).map .failed ++ [⟨s.config.port + k, true⟩] } := by
  obtain ⟨left, htry⟩ := tryPorts_of_isDeciding h
  rw [tryPorts_of_noSuchPort hnone] at htry
  unfold bind
  rw [htry]
  rfl

/-- The number behind the last port decides. -/
theorem PassesLast.isDeciding {count : Nat} (h : PassesLast ports first count)
    (hfirst : first ≤ lastPort) (hnone : ports (lastPort + 1) = .noSuchPort) :
    IsDeciding ports first count (lastPort + 1 - first).toNat := by
  have hreach : first + ((lastPort + 1 - first).toNat : Int) = lastPort + 1 := by omega
  have hbeyond := h.beyond
  refine ⟨by omega, fun i hi => h.busy _ (by omega) (by omega), ?_⟩
  rw [hreach, hnone]
  exact id

/-- Where the number that decides is no port, all ports up to the last are in use. -/
theorem IsDeciding.passesLast {count : Nat} (h : IsDeciding ports first count k)
    (hpast : lastPort < first + k) : PassesLast ports first count := by
  have hinside := h.inside
  refine ⟨fun port hfrom hto => ?_, by omega⟩
  have hbusy := h.busy (port - first).toNat (by omega)
  rwa [show first + ((port - first).toNat : Int) = port by omega] at hbusy

/-- Short of the number behind the last port every error is one of binding. -/
theorem closes_of_not_passesLast
    (hports : ∀ port, s.config.port ≤ port → port ≤ lastPort → ports port ≠ .noSuchPort)
    (h : ¬PassesLast ports s.config.port (attempts s.config)) :
    Closes (s.bind ports) := by
  intro e herror
  by_cases hbusy : ∀ k < attempts s.config, (ports (s.config.port + (k : Nat))).IsInUse
  · obtain ⟨hresult, -, htried⟩ := bind_of_allInUse hbusy
    rw [hresult] at herror
    rw [← Except.error.inj herror, htried]
    exact ⟨trivial, isOpen_of_mem_failed⟩
  · obtain ⟨k, hk⟩ := exists_isDeciding hbusy
    have hport : s.config.port + (k : Int) ≤ lastPort := by
      by_contra hpast
      exact h (hk.passesLast (by omega))
    cases houtcome : ports (s.config.port + k) with
    | bound reported =>
      rw [bind_of_bound hk houtcome] at herror
      cases herror
    | noSuchPort => exact absurd houtcome (hports _ (by omega) hport)
    | refused code description =>
      obtain ⟨hresult, -, htried⟩ := bind_of_refused hk houtcome
      rw [hresult] at herror
      rw [← Except.error.inj herror, htried]
      exact ⟨trivial, isOpen_of_mem_failed⟩

/-- A start fails as its binding does. -/
theorem start_of_bind_error [JsonReader] {e : ListenError}
    (idle : s.listening = false) (h : (s.bind ports).result = .error e) (disk : Disk)
    (project : Project) (service : Service) :
    (s.start disk project ports service).result = .error e
      ∧ (s.start disk project ports service).tried = (s.bind ports).tried := by
  unfold start
  rw [idle]
  simp only [h]
  exact ⟨rfl, rfl⟩

/-- What a server leaves behind that could not bind a port, for every port it may begin
with, any number of attempts and whatever ports are in use. Its error is one of binding and
all sockets are closed, unless all ports up to the last are in use and more may be tried.
There the number behind the last port is tried: the error is that there is no such port, the
socket of that attempt alone is open, nothing is reported, and a start of the server fails in
the same way. -/
theorem closes_iff [JsonReader] (s : Server) {ports : Int → BindOutcome}
    (hfirst : 0 ≤ s.config.port) (hlast : s.config.port ≤ lastPort)
    (hports : ∀ port, 0 ≤ port → (ports port = .noSuchPort ↔ lastPort < port)) :
    let first := s.config.port
    let count := (max 1 s.config.portAttempts).toNat
    let step := s.bind ports
    (Closes step ↔ ¬PassesLast ports first count)
      ∧ (PassesLast ports first count →
        step.result = .error .noSuchPort ∧ step.server = s ∧ step.log = []
        ∧ step.tried = (portWindow first (lastPort + 1 - first).toNat).map .failed
          ++ [⟨lastPort + 1, true⟩]
        ∧ (s.listening = false → ∀ disk project service,
          (s.start disk project ports service).result = .error .noSuchPort
            ∧ (s.start disk project ports service).tried = step.tried)) := by
  intro first count step
  -- where the window passes the last port, the number behind it decides
  have hfails : PassesLast ports first count →
      step = { result := .error .noSuchPort
               server := s
               tried := (portWindow first (lastPort + 1 - first).toNat).map .failed
                ++ [⟨lastPort + 1, true⟩] } := by
    intro hpasses
    have hnone : ports (lastPort + 1) = .noSuchPort := (hports _ (by decide)).2 (by decide)
    have hreach : first + ((lastPort + 1 - first).toNat : Int) = lastPort + 1 := by omega
    have hbind := bind_of_noSuchPort (hpasses.isDeciding hlast hnone) (by rwa [hreach])
    rwa [hreach] at hbind
  refine ⟨⟨fun hcloses hpasses => ?_, fun hpasses => ?_⟩, fun hpasses => ?_⟩
  · have hresult : step.result = .error .noSuchPort := by rw [hfails hpasses]
    exact (hcloses _ hresult).1
  -- otherwise no number of the window is beyond the last port
  · refine closes_of_not_passesLast (fun port hfrom hto hnone => ?_) hpasses
    have hpast := (hports port (by omega)).1 hnone
    omega
  · have hstep := hfails hpasses
    have hresult : step.result = .error .noSuchPort := by rw [hstep]
    refine ⟨hresult, ?_, ?_, ?_, fun idle disk project service =>
      start_of_bind_error idle hresult disk project service⟩
    · rw [hstep]
    · rw [hstep]
    · rw [hstep]

/-- The last port in use, and two attempts. -/
theorem closes_iff_two :
    let s := Server.create { port := 65535, portAttempts := 2 } [] ⟨[]⟩
    let ports : Int → BindOutcome := fun port =>
      if port ≤ lastPort then .refused 98 "Address already in use" else .noSuchPort
    let step := s.bind ports
    0 ≤ s.config.port ∧ s.config.port ≤ lastPort
      ∧ (∀ port, 0 ≤ port → (ports port = .noSuchPort ↔ lastPort < port))
      ∧ PassesLast ports 65535 2 ∧ ¬Closes step
      ∧ step.tried = [⟨65535, false⟩, ⟨65536, true⟩] := by
  intro s ports step
  have hports : ∀ port, 0 ≤ port → (ports port = .noSuchPort ↔ lastPort < port) := by
    intro port _
    show (if port ≤ lastPort then _ else _) = _ ↔ _
    split
    · next hle => exact iff_of_false nofun (by omega)
    · next hgt => exact iff_of_true rfl (by omega)
  -- the window has the last port and the number behind it
  have hpasses : PassesLast ports 65535 2 := by
    refine ⟨fun port hfrom hto => ?_, by decide⟩
    obtain rfl : port = 65535 := by unfold lastPort at hto; omega
    show (98 : Int) ∈ inUseCodes
    decide
  obtain ⟨hcloses, hfails⟩ := closes_iff s (by decide) (by decide) hports
  exact ⟨by decide, by decide, hports, hpasses, fun h => hcloses.1 h hpasses,
    (hfails hpasses).2.2.2.1⟩

/-- With the last port in use a second attempt asks for port 65536. That fails, but not as
a failure of binding does, and the socket stays open. -/
theorem last_port_passed :
    let s := Server.create { port := 65535, portAttempts := 2 } [] ⟨[]⟩
    let step := s.bind fun port =>
      if port ≤ lastPort then .refused 98 "Address already in use" else .noSuchPort
    step.result = .error .noSuchPort ∧ ¬ListenError.noSuchPort.IsOfBinding
      ∧ ⟨65536, true⟩ ∈ step.tried := by
  refine ⟨rfl, id, ?_⟩
  exact List.mem_cons_of_mem _ List.mem_cons_self

end Server

end MockApi
