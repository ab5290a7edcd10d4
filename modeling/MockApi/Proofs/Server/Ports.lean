/-
Binding a port. Ports are tried upward while they are in use, so one port decides:
the first that is not in use, if there is one among those that may be tried. No port
behind it is tried, and every attempt in front of it has its socket closed again
(`tryPorts_behind`). A free port is bound, any other refusal ends the attempts, and
only where all ports are in use is that the reason (`bind_upward`).

A port that is bound has the number that its socket reports, which is another one than
was asked for only where that is 0. Numbers past the last port's are no ports, and nothing
is said here of attempts that would reach them.
-/
import MockApi.Proofs.Server.Start

namespace MockApi

-- =================================================================== windows

/-- So many port numbers from a first one upward. -/
def portWindow (first : Int) : Nat → List Int
  | 0 => []
  | count + 1 => first :: portWindow (first + 1) count

/-- The greatest number of a port. -/
def lastPort : Int := 65535

/-- An attempt that failed: its socket is closed. -/
def Attempt.failed (port : Int) : Attempt := ⟨port, false⟩

/-- The port is in use. -/
def BindOutcome.IsInUse : BindOutcome → Prop
  | refused code _ => code ∈ Server.inUseCodes
  | _ => False

instance : DecidablePred BindOutcome.IsInUse
  | .refused code _ => inferInstanceAs (Decidable (code ∈ Server.inUseCodes))
  | .bound _ | .noSuchPort => inferInstanceAs (Decidable False)

namespace Server

variable {c : ServerConfig} {ports : Int → BindOutcome} {first reported : Int} {k : Nat}

-- ============================================================ trying upward

/-- A port in use is passed over if another one may be tried. -/
theorem tryPorts_of_inUse (h : (ports first).IsInUse) (left : Nat) :
    tryPorts c (left + 1) first ports
      = ((tryPorts c left (first + 1) ports).1,
        .failed first :: (tryPorts c left (first + 1) ports).2) := by
  rw [tryPorts]
  cases houtcome : ports first with
  | bound reported =>
    rw [houtcome] at h
    cases h
  | noSuchPort =>
    rw [houtcome] at h
    cases h
  | refused code description =>
    rw [houtcome] at h
    simp only [List.contains_iff_mem.2 h, if_true]
    rfl

/-- Behind ports that are in use the attempts go on with the next one as if it were the
first, and those that failed come before them. The induction is on the ports in use. -/
theorem tryPorts_behind (busy : ∀ i < k, (ports (first + (i : Nat))).IsInUse) (left : Nat) :
    tryPorts c (k + left) first ports
      = ((tryPorts c left (first + k) ports).1,
        (portWindow first k).map .failed ++ (tryPorts c left (first + k) ports).2) := by
  induction k generalizing first with
  | zero =>
    rw [show first + ((0 : Nat) : Int) = first by omega, Nat.zero_add]
    rfl
  | succ k ih =>
    have hfirst : (ports first).IsInUse := by
      have hbusy := busy 0 (by omega)
      rwa [show first + ((0 : Nat) : Int) = first by omega] at hbusy
    have hnext : ∀ i < k, (ports (first + 1 + (i : Nat))).IsInUse := by
      intro i hi
      have hbusy := busy (i + 1) (by omega)
      rwa [show first + ((i + 1 : Nat) : Int) = first + 1 + i by omega] at hbusy
    rw [show k + 1 + left = k + left + 1 by omega,
      show first + ((k + 1 : Nat) : Int) = first + 1 + k by omega, portWindow, List.map_cons,
      tryPorts_of_inUse hfirst, ih hnext]
    rfl

/-- A free port is bound, and no other port is tried. -/
theorem tryPorts_of_bound (h : ports first = .bound reported) (left : Nat) :
    tryPorts c left first ports = (.ok reported, [⟨first, true⟩]) := by
  rw [tryPorts.eq_def, h]

/-- A refusal for another reason than use ends the attempts. -/
theorem tryPorts_of_refused {code : Int} {description : Text}
    (h : ports first = .refused code description) (other : code ∉ inUseCodes) (left : Nat) :
    tryPorts c left first ports
      = (.error (.refused c.host first (BindOutcome.message code description)),
        [.failed first]) := by
  rw [tryPorts.eq_def, h]
  show (if inUseCodes.contains code = true then _ else _) = _
  rw [if_neg fun hcode => other (List.contains_iff_mem.1 hcode)]
  rfl

/-- Where the last port that may be tried is in use, there is none to be had. -/
theorem tryPorts_last (h : (ports first).IsInUse) :
    tryPorts c 0 first ports
      = (.error (.allInUse c.host c.port (attempts c)), [.failed first]) := by
  rw [tryPorts]
  cases houtcome : ports first with
  | bound reported =>
    rw [houtcome] at h
    cases h
  | noSuchPort =>
    rw [houtcome] at h
    cases h
  | refused code description =>
    rw [houtcome] at h
    simp only [List.contains_iff_mem.2 h, if_true]
    rfl

-- ================================================================== deciding

/-- Of so many ports the one that many numbers behind the first is the first that is
not in use. -/
structure IsDeciding (ports : Int → BindOutcome) (first : Int) (count k : Nat) : Prop where
  inside : k < count
  busy : ∀ i < k, (ports (first + (i : Nat))).IsInUse
  idle : ¬(ports (first + (k : Nat))).IsInUse

/-- One port decides unless all are in use. -/
theorem exists_isDeciding {count : Nat} (h : ¬∀ k < count, (ports (first + (k : Nat))).IsInUse) :
    ∃ k, IsDeciding ports first count k := by
  induction count with
  | zero => exact absurd (fun k hk => absurd hk (Nat.not_lt_zero k)) h
  | succ count ih =>
    by_cases hbusy : ∀ k < count, (ports (first + (k : Nat))).IsInUse
    · refine ⟨count, Nat.lt_succ_self count, hbusy, fun hlast => h fun k hk => ?_⟩
      rcases Nat.lt_succ_iff_lt_or_eq.1 hk with hlt | rfl
      · exact hbusy k hlt
      · exact hlast
    · obtain ⟨k, hk⟩ := ih hbusy
      exact ⟨k, by have := hk.inside; omega, hk.busy, hk.idle⟩

variable {s : Server}

theorem attempts_pos (c : ServerConfig) : 0 < attempts c := by
  unfold attempts
  omega

/-- The attempts reach the port that decides, and end there. -/
theorem tryPorts_of_isDeciding (h : IsDeciding ports c.port (attempts c) k) :
    ∃ left, tryPorts c (attempts c - 1) c.port ports
      = ((tryPorts c left (c.port + k) ports).1,
        (portWindow c.port k).map .failed ++ (tryPorts c left (c.port + k) ports).2) := by
  obtain ⟨left, hleft⟩ := Nat.exists_eq_add_of_lt h.inside
  refine ⟨left, ?_⟩
  rw [← tryPorts_behind h.busy left, hleft]
  rfl

/-- A window of one port more has that port behind the others. -/
theorem portWindow_succ (first : Int) (k : Nat) :
    portWindow first (k + 1) = portWindow first k ++ [first + k] := by
  induction k generalizing first with
  | zero =>
    show [first] = [first + ((0 : Nat) : Int)]
    rw [show first + ((0 : Nat) : Int) = first by omega]
  | succ k ih =>
    rw [portWindow, ih, show first + 1 + (k : Int) = first + ((k + 1 : Nat) : Int) by omega]
    rfl

/-- The search ends at a port that is bound, and reports what the socket does. -/
theorem bind_of_bound (h : IsDeciding ports s.config.port (attempts s.config) k)
    (hbound : ports (s.config.port + k) = .bound reported) :
    s.bind ports
      = { result := .ok reported
          server := { s with port := some reported }
          tried := (portWindow s.config.port k).map .failed ++ [⟨s.config.port + k, true⟩] } := by
  obtain ⟨left, htry⟩ := tryPorts_of_isDeciding h
  rw [tryPorts_of_bound hbound] at htry
  unfold bind
  rw [htry]

/-- The search ends at a port that is refused. -/
theorem bind_of_refused (h : IsDeciding ports s.config.port (attempts s.config) k) {code : Int}
    {description : Text} (hrefused : ports (s.config.port + k) = .refused code description) :
    let step := s.bind ports
    step.result = .error (.refused s.config.host (s.config.port + k)
        (BindOutcome.message code description))
      ∧ step.server = s ∧ step.tried = (portWindow s.config.port (k + 1)).map .failed := by
  obtain ⟨left, htry⟩ := tryPorts_of_isDeciding h
  have hother : code ∉ inUseCodes := by
    intro hcode
    apply h.idle
    rw [hrefused]
    exact hcode
  rw [tryPorts_of_refused hrefused hother] at htry
  unfold bind
  rw [htry, portWindow_succ, List.map_append]
  exact ⟨rfl, rfl, rfl⟩

/-- The search fails where all ports are in use. -/
theorem bind_of_allInUse
    (h : ∀ k < attempts s.config, (ports (s.config.port + (k : Nat))).IsInUse) :
    let step := s.bind ports
    step.result = .error (.allInUse s.config.host s.config.port (attempts s.config))
      ∧ step.server = s
      ∧ step.tried = (portWindow s.config.port (attempts s.config)).map .failed := by
  obtain ⟨k, hk⟩ := Nat.exists_eq_add_of_lt (attempts_pos s.config)
  rw [Nat.zero_add] at hk
  have hlast : (ports (s.config.port + (k : Nat))).IsInUse := h k (by omega)
  have hbefore : ∀ i < k, (ports (s.config.port + (i : Nat))).IsInUse :=
    fun i hi => h i (by omega)
  have htry := tryPorts_behind (c := s.config) hbefore 0
  rw [Nat.add_zero, tryPorts_last hlast] at htry
  unfold bind
  rw [hk, Nat.add_sub_cancel, htry, portWindow_succ, List.map_append, hk]
  exact ⟨rfl, rfl, rfl⟩

/-- What comes of binding a port where no number that may be tried is too large for one.
The first port that is not in use decides: if it is free, its socket is bound, and the
number that the socket reports is the result and the server's port; if it is refused for
another reason, that is the error.
All ports are in use if and only if that is the error. No port behind the deciding one is
tried, every socket of an attempt that failed is closed, and a server that could not bind
is as it was. -/
theorem bind_upward (s : Server) {ports : Int → BindOutcome}
    (hports : ∀ port ≤ lastPort, ports port ≠ .noSuchPort)
    (hlast : s.config.port + max 1 s.config.portAttempts - 1 ≤ lastPort) :
    let first := s.config.port
    let count := (max 1 s.config.portAttempts).toNat
    let step := s.bind ports
    (∀ k : Nat, IsDeciding ports first count k →
      (∀ reported, ports (first + k) = .bound reported →
        step.result = .ok reported
          ∧ step.server = { s with port := some reported }
          ∧ step.tried = (portWindow first k).map .failed ++ [⟨first + k, true⟩])
      ∧ ∀ code description, ports (first + k) = .refused code description →
        step.result = .error (.refused s.config.host (first + k)
            (BindOutcome.message code description))
          ∧ step.tried = (portWindow first (k + 1)).map .failed)
      ∧ (step.result = .error (.allInUse s.config.host first (max 1 s.config.portAttempts))
        ↔ ∀ k < count, (ports (first + (k : Nat))).IsInUse)
      ∧ ((∀ k < count, (ports (first + (k : Nat))).IsInUse) →
        step.tried = (portWindow first count).map .failed)
      ∧ ∀ e, step.result = .error e → step.server = s := by
  intro first count step
  have hcount : ((attempts s.config : Nat) : Int) = max 1 s.config.portAttempts := by
    unfold attempts
    omega
  refine ⟨fun k hk => ⟨fun reported hbound => ?_, fun code description hrefused => ?_⟩,
    ⟨fun herror => ?_, fun hbusy => ?_⟩, fun hbusy => ?_,
    fun e herror => (bind_of_error herror).2⟩
  · have hstep : step = _ := bind_of_bound hk hbound
    rw [hstep]
    exact ⟨rfl, rfl, rfl⟩
  · obtain ⟨hresult, -, htried⟩ := bind_of_refused hk hrefused
    exact ⟨hresult, htried⟩
  · -- a port that decides is bound or refused, so the error would be another one
    by_contra hnot
    obtain ⟨k, hk⟩ := exists_isDeciding hnot
    have hport : first + (k : Int) ≤ lastPort := by
      have hinside : k < (max 1 s.config.portAttempts).toNat := hk.inside
      show s.config.port + (k : Int) ≤ lastPort
      omega
    cases houtcome : ports (first + k) with
    | bound reported =>
      have hstep : step = _ := bind_of_bound hk houtcome
      rw [hstep] at herror
      cases herror
    | noSuchPort => exact hports _ hport houtcome
    | refused code description =>
      have hresult : step.result = _ := (bind_of_refused hk houtcome).1
      rw [hresult] at herror
      cases herror
  · rw [← hcount]
    exact (bind_of_allInUse hbusy).1
  · exact (bind_of_allInUse hbusy).2.2

/-- Two ports in use, one by either code, and a free one behind them. -/
theorem bind_upward_third :
    let s := Server.create {} [] ⟨[]⟩
    let ports : Int → BindOutcome := fun port =>
      if port = 3000 then .refused 98 "Address already in use"
      else if port = 3001 then .refused 10048 "Only one usage is permitted"
      else .bound port
    let step := s.bind ports
    (∀ port ≤ lastPort, ports port ≠ .noSuchPort)
      ∧ s.config.port + max 1 s.config.portAttempts - 1 ≤ lastPort
      ∧ IsDeciding ports 3000 10 2
      ∧ step.result = .ok 3002 ∧ step.server.port = some 3002
      ∧ step.tried = [⟨3000, false⟩, ⟨3001, false⟩, ⟨3002, true⟩] := by
  intro s ports step
  have hports : ∀ port ≤ lastPort, ports port ≠ .noSuchPort := by
    intro port _
    show (if port = 3000 then _ else if port = 3001 then _ else _) ≠ _
    split
    · nofun
    · split
      · nofun
      · nofun
  have hlast : s.config.port + max 1 s.config.portAttempts - 1 ≤ lastPort := by decide
  have hdecides : IsDeciding ports 3000 10 2 := ⟨by decide, by decide, by decide⟩
  -- the third port decides: the two before it are in use
  obtain ⟨hresult, hserver, htried⟩ := ((bind_upward s hports hlast).1 2 hdecides).1 3002 rfl
  refine ⟨hports, hlast, hdecides, hresult, ?_, htried⟩
  have hport := congrArg Server.port hserver
  exact hport

end Server
end MockApi
