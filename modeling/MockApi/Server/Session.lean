/-
The life of a server: binding a port, starting, reloading routes, stopping.
The sockets are outside; a `BindOutcome` per port says what they do.

Starting binds a port and opens a new session: nothing recorded, the first
id, fresh counts, the initial routes, and then those of the bundle file if
there is one. Stopping ends the session; the counts and the port stay to be
looked at.
-/
import MockApi.Project
import MockApi.Server.Dispatch

namespace MockApi

/-- What an attempt to bind a port does. -/
inductive BindOutcome where
  /-- The port is bound, and its socket reports this number: the one that was asked
  for, or if that is 0 the one that the system has chosen. -/
  | bound (reported : Int)
  | refused (code : Int) (description : Text)
  /-- The number is too large for a port, and nobody was asked. -/
  | noSuchPort
deriving DecidableEq, Repr

/-- The code and the text of a refusal. -/
def BindOutcome.message (code : Int) (description : Text) : Text :=
  "[Errno " ++ decimal code ++ "] " ++ description

/-- An attempt to bind a port, which opens a socket. -/
structure Attempt where
  port : Int
  /-- The socket has not been closed. -/
  isOpen : Bool
deriving DecidableEq, Repr

/-- The attempt with its socket closed. -/
def Attempt.close (a : Attempt) : Attempt := { a with isOpen := false }

/-- Why a server is not listening. -/
inductive ListenError where
  /-- A port was refused for another reason than being in use. -/
  | refused (host : Text) (port : Int) (cause : Text)
  /-- All ports that may be tried are in use. -/
  | allInUse (host : Text) (first attempts : Int)
  /-- The number of a port is too large for one. -/
  | noSuchPort
  | alreadyListening (port : Option Int)
  /-- The server ended before it had started. -/
  | failedToStart
  /-- The bundle file cannot be read, in a way that no reader excuses. -/
  | bundle (cause : BundleError)
deriving DecidableEq, Repr

/-- The refusal of a port. -/
def refusalMessage (host : Text) (port : Int) (cause : Text) : Text :=
  "Cannot bind " ++ host ++ ":" ++ decimal port ++ ": " ++ cause

/-- A range of ports. -/
def portRange (first attempts : Int) : Text :=
  decimal first ++ "-" ++ decimal (first + attempts - 1)

def ListenError.message : ListenError → Text
  | refused host port cause => refusalMessage host port cause
  | allInUse host first attempts =>
    "No free port on " ++ host ++ " in range " ++ portRange first attempts
  | noSuchPort => "bind(): port must be 0-65535."
  | alreadyListening port =>
    "Mock server already listening on port " ++ ((port.map decimal).getD "None")
  | failedToStart => "Mock server failed to start"
  | bundle (.flawed flaw) => flaw.message
  | bundle (.numeral cause) => cause.message
  | bundle (.unreachable cause) => cause.message
  | bundle .tooDeep => []

namespace Server

-- ============================================================= binding

/-- Codes of a port that is in use. -/
def inUseCodes : List Int := [98, 10048]

/-- The number of ports that are tried. -/
def attempts (c : ServerConfig) : Nat := (max 1 c.portAttempts).toNat

/-- The host is a numeric address with colons. -/
def isLongHost (c : ServerConfig) : Bool := c.host.contains ':'

/-- Tries ports upward from `port` while they are in use and `left` further
attempts remain: what came of it, and the attempts. A refused attempt closes
its socket; one at a number that is no port leaves it open. -/
def tryPorts (c : ServerConfig) (left : Nat) (port : Int) (ports : Int → BindOutcome) :
    Except ListenError Int × List Attempt :=
  match ports port with
  | .bound reported => (.ok reported, [⟨port, true⟩])
  | .noSuchPort => (.error .noSuchPort, [⟨port, true⟩])
  | .refused code description =>
    if inUseCodes.contains code then
      match left with
      | 0 => (.error (.allInUse c.host c.port (attempts c)), [⟨port, false⟩])
      | left + 1 =>
        let (result, tried) := tryPorts c left (port + 1) ports
        (result, ⟨port, false⟩ :: tried)
    else (.error (.refused c.host port (BindOutcome.message code description)), [⟨port, false⟩])

/-- What is reported of a server that could not bind. -/
def bindReport : ListenError → Log
  | .refused host port cause => [.error (refusalMessage host port cause)]
  | .allInUse _ first attempts => [.error ("No free port in " ++ portRange first attempts)]
  | _ => []

/-- The outcome of a step in a server's life. -/
structure Step (α : Type) where
  result : Except ListenError α
  server : Server
  log : Log := []
  /-- The lines printed. -/
  printed : List Text := []
  /-- The attempts to bind a port, with what became of their sockets. -/
  tried : List Attempt := []

/-- Binds a port. -/
def bind (s : Server) (ports : Int → BindOutcome) : Step Int :=
  let (result, tried) := tryPorts s.config (attempts s.config - 1) s.config.port ports
  match result with
  | .ok port => { result, tried, server := { s with port := some port } }
  | .error e =>
    { result, tried, server := s
      log := (bindReport e).filter s.config.threshold.keeps }

-- =========================================================== reloading

/-- What is reported of a bundle that cannot be read. -/
def keptRoutes (flaw : BundleFlaw) (routes : RouteTable) : LogLine :=
  .warning (flaw.message ++ "; keeping " ++ decimalOfNat routes.length
    ++ " current routes")

/-- Reads the bundle file again; a file that is no bundle leaves the routes as
they are. Returns whether there are new routes. -/
def reload [JsonReader] (s : Server) (disk : Disk) (project : Project) :
    Except BundleError Bool × Server × Log :=
  match Bundle.load disk project.bundleFile with
  | .ok entries =>
    let (routes, log) := RouteTable.ofEntries .pairs entries
    (.ok true, { s with routes }, log.filter s.config.threshold.keeps)
  | .error (.flawed flaw) =>
    (.ok false, s, [keptRoutes flaw s.routes].filter s.config.threshold.keeps)
  | .error e => (.error e, s, [])

-- =================================================== starting, stopping

/-- The server at the start of a session. -/
def fresh (s : Server) : Server :=
  { s with routes := s.initialRoutes, store := .empty, nextId := s.config.startId }

/-- The server stopped. -/
def shut (s : Server) : Server := { s.fresh with listening := false }

/-- The address of a server that was bound. -/
def url (s : Server) : Option Text :=
  s.port.map fun port => "http://" ++ s.config.host ++ ":" ++ decimal port

/-- What a started server prints. -/
def greeting (s : Server) : List Text :=
  ["🚀 MockGen Mock Server running at " ++ s.url.getD "None",
   "   Routes loaded: " ++ decimalOfNat s.routes.length]
  ++ match s.port with
    | some port =>
      if port = s.config.port then []
      else ["   ⚠️  Port " ++ decimal s.config.port ++ " was busy, using "
        ++ decimal port]
    | none => []

/-- What a stopped server prints. -/
def farewell : Text := "🛑 MockGen Mock Server stopped"

/-- How the service of a started server goes on. -/
inductive Service where
  /-- It serves in the background. -/
  | background
  /-- It serves until it is stopped, which has happened. -/
  | foreground
  /-- It ends before it has started. -/
  | failing
deriving DecidableEq, Repr

/-- Stops the server. -/
def stop (s : Server) : Step Unit :=
  if s.listening then { result := .ok (), server := s.shut, printed := [farewell] }
  else { result := .ok (), server := s }

/-- Starts the server. -/
def start [JsonReader] (s : Server) (disk : Disk) (project : Project)
    (ports : Int → BindOutcome) (service : Service) : Step Int :=
  if s.listening then { result := .error (.alreadyListening s.port), server := s }
  else
    let bound := s.bind ports
    match bound.result with
    | .error e => { bound with result := .error e }
    | .ok port =>
      let s : Server := { bound.server.fresh with metrics := {}, listening := true }
      let (loaded, s, log) : Except BundleError Bool × Server × Log :=
        match disk.isFile project.bundleFile with
        | .error cause => (.error (.unreachable cause), s, [])
        | .ok true => s.reload disk project
        | .ok false => (.ok true, s, [])
      let log := bound.log ++ log
      match loaded with
      | .error e => { result := .error (.bundle e), server := s, log, tried := bound.tried }
      | .ok _ =>
        match service with
        | .background =>
          { result := .ok port, server := s, log, printed := s.greeting, tried := bound.tried }
        | .foreground =>
          { result := .ok port, server := s.shut, log, printed := s.greeting,
            tried := bound.tried.map Attempt.close }
        | .failing =>
          { result := .error .failedToStart, server := s.shut, log,
            printed := s.greeting ++ [farewell], tried := bound.tried.map Attempt.close }

end Server

end MockApi
