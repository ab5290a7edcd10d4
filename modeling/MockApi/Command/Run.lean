/-
Running a task: what it makes of the disk, what it prints and reports, and
its exit code. Sources are looked for below the root, and artifacts are kept
in the directory of the project there.

A task that fails has no outcome; nothing it did before is told.
-/
import MockApi.Command.Invocation
import MockApi.Scan.Workspace

namespace MockApi

/-- What a task finds around it. -/
structure Surroundings where
  disk : Disk
  now : Moment
  chance : Chance
  /-- What an attempt to bind a port will do. -/
  ports : Int → BindOutcome := .bound

/-- What has become of a command. -/
structure Outcome where
  exitCode : Nat
  disk : Disk
  log : Log := []
  printed : List Text := []

/-- Why a task failed. -/
inductive TaskError where
  | generation (cause : GenerationError)
  | config (cause : ConfigError)
  | document (cause : Document.WriteError)
  | bundle (cause : BundleError)
  /-- The root is no path. -/
  | root (cause : DiskError)
  /-- The ports to be tried run past the last one. -/
  | noSuchPort
  /-- The level of reports was left without a value. -/
  | noLevel
  /-- A number was left without a value. -/
  | noNumber
deriving DecidableEq, Repr

/-- What is said of a task that failed. -/
def TaskError.message : TaskError → Text
  | generation (.url cause) => cause.message
  | generation (.numeral cause) | config (.numeral cause) | bundle (.numeral cause) =>
    cause.message
  | generation .pastCalendar => "The calendar ends before a timestamp"
  | config (.flawed flaw) => flaw.message
  | config (.unreachable cause) | bundle (.unreachable cause) | root cause => cause.message
  | config (.unwritable cause) | document cause => cause.message
  | bundle (.flawed flaw) => flaw.message
  | noSuchPort => ListenError.noSuchPort.message
  | noLevel => "The level of reports has no value"
  | noNumber => "A number has no value"
  | config .tooDeep | bundle .tooDeep => "A document is nested too deeply"

def TaskError.ofBundleWrite : Bundle.WriteError → TaskError
  | .generation cause => .generation cause
  | .document cause => .document cause

namespace Surroundings

/-- The project of a root directory, which need not be there. -/
def project (around : Surroundings) (root : Text) : Except TaskError Project :=
  match Disk.checkPath root with
  | .ok () | .error (.nameTooLong _) =>
    .ok ⟨FilePath.resolvedFrom around.disk.workingDirectory (.ofText root)⟩
  | .error cause => .error (.root cause)

/-- The endpoints of a project. -/
def endpoints (around : Surroundings) (p : Project) : List Endpoint :=
  Workspace.endpoints around.disk p.root Source.defaultLimit

/-- The calls that endpoints stand for. -/
def callsOf (endpoints : List Endpoint) : List Call := endpoints.map fun e => ⟨e.method, e.url⟩

/-- A line that tells of a number of things and where they are. -/
def report (before : Text) (count : Nat) (things : Text) (path : FilePath) : Text :=
  before ++ decimalOfNat count ++ things ++ " → " ++ path.text

/-- A line on an endpoint. -/
def endpointLine (e : Endpoint) : Text :=
  "   " ++ Text.padRight 7 e.method ++ " " ++ e.url ++ "  (" ++ e.location ++ ")"

/-- Writes the endpoints of a project down, if there are any. -/
def scan (around : Surroundings) (p : Project) (verbose : Bool) : Except TaskError Outcome := do
  let title : Text := "🔍 MockGen Scan"
  let endpoints := around.endpoints p
  if endpoints.isEmpty then
    let hint : Text := "   No endpoints found. "
      ++ "Make sure the folder contains JS/TS, Python, Rust, Java or Go sources."
    return { exitCode := 0, disk := around.disk, printed := [title, hint] }
  let disk ← (Document.write around.disk p.endpointsFile
    (Endpoint.entries (some p.root) endpoints)).mapError .document
  let listing := (Endpoint.sorted (some p.root) endpoints).map endpointLine
  return { exitCode := 0, disk, printed :=
    [title, report "   Exported " endpoints.length " endpoints" p.endpointsFile]
    ++ if verbose then listing else [] }

/-- Writes a mock bundle for the endpoints of a project. -/
def generate [JsonReader] (around : Surroundings) (p : Project) (split stateful : Bool) :
    Except TaskError Outcome := do
  let calls := callsOf (around.endpoints p)
  let (config, log, disk) ← (Config.load around.disk p).mapError .config
  let g : Generator := { config, now := around.now }
  let (bundle, chance) ← (Bundle.build g stateful calls around.chance).mapError .generation
  let disk ← (Document.write disk p.bundleFile (Bundle.toJson bundle)).mapError .document
  let printed : List Text :=
    ["🧪 MockGen Generate", report "   Wrote " bundle.length " mocks" p.bundleFile]
  if split then
    let w ← (Bundle.writeEach g p.mocksDirectory calls disk chance).mapError .ofBundleWrite
    return { exitCode := 0, disk := w.disk, log, printed :=
      printed ++ [report "   Wrote " w.written.length " mock files" p.mocksDirectory] }
  return { exitCode := 0, disk, log, printed }

/-- Writes a description of the endpoints of a project, in JSON unless the
format is the other one. -/
def describe [JsonReader] (around : Surroundings) (p : Project) (format output : Text) :
    Except TaskError Outcome := do
  let calls := callsOf (around.endpoints p)
  let (config, log, disk) ← (Config.load around.disk p).mapError .config
  let g : Generator := { config, now := around.now }
  let empty : Description := { serverUrl := config.baseUrl }
  let (d, _) ← (empty.addAll g calls around.chance).mapError .generation
  let path := if output.isEmpty then p.descriptionFile format else .ofText output
  let text := d.write (if format = "yaml" then .yaml else .json)
  let disk ← (Document.writeText disk path text).mapError .document
  return { exitCode := 0, disk, log, printed :=
    ["📘 MockGen OpenAPI", report "   Documented " d.paths.length " paths" path] }

/-- Serves the mocks of a project until it is stopped. -/
def serve [JsonReader] (around : Surroundings) (p : Project) (config : ServerConfig) :
    Except TaskError Outcome :=
  let title : Text := "🎭 MockGen Mock Server"
  let server := Server.create config [] around.chance
  let step := server.start around.disk p around.ports .foreground
  match step.result with
  | .error (.bundle cause) => .error (.bundle cause)
  | .error .noSuchPort => .error .noSuchPort
  | .error e =>
    .ok { exitCode := 1, disk := around.disk, log := step.log
          printed := title :: step.printed ++ ["❌ " ++ e.message] }
  | .ok _ =>
    .ok { exitCode := 0, disk := around.disk, log := step.log, printed := title :: step.printed }

/-- Runs what a command line asks for. -/
def run [JsonReader] (around : Surroundings) (i : Invocation) : Except TaskError Outcome := do
  let p ← around.project i.task.root
  if !i.hasNumbers then throw .noNumber
  match i.task with
  | .scan _ verbose => around.scan p verbose
  | .generate _ split stateful => around.generate p split stateful
  | .describe _ format output => around.describe p format output
  | .serve _ host port portAttempts =>
    around.serve p { host, port, portAttempts, threshold := i.threshold }

end Surroundings

/-- The exit code of a command line that starts no task. -/
def Refusal.exitCode : Refusal → Nat
  | help => 0
  | noTask | noLevel => 1
  | usage => 2

/-- Runs a command line. -/
def runCommand [JsonReader] (around : Surroundings) (words : List Text) :
    Except TaskError Outcome :=
  match Invocation.ofWords words with
  | .ok i => around.run i
  | .error .noLevel => .error .noLevel
  | .error refusal => .ok { exitCode := refusal.exitCode, disk := around.disk }

end MockApi
