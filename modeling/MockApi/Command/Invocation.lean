/-
What a command line asks for: a task with its settings. A command line that
asks for help, for no task, or for something that does not exist is refused,
for the first of these reasons that takes effect.

Two dashes as the value of an option leave it without one. Such an option is
not refused; what its task makes of it depends on the option.
-/
import MockApi.Command.Words
import MockApi.Api.Description
import MockApi.Server.Session

namespace MockApi

/-- Why a command line starts no task. -/
inductive Refusal where
  | help
  | noTask
  | usage
  /-- The level of reports was left without a value. -/
  | noLevel
deriving DecidableEq, Repr

/-- A task with its settings. -/
inductive Task where
  | scan (root : Text) (verbose : Bool)
  | generate (root : Text) (split stateful : Bool)
  | describe (root format output : Text)
  | serve (root host : Text) (port portAttempts : Int)
deriving DecidableEq, Repr

/-- The root directory of a task. -/
def Task.root : Task → Text
  | scan root _ | generate root _ _ | describe root _ _ | serve root _ _ _ => root

/-- A task, and the least weight of what is reported. -/
structure Invocation where
  task : Task
  threshold : LogThreshold
  /-- No number of the task was left without a value. -/
  hasNumbers : Bool
deriving DecidableEq, Repr

/-- What an option was given. -/
inductive Setting where
  | text (t : Text)
  | nothing
deriving DecidableEq, Repr

/-- What the text of a value gives. -/
def Setting.ofText (t : Text) : Setting := if t = "--" then .nothing else .text t

/-- The settings that were given. -/
structure Settings where
  values : List (Text × Setting) := []
  argument : Option Text := none
  /-- Some word was not expected. -/
  unexpected : Bool := false

namespace Settings

/-- The settings after some steps, of which the first mistake or request for
help ends the reading. -/
def after (isValid : Text → Setting → Bool) : List CommandStep → Settings → Except Refusal Settings
  | [], s => .ok s
  | .help :: _, _ => .error .help
  | .fault :: _, _ => .error .usage
  | .flag id :: rest, s => after isValid rest { s with values := Fields.put id (.text []) s.values }
  | .value id t :: rest, s =>
    let given := Setting.ofText t
    if isValid id given then after isValid rest { s with values := Fields.put id given s.values }
    else .error .usage
  | .argument t :: rest, s => after isValid rest { s with argument := some t }
  | .unexpected :: rest, s => after isValid rest { s with unexpected := true }

/-- A flag was given. -/
def flag (s : Settings) (id : Text) : Bool := Fields.has id s.values

/-- The option was left without a value. -/
def lacks (s : Settings) (id : Text) : Bool := Fields.get? id s.values == some .nothing

/-- The value of an option; `nothing` stands for one left without a value. -/
def text (s : Settings) (id default nothing : Text) : Text :=
  match Fields.get? id s.values with
  | none => default
  | some .nothing => nothing
  | some (.text t) => t

/-- The value of an option as a number. -/
def number (s : Settings) (id : Text) (default : Int) : Int :=
  match Fields.get? id s.values with
  | some (.text t) => (readInteger t).toOption.getD default
  | _ => default

/-- The root directory, the working directory unless another one is given. -/
def root (s : Settings) : Text := s.argument.getD "."

end Settings

/-- How a task is asked for. -/
structure TaskRule where
  name : Text
  options : List CommandOption
  build : Settings → Task

namespace Invocation

def help : CommandOption := ⟨["-h", "--help"], .help⟩

def workers : CommandOption := ⟨["--workers", "-w"], .value⟩

def flag (name : Text) : CommandOption := ⟨[name], .flag⟩

def value (name : Text) : CommandOption := ⟨[name], .value⟩

/-- The options before a task. -/
def commonOptions : List CommandOption := [help, value "--log-level"]

/-- The levels of what is reported. -/
def levels : List Text := ["debug", "info", "warning", "error"]

/-- The formats of a description. -/
def formats : List Text := ["json", "yaml"]

/-- Options whose value is a number. -/
def numberOptions : List Text := ["--workers", "--port", "--max-port-attempts", "--seed"]

/-- What stands for an option without a value where a text is asked for. -/
def nothingText : Text := "[]"

/-- What an option may be given. -/
def isValid (id : Text) : Setting → Bool
  | .nothing => true
  | .text t =>
    if numberOptions.contains id then (readInteger t).isOk
    else if id = "--log-level" then levels.contains t
    else if id = "--format" then formats.contains t
    else true

/-- The tasks. -/
def taskRules : List TaskRule :=
  [{ name := "scan"
     options := [help, workers, flag "--verbose"]
     build := fun s => .scan s.root (s.flag "--verbose") },
   { name := "generate"
     options := [help, workers, flag "--split", flag "--stateful"]
     build := fun s => .generate s.root (s.flag "--split") (s.flag "--stateful") },
   { name := "openapi"
     options := [help, workers, value "--format", ⟨["--output", "-o"], .value⟩]
     build := fun s =>
      .describe s.root (s.text "--format" "json" nothingText) (s.text "--output" [] []) },
   { name := "serve"
     options := [help, value "--host", ⟨["--port", "-p"], .value⟩, value "--max-port-attempts",
      value "--seed", flag "--access-log"]
     build := fun s =>
      let standard : ServerConfig := {}
      .serve s.root (s.text "--host" standard.host nothingText) (s.number "--port" standard.port)
        (s.number "--max-port-attempts" standard.portAttempts) }]

/-- The steps before a task, its name, and the number of words behind it. -/
def leadingSteps : List CommandWord → List CommandStep × Option (Text × Nat)
  | [] => ([], none)
  | .argument name :: rest => ([], some (name, rest.length))
  | .separator :: _ => ([.fault], none)
  | .option w :: rest =>
    let taken := CommandWord.takeOption commonOptions w rest
    have := CommandWord.takeOption_length commonOptions w rest
    let (others, task) := leadingSteps taken.2
    (taken.1 ++ others, task)
termination_by words => words.length

/-- The steps behind the name of a task, which expects at most one argument.
The separator may stand before or behind that argument. -/
def taskSteps (options : List CommandOption) (argumentTaken : Bool) :
    List CommandWord → List CommandStep
  | [] => []
  | .option w :: rest =>
    let taken := CommandWord.takeOption options w rest
    have := CommandWord.takeOption_length options w rest
    taken.1 ++ taskSteps options argumentTaken taken.2
  | .separator :: .argument t :: rest =>
    if argumentTaken then .unexpected :: taskSteps options true rest
    else .argument t :: taskSteps options true rest
  | .separator :: rest =>
    if argumentTaken then .unexpected :: taskSteps options true rest
    else taskSteps options true rest
  | .argument t :: .separator :: rest =>
    if argumentTaken then .unexpected :: taskSteps options true rest
    else .argument t :: taskSteps options true rest
  | .argument t :: rest =>
    if argumentTaken then .unexpected :: taskSteps options true rest
    else .argument t :: taskSteps options true rest
termination_by words => words.length
decreasing_by all_goals simp only [List.length_cons]; omega

/-- The task of a name with the words behind it, and the settings they make. -/
def readTask (name : Text) (words : List Text) : Except Refusal (Task × Settings) :=
  match taskRules.find? fun rule => rule.name = name with
  | none => .error .usage
  | some rule =>
    match CommandWord.readAll? rule.options words with
    | none => .error .usage
    | some words =>
      (Settings.after isValid (taskSteps rule.options false words) {}).map fun s =>
        (rule.build s, s)

/-- What the words of a command line ask for. -/
def ofWords (words : List Text) : Except Refusal Invocation :=
  match CommandWord.readAll? commonOptions words with
  | none => .error .usage
  | some read => do
    let (steps, task) := leadingSteps read
    let common ← Settings.after isValid steps {}
    let level := LogThreshold.ofName? (common.text "--log-level" "warning" [])
    match task with
    | none =>
      throw (if common.unexpected then .usage else if level.isNone then .noLevel else .noTask)
    | some (name, count) =>
      let (task, settings) ← readTask name (words.drop (words.length - count))
      if common.unexpected || settings.unexpected then throw .usage
      match level with
      | none => throw .noLevel
      | some threshold =>
        return { task, threshold, hasNumbers := !numberOptions.any settings.lacks }

end Invocation

end MockApi
