import EditPlan.Json.Basic

/-!
Events that the program reports while it works. Each has a name, a severity and named details.
-/

namespace EditPlan.Journal

inductive Severity where
  | debug
  | info
  | warning
  | error
  | critical
  deriving DecidableEq, Repr

def Severity.name : Severity → String
  | .debug => "debug"
  | .info => "info"
  | .warning => "warning"
  | .error => "error"
  | .critical => "critical"

inductive Event where
  /-- a command that is not understood was passed over -/
  | commandSkipped (tag : String)
  /-- a transition without a rendering of its own became a fade in -/
  | transitionFallback (style : String)
  /-- a plan is complete -/
  | planDone (source : String) (commands operations : Nat) (finalOutput : String)
  /-- a prompt is about to be read -/
  | readingStarted (promptLength : Nat)
  /-- a prompt gave no result -/
  | readingFailed
  /-- a prompt gave commands -/
  | readingDone (commands : Nat) (confidence : Binary64)
  /-- an operation is about to run -/
  | operationStarted (index : Nat) (kind description output : String)
  /-- an operation ended with a failure -/
  | operationFailed (index : Nat) (kind : String) (returnCode : Int) (stderr : String)
  /-- all operations ran -/
  | runDone (operations : Nat) (finalOutput : String)
  /-- a request was answered with commands -/
  | requestDone (commands ffmpegCommands : Nat) (confidence : Binary64)
  /-- a request could not be answered -/
  | requestFailed
  /-- the service is up -/
  | serviceStarted (model : String)
  /-- the service is down -/
  | serviceStopped

namespace Event

def name : Event → String
  | .commandSkipped .. => "compiler.command.skipped"
  | .transitionFallback .. => "compiler.transition.fallback"
  | .planDone .. => "compiler.compile.done"
  | .readingStarted .. => "parser.parse.start"
  | .readingFailed => "parser.parse.failed"
  | .readingDone .. => "parser.parse.done"
  | .operationStarted .. => "executor.operation.start"
  | .operationFailed .. => "executor.operation.failed"
  | .runDone .. => "executor.pipeline.done"
  | .requestDone .. => "process.done"
  | .requestFailed => "process.failed"
  | .serviceStarted .. => "app.startup"
  | .serviceStopped => "app.shutdown"

def severity : Event → Severity
  | .commandSkipped .. => .debug
  | .transitionFallback .. => .warning
  | .readingFailed => .error
  | .operationFailed .. => .error
  | .requestFailed => .error
  | _ => .info

def details : Event → Object
  | .commandSkipped tag => [("command_type", .str tag)]
  | .transitionFallback style => [("transition_type", .str style), ("fallback", .str "fade_in")]
  | .planDone source commands operations finalOutput =>
    [("source", .str source), ("num_commands", .int commands), ("num_operations", .int operations),
      ("final_output", .str finalOutput)]
  | .readingStarted promptLength => [("prompt_length", .int promptLength)]
  | .readingFailed => []
  | .readingDone commands confidence => [("num_commands", .int commands), ("confidence", .real confidence)]
  | .operationStarted index kind description output =>
    [("index", .int index), ("kind", .str kind), ("description", .str description), ("output_file", .str output)]
  | .operationFailed index kind returnCode stderr =>
    [("index", .int index), ("kind", .str kind), ("returncode", .int returnCode), ("stderr", .str stderr)]
  | .runDone operations finalOutput => [("num_operations", .int operations), ("final_output", .str finalOutput)]
  | .requestDone commands ffmpegCommands confidence =>
    [("num_commands", .int commands), ("num_ffmpeg_commands", .int ffmpegCommands), ("confidence", .real confidence)]
  | .requestFailed => []
  | .serviceStarted model => [("parser_model", .str model)]
  | .serviceStopped => []

def write (e : Event) : Json :=
  .obj (("event", .str e.name) :: ("log_level", .str e.severity.name) :: e.details)

end Event

end EditPlan.Journal
