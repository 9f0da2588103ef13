import EditPlan.Plan.Build
import EditPlan.Command.Basic
import EditPlan.Command.Document
import EditPlan.Video.Context
import EditPlan.Journal.Event
import EditPlan.Settings

/-!
Planning commands, once and many times.

Main statement: `run_append` (planning a list is planning its front part and going on from there).
-/

namespace EditPlan

/-!
## Runs

Planning: commands in order, each operation reading what the one before it wrote. A run stops at the first fault and keeps
the state in which it stopped. A planner can be asked many times; every plan starts from the context alone.
-/

open Number

variable {ν : Type} [Number ν]

/-- how far a run of commands has come -/
structure Progress (ν : Type) where
  state : State ν
  /-- file that the next operation reads -/
  current : String
  operations : List (Operation ν) := []
  events : List Journal.Event := []
  fault : Option Fault := none

namespace Progress

/-- state before the first command -/
def start (source : String) (context : Option (VideoContext ν)) : Progress ν where
  state := ⟨0, context.bind (·.duration), (context.map (·.hasAudio)).getD true⟩
  current := source

def eventsOf : Command ν → List Journal.Event
  | .unknown tag _ => [.commandSkipped tag]
  | .transition style _ _ => if Build.isRendered style then [] else [.transitionFallback style]
  | _ => []

/-- one command; after a fault nothing happens any more -/
def step (setup : Setup ν) (p : Progress ν) (c : Command ν) : Progress ν :=
  if p.fault.isSome then p
  else
    let moved := { p with state := c.advance p.state, events := p.events ++ eventsOf c }
    match c.build setup p.state p.current with
    | .error e => { moved with fault := some e }
    | .ok none => moved
    | .ok (some op) => { moved with current := op.output, operations := p.operations ++ [op] }

def run (setup : Setup ν) (p : Progress ν) (cs : List (Command ν)) : Progress ν := cs.foldl (step setup) p

theorem run_append (setup : Setup ν) (p : Progress ν) (xs ys : List (Command ν)) :
    run setup p (xs ++ ys) = run setup (run setup p xs) ys := List.foldl_append

/-- the plan of a run, or what stopped it -/
def result (p : Progress ν) : Except Fault (Plan ν) :=
  match p.fault with
  | some e => .error e
  | none => .ok ⟨p.operations, p.current⟩

end Progress

/-! ### A planner and its plans -/

/-- a planner: what stays the same, and the state that its last plan left -/
structure Planner (ν : Type) where
  setup : Setup ν
  state : State ν

namespace Planner

def fresh (setup : Setup ν) : Planner ν := ⟨setup, ⟨0, none, true⟩⟩

/-- what was asked for, or the usual value if nothing or the empty text was -/
def orUsual (usual : String) : Option String → String
  | some s => if s.isEmpty then usual else s
  | none => usual

/-- path without slashes at its end -/
def dropSlashes (path : String) : String := String.ofList ((path.toList.reverse.dropWhile (· == '/')).reverse)

/-- a planner for a source under the settings, which give the directory and the binary unless others are asked for -/
def ofSettings (settings : Settings) (source : String) (workDir binary : Option String) : Planner Binary64 :=
  fresh {
    source := source
    workDir := dropSlashes (orUsual settings.workDir workDir)
    binary := orUsual settings.binary binary
    captionsFile := settings.captionsFile
    silenceThreshold := settings.silenceThreshold }

/-- planner with the state of a context, nothing numbered yet -/
def reset (planner : Planner ν) (context : Option (VideoContext ν)) : Planner ν :=
  { planner with state := (Progress.start planner.setup.source context).state }

/-- outcome of a plan: the plan or its fault, the events in order, and the planner afterwards -/
structure Outcome (ν : Type) where
  result : Except Fault (Plan ν)
  events : List Journal.Event
  planner : Planner ν

/-- report of a plan that is complete -/
def doneEvents (setup : Setup ν) (commands : Nat) : Except Fault (Plan ν) → List Journal.Event
  | .ok plan => [.planDone setup.source commands plan.operations.length plan.finalOutput]
  | .error _ => []

def plan (planner : Planner ν) (context : Option (VideoContext ν)) (cs : List (Command ν)) : Outcome ν :=
  let ready := planner.reset context
  let p := Progress.run planner.setup { state := ready.state, current := planner.setup.source } cs
  ⟨p.result, p.events ++ doneEvents planner.setup cs.length p.result, { ready with state := p.state }⟩

end Planner

/-! ### Requests for plans -/

/-- what is asked of a planner: commands, and a context if there is one -/
structure Brief (ν : Type) where
  commands : List (Command ν)
  context : Option (VideoContext ν)

namespace Brief

def duration (b : Brief ν) : Option ν := b.context.bind (·.duration)

/-- brief with the numbers of its commands in range -/
def limit (b : Brief ν) : Brief ν := { b with commands := limitCommands b.duration b.commands }

/-- a context that may be absent or null -/
def readContext : Option Json → Except Misread (Option (VideoContext Binary64))
  | none => .ok none
  | some .null => .ok none
  | some j =>
    match VideoContext.read j with
    | .accepted c => .ok (some c)
    | .refused complaints => .error (.refused complaints)

/-- brief of documents: the commands are read before the context -/
def read (commands : Json) (context : Option Json) (limited : Bool) : Except Misread (Brief Binary64) := do
  let cs ← readCommands commands
  let ctx ← readContext context
  let brief : Brief Binary64 := ⟨cs, ctx⟩
  return if limited then brief.limit else brief

end Brief

end EditPlan

namespace EditPlan

/-!
## Sessions

One planner that is asked many times. Documents that do not read as a brief are answered with the reason and leave
the planner alone; a brief is planned, and the planner goes on with the state that the plan left, also where the plan was
stopped half-way.
-/

variable {ν : Type} [Number ν]

/-- what a planner is asked: a brief, or why the documents that should be one cannot be read -/
abbrev Question (ν : Type) := Except Misread (Brief ν)

/-- one turn of a session: the answer, what was reported on the way, and the planner afterwards -/
structure Turn (ν : Type) where
  answer : Except Misread (Except Fault (Plan ν))
  events : List Journal.Event
  planner : Planner ν

namespace Planner

def turn (planner : Planner ν) : Question ν → Turn ν
  | .error why => ⟨.error why, [], planner⟩
  | .ok brief =>
    let outcome := planner.plan brief.context brief.commands
    ⟨.ok outcome.result, outcome.events, outcome.planner⟩

/-- planner after questions in order -/
def after (planner : Planner ν) (questions : List (Question ν)) : Planner ν :=
  questions.foldl (fun p q => (p.turn q).planner) planner

def session (planner : Planner ν) : List (Question ν) → List (Turn ν)
  | [] => []
  | q :: qs =>
    let t := planner.turn q
    t :: t.planner.session qs

end Planner

end EditPlan
