import EditPlan.Text.Basic
import EditPlan.Plan.Basic
import EditPlan.Journal.Event
import EditPlan.Text.Encoding

/-!
Running a plan: its calls are started in order, each after the one before it has ended well, and the first failure stops
the run. How the calls end is given from outside.

Main statement: `run_append_stopped` (after a failure nothing further is started).
-/

namespace EditPlan.Run

/-!
## Folders

The folder of a file, by the text of its path alone: empty parts and `.` fall away, `..` stays, and exactly two slashes at
the front are kept as they are.
-/

/-- slashes at the front that belong to the path: two are kept, one or more than two become one -/
def rootOf : List Char → List Char
  | '/' :: '/' :: '/' :: _ => ['/']
  | '/' :: '/' :: _ => ['/', '/']
  | '/' :: _ => ['/']
  | _ => []

def pathParts (cs : List Char) : List (List Char) := (Text.splitOn '/' cs).filter fun p => !p.isEmpty && p != ['.']

/-- a path of its root and its parts; the empty path is `.` -/
def pathText (root : List Char) (parts : List (List Char)) : List Char :=
  if root.isEmpty && parts.isEmpty then ['.'] else root ++ List.intercalate ['/'] parts

def folderOf (path : String) : String :=
  String.ofList (pathText (rootOf path.toList) (pathParts path.toList).dropLast)

/-! ## Runs -/

structure Ending where
  returnCode : Int := 0
  stderr : List UInt8 := []
  deriving DecidableEq, Repr

/-- a call that was started -/
structure Started where
  arguments : List String
  /-- seconds, as they were given -/
  timeout : Json

variable {ν : Type}

/-- an operation that failed, and how its call ended -/
structure Failure (ν : Type) where
  operation : Operation ν
  returnCode : Int
  stderr : String

def Failure.kind (f : Failure ν) : Kind := f.operation.kind

/-- number of characters of error output that are shown -/
def shownChars : Nat := 300

def Failure.message (f : Failure ν) : String :=
  f.kind.tag ++ " operation failed with exit code " ++ toString f.returnCode ++ ": " ++ Text.lastPart shownChars f.stderr

structure Progress (ν : Type) where
  started : List Started := []
  events : List Journal.Event := []
  failure : Option (Failure ν) := none

def Started.ofOperation (timeout : Json) (op : Operation ν) : Started := ⟨op.invocation.arguments, timeout⟩

/-- one operation; after a failure nothing is started any more -/
def step (timeout : Json) (endings : Nat → Ending) (p : Progress ν) (op : Operation ν) : Progress ν :=
  if p.failure.isSome then p
  else
    let index := p.started.length
    let started := p.started ++ [.ofOperation timeout op]
    let events := p.events ++ [.operationStarted index op.kind.tag op.description op.output]
    let ending := endings index
    if ending.returnCode = 0 then { started := started, events := events }
    else
      let stderr := Text.decodeUtf8 ending.stderr
      { started := started
        events := events ++ [.operationFailed index op.kind.tag ending.returnCode (Text.lastPart shownChars stderr)]
        failure := some ⟨op, ending.returnCode, stderr⟩ }

def run (timeout : Json) (endings : Nat → Ending) (p : Progress ν) (ops : List (Operation ν)) : Progress ν :=
  ops.foldl (step timeout endings) p

theorem run_append_stopped {timeout : Json} {endings : Nat → Ending} {p : Progress ν} (xs ys : List (Operation ν))
    (h : (run timeout endings p xs).failure.isSome) : run timeout endings p (xs ++ ys) = run timeout endings p xs := by
  unfold run at *
  rw [List.foldl_append]
  generalize xs.foldl (step timeout endings) p = q at h
  induction ys with
  | nil => rfl
  | cons y ys ih => rw [List.foldl_cons, show step timeout endings q y = q by simp [step, h]]; exact ih

structure Outcome (ν : Type) where
  /-- folders that were made, with those above them -/
  folders : List String
  started : List Started
  events : List Journal.Event
  /-- the final file, or the operation that failed -/
  result : Except (Failure ν) String

/-- time limit of a call; one that says nothing counts as none given -/
def timeLimit (given : Json) (usual : Int) : Json := if given.isVoid then .int usual else given

/-- folder that is made before the first operation -/
def foldersFor (ops : List (Operation ν)) : List String := (ops.head?.map fun op => folderOf op.output).toList

def execute (timeout : Json) (endings : Nat → Ending) (plan : Plan ν) : Outcome ν :=
  let p := run timeout endings {} plan.operations
  match p.failure with
  | some f => ⟨foldersFor plan.operations, p.started, p.events, .error f⟩
  | none =>
    ⟨foldersFor plan.operations, p.started,
      p.events ++ [.runDone plan.operations.length plan.finalOutput], .ok plan.finalOutput⟩

end EditPlan.Run
