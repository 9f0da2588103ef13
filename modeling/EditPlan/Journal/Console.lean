import EditPlan.Journal.Event
import EditPlan.Settings
import EditPlan.Text.Quoted
import EditPlan.Json.Text
import EditPlan.Text.Basic

/-!
Writing the journal: which calls and events are written, and how an entry looks to a human reader.
-/

namespace EditPlan.Journal

/-!
## Thresholds

Which events are written, and how. A threshold is named like a severity, in any letter case; events below it are
dropped. Events are written as one JSON document each or for a human reader.
-/

def Severity.rank : Severity → Nat
  | .debug => 10
  | .info => 20
  | .warning => 30
  | .error => 40
  | .critical => 50

/-- ranks by upper-case name -/
def ranks : List (String × Nat) :=
  [("CRITICAL", 50), ("FATAL", 50), ("ERROR", 40), ("WARNING", 30), ("WARN", 30), ("INFO", 20), ("DEBUG", 10),
    ("NOTSET", 0)]

/-- severity by the name under which it is logged -/
def Severity.ofName? (name : String) : Option Severity :=
  match name with
  | "debug" => some .debug
  | "info" | "msg" => some .info
  | "warning" | "warn" => some .warning
  | "error" | "exception" => some .error
  | "critical" | "fatal" => some .critical
  | _ => none

/-- a threshold that is no name of a severity -/
structure UnknownThreshold where
  name : String
  deriving DecidableEq, Repr

/-- wording of an unknown threshold, in upper case first and then in lower case -/
def UnknownThreshold.message (u : UnknownThreshold) : String :=
  Text.quoted ("level " ++ Text.lower (Text.upper u.name))

structure Policy where
  least : Nat
  asJson : Bool
  deriving DecidableEq, Repr

/-- policy of a threshold and a format, either of which may be left to the settings -/
def Policy.configure (settings : Settings) (level : Option String) (asJson : Option Bool) :
    Except UnknownThreshold Policy :=
  let name := match level with
    | some l => if l.isEmpty then settings.logLevel else l
    | none => settings.logLevel
  match ranks.lookup (Text.upper name) with
  | some least => .ok ⟨least, asJson.getD settings.logJson⟩
  | none => .error ⟨name⟩

/-- an event as it is logged: its severity, what happened and its details -/
structure Entry where
  severity : Severity
  /-- null if the details say it all -/
  event : Json
  details : Object

/-- details that steer the writing of an entry and are not written -/
def steering : List String := ["exc_info", "stack_info", "timestamp"]

def Entry.shown (e : Entry) : Object := e.details.filter fun m => !steering.contains m.1

def Entry.write (e : Entry) : Json :=
  let o := if e.event.isNull then e.shown else Object.put e.shown "event" e.event
  .obj (Object.put o "level" (.str e.severity.name))

/-- whether entries of a severity are written -/
def Policy.admits (p : Policy) (s : Severity) : Bool := decide (p.least ≤ s.rank)

/-!
## Calls

Calls of a logger. A call names the level at which it logs; its details may not have the names of what every call has.
What is wrong with a call is told in the words of the logger.
-/

structure Call where
  level : String
  event : Json
  details : Object

/-- why a call is not carried out -/
inductive CallFault where
  /-- a logger with this threshold has no such level -/
  | unknownLevel (threshold : Nat) (level : String)
  /-- a detail has the name of an argument of the callee -/
  | repeated (callee argument : String)
  deriving DecidableEq, Repr

/-- names of thresholds inside the name of a logger -/
def thresholdNames : List (Nat × String) :=
  [(50, "Critical"), (40, "Error"), (30, "Warning"), (20, "Info"), (10, "Debug")]

def loggerName (threshold : Nat) : String :=
  "BoundLoggerFilteringAt" ++ (thresholdNames.lookup threshold).getD "Notset"

def CallFault.message : CallFault → String
  | .unknownLevel threshold level => "'" ++ loggerName threshold ++ "' object has no attribute '" ++ level ++ "'"
  | .repeated callee argument => callee ++ "() got multiple values for argument '" ++ argument ++ "'"

def writingCallee : String × List String :=
  ("_make_filtering_bound_logger.<locals>.make_method.<locals>.meth", ["self", "event"])

def passingCallee : String × List String := ("BoundLoggerBase._proxy_to_logger", ["method_name"])

def droppingCallee : String × List String := ("_nop", ["self", "event"])

/-- callee of a call that logs an exception, and its arguments -/
def exceptionCallee : String × List String := ("exception", ["self", "event"])

/-- callees of a call, in the order in which they see its details -/
def callees (level : String) (admitted : Bool) : List (String × List String) :=
  (if level = "exception" then [exceptionCallee] else [])
    ++ if admitted then [writingCallee, passingCallee] else [droppingCallee]

/-- first detail that repeats an argument of a callee -/
def repeated? (details : Object) (callee : String × List String) : Option CallFault :=
  (details.find? fun m => callee.2.contains m.1).map fun m => .repeated callee.1 m.1

def Policy.entry? (p : Policy) (c : Call) : Except CallFault (Option Entry) :=
  match Severity.ofName? c.level with
  | none => .error (.unknownLevel p.least c.level)
  | some s =>
    match (callees c.level (p.admits s)).findSome? (repeated? c.details) with
    | some f => .error f
    | none => .ok (if p.admits s then some ⟨s, c.event, c.details⟩ else none)

/-!
## Entries for a human reader

An entry is one line of its severity, what happened and the details; a stack and an exception
follow on lines of their own. A text with characters that would be mistaken for the frame is quoted.
-/

/-- a stack or an exception that is no text -/
structure NotText where
  detail : Json

/-- wording of a stack or an exception that is no text -/
def NotText.message (n : NotText) : String := "can only concatenate str (not \"" ++ n.detail.sortName ++ "\") to str"

def frameChars : List Char := [' ', '\t', '=', '\r', '\n', Text.doubleQuote, Text.singleQuote]

/-- a text as it is, another document as its text -/
def plainText : Json → String
  | .str s => s
  | j => j.text

def detailText : Json → String
  | .str s => if s.toList.any frameChars.contains then Text.quoted s else s
  | j => j.text

/-- names of details that tell where an entry comes from; their texts are never quoted -/
def sourceNames : List String := ["logger", "logger_name"]

/-- names of details that stand on lines of their own -/
def ownLineNames : List String := ["stack", "exception"]

def memberText (m : String × Json) : String :=
  if sourceNames.contains m.1 then "[" ++ plainText m.2 ++ "] "
  else m.1 ++ "=" ++ detailText m.2 ++ " "

def Entry.heading (e : Entry) : String :=
  "[" ++ e.severity.name ++ "] " ++ (if e.event.isNull then "" else plainText e.event ++ " ")
    ++ String.join ((e.shown.filter fun m => !ownLineNames.contains m.1).map memberText)

/-- text of a detail that stands on lines of its own, if it is there -/
def Entry.ownLines? (e : Entry) (name : String) : Except NotText (Option String) :=
  match Object.get? e.shown name with
  | none => .ok none
  | some .null => .ok none
  | some (.str s) => .ok (some s)
  | some j => .error ⟨j⟩

/-- line between a stack and an exception -/
def ruler : String := String.ofList (List.replicate 79 '=')

/-- an entry for a human reader -/
def Entry.display (e : Entry) : Except NotText String := do
  let stack ← e.ownLines? "stack"
  let exception ← e.ownLines? "exception"
  let afterStack := if exception.isSome then "\n\n" ++ ruler ++ "\n" else ""
  return e.heading ++ (stack.map fun s => "\n" ++ s ++ afterStack).getD "" ++ (exception.map ("\n" ++ ·)).getD ""

/-- what is printed: documents, one a line, or text of a number of lines for a human reader -/
inductive Printed where
  | documents (ds : List Json)
  | text (lines : Nat)

/-- why nothing is printed -/
inductive PrintFault where
  | call (f : CallFault)
  | notText (n : NotText)

def PrintFault.message : PrintFault → String
  | .call f => f.message
  | .notText n => n.message

/-- what a policy makes of the calls that are written, one after the other; the first fault stops all -/
def Policy.eachEntry {α : Type} (p : Policy) (write : Entry → Except NotText α) (calls : List Call) :
    Except PrintFault (List α) :=
  (calls.mapM fun c => do
    match ← (p.entry? c).mapError PrintFault.call with
    | some e => return some (← (write e).mapError PrintFault.notText)
    | none => return none).map (List.filterMap id)

def Policy.printed (p : Policy) (calls : List Call) : Except PrintFault Printed :=
  if p.asJson then (p.eachEntry (fun e => .ok e.write) calls).map .documents
  else (p.eachEntry Entry.display calls).map fun texts =>
    .text (texts.foldl (fun n t => n + Text.breaks (t ++ "\n").toList) 0)

end EditPlan.Journal
