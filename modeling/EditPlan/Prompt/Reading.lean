import EditPlan.Prompt.Wording
import EditPlan.Command.Document
import EditPlan.Command.Basic
import EditPlan.Journal.Event

/-!
Turning a prompt into commands with the help of a language model. The model is described by its reply. A reply that is a
well-formed result is taken over with its numbers in range; every other reply gives the fallback, never a part of a
result.
-/

namespace EditPlan.Prompt

open Wire

/-- what a prompt was understood to mean -/
structure Interpretation where
  commands : List (Command Binary64) := []
  explanation : String := ""
  /-- from 0 to 1 -/
  confidence : Binary64 := Number.zero
  warnings : Option (List String) := none

namespace Interpretation

/-- what is taken for a prompt that was not understood -/
def fallback : Interpretation where
  explanation := fallbackExplanation
  warnings := some [fallbackWarning]

def confidenceOf (j : Json) : Checked Binary64 := (number j).map limitShare

def ofObject (o : Object) : Checked Interpretation :=
  ((((optional o Field.commands [] readPlainCommands).map Interpretation.mk).and
    (optional o Field.explanation "" text)).and
    (optional o Field.confidence Number.zero confidenceOf)).and
    (optional o Field.warnings none (nullable (list text)))

def read (j : Json) : Except Misread Interpretation :=
  match (j.get? "commands").bind firstCompoundTag? with
  | some m => .error m
  | none =>
    match record (.notRecord "ParsedPromptResult") ofObject j with
    | .accepted r => .ok r
    | .refused complaints => .error (.refused complaints)

def write (style : Style) (r : Interpretation) : Json :=
  .obj (style.record [(Field.commands, writeCommands style r.commands), (Field.explanation, .str r.explanation),
    (Field.confidence, .real r.confidence), (Field.warnings, orNull (fun ws => .arr (ws.map .str)) r.warnings)])

/-- interpretation with the numbers of its commands in range -/
def limit (duration : Option Binary64) (r : Interpretation) : Interpretation :=
  { r with commands := limitCommands duration r.commands }

end Interpretation

/-- how a language model replies -/
inductive Reply where
  /-- with a structured result -/
  | structured (document : Json)
  /-- with plain text and no result -/
  | plain
  /-- with a failure -/
  | fails
  /-- not at all: it cannot give structured results -/
  | unable

/-- result in a reply, if it is well formed -/
def Reply.interpretation? : Reply → Option Interpretation
  | .structured j => (Interpretation.read j).toOption
  | _ => none

/-- what a reply is taken to mean: its result with the numbers in range, or else the fallback -/
def Reply.meaning (duration : Option Binary64) (reply : Reply) : Interpretation :=
  match reply.interpretation? with
  | some r => r.limit duration
  | none => .fallback

structure Reading where
  result : Interpretation
  /-- the message that the model got, if it got one -/
  sent : Option String

def Reply.sent (message : String) : Reply → Option String
  | .unable => none
  | _ => some message

/-- reads a prompt; only a duration that has no `m:ss` and a frame size with too many digits stand in the way -/
def read (prompt : String) (context : Option (VideoContext Binary64)) (reply : Reply) : Except Fault Reading := do
  let about ← contextText context
  return ⟨reply.meaning (context.bind (·.duration)), reply.sent (userMessage prompt about)⟩

def readingEvents (prompt : String) (reply : Reply) (outcome : Except Fault Reading) : List Journal.Event :=
  .readingStarted (Text.size prompt) :: match outcome with
    | .error _ => []
    | .ok r =>
      match reply.interpretation? with
      | some _ => [.readingDone r.result.commands.length r.result.confidence]
      | none => [.readingFailed]

end EditPlan.Prompt
