import EditPlan.Command.Basic
import EditPlan.Footage
import EditPlan.Number.Basic

/-!
A plan, and what is remembered while it is made.
-/

namespace EditPlan.Shell

/-!
## Lines of shell

Argument vectors as one line of shell. A word of safe characters stands as it is, any other word is put in single quotes,
and a single quote inside a word is written in double quotes between two single-quoted parts.
-/

def apostrophe : Char := Char.ofNat 39

/-- characters that mean nothing to a shell -/
def isSafe (c : Char) : Bool :=
  ('a' ≤ c && c ≤ 'z') || ('A' ≤ c && c ≤ 'Z') || ('0' ≤ c && c ≤ '9') || "@%+=:,./-_".toList.contains c

/-- a character between single quotes -/
def quotedChar (c : Char) : List Char := if c = apostrophe then "'\"'\"'".toList else [c]

/-- a word as a shell reads it back -/
def quoteList (w : List Char) : List Char :=
  if !w.isEmpty && w.all isSafe then w else apostrophe :: w.flatMap quotedChar ++ [apostrophe]

/-- words with one space between them -/
def joinList : List (List Char) → List Char
  | [] => []
  | [w] => quoteList w
  | w :: v :: rest => quoteList w ++ ' ' :: joinList (v :: rest)

/-- argument vector as one line -/
def join (args : List String) : String := String.ofList (joinList (args.map String.toList))

end EditPlan.Shell

namespace EditPlan

/-!
## Operations

A plan: a chain of operations, each one call of ffmpeg that reads one file and writes one file. An operation carries the
call as data; it becomes an argument vector or a line of shell only at the end.
-/

/-- one call of ffmpeg -/
structure Invocation where
  input : String
  output : String
  filterGraph : Option String := none
  maps : List String := []
  videoFilter : Option String := none
  audioFilter : Option String := none
  outputOptions : List String := []
  binary : String := "ffmpeg"
  deriving DecidableEq, Repr

namespace Invocation

/-- an option with its value, left out if the value is absent or empty -/
def valueOption (flag : String) : Option String → List String
  | some v => if v.isEmpty then [] else [flag, v]
  | none => []

def arguments (c : Invocation) : List String :=
  [c.binary, "-y", "-i", c.input] ++ valueOption "-filter_complex" c.filterGraph ++ c.maps.flatMap (["-map", ·])
    ++ valueOption "-vf" c.videoFilter ++ valueOption "-af" c.audioFilter ++ c.outputOptions ++ [c.output]

def render (c : Invocation) : String := Shell.join c.arguments

end Invocation

/-- what an operation was made of -/
inductive Detail (ν : Type) where
  | trim (start length : ν)
  | cut (kept : List (Footage.Window ν))
  | removeSilence (threshold minDuration padding : ν)
  | addCaptions (captionsFile forceStyle : String)
  | colorCorrection (preset : Option String) (stages : List String)
  | audio (action filter : String)
  | transition (style position : String)
  | effect (name : String) (intensity : ν)
  | exportVideo (format resolution aspectRatio quality : String) (fps : ν)
  | thumbnail (count : Int) (style : String) (timestamps : List ν)

def Detail.kind {ν : Type} : Detail ν → Kind
  | .trim .. => .trim
  | .cut .. => .cut
  | .removeSilence .. => .removeSilence
  | .addCaptions .. => .addCaptions
  | .colorCorrection .. => .colorCorrection
  | .audio .. => .audio
  | .transition .. => .transition
  | .effect .. => .effect
  | .exportVideo .. => .exportVideo
  | .thumbnail .. => .thumbnail

structure Operation (ν : Type) where
  detail : Detail ν
  invocation : Invocation
  description : String
  /-- expected running time in seconds, a rule of thumb -/
  estimate : ν

namespace Operation

variable {ν : Type}

def kind (op : Operation ν) : Kind := op.detail.kind

def input (op : Operation ν) : String := op.invocation.input

def output (op : Operation ν) : String := op.invocation.output

end Operation

/-- operations in order, and the file that the last one writes -/
structure Plan (ν : Type) where
  operations : List (Operation ν)
  finalOutput : String

def Plan.commands {ν : Type} (p : Plan ν) : List String := p.operations.map fun op => op.invocation.render

end EditPlan

namespace EditPlan

/-!
## State

What a plan remembers between two commands: how many numbered files there are, how long the video is by now, and whether
the source has sound. `advance` says how a command moves this state; it does so also when the operation of the command
cannot be made.
-/

open Number

/-- state between two commands -/
structure State (ν : Type) where
  /-- numbered files made so far -/
  counter : Nat
  /-- duration of the current video, if known -/
  duration : Option ν
  /-- whether the source has a sound track -/
  hasAudio : Bool
  deriving DecidableEq, Repr

variable {ν : Type} [Number ν]

/-! ### Speed -/

/-- factor by which an effect stretches time; other effects have none -/
def speedFactor? (effect : String) (intensity : ν) : Option ν :=
  if effect = "slow_motion" then some (one + intensity)
  else if effect = "speed_up" then some (one - intensity * half)
  else none

/-- whether an effect cannot be made because sound cannot be sped up without bound -/
def stallsOn (hasAudio : Bool) (factor : ν) : Bool := hasAudio && isZero factor

/-! ### Moving on -/

namespace Command

/-- duration after a trim from `start` to `stop` -/
def trimmed (start stop : ν) : ν := atLeast zero (stop - start)

/-- duration of a video of which the segments are cut away; zero if nothing is kept -/
def cutDuration (segments : List (Segment ν)) (duration : Option ν) : Option ν :=
  match Footage.kept segments duration with
  | [] => some zero
  | windows => Footage.totalLength windows

def durationAfter (s : State ν) : Command ν → Option ν
  | .trim start stop => some (trimmed start stop)
  | .cut segments => cutDuration segments s.duration
  | .effect name intensity _ =>
    match speedFactor? name intensity with
    | some f => if stallsOn s.hasAudio f then s.duration else s.duration.map (· * f)
    | none => s.duration
  | _ => s.duration

def numbersItsFile : Command ν → Bool
  | .exportVideo .. => false
  | .thumbnail .. => false
  | .unknown .. => false
  | _ => true

def advance (s : State ν) (c : Command ν) : State ν where
  counter := if c.numbersItsFile then s.counter + 1 else s.counter
  duration := c.durationAfter s
  hasAudio := s.hasAudio

end Command

end EditPlan
