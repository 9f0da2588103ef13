import EditPlan.Footage

/-!
Filter graphs with named pads, and the expressions that pick frames.
-/

namespace EditPlan.Filter

/-!
## Graphs

Filter graphs with named pads. A chain reads pads, applies filters and writes pads; a graph is a list of chains. The
graph of a cut trims each kept window on its own and joins the windows in order.
-/

open Number

/-- filters between the pads they read and the pads they write -/
structure Chain where
  inputs : List String
  filters : String
  outputs : List String
  deriving DecidableEq, Repr

def pad (name : String) : String := "[" ++ name ++ "]"

def Chain.text (c : Chain) : String := String.join (c.inputs.map pad) ++ c.filters ++ String.join (c.outputs.map pad)

def graphText (chains : List Chain) : String := String.intercalate "; " (chains.map Chain.text)

/-! ### The graph of a cut -/

variable {ν : Type} [Number ν]

/-- bounds of a window as filter options; an open window has no end -/
def windowOptions (w : Footage.Window ν) : String :=
  "start=" ++ sixPlaces w.start ++ (match w.stop with
    | some e => ":end=" ++ sixPlaces e
    | none => "")

def videoPad (i : Nat) : String := "v" ++ toString i

def audioPad (i : Nat) : String := "a" ++ toString i

def videoChain (i : Nat) (w : Footage.Window ν) : Chain :=
  ⟨["0:v"], "trim=" ++ windowOptions w ++ ",setpts=PTS-STARTPTS", [videoPad i]⟩

def audioChain (i : Nat) (w : Footage.Window ν) : Chain :=
  ⟨["0:a"], "atrim=" ++ windowOptions w ++ ",asetpts=PTS-STARTPTS", [audioPad i]⟩

/-- chains of the window with number `i` -/
def windowChains (withAudio : Bool) (i : Nat) (w : Footage.Window ν) : List Chain :=
  if withAudio then [videoChain i w, audioChain i w] else [videoChain i w]

/-- chains of the windows numbered from `i` -/
def windowsChains (withAudio : Bool) (i : Nat) : List (Footage.Window ν) → List Chain
  | [] => []
  | w :: rest => windowChains withAudio i w ++ windowsChains withAudio (i + 1) rest

/-- pads of the window with number `i`, sound right after the picture -/
def windowPads (withAudio : Bool) (i : Nat) : List String :=
  if withAudio then [videoPad i, audioPad i] else [videoPad i]

def cutOutputs (withAudio : Bool) : List String := if withAudio then ["outv", "outa"] else ["outv"]

def concatChain (withAudio : Bool) (n : Nat) : Chain :=
  ⟨(List.range n).flatMap (windowPads withAudio),
    "concat=n=" ++ toString n ++ ":v=1:a=" ++ (if withAudio then "1" else "0"), cutOutputs withAudio⟩

def cutChains (withAudio : Bool) (windows : List (Footage.Window ν)) : List Chain :=
  windowsChains withAudio 0 windows ++ [concatChain withAudio windows.length]

end EditPlan.Filter

namespace EditPlan.Filter

/-!
## Expressions

Expressions that pick frames. They are built as trees and written in the notation of the `select` filter, with
parentheses only around sums under a product.
-/

/-- an expression over the time of a frame and of the frame before it -/
inductive Expr where
  | time
  | previous
  | literal (text : String)
  | gte (a b : Expr)
  | lt (a b : Expr)
  | isnan (a : Expr)
  | add (a b : Expr)
  | mul (a b : Expr)
  deriving DecidableEq, Repr

namespace Expr

def isSum : Expr → Bool
  | .add .. => true
  | _ => false

/-- parentheses where they are needed -/
def parens (needed : Bool) (s : String) : String := if needed then "(" ++ s ++ ")" else s

def text : Expr → String
  | .time => "t"
  | .previous => "prev_t"
  | .literal s => s
  | .gte a b => "gte(" ++ a.text ++ "," ++ b.text ++ ")"
  | .lt a b => "lt(" ++ a.text ++ "," ++ b.text ++ ")"
  | .isnan a => "isnan(" ++ a.text ++ ")"
  | .add a b => a.text ++ "+" ++ b.text
  | .mul a b => parens a.isSum a.text ++ "*" ++ parens b.isSum b.text

/-- true on the first frame at or after the time written by `s` -/
def firstAt (s : String) : Expr :=
  .mul (.gte .time (.literal s)) (.add (.isnan .previous) (.lt .previous (.literal s)))

/-- sum of expressions, from left to right -/
def sum (first : Expr) (rest : List Expr) : Expr := rest.foldl .add first

end Expr

end EditPlan.Filter
