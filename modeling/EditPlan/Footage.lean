import EditPlan.Command.Basic
import EditPlan.MergeSort.Runs
import EditPlan.Number.Basic

/-!
Which footage a cut keeps. Removals are visited in the order of their starts; a window is kept wherever the next removal
starts after the end of the one before it. Removals are not merged.

The order is the order of the starts, equal starts staying as they were. For a start that compares with nothing (NaN)
there is no such order; then the procedure of `MergeSort.sort` fixes the places of all. Where all starts compare it would
give the same row.
-/

namespace EditPlan.Footage

open Number

variable {ν : Type} [Number ν]

/-- footage that is kept; a window without `stop` goes on to the end -/
structure Window (ν : Type) where
  start : ν
  stop : Option ν
  deriving DecidableEq, Repr

/-! ## Order of the removals -/

def startsBefore (a b : Segment ν) : Bool := decide (a.start < b.start)

/-- row of removals with one more, behind all that do not start after it -/
def place (row : List (Segment ν)) (s : Segment ν) : List (Segment ν) :=
  row.takeWhile (fun t => !startsBefore s t) ++ s :: row.dropWhile (fun t => !startsBefore s t)

/-- removals in the order in which they are visited -/
def inOrder (segments : List (Segment ν)) : List (Segment ν) :=
  if segments.all fun s => isComparable s.start then segments.foldl place []
  else MergeSort.sort startsBefore segments

/-! ## Windows between the removals -/

/-- windows between removals in order, from `cursor` on, and the place after the last removal -/
def between (cursor : ν) : List (Segment ν) → List (Window ν) × ν
  | [] => ([], cursor)
  | s :: rest =>
    let (windows, last) := between s.stop rest
    (if cursor < s.start then ⟨cursor, some s.start⟩ :: windows else windows, last)

/-- window after the last removal: open if the duration is unknown, none if nothing is left -/
def ending (cursor : ν) : Option ν → List (Window ν)
  | none => [⟨cursor, none⟩]
  | some d => if cursor < d then [⟨cursor, some d⟩] else []

/-- footage that stays after removing the segments -/
def kept (segments : List (Segment ν)) (duration : Option ν) : List (Window ν) :=
  let (windows, last) := between zero (inOrder segments)
  windows ++ ending last duration

/-- length of a window; an open one has none -/
def Window.length? (w : Window ν) : Option ν := w.stop.map fun e => e - w.start

/-- total length of windows; unknown if one of them is open -/
def totalLength (windows : List (Window ν)) : Option ν :=
  (windows.mapM Window.length?).map sum

end EditPlan.Footage
