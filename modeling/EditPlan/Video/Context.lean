import EditPlan.Wire.Field
import EditPlan.Binary64.Text

/-!
What is known about the source video: its duration and frame size, if known, and whether it has a sound track. Durations
and sizes are positive; a NaN is not.
-/

namespace EditPlan

open Wire

/-- size of a frame in pixels -/
structure Resolution where
  width : Int
  height : Int
  deriving DecidableEq, Repr

/-- what is known about the source video -/
structure VideoContext (ν : Type) where
  duration : Option ν := none
  hasAudio : Bool := true
  resolution : Option Resolution := none
  deriving DecidableEq

def positiveInteger (j : Json) : Checked Int :=
  match integer j with
  | .accepted n => if 0 < n then .accepted n else .refuse .notPositive
  | .refused cs => .refused cs

def positiveNumber (j : Json) : Checked Binary64 :=
  match number j with
  | .accepted x => if Number.zero < x then .accepted x else .refuse .notPositive
  | .refused cs => .refused cs

/-- size of a frame from its two numbers -/
def Resolution.ofParts (width height : Checked Int) : Checked Resolution := Checked.both Resolution.mk width height

/-- fields of a frame size -/
def Resolution.ofObject (o : Object) : Checked Resolution :=
  Resolution.ofParts (required o Field.width positiveInteger) (required o Field.height positiveInteger)

namespace VideoContext

/-- fields of a context; `notObject` tells what a part is missing that should be an object -/
def ofObject (notResolution : Cause) (o : Object) : Checked (VideoContext Binary64) :=
  (((optional o Field.duration none (nullable positiveNumber)).map VideoContext.mk).and
    (optional o Field.hasAudio true boolean)).and
    (optional o Field.resolution none (nullable (record notResolution Resolution.ofObject)))

def read : Json → Checked (VideoContext Binary64) :=
  record (.notRecord "VideoContext") (ofObject (.notRecord "Resolution"))

/-- a context inside a request -/
def readAttributes : Json → Checked (VideoContext Binary64) := record .notAttributes (ofObject .notAttributes)

/-- a frame size as a document -/
def writeResolution (style : Style) (r : Resolution) : Json :=
  .obj (style.record [(Field.width, .int r.width), (Field.height, .int r.height)])

def write (style : Style) (c : VideoContext Binary64) : Json :=
  .obj (style.record [(Field.duration, orNull .real c.duration), (Field.hasAudio, .bool c.hasAudio),
    (Field.resolution, orNull (writeResolution style) c.resolution)])

end VideoContext

/-! ## Looking at a clip -/

/-- what opening a clip shows: its size list, its duration and whether it has sound -/
structure Clip where
  size : List Json
  duration : Json
  hasAudio : Bool

/-- why a clip gives no context -/
inductive ProbeFault where
  | tooManySizes
  | tooFewSizes (got : Nat)
  | refused (complaints : List Complaint)
  deriving Repr

/-- wording of a probe fault; complaints are told one by one instead -/
def ProbeFault.message : ProbeFault → String
  | .tooManySizes => "too many values to unpack (expected 2)"
  | .tooFewSizes got => "not enough values to unpack (expected 2, got " ++ toString got ++ ")"
  | .refused _ => ""

/-- context of a clip: the size is looked at first, on its own -/
def Clip.context (clip : Clip) : Except ProbeFault (VideoContext Binary64) :=
  match clip.size with
  | [] => .error (.tooFewSizes 0)
  | [_] => .error (.tooFewSizes 1)
  | [w, h] =>
    match Resolution.ofParts ((positiveInteger w).under (.key "width")) ((positiveInteger h).under (.key "height")) with
    | .refused cs => .error (.refused cs)
    | .accepted r =>
      match (nullable positiveNumber clip.duration).under (.key "duration") with
      | .refused cs => .error (.refused cs)
      | .accepted d => .ok ⟨d, clip.hasAudio, some r⟩
  | _ => .error .tooManySizes

end EditPlan
