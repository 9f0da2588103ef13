import EditPlan.Command.Basic
import EditPlan.Wire.Field

/-!
Commands as documents. The tag selects the fields that are read; a tag outside the ten keeps all other members as they
are. Written documents carry every field, so that reading them again finds the same command.

A list of commands is read item by item, except that a tag which is itself a list or an object stops the whole list.
-/

namespace EditPlan

open Wire

/-! ## Reading -/

/-- a double given as a quotient, for default values -/
def ratio (p q : Nat) : Binary64 := Binary64.ofRatio false p q

def Segment.ofObject (o : Object) : Checked (Segment Binary64) :=
  Checked.both Segment.mk (required o Field.startTime number) (required o Field.endTime number)

def Segment.read : Json → Checked (Segment Binary64) := record (.notRecord "TimeRange") Segment.ofObject

/-- look of captions; absent fields have their usual values -/
def CaptionStyle.ofObject (o : Object) : Checked CaptionStyle :=
  let usual : CaptionStyle := {}
  (((((optional o Field.fontFamily usual.fontFamily text).map CaptionStyle.mk).and
    (optional o Field.fontSize usual.fontSize integer)).and
    (optional o Field.fontColor usual.fontColor text)).and
    (optional o Field.backgroundColor usual.backgroundColor text)).and
    (optional o Field.position usual.position text) |>.and
    (optional o Field.outline usual.outline boolean)

def CaptionStyle.read : Json → Checked CaptionStyle := record (.notRecord "CaptionStyle") CaptionStyle.ofObject

/-- colour adjustments; absent fields adjust nothing -/
def ColorAdjustments.ofObject (o : Object) : Checked (ColorAdjustments Binary64) :=
  let level := fun n => optional o n none (nullable number)
  (((((level Field.brightness).map ColorAdjustments.mk).and (level Field.contrast)).and (level Field.saturation)).and
    (level Field.temperature)).and (level Field.tint) |>.and (level Field.exposure)

def ColorAdjustments.read : Json → Checked (ColorAdjustments Binary64) :=
  record (.notRecord "ColorAdjustments") ColorAdjustments.ofObject

/-- settings of an audio command; absent fields are unset -/
def AudioParams.ofObject (o : Object) : Checked (AudioParams Binary64) :=
  let level := fun n => optional o n none (nullable number)
  ((((level Field.volume).map AudioParams.mk).and (optional o Field.musicUrl none (nullable text))).and
    (level Field.musicVolume)).and (level Field.fadeDuration) |>.and (level Field.noiseReduction)

def AudioParams.read : Json → Checked (AudioParams Binary64) := record (.notRecord "AudioParams") AudioParams.ofObject

namespace Command

def ofObject (o : Object) : Kind → Checked (Command Binary64)
  | .trim => Checked.both .trim (required o Field.startTime number) (required o Field.endTime number)
  | .cut => (optional o Field.segments [] (list Segment.read)).map .cut
  | .removeSilence =>
    (((optional o Field.threshold none (nullable number)).map .removeSilence).and
      (optional o Field.minDuration (ratio 1 1) number)).and (optional o Field.padding (ratio 1 5) number)
  | .addCaptions =>
    Checked.both .addCaptions (optional o Field.style {} CaptionStyle.read) (optional o Field.language "en" text)
  | .colorCorrection =>
    Checked.both .colorCorrection (optional o Field.adjustments {} ColorAdjustments.read)
      (optional o Field.preset none (nullable text))
  | .audio => Checked.both .audio (required o Field.action text) (optional o Field.params {} AudioParams.read)
  | .transition =>
    (((required o Field.transitionType text).map .transition).and
      (optional o Field.duration (ratio 1 1) number)).and (optional o Field.position "all" text)
  | .effect =>
    (((required o Field.effectName text).map .effect).and
      (optional o Field.intensity (ratio 1 2) number)).and (optional o Field.params [] dictionary)
  | .exportVideo =>
    ((((optional o Field.format "mp4" text).map .exportVideo).and (optional o Field.resolution "original" text)).and
      (optional o Field.aspectRatio "original" text)).and (optional o Field.quality "medium" text) |>.and
      (optional o Field.fps (ratio 30 1) number)
  | .thumbnail =>
    (((optional o Field.count 1 integer).map .thumbnail).and (optional o Field.style "auto" text)).and
      (optional o Field.timestamps none (nullable (list number)))

/-- step into the reading of a command that is not understood -/
def unknownStep : Step := .key "unknown"

/-- a command that is not understood: its tag, and every other member as it is. A name with half a character is refused
before anything else -/
def unknownOfObject (o : Object) : Checked (Command Binary64) :=
  if o.all fun m => Text.isWhole m.1 then
    (required o Field.type text).map fun tag => .unknown tag (o.filter fun m => m.1 != "type")
  else .refuse .notUnicode

/-- kind that the tag of an object selects -/
def kindOfObject? (o : Object) : Option Kind :=
  match Object.get? o "type" with
  | some (.str s) => Kind.ofTag? s
  | _ => none

def read : Json → Checked (Command Binary64)
  | .obj o =>
    match kindOfObject? o with
    | some k => (ofObject o k).under (.key k.tag)
    | none => (unknownOfObject o).under unknownStep
  | _ => (Checked.refuse (.notRecord "UnknownCommand")).under unknownStep

end Command

/-- why a document with commands cannot be read -/
inductive Misread where
  | refused (complaints : List Complaint)
  | listTag
  | objectTag
  deriving Repr

namespace Misread

/-- wording where one text has to tell everything; complaints are told one by one instead -/
def message : Misread → String
  | .refused _ => ""
  | .listTag => "unhashable type: 'list'"
  | .objectTag => "unhashable type: 'dict'"

end Misread

/-- a tag that is itself a list or an object -/
def compoundTag? : Json → Option Misread
  | .obj o =>
    match Object.get? o "type" with
    | some (.arr _) => some .listTag
    | some (.obj _) => some .objectTag
    | _ => none
  | _ => none

/-- first compound tag in a document that should hold a list of commands -/
def firstCompoundTag? : Json → Option Misread
  | .arr xs => xs.findSome? compoundTag?
  | _ => none

/-- a list of commands without compound tags -/
def readPlainCommands : Json → Checked (List (Command Binary64)) := list Command.read

def readCommands (j : Json) : Except Misread (List (Command Binary64)) :=
  match firstCompoundTag? j with
  | some m => .error m
  | none =>
    match readPlainCommands j with
    | .accepted cs => .ok cs
    | .refused complaints => .error (.refused complaints)

/-! ## Writing -/

def Segment.write (style : Style) (s : Segment Binary64) : Json :=
  .obj (style.record [(Field.startTime, .real s.start), (Field.endTime, .real s.stop)])

def CaptionStyle.write (style : Style) (s : CaptionStyle) : Json :=
  .obj (style.record [(Field.fontFamily, .str s.fontFamily), (Field.fontSize, .int s.fontSize),
    (Field.fontColor, .str s.fontColor), (Field.backgroundColor, .str s.backgroundColor),
    (Field.position, .str s.position), (Field.outline, .bool s.outline)])

def ColorAdjustments.write (style : Style) (a : ColorAdjustments Binary64) : Json :=
  .obj (style.record [(Field.brightness, orNull .real a.brightness), (Field.contrast, orNull .real a.contrast),
    (Field.saturation, orNull .real a.saturation), (Field.temperature, orNull .real a.temperature),
    (Field.tint, orNull .real a.tint), (Field.exposure, orNull .real a.exposure)])

def AudioParams.write (style : Style) (p : AudioParams Binary64) : Json :=
  .obj (style.record [(Field.volume, orNull .real p.volume), (Field.musicUrl, orNull .str p.musicUrl),
    (Field.musicVolume, orNull .real p.musicVolume), (Field.fadeDuration, orNull .real p.fadeDuration),
    (Field.noiseReduction, orNull .real p.noiseReduction)])

namespace Command

/-- fields of a command besides its tag -/
def fields (style : Style) : Command Binary64 → List (FieldName × Json)
  | .trim start stop => [(Field.startTime, .real start), (Field.endTime, .real stop)]
  | .cut segments => [(Field.segments, .arr (segments.map (Segment.write style)))]
  | .removeSilence threshold minDuration padding =>
    [(Field.threshold, orNull .real threshold), (Field.minDuration, .real minDuration), (Field.padding, .real padding)]
  | .addCaptions look language => [(Field.style, look.write style), (Field.language, .str language)]
  | .colorCorrection adjustments preset =>
    [(Field.adjustments, adjustments.write style), (Field.preset, orNull .str preset)]
  | .audio action params => [(Field.action, .str action), (Field.params, params.write style)]
  | .transition name duration position =>
    [(Field.transitionType, .str name), (Field.duration, .real duration), (Field.position, .str position)]
  | .effect name intensity params =>
    [(Field.effectName, .str name), (Field.intensity, .real intensity), (Field.params, .obj params)]
  | .exportVideo format resolution aspectRatio quality fps =>
    [(Field.format, .str format), (Field.resolution, .str resolution), (Field.aspectRatio, .str aspectRatio),
      (Field.quality, .str quality), (Field.fps, .real fps)]
  | .thumbnail count look timestamps =>
    [(Field.count, .int count), (Field.style, .str look),
      (Field.timestamps, orNull (fun ts => .arr (ts.map .real)) timestamps)]
  | .unknown .. => []

/-- a command as a document; members of a command that is not understood keep their names -/
def write (style : Style) : Command Binary64 → Json
  | .unknown tag extras => .obj (("type", .str tag) :: style.keep extras)
  | c => .obj (style.record ((Field.type, .str c.tag) :: c.fields style))

end Command

def writeCommands (style : Style) (cs : List (Command Binary64)) : Json := .arr (cs.map (Command.write style))

end EditPlan
