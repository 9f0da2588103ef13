import EditPlan.Json.Basic
import EditPlan.Number.Basic

/-!
The edit language, and the physical ranges of its numbers.
-/

namespace EditPlan

/-!
## Commands

The edit language: ten kinds of command and, for a tag outside them, a command that is kept but not understood. Times,
levels and factors are numbers of a type `ν`; option values (presets, positions, formats) are free text that later
stages recognise or ignore.
-/

/-- the ten kinds of command that are understood -/
inductive Kind where
  | trim
  | cut
  | removeSilence
  | addCaptions
  | colorCorrection
  | audio
  | transition
  | effect
  | exportVideo
  | thumbnail
  deriving DecidableEq, Repr

namespace Kind

def tag : Kind → String
  | .trim => "trim"
  | .cut => "cut"
  | .removeSilence => "remove_silence"
  | .addCaptions => "add_captions"
  | .colorCorrection => "color_correction"
  | .audio => "audio"
  | .transition => "transition"
  | .effect => "effect"
  | .exportVideo => "export"
  | .thumbnail => "thumbnail"

def all : List Kind :=
  [.trim, .cut, .removeSilence, .addCaptions, .colorCorrection, .audio, .transition, .effect, .exportVideo, .thumbnail]

def ofTag? (s : String) : Option Kind := all.find? fun k => k.tag == s

theorem ofTag?_tag (k : Kind) : ofTag? k.tag = some k := by cases k <;> decide

end Kind

/-- a stretch of the video that a cut removes -/
structure Segment (ν : Type) where
  start : ν
  stop : ν
  deriving DecidableEq, Repr

structure CaptionStyle where
  fontFamily : String := "Arial"
  fontSize : Int := 24
  fontColor : String := "#FFFFFF"
  backgroundColor : String := "#000000CC"
  position : String := "bottom"
  outline : Bool := true
  deriving DecidableEq, Repr

/-- colour adjustments, each from -1 to 1 and absent if nothing is adjusted -/
structure ColorAdjustments (ν : Type) where
  brightness : Option ν := none
  contrast : Option ν := none
  saturation : Option ν := none
  temperature : Option ν := none
  tint : Option ν := none
  exposure : Option ν := none
  deriving DecidableEq, Repr

structure AudioParams (ν : Type) where
  volume : Option ν := none
  musicUrl : Option String := none
  musicVolume : Option ν := none
  fadeDuration : Option ν := none
  noiseReduction : Option ν := none
  deriving DecidableEq, Repr

inductive Command (ν : Type) where
  | trim (start stop : ν)
  | cut (segments : List (Segment ν))
  | removeSilence (threshold : Option ν) (minDuration padding : ν)
  | addCaptions (style : CaptionStyle) (language : String)
  | colorCorrection (adjustments : ColorAdjustments ν) (preset : Option String)
  | audio (action : String) (params : AudioParams ν)
  | transition (style : String) (duration : ν) (position : String)
  | effect (name : String) (intensity : ν) (params : Object)
  | exportVideo (format resolution aspectRatio quality : String) (fps : ν)
  | thumbnail (count : Int) (style : String) (timestamps : Option (List ν))
  | unknown (tag : String) (extras : Object)

namespace Command

variable {ν : Type}

/-- kind of a command; a command that is not understood has none -/
def kind? : Command ν → Option Kind
  | .trim .. => some .trim
  | .cut .. => some .cut
  | .removeSilence .. => some .removeSilence
  | .addCaptions .. => some .addCaptions
  | .colorCorrection .. => some .colorCorrection
  | .audio .. => some .audio
  | .transition .. => some .transition
  | .effect .. => some .effect
  | .exportVideo .. => some .exportVideo
  | .thumbnail .. => some .thumbnail
  | .unknown .. => none

def tag : Command ν → String
  | .unknown tag _ => tag
  | .trim .. => Kind.trim.tag
  | .cut .. => Kind.cut.tag
  | .removeSilence .. => Kind.removeSilence.tag
  | .addCaptions .. => Kind.addCaptions.tag
  | .colorCorrection .. => Kind.colorCorrection.tag
  | .audio .. => Kind.audio.tag
  | .transition .. => Kind.transition.tag
  | .effect .. => Kind.effect.tag
  | .exportVideo .. => Kind.exportVideo.tag
  | .thumbnail .. => Kind.thumbnail.tag

theorem tag_of_kind? {c : Command ν} {k : Kind} (h : c.kind? = some k) : c.tag = k.tag := by
  cases c <;> simp only [kind?, Option.some.injEq, reduceCtorEq] at h <;> subst h <;> rfl

end Command

end EditPlan

namespace EditPlan

/-!
## Ranges

Bringing the numbers of a command into their physical ranges. Nothing is refused: a value outside its range becomes the
nearer end, a NaN becomes the upper end, and the order of a start and an end is left alone. End times are bounded by the
duration of the video where it is known.
-/

open Number

variable {ν : Type} [Number ν]

/-- a start time is not before the beginning -/
def limitStart (t : ν) : ν := atLeast zero t

/-- an end time is not after the end of the video, where that is known -/
def limitEnd (duration : Option ν) (t : ν) : ν :=
  match duration with
  | some d => atMost d t
  | none => t

def limitLevel (x : ν) : ν := clamp x (ofRat (-1)) one

def limitShare (x : ν) : ν := clamp x zero one

def limitVolume (x : ν) : ν := clamp x zero (ofRat 2)

/-- a segment within the video -/
def Segment.limit (duration : Option ν) (s : Segment ν) : Segment ν :=
  ⟨limitStart s.start, limitEnd duration s.stop⟩

/-- colour adjustments within their range -/
def ColorAdjustments.limit (a : ColorAdjustments ν) : ColorAdjustments ν where
  brightness := a.brightness.map limitLevel
  contrast := a.contrast.map limitLevel
  saturation := a.saturation.map limitLevel
  temperature := a.temperature.map limitLevel
  tint := a.tint.map limitLevel
  exposure := a.exposure.map limitLevel

/-- settings of an audio command within their ranges; the fade and the music are free -/
def AudioParams.limit (p : AudioParams ν) : AudioParams ν :=
  { p with
    volume := p.volume.map limitVolume
    musicVolume := p.musicVolume.map limitShare
    noiseReduction := p.noiseReduction.map limitShare }

namespace Command

def limit (duration : Option ν) : Command ν → Command ν
  | .trim start stop => .trim (limitStart start) (limitEnd duration stop)
  | .cut segments => .cut (segments.map (Segment.limit duration))
  | .colorCorrection adjustments preset => .colorCorrection adjustments.limit preset
  | .audio action params => .audio action params.limit
  | .effect name intensity params => .effect name (limitShare intensity) params
  | c => c

end Command

def limitCommands (duration : Option ν) (cs : List (Command ν)) : List (Command ν) := cs.map (Command.limit duration)

end EditPlan
