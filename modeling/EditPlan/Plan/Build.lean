import EditPlan.Plan.Basic
import EditPlan.Filter.Value
import EditPlan.Filter.Graph
import EditPlan.Text.LetterCase

/-!
The operation of a command: one definition for each kind. The state is the one before the command; the input is the file
that the operation reads. Only numbers can stand in the way of an operation; an option that is not recognised falls back
to the plainest rendering.
-/

namespace EditPlan

open Number EditPlan.Filter

variable {ν : Type} [Number ν]

/-- what stays the same for all plans of one source -/
structure Setup (ν : Type) where
  source : String
  /-- directory of all files that are written, without slashes at its end -/
  workDir : String
  binary : String
  captionsFile : String
  /-- level below which sound counts as silence where a command does not say -/
  silenceThreshold : ν

namespace Setup

def file (setup : Setup ν) (name : String) : String := setup.workDir ++ "/" ++ name

def numberedFile (setup : Setup ν) (s : State ν) : String :=
  setup.file ("temp_" ++ toString (s.counter + 1) ++ ".mp4")

end Setup

/-- filters joined by commas; none at all is the filter that does nothing -/
def stagesOrNull (stages : List String) : String := if stages.isEmpty then "null" else String.intercalate "," stages

/-- where a fade out of the length starts: at the beginning if the duration is unknown -/
def fadeOutStart (s : State ν) (fade : ν) : ν :=
  match s.duration with
  | some d => atLeast zero (d - fade)
  | none => zero

def copySound : List String := ["-c:a", "copy"]

def copyPicture : List String := ["-c:v", "copy"]

namespace Build

variable (setup : Setup ν) (s : State ν) (input : String)

/-- a call that reads the input and writes the next numbered file -/
def numbered : Invocation where
  input := input
  output := setup.numberedFile s
  binary := setup.binary

/-! ## Time -/

def trim (start stop : ν) : Except Fault (Operation ν) := do
  let startText ← clock start
  let stopText ← clock stop
  return {
    detail := .trim start (stop - start)
    invocation := { numbered setup s input with
      outputOptions := ["-ss", sixPlaces start, "-t", sixPlaces (stop - start), "-c", "copy"] }
    description := "Trim video from " ++ startText ++ " to " ++ stopText
    estimate := Command.trimmed start stop * ofRat (1 / 10) }

/-- estimate of a cut -/
def cutEstimate : ν :=
  match s.duration with
  | some d => d * ofRat (3 / 10)
  | none => ofRat 30

/-- removes stretches; if nothing stays, an empty file is written -/
def cut (segments : List (Segment ν)) : Operation ν :=
  let kept := Footage.kept segments s.duration
  { detail := .cut kept
    invocation :=
      if kept.isEmpty then { numbered setup s input with outputOptions := ["-t", "0"] }
      else { numbered setup s input with
        filterGraph := some (graphText (cutChains s.hasAudio kept))
        maps := (cutOutputs s.hasAudio).map pad }
    description := "Cut " ++ toString segments.length ++ " segment(s) from video"
    estimate := cutEstimate s }

/-! ## Sound -/

/-- filter that drops silence at the front -/
def silenceFilter (threshold minDuration padding : ν) : String :=
  "silenceremove=start_periods=1:start_duration=" ++ sixPlaces minDuration ++ ":start_threshold=" ++
    sixPlaces threshold ++ "dB:start_silence=" ++ sixPlaces padding ++ ":detection=peak"

/-- drops silence at both ends: at the front, and at the front of the reversed sound -/
def removeSilence (threshold : Option ν) (minDuration padding : ν) : Operation ν :=
  let level := threshold.getD setup.silenceThreshold
  let detect := silenceFilter level minDuration padding
  { detail := .removeSilence level minDuration padding
    invocation := { numbered setup s input with
      audioFilter := some (String.intercalate "," [detect, "areverse", detect, "areverse"])
      outputOptions := copyPicture }
    description := "Remove silent parts (threshold: " ++ sixPlaces level ++ "dB, min duration: " ++
      sixPlaces minDuration ++ "s)"
    estimate := ofRat 30 }

/-- length of a fade: one second unless a length other than zero is given -/
def fadeLength (fade : Option ν) : ν :=
  match fade with
  | some d => if isZero d then one else d
  | none => one

/-- filter and description of an audio action; an action that is not recognised changes nothing -/
def audioFilter (action : String) (params : AudioParams ν) : Except Fault (String × String) :=
  if action = "normalize" then .ok ("loudnorm=I=-16:TP=-1.5:LRA=11", "Normalize audio levels")
  else if action = "reduce_noise" then
    let reduction := params.noiseReduction.getD half
    .ok ("afftdn=nf=-" ++ sixPlaces (ofRat 20 + reduction * ofRat 30), "Reduce background noise")
  else if action = "adjust_volume" then do
    let volume := params.volume.getD one
    let percent ← nearestInt (volume * ofRat 100)
    return ("volume=" ++ sixPlaces volume, "Adjust volume to " ++ toString percent ++ "%")
  else if action = "fade_in" then
    let fade := fadeLength params.fadeDuration
    .ok ("afade=t=in:st=0:d=" ++ sixPlaces fade, "Add " ++ sixPlaces fade ++ "s audio fade in")
  else if action = "fade_out" then
    let fade := fadeLength params.fadeDuration
    .ok ("afade=t=out:st=" ++ sixPlaces (fadeOutStart s fade) ++ ":d=" ++ sixPlaces fade,
      "Add " ++ sixPlaces fade ++ "s audio fade out")
  else .ok ("anull", "Process audio")

def audio (action : String) (params : AudioParams ν) : Except Fault (Operation ν) := do
  let (filter, description) ← audioFilter s action params
  return {
    detail := .audio action filter
    invocation := { numbered setup s input with audioFilter := some filter, outputOptions := copyPicture }
    description := description
    estimate := ofRat 20 }

/-! ## Picture -/

/-- look of captions in the notation of the subtitle filter -/
def forceStyle (style : CaptionStyle) : Except Fault String := do
  let size ← Numeral.text style.fontSize
  return String.intercalate "," [
    "FontName=" ++ style.fontFamily,
    "FontSize=" ++ size,
    "PrimaryColour=&H" ++ captionColour style.fontColor,
    "BackColour=&H" ++ captionColour style.backgroundColor,
    "Alignment=" ++ toString (captionAlignment style.position),
    "Outline=" ++ (if style.outline then "1" else "0")]

def addCaptions (style : CaptionStyle) (language : String) : Except Fault (Operation ν) := do
  let path := setup.file setup.captionsFile
  let look ← forceStyle style
  return {
    detail := .addCaptions path look
    invocation := { numbered setup s input with
      videoFilter := some ("subtitles=" ++ escapeValue path ++ ":force_style=" ++ escapeValue look)
      outputOptions := copySound }
    description := "Add " ++ language ++ " captions with " ++ style.fontFamily ++ " font"
    estimate := ofRat 60 }

/-- a named number in a filter, if it is given -/
def namedNumber (name : String) (value : Option ν) : List String :=
  match value with
  | some x => [name ++ "=" ++ sixPlaces x]
  | none => []

/-- the preset's name, unless it is empty -/
def presetName? : Option String → Option String
  | some p => if p.isEmpty then none else some p
  | none => none

/-- brightness, contrast and saturation in one filter, if any is given -/
def eqStage (a : ColorAdjustments ν) : List String :=
  let parts := namedNumber "brightness" a.brightness ++ namedNumber "contrast" (a.contrast.map (one + ·))
    ++ namedNumber "saturation" (a.saturation.map (one + ·))
  if parts.isEmpty then [] else ["eq=" ++ String.intercalate ":" parts]

/-- filter stages of a colour correction -/
def colorStages (a : ColorAdjustments ν) (preset : Option String) : List String :=
  ((presetName? preset).map presetStages).getD [] ++ eqStage a
    ++ namedNumber "colortemperature=temperature" (a.temperature.map kelvin)

def colorCorrection (a : ColorAdjustments ν) (preset : Option String) : Operation ν :=
  { detail := .colorCorrection preset (colorStages a preset)
    invocation := { numbered setup s input with
      videoFilter := some (stagesOrNull (colorStages a preset)), outputOptions := copySound }
    description := match presetName? preset with
      | some p => "Apply " ++ p ++ " color preset"
      | none => "Apply color adjustments"
    estimate := ofRat 45 }

/-- whether a transition has a rendering of its own -/
def isRendered (style : String) : Bool := style == "fade" || style == "blur"

/-- filter of a transition; one without a rendering of its own becomes a fade in -/
def transitionFilter (style : String) (duration : ν) (position : String) : String :=
  let length := sixPlaces duration
  if style = "fade" then
    stagesOrNull ((if position = "start" ∨ position = "all" then ["fade=t=in:st=0:d=" ++ length] else []) ++
      if position = "end" ∨ position = "all" then
        ["fade=t=out:st=" ++ sixPlaces (fadeOutStart s duration) ++ ":d=" ++ length] else [])
  else if style = "blur" then
    "boxblur=luma_radius=min(h\\,w)/20:luma_power=1:enable='between(t,0," ++ length ++ ")'"
  else "fade=t=in:st=0:d=" ++ length

def transition (style : String) (duration : ν) (position : String) : Operation ν :=
  { detail := .transition style position
    invocation := { numbered setup s input with
      videoFilter := some (transitionFilter s style duration position), outputOptions := copySound }
    description := "Add " ++ style ++ " transition"
    estimate := ofRat 15 }

/-! ## Effects -/

/-- picture filter of an effect that does not touch time; one that is not recognised changes nothing -/
def effectFilter (name : String) (intensity : ν) : Except Fault String :=
  if name = "blur" then do
    let radius ← nearestInt (intensity * ofRat 10)
    return "boxblur=" ++ toString radius ++ ":" ++ toString radius
  else if name = "sharpen" then
    let amount := sixPlaces (intensity * ofRat 2)
    .ok ("unsharp=5:5:" ++ amount ++ ":5:5:" ++ amount)
  else if name = "vignette" then .ok ("vignette=angle=" ++ sixPlaces (half + intensity * half))
  else if name = "film_grain" then do
    let amount ← nearestInt (intensity * ofRat 50)
    return "noise=alls=" ++ toString amount ++ ":allf=t"
  else if name = "stabilize" then .ok "vidstabdetect,vidstabtransform"
  else if name = "zoom_in" then
    let zoom := sixPlaces (one + intensity * half)
    .ok ("scale=trunc(iw*" ++ zoom ++ "/2)*2:trunc(ih*" ++ zoom ++ "/2)*2,crop=iw/" ++ zoom ++ ":ih/" ++ zoom)
  else if name = "zoom_out" then
    let zoom := sixPlaces (one + intensity * half)
    .ok ("scale=trunc(iw/" ++ zoom ++ "/2)*2:trunc(ih/" ++ zoom ++ "/2)*2,pad=trunc(iw*" ++ zoom ++
      "/2)*2:trunc(ih*" ++ zoom ++ "/2)*2:(ow-iw)/2:(oh-ih)/2")
  else .ok "null"

/-- filters and options of an effect: picture, sound, options -/
def effectParts (name : String) (intensity : ν) : Except Fault (String × Option String × List String) :=
  match speedFactor? name intensity with
  | some factor =>
    let picture := "setpts=" ++ sixPlaces factor ++ "*PTS"
    if stallsOn s.hasAudio factor then .error .divisionByZero
    else if s.hasAudio then .ok (picture, some ("atempo=" ++ sixPlaces (one / factor)), [])
    else .ok (picture, none, copySound)
  | none => do
    let picture ← effectFilter name intensity
    return (picture, none, copySound)

def effect (name : String) (intensity : ν) : Except Fault (Operation ν) := do
  let (picture, sound, options) ← effectParts s name intensity
  return {
    detail := .effect name intensity
    invocation := { numbered setup s input with
      videoFilter := some picture, audioFilter := sound, outputOptions := options }
    description := "Apply " ++ name ++ " effect"
    estimate := ofRat 30 }

/-! ## Results -/

/-- filter stages of an export; sizes and ratios that are not recognised change nothing -/
def exportStages (resolution aspectRatio : String) : List String :=
  (match resolutions.lookup resolution with
    | some (w, h) => ["scale=" ++ toString w ++ ":" ++ toString h ++ ":force_original_aspect_ratio=decrease"]
    | none => []) ++
  (match aspectRatios.lookup aspectRatio with
    | some r => ["crop=ih*" ++ r ++ ":ih"]
    | none => [])

def exportRate (fps : ν) : ν := clamp fps one (ofRat 120)

def exportOptions (format quality : String) : List String :=
  if format = "gif" then ["-an"]
  else if format = "webm" then qualityOptions webmQualityPresets quality ++ ["-c:a", "libopus"]
  else qualityOptions qualityPresets quality ++ ["-c:a", "aac"]

def exportVideo (format resolution aspectRatio quality : String) (fps : ν) : Operation ν :=
  let stages := exportStages resolution aspectRatio
  { detail := .exportVideo format resolution aspectRatio quality (exportRate fps)
    invocation := {
      input := input
      output := setup.file ("output." ++ format)
      binary := setup.binary
      videoFilter := if stages.isEmpty then none else some (String.intercalate "," stages)
      outputOptions := ["-r", sixPlaces (exportRate fps)] ++ exportOptions format quality }
    description := "Export as " ++ resolution ++ " " ++ Text.upper format ++ " (" ++ aspectRatio ++ ")"
    estimate := ofRat 60 }

/-- times that divide the duration into equal gaps, without the first and the last frame -/
def spreadTimes (duration : ν) (count : Int) : Except Fault (List ν) := do
  let gaps ← ofInt? (count + 1)
  let interval := duration / gaps
  return (List.range count.toNat).map fun i => interval * ofRat ((i + 1 : Nat) : Rat)

/-- times of thumbnails: those given, else spread over the duration, else none -/
def thumbnailTimes (count : Int) (timestamps : Option (List ν)) : Except Fault (List ν) :=
  match timestamps with
  | some (t :: ts) => .ok (t :: ts)
  | _ =>
    match s.duration with
    | some d => spreadTimes d count
    | none => .ok []

/-- filter that picks the frames of thumbnails: one per second if no times are known -/
def thumbnailFilter (times : List ν) : String :=
  match times with
  | [] => "fps=1,scale=1920:-1"
  | t :: ts =>
    let term := fun x => Expr.firstAt (sixPlaces x)
    "select='" ++ (Expr.sum (term t) (ts.map term)).text ++ "',scale=1920:-1"

def thumbnailFrames (count : Int) (times : List ν) : Int := if times.isEmpty then count else times.length

/-- text of the number of frames; the length of a list is a machine number, which always has one -/
def framesText (count : Int) (times : List ν) : Except Fault String :=
  if times.isEmpty then Numeral.text count else .ok (toString times.length)

/-- writes single frames -/
def thumbnail (count : Int) (style : String) (timestamps : Option (List ν)) : Except Fault (Operation ν) := do
  let count := max 1 count
  let times ← thumbnailTimes s count timestamps
  let frames ← framesText count times
  return {
    detail := .thumbnail (thumbnailFrames count times) style times
    invocation := {
      input := input
      output := setup.file "thumbnail_%03d.jpg"
      binary := setup.binary
      videoFilter := some (thumbnailFilter times)
      outputOptions := ["-vsync", "vfr", "-frames:v", frames] }
    description := "Generate " ++ frames ++ " thumbnail(s)"
    estimate := ofRat 10 }

end Build

/-- operation of a command; a command that is not understood has none -/
def Command.build (setup : Setup ν) (s : State ν) (input : String) : Command ν → Except Fault (Option (Operation ν))
  | .trim start stop => (Build.trim setup s input start stop).map some
  | .cut segments => .ok (some (Build.cut setup s input segments))
  | .removeSilence threshold minDuration padding =>
    .ok (some (Build.removeSilence setup s input threshold minDuration padding))
  | .addCaptions style language => (Build.addCaptions setup s input style language).map some
  | .colorCorrection adjustments preset => .ok (some (Build.colorCorrection setup s input adjustments preset))
  | .audio action params => (Build.audio setup s input action params).map some
  | .transition style duration position => .ok (some (Build.transition setup s input style duration position))
  | .effect name intensity _ => (Build.effect setup s input name intensity).map some
  | .exportVideo format resolution aspectRatio quality fps =>
    .ok (some (Build.exportVideo setup input format resolution aspectRatio quality fps))
  | .thumbnail count style timestamps => (Build.thumbnail setup s input count style timestamps).map some
  | .unknown .. => .ok none

end EditPlan
