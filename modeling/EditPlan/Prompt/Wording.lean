import EditPlan.Video.Context

/-!
What a language model is told: the catalogue of commands, and a message with the request and what is known about the
video. The places of a template that are filled in are kept apart from its fixed parts.
-/

namespace EditPlan.Prompt

def lines (ls : List String) : String := String.intercalate "\n" ls

/-- the catalogue of commands and how to read times -/
def catalogue : String := lines [
  "You turn natural-language video editing requests into structured commands.",
  "",
  "Fill in the result with:",
  "\x7b\"commands\": [...], \"explanation\": \"what will be done\", \"confidence\": 0.0-1.0, \"warnings\": [\"optional\"]\x7d",
  "",
  "Command catalogue (times in seconds):",
  "",
  "1. trim: keep one range",
  "   \x7b\"type\": \"trim\", \"startTime\": 0, \"endTime\": 10\x7d",
  "2. cut: remove ranges",
  "   \x7b\"type\": \"cut\", \"segments\": [\x7b\"startTime\": 12, \"endTime\": 18\x7d]\x7d",
  "3. remove_silence",
  "   \x7b\"type\": \"remove_silence\", \"threshold\": -30, \"minDuration\": 1, \"padding\": 0.2\x7d",
  "4. add_captions",
  "   \x7b\"type\": \"add_captions\", \"style\": \x7b\"fontFamily\": \"Arial\", \"fontSize\": 24, \"fontColor\": \"#FFFFFF\",",
  "    \"backgroundColor\": \"#000000CC\", \"position\": \"bottom\" | \"top\" | \"center\", \"outline\": true\x7d, \"language\": \"en\"\x7d",
  "5. color_correction: adjustments each -1 to 1, preset optional",
  "   \x7b\"type\": \"color_correction\", \"adjustments\": \x7b\"brightness\": 0, \"contrast\": 0, \"saturation\": 0,",
  "    \"temperature\": 0, \"tint\": 0, \"exposure\": 0\x7d,",
  "    \"preset\": \"cinematic\" | \"vintage\" | \"vibrant\" | \"moody\" | \"warm\" | \"cool\" | \"noir\"\x7d",
  "6. audio",
  "   \x7b\"type\": \"audio\", \"action\": \"normalize\" | \"reduce_noise\" | \"add_music\" | \"adjust_volume\" | \"ducking\" | \"fade_in\" | \"fade_out\",",
  "    \"params\": \x7b\"volume\": 0-2, \"musicVolume\": 0-1, \"fadeDuration\": 1, \"noiseReduction\": 0-1\x7d\x7d",
  "7. transition",
  "   \x7b\"type\": \"transition\", \"transitionType\": \"fade\" | \"dissolve\" | \"wipe\" | \"slide\" | \"zoom\" | \"blur\",",
  "    \"duration\": 1, \"position\": \"between_clips\" | \"start\" | \"end\" | \"all\"\x7d",
  "8. effect: intensity 0 to 1",
  "   \x7b\"type\": \"effect\", \"effectName\": \"blur\" | \"sharpen\" | \"vignette\" | \"film_grain\" | \"slow_motion\" | \"speed_up\"",
  "    | \"stabilize\" | \"zoom_in\" | \"zoom_out\", \"intensity\": 0.5, \"params\": \x7b\x7d\x7d",
  "9. export",
  "   \x7b\"type\": \"export\", \"format\": \"mp4\" | \"mov\" | \"webm\" | \"gif\", \"resolution\": \"4k\" | \"1080p\" | \"720p\" | \"480p\" | \"original\",",
  "    \"aspectRatio\": \"16:9\" | \"9:16\" | \"1:1\" | \"4:5\" | \"21:9\" | \"original\", \"quality\": \"high\" | \"medium\" | \"low\", \"fps\": 30\x7d",
  "10. thumbnail",
  "   \x7b\"type\": \"thumbnail\", \"count\": 3, \"style\": \"auto\" | \"text_overlay\" | \"collage\", \"timestamps\": [optional seconds]\x7d",
  "",
  "Reading times:",
  "- \"first 10 seconds\" -> startTime 0, endTime 10",
  "- \"from 1:30 to 2:15\" -> startTime 90, endTime 135",
  "- \"last 30 seconds\" needs the video duration",
  "- \"the beginning\" / \"the end\" -> roughly the first / last 5 seconds",
  "",
  "Combine several commands, in execution order, for compound requests."]

/-- a text with places to fill in: fixed parts and names of places -/
inductive Piece where
  | fixed (text : String)
  | place (name : String)
  deriving DecidableEq, Repr

/-- a template as it is written, places in braces -/
def templateText (pieces : List Piece) : String :=
  String.join (pieces.map fun
    | .fixed t => t
    | .place n => "\x7b" ++ n ++ "\x7d")

/-- a template with the values of its places filled in -/
def fill (values : List (String × String)) (pieces : List Piece) : String :=
  String.join (pieces.map fun
    | .fixed t => t
    | .place n => (values.lookup n).getD "")

/-- the message of a request -/
def userTemplate : List Piece :=
  [.place "context", .fixed "\nUser request: \"", .place "prompt",
    .fixed "\"\n\nParse this request into video editing commands."]

/-- what is said about the video -/
def contextTemplate : List Piece :=
  [.fixed "Video context:\n- Duration: ", .place "duration", .fixed " seconds (", .place "duration_mmss",
    .fixed ")\n- Has audio: ", .place "has_audio", .fixed "\n- Resolution: ", .place "resolution", .fixed "\n"]

/-- what is said about a frame size -/
def resolutionText : Option Resolution → Except Fault String
  | some r => do
    let width ← Numeral.text r.width
    let height ← Numeral.text r.height
    return width ++ "x" ++ height
  | none => .ok "unknown"

/-- duration in the message, as a number and as `m:ss` -/
def durationTexts : Option Binary64 → Except Fault (String × String)
  | some d => (Binary64.clock d).map fun c => (d.text, c)
  | none => .ok ("unknown", "unknown")

/-- what is said about a video; nothing is said if nothing is known -/
def contextText : Option (VideoContext Binary64) → Except Fault String
  | none => .ok ""
  | some c => do
    let (duration, clock) ← durationTexts c.duration
    let resolution ← resolutionText c.resolution
    return fill [("duration", duration), ("duration_mmss", clock), ("has_audio", if c.hasAudio then "true" else "false"),
      ("resolution", resolution)] contextTemplate

def userMessage (prompt context : String) : String :=
  fill [("context", context), ("prompt", prompt)] userTemplate

/-- what the user is told when a request was not understood -/
def fallbackExplanation : String := "I couldn't understand that request. Please try rephrasing."

/-- warning when a request was not understood -/
def fallbackWarning : String := "Failed to parse the request. Please try again with a clearer description."

end EditPlan.Prompt
