import EditPlan.Wire.Complaint
import EditPlan.Json.Basic
import EditPlan.Binary64.Text
import EditPlan.Numeral

/-!
Reading and writing the fields of documents, and their names.
-/

namespace EditPlan.Wire

/-!
## Fields

Reading the fields of a document. A field has a name on the wire and a plain name; the wire name is looked up first. The
coercions are lenient: a number may be written as text, a truth value as a number or a word.
-/

/-- name of a field inside the program and on the wire -/
structure FieldName where
  plain : String
  wire : String
  deriving DecidableEq, Repr

def FieldName.same (name : String) : FieldName := ⟨name, name⟩

/-- the name under which a field is present, with its value -/
def find? (o : Object) (n : FieldName) : Option (String × Json) :=
  match Object.get? o n.wire with
  | some v => some (n.wire, v)
  | none => (Object.get? o n.plain).map fun v => (n.plain, v)

def required {α : Type} (o : Object) (n : FieldName) (read : Json → Checked α) : Checked α :=
  match find? o n with
  | some (k, v) => (read v).under (.key k)
  | none => .refused [⟨[.key n.wire], .missing⟩]

/-- a field that has a value when it is absent -/
def optional {α : Type} (o : Object) (n : FieldName) (default : α) (read : Json → Checked α) : Checked α :=
  match find? o n with
  | some (k, v) => (read v).under (.key k)
  | none => .accepted default

/-! ### Coercions -/

/-- why a text is refused as a value of another sort; half a character is told before anything else -/
def unreadable (s : String) (cause : Cause) : Cause := if Text.isWhole s then cause else .notUnicode

/-- a number: a number, a truth value or a numeral -/
def number : Json → Checked Binary64
  | .real x => .accepted x
  | .int n => .ofOption .notNumber (Binary64.ofInt? n).toOption
  | .bool b => .accepted (Binary64.ofInt (if b then 1 else 0))
  | .str s => .ofOption (unreadable s .unreadableNumber) (Numeral.number? s)
  | _ => .refuse .notNumber

/-- bound of the whole doubles that are taken as whole numbers and of the numbers looked at for a truth value -/
def wideLimit : Nat := 9223372036854775808

/-- a whole number: a number without fraction, a truth value or a whole numeral -/
def integer : Json → Checked Int
  | .int n => .accepted n
  | .bool b => .accepted (if b then 1 else 0)
  | .real (.finite s u _) =>
    if !Binary64.isWhole u then .refuse .fractionalInteger
    else if Binary64.wholePart u < wideLimit then .accepted (Binary64.withSign s (Binary64.wholePart u))
    else .refuse .oversizeInteger
  | .real _ => .refuse .infiniteInteger
  | .str s =>
    match Numeral.whole s with
    | .ok n => .accepted n
    | .error .unreadable => .refuse (unreadable s .unreadableInteger)
    | .error .oversize => .refuse (unreadable s .oversizeInteger)
  | _ => .refuse .notInteger

def trueWords : List String := ["1", "on", "t", "true", "y", "yes"]

def falseWords : List String := ["0", "off", "f", "false", "n", "no"]

/-- truth value of zero and one -/
def ofBit (n : Int) : Checked Bool :=
  if n = 0 then .accepted false else if n = 1 then .accepted true else .refuse .unreadableBoolean

/-- a truth value: itself, zero or one, or a word in any letter case -/
def boolean : Json → Checked Bool
  | .bool b => .accepted b
  | .int n => if -(wideLimit : Int) ≤ n ∧ n < wideLimit then ofBit n else .refuse .notBoolean
  | .real (.finite s u _) =>
    if Binary64.isWhole u && decide (Binary64.wholePart u < wideLimit) then
      ofBit (Binary64.withSign s (Binary64.wholePart u))
    else .refuse .notBoolean
  | .str s =>
    let w := String.ofList (s.toList.map Char.toLower)
    if trueWords.contains w then .accepted true
    else if falseWords.contains w then .accepted false
    else .refuse (unreadable s .unreadableBoolean)
  | _ => .refuse .notBoolean

def text : Json → Checked String
  | .str s => .accepted s
  | _ => .refuse .notText

def nullable {α : Type} (read : Json → Checked α) : Json → Checked (Option α)
  | .null => .accepted none
  | j => (read j).map some

def list {α : Type} (read : Json → Checked α) : Json → Checked (List α)
  | .arr xs => Checked.each read xs
  | _ => .refuse .notList

/-- an object with arbitrary members -/
def dictionary : Json → Checked Object
  | .obj o => .accepted o
  | _ => .refuse .notDictionary

/-- a record: an object whose fields `read` accepts -/
def record {α : Type} (notObject : Cause) (read : Object → Checked α) : Json → Checked α
  | .obj o => read o
  | _ => .refuse notObject

/-! ### Writing -/

/-- how records are written: under wire or plain names, with or without null fields -/
structure Style where
  wireNames : Bool
  omitNulls : Bool
  deriving DecidableEq, Repr

/-- wire names, nulls kept -/
def Style.full : Style := ⟨true, false⟩

/-- wire names, nulls left out -/
def Style.brief : Style := ⟨true, true⟩

def Style.keep (style : Style) (members : Object) : Object :=
  if style.omitNulls then members.filter fun m => !m.2.isNull else members

def Style.record (style : Style) (fields : List (FieldName × Json)) : Object :=
  style.keep (fields.map fun f => (if style.wireNames then f.1.wire else f.1.plain, f.2))

def orNull {α : Type} (write : α → Json) : Option α → Json
  | some a => write a
  | none => .null

end EditPlan.Wire

namespace EditPlan.Field

/-!
## Names

The names of the fields of all documents, in one place, by the documents in which they first occur. A name of several
words is written in one way on the wire and in another inside the program.
-/

open Wire

/-! ### Commands -/

def type : FieldName := .same "type"
def startTime : FieldName := ⟨"start_time", "startTime"⟩
def endTime : FieldName := ⟨"end_time", "endTime"⟩
def segments : FieldName := .same "segments"
def threshold : FieldName := .same "threshold"
def minDuration : FieldName := ⟨"min_duration", "minDuration"⟩
def padding : FieldName := .same "padding"
def style : FieldName := .same "style"
def language : FieldName := .same "language"
def adjustments : FieldName := .same "adjustments"
def preset : FieldName := .same "preset"
def action : FieldName := .same "action"
def params : FieldName := .same "params"
def transitionType : FieldName := ⟨"transition_type", "transitionType"⟩
def duration : FieldName := .same "duration"
def position : FieldName := .same "position"
def effectName : FieldName := ⟨"effect_name", "effectName"⟩
def intensity : FieldName := .same "intensity"
def format : FieldName := .same "format"
def resolution : FieldName := .same "resolution"
def aspectRatio : FieldName := ⟨"aspect_ratio", "aspectRatio"⟩
def quality : FieldName := .same "quality"
def fps : FieldName := .same "fps"
def count : FieldName := .same "count"
def timestamps : FieldName := .same "timestamps"

/-! ### Caption styles -/

def fontFamily : FieldName := ⟨"font_family", "fontFamily"⟩
def fontSize : FieldName := ⟨"font_size", "fontSize"⟩
def fontColor : FieldName := ⟨"font_color", "fontColor"⟩
def backgroundColor : FieldName := ⟨"background_color", "backgroundColor"⟩
def outline : FieldName := .same "outline"

/-! ### Colour adjustments -/

def brightness : FieldName := .same "brightness"
def contrast : FieldName := .same "contrast"
def saturation : FieldName := .same "saturation"
def temperature : FieldName := .same "temperature"
def tint : FieldName := .same "tint"
def exposure : FieldName := .same "exposure"

/-! ### Audio settings -/

def volume : FieldName := .same "volume"
def musicUrl : FieldName := ⟨"music_url", "musicUrl"⟩
def musicVolume : FieldName := ⟨"music_volume", "musicVolume"⟩
def fadeDuration : FieldName := ⟨"fade_duration", "fadeDuration"⟩
def noiseReduction : FieldName := ⟨"noise_reduction", "noiseReduction"⟩

/-! ### Video contexts -/

def width : FieldName := .same "width"
def height : FieldName := .same "height"
def hasAudio : FieldName := ⟨"has_audio", "hasAudio"⟩

/-! ### Interpretations -/

def commands : FieldName := .same "commands"
def explanation : FieldName := .same "explanation"
def confidence : FieldName := .same "confidence"
def warnings : FieldName := .same "warnings"

/-! ### Requests and answers -/

def prompt : FieldName := .same "prompt"
def videoContext : FieldName := ⟨"video_context", "videoContext"⟩
def ffmpegCommands : FieldName := ⟨"ffmpeg_commands", "ffmpegCommands"⟩

end EditPlan.Field
