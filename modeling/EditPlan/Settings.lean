import EditPlan.Json.Basic
import EditPlan.Text.Encoding
import EditPlan.Wire.Field
import EditPlan.Binary64.Text
import EditPlan.Text.LetterCase

/-!
Settings of the program, and the environment that they are read from.
-/

namespace EditPlan

/-!
## Environment

The environment of the program: names and values in bytes. It is set item by item, and the first item that cannot be set is
told. Bytes that are no UTF-8 show as halves of characters, and such halves can be set as well, so that what is read back
may be another text than the one that was set.
-/

/-- names and values, in the order in which they were set first -/
abbrev Environment := List (String × String)

namespace Environment

/-- why an environment cannot be set -/
inductive SetFault where
  /-- a value is no text -/
  | notText (value : Json)
  | encoding (f : Text.EncodingFault)
  | nullCharacter
  /-- a name holds the character that ends a name -/
  | illegalName
  | emptyName

def SetFault.message : SetFault → String
  | .notText value => "str expected, not " ++ value.sortName
  | .encoding f => f.message
  | .nullCharacter => "embedded null byte"
  | .illegalName => "illegal environment variable name"
  | .emptyName => "[Errno 22] Invalid argument"

def looseBytes (n : Nat) : List UInt8 :=
  if Text.isByteHalf n then [UInt8.ofNat (n - 0xdc00)] else Text.pointBytes n

/-- bytes of a text, if it has some -/
def bytes? (s : String) : Except SetFault (List UInt8) :=
  match Text.looseUtf8.fault? s with
  | some f => .error (.encoding f)
  | none => .ok ((Text.codePoints s).flatMap looseBytes)

def readBack (bytes : List UInt8) : String := Text.text (Text.utf8Points Text.byteHalves bytes)

/-- an item as it is read back after it was set -/
def item (member : String × Json) : Except SetFault (String × String) := do
  let name ← bytes? member.1
  match member.2 with
  | .str s =>
    let value ← bytes? s
    if name.contains 0 || value.contains 0 then throw .nullCharacter
    if name.contains '='.toUInt8 then throw .illegalName
    if name.isEmpty then throw .emptyName
    return (readBack name, readBack value)
  | value => throw (.notText value)

/-- environment in which the members of an object are set in their order -/
def ofObject (o : Object) : Except SetFault Environment := o.mapM item

end Environment

/-!
## Settings

Settings of the program, read from an environment. Names are compared without regard to letter case; of two names that
differ only in case the later one counts. Values are texts and are read as leniently as any field.
-/

open Wire

structure Settings where
  apiKey : String := ""
  model : String := "claude-sonnet-4-20250514"
  maxTokens : Int := 1024
  workDir : String := "/tmp/video-processing"
  sourceName : String := "input.mp4"
  silenceThreshold : Binary64 := Binary64.ofInt (-30)
  captionsFile : String := "captions.srt"
  binary : String := "ffmpeg"
  timeout : Int := 600
  logLevel : String := "INFO"
  logJson : Bool := false
  allowedOrigins : String := ""
  deriving DecidableEq

namespace Settings

/-- settings with the members of an object in place of those of `base` -/
def override (base : Settings) (o : Object) : Checked Settings :=
  let field := fun {α : Type} (name : String) (usual : α) (read : Json → Checked α) => optional o (.same name) usual read
  (field "anthropic_api_key" base.apiKey text).map Settings.mk
    |>.and (field "parser_model" base.model text)
    |>.and (field "parser_max_tokens" base.maxTokens integer)
    |>.and (field "work_dir" base.workDir text)
    |>.and (field "source_name" base.sourceName text)
    |>.and (field "default_silence_threshold_db" base.silenceThreshold number)
    |>.and (field "captions_filename" base.captionsFile text)
    |>.and (field "ffmpeg_binary" base.binary text)
    |>.and (field "ffmpeg_timeout_sec" base.timeout integer)
    |>.and (field "log_level" base.logLevel text)
    |>.and (field "log_json" base.logJson boolean)
    |>.and (field "allowed_origins" base.allowedOrigins text)

def ofNames (env : Environment) : Object :=
  env.foldl (fun o e => Object.put o (Text.lower e.1) (.str e.2)) []

def ofEnvironment (env : Environment) : Checked Settings := override {} (ofNames env)

def write (s : Settings) : Json :=
  .obj [("anthropic_api_key", .str s.apiKey), ("parser_model", .str s.model), ("parser_max_tokens", .int s.maxTokens),
    ("work_dir", .str s.workDir), ("source_name", .str s.sourceName),
    ("default_silence_threshold_db", .real s.silenceThreshold), ("captions_filename", .str s.captionsFile),
    ("ffmpeg_binary", .str s.binary), ("ffmpeg_timeout_sec", .int s.timeout), ("log_level", .str s.logLevel),
    ("log_json", .bool s.logJson), ("allowed_origins", .str s.allowedOrigins)]

end Settings

/-- the language model that is asked by default -/
structure ChatModel where
  name : String
  temperature : Int
  maxTokens : Int
  apiKey : String
  deriving DecidableEq, Repr

/-- language model of the settings, asked without randomness -/
def Settings.chatModel (s : Settings) : ChatModel := ⟨s.model, 0, s.maxTokens, s.apiKey⟩

end EditPlan
