import EditPlan.Number.Basic
import EditPlan.Text.Basic

/-!
Values of filter options: escaping, colours, and the tables of names.
-/

namespace EditPlan.Filter

/-!
## Escaping

Escaping a value inside a filter graph. The graph is unescaped twice, once when it is split into filters and once when a
filter is split into options, so a value is escaped for its options first and then for the graph.
-/

/-- characters with a meaning between the options of a filter -/
def optionSpecial : List Char := "\\':".toList

/-- characters with a meaning between the filters of a graph -/
def graphSpecial : List Char := "\\'[],;".toList

/-- text with a backslash before each special character -/
def backslash (special : List Char) (cs : List Char) : List Char :=
  cs.flatMap fun c => if special.contains c then ['\\', c] else [c]

/-- value that survives both unescaping passes -/
def escapeList (cs : List Char) : List Char := backslash graphSpecial (backslash optionSpecial cs)

/-- value that survives both unescaping passes -/
def escapeValue (s : String) : String := String.ofList (escapeList s.toList)

/-!
## Colours

Colours in filter arguments: colour temperatures in kelvin, and caption colours, which are written with alpha, blue,
green and red in this order and with alpha counted from opaque.
-/

open Number

/-- temperature that changes nothing, in kelvin -/
def neutralKelvin : Int := 6500

/-- kelvin per unit toward warm -/
def warmSlope : Int := 3000

/-- kelvin per unit toward cool -/
def coolSlope : Int := 2500

/-- colour temperature of an adjustment from -1 (cool) to 1 (warm) -/
def kelvin {ν : Type} [Number ν] (x : ν) : ν :=
  ofRat (neutralKelvin : Rat) + x * ofRat ((if zero < x then warmSlope else coolSlope : Int) : Rat)

/-! ### Caption colours -/

def opaqueWhite : List Char := "00FFFFFF".toList

/-- text without one leading number sign -/
def dropHash : List Char → List Char
  | '#' :: r => r
  | cs => cs

/-- caption colour of six or eight hexadecimal digits; anything else is opaque white -/
def captionDigits (cs : List Char) : List Char :=
  if cs.all Text.isHexDigit then
    match cs with
    | [r, r', g, g', b, b'] => ['0', '0'] ++ [b, b', g, g', r, r'].map Char.toUpper
    | [r, r', g, g', b, b', a, a'] =>
      Text.hexByte (255 - Text.hexPair a a') ++ [b, b', g, g', r, r'].map Char.toUpper
    | _ => opaqueWhite
  else opaqueWhite

/-- caption colour of a colour written as `#RRGGBB` or `#RRGGBBAA` -/
def captionColour (color : String) : String :=
  String.ofList (captionDigits (dropHash (Text.trimList Text.isBlank color.toList)))

end EditPlan.Filter

namespace EditPlan.Filter

/-!
## Names

The fixed tables of names that commands may use for looks, sizes and qualities. A name outside its table is not an error;
what it means then is decided where it is used.
-/

/-- filter stages of the colour presets -/
def colorPresets : List (String × List String) := [
  ("cinematic", ["eq=contrast=1.1:brightness=0.05:saturation=0.9", "curves=preset=cross_process",
    "colorbalance=rs=0.1:gs=-0.05:bs=-0.1"]),
  ("vintage", ["eq=saturation=0.7:contrast=1.1", "colorbalance=rs=0.2:gs=0.1:bs=-0.1", "curves=preset=vintage"]),
  ("vibrant", ["eq=saturation=1.4:contrast=1.1:brightness=0.02", "vibrance=intensity=0.3"]),
  ("moody", ["eq=contrast=1.2:brightness=-0.05:saturation=0.7", "colorbalance=rs=-0.1:gs=-0.1:bs=0.15"]),
  ("warm", ["colortemperature=temperature=6500", "eq=saturation=1.1", "colorbalance=rs=0.1:gs=0.05:bs=-0.1"]),
  ("cool", ["colortemperature=temperature=4500", "eq=saturation=0.95", "colorbalance=rs=-0.1:gs=0:bs=0.1"]),
  ("noir", ["eq=saturation=0:contrast=1.3:brightness=-0.1", "curves=preset=darker"])]

/-- frame sizes that exports are scaled into -/
def resolutions : List (String × (Nat × Nat)) :=
  [("4k", (3840, 2160)), ("1080p", (1920, 1080)), ("720p", (1280, 720)), ("480p", (854, 480))]

/-- crop widths as fractions of the input height -/
def aspectRatios : List (String × String) :=
  [("16:9", "16/9"), ("9:16", "9/16"), ("1:1", "1/1"), ("4:5", "4/5"), ("21:9", "21/9")]

/-- encoder options of the qualities -/
def qualityPresets : List (String × List String) := [
  ("high", ["-crf", "18", "-preset", "slow"]),
  ("medium", ["-crf", "23", "-preset", "medium"]),
  ("low", ["-crf", "28", "-preset", "fast"])]

/-- encoder options of the qualities for webm, in constant-quality mode -/
def webmQualityPresets : List (String × List String) := [
  ("high", ["-c:v", "libvpx-vp9", "-crf", "24", "-b:v", "0"]),
  ("medium", ["-c:v", "libvpx-vp9", "-crf", "31", "-b:v", "0"]),
  ("low", ["-c:v", "libvpx-vp9", "-crf", "38", "-b:v", "0"])]

/-- numeric-pad positions of captions -/
def captionAlignments : List (String × Nat) := [("bottom", 2), ("center", 5), ("top", 8)]

/-- position of captions whose place is not in the table -/
def defaultCaptionAlignment : Nat := 2

/-- stages of a colour preset; a preset outside the table has none -/
def presetStages (name : String) : List String := (colorPresets.lookup name).getD []

def captionAlignment (name : String) : Nat := (captionAlignments.lookup name).getD defaultCaptionAlignment

/-- options of a quality in a table; a quality outside it counts as medium -/
def qualityOptions (table : List (String × List String)) (name : String) : List String :=
  ((table.lookup name).or (table.lookup "medium")).getD []

end EditPlan.Filter
