import EditPlan.Plan.Basic
import EditPlan.Wire.Field
import EditPlan.Binary64.Text

/-!
Plans as documents, and calls of ffmpeg out of documents.
-/

namespace EditPlan

open Wire

def writeTexts (ts : List String) : Json := .arr (ts.map .str)

namespace Invocation

def ofObject (o : Object) : Checked Invocation :=
  let field := fun (name : String) => FieldName.same name
  (required o (field "input_path") text).map Invocation.mk
    |>.and (required o (field "output_path") text)
    |>.and (optional o (field "filter_complex") none (nullable text))
    |>.and (optional o (field "maps") [] (list text))
    |>.and (optional o (field "video_filter") none (nullable text))
    |>.and (optional o (field "audio_filter") none (nullable text))
    |>.and (optional o (field "output_options") [] (list text))
    |>.and (optional o (field "binary") "ffmpeg" text)

def read : Json → Checked Invocation := record (.notRecord "FFmpegCommand") ofObject

def write (c : Invocation) : Json :=
  .obj [("input_path", .str c.input), ("output_path", .str c.output), ("filter_complex", orNull .str c.filterGraph),
    ("maps", writeTexts c.maps), ("video_filter", orNull .str c.videoFilter),
    ("audio_filter", orNull .str c.audioFilter), ("output_options", writeTexts c.outputOptions),
    ("binary", .str c.binary)]

end Invocation

def Footage.Window.write (w : Footage.Window Binary64) : Json := .arr [.real w.start, orNull .real w.stop]

/-- what an operation was made of, as a document -/
def Detail.write : Detail Binary64 → Json
  | .trim start length => .obj [("start", .real start), ("duration", .real length)]
  | .cut kept => .obj [("keep_segments", .arr (kept.map Footage.Window.write))]
  | .removeSilence threshold minDuration padding =>
    .obj [("threshold", .real threshold), ("min_duration", .real minDuration), ("padding", .real padding)]
  | .addCaptions file style => .obj [("captions_file", .str file), ("force_style", .str style)]
  | .colorCorrection preset stages => .obj [("preset", orNull .str preset), ("stages", writeTexts stages)]
  | .audio action filter => .obj [("action", .str action), ("filter", .str filter)]
  | .transition style position => .obj [("transition_type", .str style), ("position", .str position)]
  | .effect name intensity => .obj [("effect_name", .str name), ("intensity", .real intensity)]
  | .exportVideo format resolution aspectRatio quality fps =>
    .obj [("format", .str format), ("resolution", .str resolution), ("aspect_ratio", .str aspectRatio),
      ("quality", .str quality), ("fps", .real fps)]
  | .thumbnail count style timestamps =>
    .obj [("count", .int count), ("style", .str style), ("timestamps", .arr (timestamps.map .real))]

def Operation.write (op : Operation Binary64) : Json :=
  .obj [("kind", .str op.kind.tag), ("params", op.detail.write), ("ffmpeg", op.invocation.write),
    ("description", .str op.description), ("estimated_duration", .real op.estimate), ("output_file", .str op.output),
    ("command", .str op.invocation.render), ("input_file", .str op.input), ("args", writeTexts op.invocation.arguments)]

def Plan.write (p : Plan Binary64) : Json :=
  .obj [("operations", .arr (p.operations.map Operation.write)), ("final_output", .str p.finalOutput)]

end EditPlan
