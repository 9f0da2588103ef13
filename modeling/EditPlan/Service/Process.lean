import EditPlan.Json.Text
import EditPlan.Text.Encoding
import EditPlan.Text.LetterCase
import EditPlan.Text.Basic
import EditPlan.Plan.Planner
import EditPlan.Prompt.Reading
import EditPlan.Wire.Complaint

/-!
Answering a request for an edit: what its body says, and the answer to it.
-/

namespace EditPlan.Service

/-!
## Bodies

What the body of a request says. Only a JSON content type makes a body a document; its encoding is told by its bytes.
-/

/-- what a request carries -/
inductive Body where
  | absent
  | document (j : Json)
  /-- text that is no JSON -/
  | malformed
  /-- JSON past the bounds of the reader, or bytes in no encoding -/
  | unreadable
  /-- bytes that are not said to be JSON -/
  | opaqueBytes

namespace Body

/-- bounds of the documents that the service reads -/
def bounds : Json.Reader.Bounds := ⟨967, Numeral.mostDigits⟩

/-- whether a content type is JSON or built on JSON; parameters and letter case do not count -/
def isJsonType (contentType : String) : Bool :=
  let kind := Text.lower (Text.strip (String.ofList (contentType.toList.takeWhile (· != ';'))))
  match Text.splitOn '/' kind.toList with
  | [main, sub] => main == "application".toList && (sub == "json".toList || "+json".toList.isSuffixOf sub)
  | _ => false

/-- code points without a byte order mark in front -/
def dropMark (ns : List Nat) : List Nat := if ns.head? = some 0xfeff then ns.tail else ns

def ofJsonBytes (bytes : List UInt8) : Body :=
  let encoding := Text.Encoding.ofBytes bytes
  match encoding.decode? bytes with
  | none => .unreadable
  | some ns =>
    match Json.read bounds ((if encoding = .utf8 then dropMark ns else ns).flatMap Text.ofCodePoint) with
    | .ok j => .document j
    | .error .malformed => .malformed
    | .error _ => .unreadable

/-- body of bytes; nothing at all is no body -/
def ofBytes (contentType : String) (bytes : List UInt8) : Body :=
  if bytes.isEmpty then .absent else if isJsonType contentType then ofJsonBytes bytes else .opaqueBytes

/-- body of a document that is sent as JSON text -/
def ofDocument (contentType : String) (j : Json) : Body :=
  if !isJsonType contentType then .opaqueBytes
  else if bounds.depth < j.levels 0 || !j.isShort then .unreadable
  else .document j

end Body

/-!
## Requests and answers

Answering a request for an edit: the request is checked, a blank prompt is refused, the prompt is read, and where a video
context was given the commands are planned. The order of these steps decides which refusal an answer gives.
-/

open Wire

structure EditRequest where
  prompt : Option String
  context : Option (VideoContext Binary64)
  deriving DecidableEq

def EditRequest.ofObject (o : Object) : Checked EditRequest :=
  Checked.both EditRequest.mk (optional o Field.prompt none (nullable text))
    (optional o Field.videoContext none (nullable VideoContext.readAttributes))

def EditRequest.read : Json → Checked EditRequest := record .notAttributes EditRequest.ofObject

/-- why a body is no request -/
inductive Refusal where
  | complaints (cs : List Complaint)
  /-- the body cannot be read -/
  | unreadable
  /-- the refused parts would have to be shown, and one of them cannot be written -/
  | unwritable

/-- request in a document, or what is refused about it; a refused part that cannot be written cannot be told -/
def EditRequest.ofDocument (j : Json) : Except Refusal EditRequest :=
  match EditRequest.read j with
  | .accepted r => .ok r
  | .refused cs =>
    if cs.all fun c => ((c.about? j).map Json.isWritable).getD true then
      .error (.complaints (cs.map (Complaint.under (.key "body"))))
    else .error .unwritable

def Body.request : Body → Except Refusal EditRequest
  | .absent => .error (.complaints [⟨[.key "body"], .missing⟩])
  | .malformed => .error (.complaints [⟨[.key "body"], .malformedJson⟩])
  | .opaqueBytes => .error (.complaints [⟨[.key "body"], .notAttributes⟩])
  | .unreadable => .error .unreadable
  | .document j => EditRequest.ofDocument j

inductive Answer where
  /-- there is no request -/
  | refused (refusal : Refusal)
  /-- there is nothing to do -/
  | noPrompt
  /-- a number stood in the way -/
  | failed (fault : Fault)
  /-- commands, and their lines of shell where a context was given -/
  | done (result : Prompt.Interpretation) (ffmpegCommands : List String)

/-- lines of shell for the commands of a result, and the events of planning them; without a context nothing is planned -/
def shellLines (settings : Settings) (context : Option (VideoContext Binary64)) (r : Prompt.Interpretation) :
    Except Fault (List String) × List Journal.Event :=
  if r.commands.isEmpty || context.isNone then (.ok [], [])
  else
    let outcome := (Planner.ofSettings settings settings.sourceName none none).plan context r.commands
    (outcome.result.map Plan.commands, outcome.events)

/-- answer to a request whose prompt says something -/
def answerPrompt (settings : Settings) (reply : Prompt.Reply) (prompt : String)
    (context : Option (VideoContext Binary64)) : Answer × List Journal.Event :=
  let reading := Prompt.read prompt context reply
  let readingEvents := Prompt.readingEvents prompt reply reading
  match reading with
  | .error fault => (.failed fault, readingEvents ++ [.requestFailed])
  | .ok r =>
    match shellLines settings context r.result with
    | (.error fault, events) => (.failed fault, readingEvents ++ events ++ [.requestFailed])
    | (.ok lines, events) =>
      (.done r.result lines, readingEvents ++ events ++
        [.requestDone r.result.commands.length lines.length r.result.confidence])

def answer (settings : Settings) (reply : Prompt.Reply) (body : Body) : Answer × List Journal.Event :=
  match body.request with
  | .error refusal => (.refused refusal, [])
  | .ok request =>
    match request.prompt with
    | some p => if Text.isBlankText p then (.noPrompt, []) else answerPrompt settings reply p request.context
    | none => (.noPrompt, [])

namespace Answer

def status : Answer → Nat
  | .refused (.complaints _) => 422
  | .refused .unreadable => 400
  | .refused .unwritable => 500
  | .noPrompt => 400
  | .failed _ => 500
  | .done .. => 200

/-- an answer that tells only what went wrong -/
def errorDocument (message : String) : Json := .obj [("success", .bool false), ("error", .str message)]

def detail (j : Json) : Json := .obj [("detail", j)]

def stepDocument : Step → Json
  | .key name => .str name
  | .index i => .int i

def complaintDocument (c : Complaint) : Json :=
  .obj [("loc", .arr (c.place.map stepDocument)), ("type", .str c.cause.code), ("msg", .str c.cause.message)]

/-- result of an answer: null fields are left out -/
def resultDocument (r : Prompt.Interpretation) (ffmpegCommands : List String) : Json :=
  .obj (Style.brief.record [(Field.commands, writeCommands .brief r.commands),
    (Field.explanation, .str r.explanation), (Field.confidence, .real r.confidence),
    (Field.warnings, orNull (fun ws => .arr (ws.map .str)) r.warnings),
    (Field.ffmpegCommands, .arr (ffmpegCommands.map .str))])

mutual

/-- document in which numbers that are not finite are null -/
def finiteOnly : Json → Json
  | .real x => if x.isFinite then .real x else .null
  | .arr items => .arr (finiteItems items)
  | .obj members => .obj (finiteMembers members)
  | j => j

/-- items in which numbers that are not finite are null -/
def finiteItems : List Json → List Json
  | [] => []
  | j :: js => finiteOnly j :: finiteItems js

/-- members in which numbers that are not finite are null -/
def finiteMembers : List (String × Json) → List (String × Json)
  | [] => []
  | (k, j) :: ms => (k, finiteOnly j) :: finiteMembers ms

end

/-- document of an answer; one about parts that cannot be written is empty -/
def document : Answer → Json
  | .refused (.complaints cs) => detail (.arr (cs.map complaintDocument))
  | .refused .unreadable => detail (.str "There was an error parsing the body")
  | .refused .unwritable => .null
  | .noPrompt => errorDocument "Prompt is required"
  | .failed fault => errorDocument fault.message
  | .done r ffmpegCommands =>
    finiteOnly (.obj [("success", .bool true), ("result", resultDocument r ffmpegCommands)])

/-- most levels of an answer, values in the innermost list or object counted as one more -/
def mostLevels : Nat := 258

def isWritten : Answer → Bool
  | .refused .unwritable => false
  | a => a.document.isWritable && a.document.levels 1 ≤ mostLevels

end Answer

end EditPlan.Service
