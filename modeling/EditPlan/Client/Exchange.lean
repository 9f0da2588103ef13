import EditPlan.Service.Http
import EditPlan.Json.Text
import EditPlan.Text.Encoding
import EditPlan.Client.Address
import EditPlan.Client.HostName

/-!
The client in front of the service: requests as they are stated and sent, and where an answer leads them. Nothing that is
planned or answered depends on this layer.
-/

namespace EditPlan.Service

/-!
## Requests

Requests as a client states them. A target is an address or a path below the address of the service. Before a request is
sent its target is read, its headers are written in ASCII, and what it carries is written in UTF-8; the first of these steps
that fails is told, and nothing is sent. Text is written before all else.
-/

/-- what a client wants to send -/
inductive Payload where
  | nothing
  /-- JSON text as it is -/
  | text (s : String)
  | document (j : Json)

/-- why a request cannot be sent, or its answer cannot be reached -/
inductive SendFault where
  | target (f : UrlFault)
  /-- a header has a value that is no text -/
  | header (value : Json)
  | encoding (f : Text.EncodingFault)
  /-- a document has a number that is not finite -/
  | notFinite
  /-- an address with a scheme that is not spoken -/
  | scheme (name : String)
  /-- an address with a host that cannot be shown, where it has to be -/
  | host (f : Url.Name.ShowFault)
  /-- an answer leads to what is no address -/
  | location (f : UrlFault)
  /-- answers lead on and on -/
  | endless
  deriving Inhabited

def SendFault.message : SendFault → String
  | .target f => f.message
  | .header value => "Header value must be str or bytes, not <class '" ++ value.sortName ++ "'>"
  | .encoding f => f.message
  | .notFinite => "Out of range float values are not JSON compliant"
  | .scheme name => Text.quoted name
  | .host f => f.message
  | .location f => "Invalid URL in location header: " ++ f.message ++ "."
  | .endless => "Exceeded maximum allowed redirects."

/-- `ok` unless a fault was found -/
def orFault (fault : Option SendFault) : Except SendFault Unit :=
  match fault with
  | some f => .error f
  | none => .ok ()

/-! ### Targets -/

/-- address of the service -/
def home : Url := ⟨"http", "testserver".toList, none, ['/'], none, none⟩

def sentTarget (target : String) : Except SendFault Url := do
  let u ← (Url.read target).mapError .target
  (Url.below home u).mapError .target

/-- `ok` if the host of an address can be shown -/
def refuseUnshown (u : Url) : Except SendFault Unit := orFault ((Url.Name.showFault? u.host).map .host)

def spokenSchemes : List String := ["http", "https", "ws", "wss"]

/-- `ok` if an address can be asked -/
def refuseAddress (u : Url) : Except SendFault Unit := do
  orFault ((Text.ascii.fault? u.place).map .encoding)
  orFault (if spokenSchemes.contains u.scheme then none else some (.scheme u.scheme))

/-! ### Headers -/

/-- name of the header that tells what is sent -/
def contentTypeName : String := "content-type"

/-- content type of what is sent -/
def jsonType : String := "application/json"

/-- headers that are stated; text is said to be JSON, first of all headers, unless they say what it is in just this name -/
def statedHeaders (headers : Object) : Payload → Object
  | .text _ => headers.foldl (fun o h => Object.put o h.1 h.2) [(contentTypeName, .str jsonType)]
  | _ => headers

/-- a header: its name in lower case and its value -/
def sentHeader (member : String × Json) : Except SendFault (String × String) := do
  orFault ((Text.ascii.fault? member.1).map .encoding)
  match member.2 with
  | .str value =>
    orFault ((Text.ascii.fault? value).map .encoding)
    return (Text.lower member.1, value)
  | value => .error (.header value)

/-- name of the header that tells the host -/
def hostName : String := "host"

def setHost (place : String) (headers : List (String × String)) : List (String × String) :=
  (hostName, place) :: headers.filter fun h => h.1 != hostName

/-- headers with the host of an address, which is shown for that, unless they name one -/
def withHost (u : Url) (headers : List (String × String)) : Except SendFault (List (String × String)) := do
  if (headers.lookup hostName).isSome then return headers
  refuseUnshown u
  return setHost u.place headers

/-! ### Requests -/

/-- half a character in text that is to be sent -/
def Payload.fault? : Payload → Option SendFault
  | .text s => (Text.utf8.fault? s).map .encoding
  | _ => none

def sentBody (headers : List (String × String)) : Payload → Except SendFault Body
  | .nothing => .ok .absent
  | .text s => .ok (.ofBytes ((headers.lookup contentTypeName).getD jsonType) (Text.encodeUtf8 s))
  | .document j => do
    orFault (if j.isFinite then (Text.utf8.fault? j.bareText).map .encoding else some .notFinite)
    return .ofDocument ((headers.lookup contentTypeName).getD jsonType) j

def Request.sentTo (u : Url) (method : String) (headers : List (String × String)) (body : Body) : Request :=
  ⟨method, u.scheme, u.place, u.askedPath, u.query?.getD [], headers, body⟩

/-!
## Exchanges

A request and its answer. Where the service leads a request elsewhere, the client makes it again there, with the name of
the new host if that is another one, but not without end.
-/

/-- most times that a request is led elsewhere -/
def mostMoves : Nat := 20

/-- address that an answer leads to; without a host it is at the host that answered, and a fragment is taken along. The
hosts of both addresses are shown, so that they can be compared -/
def moved (u : Url) (location : String) : Except SendFault Url := do
  let v ← (Url.read location).mapError .location
  let v := if v.host.isEmpty then { v with host := u.host } else v
  refuseUnshown v
  let isKept := (u.fragment?.getD []).isEmpty || !(v.fragment?.getD []).isEmpty
  let v ← if isKept then .ok v else (v.withFragment (u.fragment?.getD [])).mapError .target
  refuseUnshown u
  return v

/-- headers of a request that is made again -/
def movedHeaders (u v : Url) (headers : List (String × String)) : List (String × String) :=
  if u.sameOrigin v then headers else setHost v.place headers

/-- what a client gets, and what the service reports -/
abbrev Outcome := Except SendFault (Response × List Journal.Event)

/-- a client with its request, which it makes at one address or another -/
structure Client where
  settings : Settings
  reply : Prompt.Reply
  method : String
  body : Body

/-- what comes of a request; `again` makes it at another address -/
def Client.attempt (c : Client) (again : Url → List (String × String) → Outcome) (u : Url)
    (headers : List (String × String)) : Outcome :=
  match react c.settings c.reply (.sentTo u c.method headers c.body) with
  | .answered response events => .ok (response, events)
  | .ledTo location => (moved u location).bind fun v => again v (movedHeaders u v headers)

/-- what comes of a request that may be led elsewhere a number of times -/
def Client.follow (c : Client) : (moves : Nat) → Url → List (String × String) → Outcome
  | 0 => c.attempt fun _ _ => .error .endless
  | moves + 1 => c.attempt (c.follow moves)

/-- what comes of a request once the service is up -/
def ask (settings : Settings) (reply : Prompt.Reply) (method target : String) (headers : Object) (payload : Payload) :
    Outcome := do
  let u ← sentTarget target
  let headers ← (statedHeaders headers payload).mapM sentHeader
  let body ← sentBody headers payload
  let headers ← withHost u headers
  refuseAddress u
  Client.follow ⟨settings, reply, Text.upper method, body⟩ mostMoves u headers

/-- a request to the service, which is started for it and stopped after it, unless the text to be sent cannot be written:
what the client gets, and what the service reports -/
def exchange (settings : Settings) (reply : Prompt.Reply) (method target : String) (headers : Object)
    (payload : Payload) : Except SendFault Response × List Journal.Event :=
  match payload.fault? with
  | some f => (.error f, [])
  | none =>
    let outcome := ask settings reply method target headers payload
    let events := match outcome with
      | .ok (_, events) => events
      | .error _ => []
    (outcome.map (·.1), .serviceStarted settings.model :: events ++ [.serviceStopped])

end EditPlan.Service
