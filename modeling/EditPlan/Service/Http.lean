import EditPlan.Text.Encoding
import EditPlan.Text.Basic
import EditPlan.Service.Process

/-!
The service on the web: its routes, and what browsers of other origins are told.
-/

namespace EditPlan.Url

/-!
## Escapes in addresses

Escapes in web addresses: a byte as a percent sign and two hexadecimal digits. What may not stand as it is, is escaped byte
by byte in UTF-8. A percent sign always stands, so escapes that are there already are kept.
-/

/-- visible ASCII characters other than those with the numbers listed -/
def visibleBut (excluded : List Nat) (c : Char) : Bool :=
  0x20 < c.toNat && c.toNat < 0x7f && !excluded.contains c.toNat

def escapedByte (b : UInt8) : List Char := '%' :: Text.hexByte b.toNat

/-- a code point; characters of `safe` stand as they are -/
def escapePoint (safe : Char → Bool) (n : Nat) : List Char :=
  if n < 0x80 && safe (Char.ofNat n) then [Char.ofNat n] else (Text.pointBytes n).flatMap escapedByte

def escape (safe : Char → Bool) (ns : List Nat) : List Char := ns.flatMap (escapePoint safe)

/-- characters with all but those of `safe` escaped, unless one of them is half a character; each is told alone -/
def escape? (safe : Char → Bool) (cs : List Char) : Except Text.EncodingFault (List Char) :=
  let ns := Text.codePoints (String.ofList cs)
  match ns.findSome? fun n => Text.utf8.firstFault? [n] with
  | some f => .error f
  | none => .ok (escape safe ns)

/-- bytes of characters, escapes taken back -/
def unescapedBytes : List Char → List UInt8
  | '%' :: a :: b :: r =>
    if Text.isHexDigit a && Text.isHexDigit b then UInt8.ofNat (Text.hexPair a b) :: unescapedBytes r
    else 0x25 :: unescapedBytes (a :: b :: r)
  | c :: r => Text.encodeUtf8 (String.singleton c) ++ unescapedBytes r
  | [] => []

/-- characters with escapes taken back; what is not UTF-8 is replaced -/
def unescape (cs : List Char) : List Char := (Text.decodeUtf8 (unescapedBytes cs)).toList

end EditPlan.Url

namespace EditPlan.Service

/-!
## Allowed origins

Which web origins may use the service: two local ones, and those that the settings list. A listed `*` opens it to all.
-/

/-- origins that are always allowed -/
def localOrigins : List String := ["http://localhost:3000", "http://127.0.0.1:3000"]

/-- origins in a list, without blanks around them; blank ones do not count -/
def listedOrigins (s : String) : List String :=
  ((Text.splitOn ',' s.toList).map fun p => String.ofList (Text.trimList Text.isBlank p)).filter fun o => !o.isEmpty

/-- all allowed origins, each once, by code point -/
def allowedOrigins (listed : String) : List String :=
  ((localOrigins ++ listedOrigins listed).eraseDups).mergeSort fun a b => Text.comesBefore (Text.codePoints a) (Text.codePoints b)

/-- entry that stands for every origin -/
def everyOrigin : String := "*"

def isOpen (listed : String) : Bool := (allowedOrigins listed).contains everyOrigin

def isAllowed (listed origin : String) : Bool := isOpen listed || (allowedOrigins listed).contains origin

/-!
## The service

The service on the web: its routes, and what browsers of other origins are told. A browser's question before a request is
answered without looking at the routes. A path with slashes at the end leads elsewhere, to the route without them.
-/

structure Request where
  /-- in upper case -/
  method : String
  scheme : String
  /-- host and port that the request is sent to -/
  place : String
  path : String
  /-- escaped -/
  query : List Char
  /-- names in lower case -/
  headers : List (String × String)
  body : Body

structure Response where
  status : Nat
  body : Json
  /-- origin that is told it may read the answer -/
  allowOrigin : Option String

def Request.header? (r : Request) (name : String) : Option String := r.headers.lookup name

/-! ### Routes -/

/-- what answers under a path -/
inductive Route where
  /-- answers requests for edits -/
  | process
  /-- tells whether the service is up -/
  | health
  /-- describes the service; the pages themselves are not kept here and show as empty -/
  | manual
  deriving DecidableEq, Repr

def routes : List (String × Route) :=
  [("/openapi.json", .manual), ("/docs", .manual), ("/docs/oauth2-redirect", .manual), ("/redoc", .manual),
    ("/api/process", .process), ("/health", .health)]

def Route.methods : Route → List String
  | .process => ["POST"]
  | .health => ["GET"]
  | .manual => ["GET", "HEAD"]

/-- route under exactly a path; one line feed at its end does not count -/
def routeAt? (path : List Char) : Option Route :=
  routes.lookup (String.ofList (if path.getLast? = some '\n' then path.dropLast else path))

def withoutSlashes (path : List Char) : List Char := (path.reverse.dropWhile (· == '/')).reverse

/-- characters that stand in the address of another place -/
def isLocationSafe : Char → Bool := Url.visibleBut [0x22, 0x3c, 0x3e, 0x5c, 0x5e, 0x60, 0x7b, 0x7c, 0x7d]

/-- whether text after a host is a port or nothing -/
def isPortPart : List Char → Bool
  | [] => true
  | c :: ds => c == ':' && !ds.isEmpty && ds.all Numeral.isDigit

/-- whether a character stands in a host that is a name or an IPv4 address -/
def isNameChar (c : Char) : Bool := c.isAlphanum || "-._~!$&'()*+,;=%".toList.contains c

/-- whether text has the shape of a host and a port. In brackets stand hexadecimal digits, a colon and something more -/
def isPlace (s : String) : Bool :=
  match s.toList with
  | '[' :: r =>
    let inner := r.takeWhile (· != ']')
    let tail := inner.dropWhile Text.isHexDigit
    tail.head? == some ':' && tail.length != 1 && (tail.all fun c => Text.isHexDigit c || c == ':' || c == '.')
      && inner.length != r.length && isPortPart (r.drop (inner.length + 1))
  | cs => !(cs.takeWhile isNameChar).isEmpty && isPortPart (cs.dropWhile isNameChar)

/-- place that a request names as its host, or else the one it is sent to -/
def Request.namedPlace (r : Request) : String := ((r.header? "host").filter isPlace).getD r.place

/-- address of a path at the place that a request names -/
def Request.location (r : Request) (path : List Char) : String :=
  let query := if r.query.isEmpty then [] else '?' :: r.query
  let place := r.scheme ++ "://" ++ r.namedPlace
  String.ofList (Url.escape isLocationSafe (Text.codePoints (place ++ String.ofList (path ++ query))))

/-- where a request is led whose path has slashes at its end, if there is a route without them -/
def Request.elsewhere? (r : Request) : Option String :=
  let path := withoutSlashes r.path.toList
  if r.path.toList.getLast? = some '/' && (routeAt? path).isSome then some (r.location path) else none

structure Handled where
  status : Nat
  body : Json
  events : List Journal.Event := []
  /-- whether the answer could be written; one that breaks off is told to no other origin -/
  completed : Bool := true

def route (settings : Settings) (reply : Prompt.Reply) (r : Request) : Handled :=
  match routeAt? r.path.toList with
  | none => { status := 404, body := Answer.detail (.str "Not Found") }
  | some route =>
    if !route.methods.contains r.method then { status := 405, body := Answer.detail (.str "Method Not Allowed") }
    else match route with
      | .process =>
        let (a, events) := answer settings reply r.body
        if a.isWritten then { status := a.status, body := a.document, events := events }
        else { status := 500, body := .str "Internal Server Error", events := events, completed := false }
      | .health => { status := 200, body := .obj [("status", .str "ok")] }
      | .manual => { status := 200, body := .str "" }

/-! ### Other origins -/

def crossOriginMethods : List String := ["DELETE", "GET", "HEAD", "OPTIONS", "PATCH", "POST", "PUT", "QUERY"]

def grant (settings : Settings) (origin : String) : Option String :=
  if isAllowed settings.allowedOrigins origin then some origin else none

/-- a browser's question before a request -/
structure Question where
  origin : String
  method : String
  /-- whether the request would go from a public network into a private one -/
  intoPrivateNetwork : Bool
  deriving DecidableEq, Repr

def Request.question? (r : Request) : Option Question :=
  match r.header? "origin", r.header? "access-control-request-method" with
  | some origin, some method =>
    if r.method = "OPTIONS" then
      some ⟨origin, method, (r.header? "access-control-request-private-network").isSome⟩
    else none
  | _, _ => none

/-- what speaks against a request that is asked for -/
def Question.failures (settings : Settings) (q : Question) : List String :=
  (if (grant settings q.origin).isSome then [] else ["origin"])
    ++ (if crossOriginMethods.contains q.method then [] else ["method"])
    ++ if q.intoPrivateNetwork then ["private-network"] else []

/-- answer to a browser's question -/
def preflight (settings : Settings) (q : Question) : Response :=
  if (q.failures settings).isEmpty then ⟨200, .str "OK", grant settings q.origin⟩
  else ⟨400, .str ("Disallowed CORS " ++ String.intercalate ", " (q.failures settings)), grant settings q.origin⟩

/-! ### Answers -/

/-- answer of the routes, marked with the origin that may read it; an answer to `HEAD` shows no body -/
def routed (settings : Settings) (reply : Prompt.Reply) (r : Request) : Response × List Journal.Event :=
  let h := route settings reply r
  (⟨h.status, if r.method = "HEAD" then .str "" else h.body,
    if h.completed then (r.header? "origin").bind (grant settings) else none⟩, h.events)

/-- what comes of a web request -/
inductive Reaction where
  | answered (response : Response) (events : List Journal.Event)
  /-- the request is to be made again at another address -/
  | ledTo (location : String)

/-- what comes of a web request -/
def react (settings : Settings) (reply : Prompt.Reply) (r : Request) : Reaction :=
  match r.question? with
  | some q => .answered (preflight settings q) []
  | none =>
    match if (routeAt? r.path.toList).isSome then none else r.elsewhere? with
    | some location => .ledTo location
    | none => .answered (routed settings reply r).1 (routed settings reply r).2

end EditPlan.Service
