import EditPlan.Text.Basic
import EditPlan.Numeral
import EditPlan.Text.LetterCase
import EditPlan.Service.Http
import EditPlan.Client.HostName
import EditPlan.Text.Quoted

/-!
Web addresses as the client in front of the service reads them.
-/

namespace EditPlan.Url

/-!
## Written parts

The parts of a web address as they are written: `scheme://authority/path?query#fragment`, where every part but the path may
be missing, and `user@host:port` in the authority. Every text has parts; whether they say anything is not looked at here.
-/

/-- parts of an address, without the characters that set them apart -/
structure Written where
  scheme? : Option (List Char)
  authority? : Option (List Char)
  path : List Char
  query? : Option (List Char)
  fragment? : Option (List Char)
  deriving DecidableEq, Repr

/-! ### Addresses -/

def isSchemeChar (c : Char) : Bool := c.isAlphanum || c == '+' || c == '.' || c == '-'

/-- the scheme in front, before a colon, and what follows; a scheme may be empty -/
def splitScheme (cs : List Char) : Option (List Char) × List Char :=
  let scheme := cs.takeWhile isSchemeChar
  match cs.dropWhile isSchemeChar with
  | ':' :: r => if scheme.isEmpty || (scheme.head?.map Char.isAlpha).getD false then (some scheme, r) else (none, cs)
  | _ => (none, cs)

def inAuthority (c : Char) : Bool := c != '/' && c != '?' && c != '#'

/-- the authority in front, after two slashes, and what follows -/
def splitAuthority : List Char → Option (List Char) × List Char
  | '/' :: '/' :: r => (some (r.takeWhile inAuthority), r.dropWhile inAuthority)
  | cs => (none, cs)

def inPath (c : Char) : Bool := c != '?' && c != '#'

/-- the query in front, after a question mark, and what follows -/
def splitQuery : List Char → Option (List Char) × List Char
  | '?' :: r => (some (r.takeWhile (· != '#')), r.dropWhile (· != '#'))
  | cs => (none, cs)

/-- what follows a mark, if the mark stands in front -/
def after? (mark : Char) : List Char → Option (List Char)
  | c :: r => if c = mark then some r else none
  | [] => none

/-- parts of a text -/
def Written.ofChars (cs : List Char) : Written where
  scheme? := (splitScheme cs).1
  authority? := (splitAuthority (splitScheme cs).2).1
  path := (splitAuthority (splitScheme cs).2).2.takeWhile inPath
  query? := (splitQuery ((splitAuthority (splitScheme cs).2).2.dropWhile inPath)).1
  fragment? := after? '#' (splitQuery ((splitAuthority (splitScheme cs).2).2.dropWhile inPath)).2

/-! ### Authorities -/

/-- parts of an authority; the port may be empty -/
structure Authority where
  user : List Char
  host : List Char
  port : List Char
  deriving DecidableEq, Repr

/-- characters before the last occurrence of a character, and what follows it; all follows where there is none -/
def splitLast (mark : Char) (cs : List Char) : List Char × List Char :=
  (((cs.reverse.dropWhile (· != mark)).drop 1).reverse, (cs.reverse.takeWhile (· != mark)).reverse)

/-- whether a character belongs to a host without brackets -/
def inHost (c : Char) : Bool := c != ':' && c != '@'

/-- the host in front, in its brackets if it has some, and what follows -/
def splitHost (cs : List Char) : List Char × List Char :=
  if cs.head? = some '[' && cs.contains ']' then ((splitLast ']' cs).1 ++ [']'], (splitLast ']' cs).2)
  else (cs.takeWhile inHost, cs.dropWhile inHost)

def Authority.ofChars (cs : List Char) : Authority :=
  let (user, place) := splitLast '@' cs
  let (host, rest) := splitHost place
  ⟨user, host, (after? ':' rest).getD rest⟩

/-!
## Dot segments

One dot stays, two dots step back, but not above the first slash.
-/

/-- segments with one more, which may step back -/
def stepSegment (segments : List (List Char)) (s : List Char) : List (List Char) :=
  if s = ['.'] then segments
  else if s = ['.', '.'] then
    if segments = [[]] then segments else segments.dropLast
  else segments ++ [s]

/-- segments without dot segments -/
def resolveSegments (segments : List (List Char)) : List (List Char) := segments.foldl stepSegment []

/-- path without dot segments -/
def resolve (path : List Char) : List Char := List.intercalate ['/'] (resolveSegments (Text.splitOn '/' path))

/-!
## Hosts

Hosts of web addresses. Four rows of digits with dots between them have to be an IPv4 address, and what stands in brackets
an IPv6 address; any other host is a name, with rules of its own where it is not in ASCII.
-/

inductive HostFault where
  | ipv4
  | ipv6
  | name
  deriving DecidableEq, Repr

/-! ### Addresses in digits -/

/-- whether a text is a number from 0 to 255 in digits, without leading zeros -/
def isOctet (cs : List Char) : Bool :=
  !cs.isEmpty && cs.length ≤ 3 && cs.all Numeral.isDigit && (cs.head? != some '0' || cs.length == 1)
    && Numeral.ofDigits cs ≤ 255

def isIpv4 (cs : List Char) : Bool := (Text.splitOn '.' cs).length == 4 && (Text.splitOn '.' cs).all isOctet

/-- whether a text is four rows of digits with dots between them -/
def isFourRows (cs : List Char) : Bool :=
  (Text.splitOn '.' cs).length == 4 && (Text.splitOn '.' cs).all fun row => !row.isEmpty && row.all Numeral.isDigit

def isGroup (cs : List Char) : Bool := !cs.isEmpty && cs.length ≤ 4 && cs.all Text.isHexDigit

/-- groups of an IPv6 address as they are written; an IPv4 address at the end counts as two -/
def groups (cs : List Char) : List (List Char) :=
  let parts := Text.splitOn ':' cs
  match parts.getLast? with
  | some part => if isIpv4 part then parts.dropLast ++ [['0'], ['0']] else parts
  | none => parts

/-- number of groups on one side of a gap, if they are groups; the side may be empty -/
def sideSize? (parts : List (List Char)) : Option Nat :=
  if parts = [[]] then some 0 else if parts.all isGroup then some parts.length else none

/-- whether groups make up an address: eight of them, or fewer with one gap between two colons -/
def areEight : List (List Char) → Bool
  | [] => false
  | first :: rest =>
    if rest.dropLast.all fun part => !part.isEmpty then (first :: rest).length == 8 && (first :: rest).all isGroup
    else
      match sideSize? (first :: rest.takeWhile fun part => !part.isEmpty),
        sideSize? (rest.dropWhile fun part => !part.isEmpty).tail with
      | some high, some low => high + low < 8
      | _, _ => false

/-- whether a text is an IPv6 address; a zone may follow a percent sign -/
def isIpv6 (cs : List Char) : Bool :=
  let zone := cs.dropWhile (· != '%')
  areEight (groups (cs.takeWhile (· != '%'))) && zone.length != 1 && !zone.tail.contains '%'

/-! ### Reading -/

def isNameSafe : Char → Bool := visibleBut [0x23, 0x2f, 0x3a, 0x3c, 0x3e, 0x3f, 0x40, 0x5b, 0x5d, 0x5e]

/-- a host as it is asked for: addresses without brackets, names in lower case -/
def readHost (cs : List Char) : Except HostFault (List Char) :=
  let ns := Text.codePoints (String.ofList cs)
  if isFourRows cs then if isIpv4 cs then .ok cs else .error .ipv4
  else if cs.head? = some '[' && cs.getLast? = some ']' then
    if isIpv6 (cs.drop 1).dropLast then .ok (cs.drop 1).dropLast else .error .ipv6
  else if ns.all (· < 0x80) then .ok (escape isNameSafe (ns.map fun n => (Char.ofNat n).toLower.toNat))
  else match Name.name? (Text.codePoints (Text.lower (String.ofList cs))) with
    | some name => .ok name
    | none => .error .name

end EditPlan.Url

namespace EditPlan

/-!
## Addresses

Web addresses. A text is read part by part, and the first part that is refused is told: the whole length, controls, the
user, the host, the port, the path, and at last what cannot be escaped. An address without scheme or host is relative and
is taken below another one.
-/

/-- a web address; path, query and fragment are escaped -/
structure Url where
  /-- in lower case -/
  scheme : String
  host : List Char
  /-- a port other than the usual one of the scheme -/
  port? : Option Int
  path : List Char
  query? : Option (List Char)
  fragment? : Option (List Char)
  deriving DecidableEq, Repr

/-- why a text is no web address -/
inductive UrlFault where
  | tooLong
  | partTooLong (part : String)
  /-- an ASCII control, in the whole text or in a part of it -/
  | unprintable (part? : Option String) (control : Nat) (position : Nat)
  | unencodable (f : Text.EncodingFault)
  | host (f : Url.HostFault) (written : List Char)
  | port (written : List Char)
  | twoSlashes
  | leadingColon
  deriving DecidableEq, Repr

/-- sort of host that is not well formed -/
def Url.HostFault.sort : Url.HostFault → String
  | .ipv4 => "IPv4 address"
  | .ipv6 => "IPv6 address"
  | .name => "IDNA hostname"

def UrlFault.message : UrlFault → String
  | .tooLong => "URL too long"
  | .partTooLong part => "URL component '" ++ part ++ "' too long"
  | .unprintable part? control position =>
    "Invalid non-printable ASCII character in URL" ++ (part?.map fun part => " " ++ part ++ " component").getD "" ++ ", "
      ++ Text.quoted (Text.text [control]) ++ " at position " ++ toString position ++ "."
  | .unencodable f => f.message
  | .host f written => "Invalid " ++ f.sort ++ ": " ++ Text.quoted (String.ofList written)
  | .port written => "Invalid port: " ++ Text.quoted (String.ofList written)
  | .twoSlashes => "Relative URLs cannot have a path starting with '//'"
  | .leadingColon => "Relative URLs cannot have a path starting with ':'"

namespace Url

/-! ### Parts -/

/-- most code points of an address, and of a part of it -/
def longest : Nat := 65536

/-- whether a code point is an ASCII control -/
def isControl (n : Nat) : Bool := n < 0x20 || n == 0x7f

/-- the first control of a text is told -/
def refuseControls (part? : Option String) (ns : List Nat) : Except UrlFault Unit :=
  match ns.find? isControl with
  | some n => .error (.unprintable part? n (ns.takeWhile fun n => !isControl n).length)
  | none => .ok ()

def usualPorts : List (String × Int) := [("ftp", 21), ("http", 80), ("https", 443), ("ws", 80), ("wss", 443)]

/-- a port; the usual one counts as none -/
def readPort (scheme : String) (cs : List Char) : Except UrlFault (Option Int) :=
  if cs.isEmpty then .ok none
  else match Numeral.freeWhole? (String.ofList cs) with
    | some n => .ok (if usualPorts.lookup scheme = some n then none else some n)
    | none => .error (.port cs)

def isUserSafe : Char → Bool :=
  visibleBut [0x22, 0x23, 0x2f, 0x3b, 0x3c, 0x3d, 0x3e, 0x3f, 0x40, 0x5b, 0x5c, 0x5d, 0x5e, 0x60, 0x7b, 0x7c, 0x7d]

def isPathSafe : Char → Bool := visibleBut [0x22, 0x23, 0x3c, 0x3e, 0x3f, 0x60, 0x7b, 0x7d]

def isQuerySafe : Char → Bool := visibleBut [0x22, 0x23, 0x3c, 0x3e]

def isFragmentSafe : Char → Bool := visibleBut [0x22, 0x3c, 0x3e, 0x60]

/-- a path without scheme and authority in front may not look like either -/
def refuseOddPath (path : List Char) : Except UrlFault Unit :=
  if ['/', '/'].isPrefixOf path then .error .twoSlashes
  else if path.head? = some ':' then .error .leadingColon
  else .ok ()

def read (s : String) : Except UrlFault Url := do
  if longest < Text.size s then throw .tooLong
  refuseControls none (Text.codePoints s)
  let written := Written.ofChars s.toList
  let authority := Authority.ofChars (written.authority?.getD [])
  let scheme := String.ofList (written.scheme?.getD [])
  discard ((escape? isUserSafe authority.user).mapError .unencodable)
  let host ← (readHost authority.host).mapError fun f => .host f authority.host
  let port? ← readPort scheme authority.port
  let isBare := scheme.isEmpty && authority.user.isEmpty && host.isEmpty && port?.isNone
  if isBare then refuseOddPath written.path
  let path ← (escape? isPathSafe (if isBare then written.path else resolve written.path)).mapError .unencodable
  let query? ← (written.query?.mapM (escape? isQuerySafe)).mapError .unencodable
  let fragment? ← (written.fragment?.mapM (escape? isFragmentSafe)).mapError .unencodable
  return ⟨String.ofList (scheme.toList.map Char.toLower), host, port?, path, query?, fragment?⟩

/-! ### Use -/

/-- whether an address names scheme and host itself -/
def isAbsolute (u : Url) : Bool := !u.scheme.isEmpty && !u.host.isEmpty

/-- an address taken below another one, unless it is absolute; its own fragment does not count then -/
def below (base u : Url) : Except UrlFault Url :=
  if u.isAbsolute then .ok u
  else
    let path := base.path ++ u.path.dropWhile (· == '/')
    if longest < path.length then .error (.partTooLong "path")
    else if longest < (u.query?.getD []).length then .error (.partTooLong "query")
    else .ok { base with path := resolve path, query? := u.query? }

/-- an address with the fragment that another one had -/
def withFragment (u : Url) (fragment : List Char) : Except UrlFault Url := do
  let plain := unescape fragment
  let ns := Text.codePoints (String.ofList plain)
  if longest < ns.length then throw (.partTooLong "fragment")
  refuseControls (some "fragment") ns
  return { u with fragment? := some (escape isFragmentSafe ns) }

/-- host and port as they are written in an address -/
def place (u : Url) : String :=
  String.ofList (if u.host.contains ':' then '[' :: u.host ++ [']'] else u.host)
    ++ (u.port?.map fun n => ":" ++ toString n).getD ""

/-- whether two addresses are served by the same program -/
def sameOrigin (u v : Url) : Bool :=
  u.scheme == v.scheme && u.host == v.host
    && u.port?.getD ((usualPorts.lookup u.scheme).getD 0) == v.port?.getD ((usualPorts.lookup v.scheme).getD 0)

/-- path that is asked for; escapes are taken back twice, by who asks and by who answers -/
def askedPath (u : Url) : String := String.ofList (unescape (unescape (if u.path.isEmpty then ['/'] else u.path)))

end Url

end EditPlan
