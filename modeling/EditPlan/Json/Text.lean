import EditPlan.Json.Basic
import EditPlan.Numeral
import EditPlan.Text.Basic
import EditPlan.Binary64.Text

/-!
JSON text: reading it within bounds, and writing it on one line.
-/

namespace EditPlan.Json.Reader

/-!
## Reading

Reading JSON text. The grammar is the usual one, with the words `NaN`, `Infinity` and `-Infinity` as further numbers.
Of members with one name the last counts. A reader may bound how deep a text nests and how many digits its whole numbers
have; what is wrong first in the order of the text is what is told. Each call of `value` takes at least one character,
so the number of characters bounds the depth of the calls.
-/

/-- why a text is not read -/
inductive Fault where
  | malformed
  | tooDeep
  | tooManyDigits
  deriving DecidableEq, Repr

structure Bounds where
  /-- levels of lists and objects inside each other -/
  depth : Nat
  /-- digits of a whole number -/
  digits : Nat
  deriving DecidableEq, Repr

/-- blanks between tokens -/
def isSpace (c : Char) : Bool := c == ' ' || c == '\t' || c == '\n' || c == '\r'

/-- text after leading blanks -/
def skip (cs : List Char) : List Char := cs.dropWhile isSpace

/-- value of four hexadecimal digits -/
def hex4? (a b c d : Char) : Option Nat := do
  return (((← Text.hexValue? a) * 16 + (← Text.hexValue? b)) * 16 + (← Text.hexValue? c)) * 16 + (← Text.hexValue? d)

/-- character of a single-letter escape -/
def escape? : Char → Option Char
  | '"' => some '"'
  | '\\' => some '\\'
  | '/' => some '/'
  | 'b' => some (Char.ofNat 8)
  | 'f' => some (Char.ofNat 12)
  | 'n' => some '\n'
  | 'r' => some '\r'
  | 't' => some '\t'
  | _ => none

/-- a string as far as it is read: its characters in reverse, and a first half of a character that waits for its second
half -/
structure Spelling where
  read : List Char := []
  high? : Option Nat := none

namespace Spelling

/-- a waiting half that stays alone -/
def settle (s : Spelling) : Spelling :=
  match s.high? with
  | some h => { read := Text.standIn h :: s.read }
  | none => s

def push (s : Spelling) (c : Char) : Spelling := { s.settle with read := c :: s.settle.read }

def point (s : Spelling) (n : Nat) : Spelling := { read := (Text.ofCodePoint n).reverse ++ s.settle.read }

/-- one more escaped UTF-16 unit -/
def unit (s : Spelling) (n : Nat) : Spelling :=
  if 0xd800 ≤ n ∧ n ≤ 0xdbff then { s.settle with high? := some n }
  else if 0xdc00 ≤ n ∧ n ≤ 0xdfff then
    match s.high? with
    | some h => point { s with high? := none } (0x10000 + (h - 0xd800) * 0x400 + (n - 0xdc00))
    | none => s.point n
  else s.point n

def text (s : Spelling) : String := String.ofList s.settle.read.reverse

end Spelling

/-- rest of a string after its opening quote: how it is spelled and what follows the closing quote -/
def string (s : Spelling) : List Char → Except Fault (Spelling × List Char)
  | [] => .error .malformed
  | '"' :: r => .ok (s, r)
  | '\\' :: 'u' :: a :: b :: c :: d :: r =>
    match hex4? a b c d with
    | some n => string (s.unit n) r
    | none => .error .malformed
  | '\\' :: e :: r =>
    match escape? e with
    | some c => string (s.push c) r
    | none => .error .malformed
  | c :: r => if c.toNat < 0x20 then .error .malformed else string (s.push c) r

def digits (cs : List Char) : List Char × List Char := (cs.takeWhile Numeral.isDigit, cs.dropWhile Numeral.isDigit)

/-- a point and digits at the front, if both are there -/
def fraction? : List Char → Option (List Char × List Char)
  | '.' :: r => if (digits r).1.isEmpty then none else some (digits r)
  | _ => none

/-- an exponent at the front, if it is complete -/
def exponent? : List Char → Option (Int × List Char)
  | c :: r =>
    if c = 'e' ∨ c = 'E' then
      let (negative, r) := Numeral.sign r
      if (digits r).1.isEmpty then none
      else
        let n : Int := Numeral.ofDigits (digits r).1
        some (if negative then -n else n, (digits r).2)
    else none
  | [] => none

/-- number at the front: whole if it has neither point nor exponent -/
def number (bounds : Bounds) (negative : Bool) (cs : List Char) : Except Fault (Json × List Char) :=
  let (whole, rest) := digits cs
  let (whole, rest) := match whole with
    | '0' :: more => (['0'], more ++ rest)
    | _ => (whole, rest)
  if whole.isEmpty then .error .malformed
  else
    let part := fraction? rest
    let afterPart := (part.map (·.2)).getD rest
    let power := exponent? afterPart
    let afterPower := (power.map (·.2)).getD afterPart
    if part.isNone && power.isNone then
      let n : Int := Numeral.ofDigits whole
      if bounds.digits < whole.length then .error .tooManyDigits
      else .ok (.int (if negative then -n else n), afterPower)
    else
      let ds := (part.map (·.1)).getD []
      let e : Int := (power.map (·.1)).getD 0
      .ok (.real (Binary64.ofDecimal negative ⟨Numeral.ofDigits (whole ++ ds), e - ds.length⟩), afterPower)

/-- the value after a word, if the text starts with the word -/
def word (w : String) (value : Json) (cs : List Char) : Except Fault (Json × List Char) :=
  if w.toList.isPrefixOf cs then .ok (value, cs.drop w.length) else .error .malformed

mutual

/-- document at the front of the text, which has no leading blanks; `depth` levels are open around it -/
def value (bounds : Bounds) : (fuel depth : Nat) → List Char → Except Fault (Json × List Char)
  | 0, _, _ => .error .malformed
  | fuel + 1, depth, cs =>
    match cs with
    | '"' :: r => (string {} r).map fun (s, rest) => (.str s.text, rest)
    | '{' :: r =>
      if bounds.depth ≤ depth then .error .tooDeep
      else match skip r with
        | '}' :: rest => .ok (.obj [], rest)
        | r => members bounds fuel (depth + 1) [] r
    | '[' :: r =>
      if bounds.depth ≤ depth then .error .tooDeep
      else match skip r with
        | ']' :: rest => .ok (.arr [], rest)
        | r => items bounds fuel (depth + 1) [] r
    | 't' :: _ => word "true" (.bool true) cs
    | 'f' :: _ => word "false" (.bool false) cs
    | 'n' :: _ => word "null" .null cs
    | 'N' :: _ => word "NaN" (.real .nan) cs
    | 'I' :: _ => word "Infinity" (.real (.infinite false)) cs
    | '-' :: 'I' :: _ => word "-Infinity" (.real (.infinite true)) cs
    | '-' :: r => number bounds true r
    | _ => number bounds false cs

/-- further items of an array, the ones before in reverse -/
def items (bounds : Bounds) : (fuel depth : Nat) → List Json → List Char → Except Fault (Json × List Char)
  | 0, _, _, _ => .error .malformed
  | fuel + 1, depth, before, cs =>
    match value bounds fuel depth cs with
    | .error e => .error e
    | .ok (v, rest) =>
      match skip rest with
      | ',' :: r => items bounds fuel depth (v :: before) (skip r)
      | ']' :: r => .ok (.arr (v :: before).reverse, r)
      | _ => .error .malformed

/-- further members of an object after the ones before -/
def members (bounds : Bounds) : (fuel depth : Nat) → Object → List Char → Except Fault (Json × List Char)
  | 0, _, _, _ => .error .malformed
  | fuel + 1, depth, before, cs =>
    match cs with
    | '"' :: r =>
      match string {} r with
      | .error e => .error e
      | .ok (name, rest) =>
        match skip rest with
        | ':' :: r =>
          match value bounds fuel depth (skip r) with
          | .error e => .error e
          | .ok (v, rest) =>
            match skip rest with
            | ',' :: r => members bounds fuel depth (Object.put before name.text v) (skip r)
            | '}' :: r => .ok (.obj (Object.put before name.text v), r)
            | _ => .error .malformed
        | _ => .error .malformed
    | _ => .error .malformed

end

end EditPlan.Json.Reader

namespace EditPlan.Json

def read (bounds : Reader.Bounds) (cs : List Char) : Except Reader.Fault Json :=
  match Reader.value bounds (2 * cs.length + 2) 0 (Reader.skip cs) with
  | .error e => .error e
  | .ok (v, rest) => if (Reader.skip rest).isEmpty then .ok v else .error .malformed

/-- document written by a text of any depth -/
def read? (s : String) : Option Json := (read ⟨s.length, s.length⟩ s.toList).toOption

/-!
## Writing

Writing JSON text on one line. Controls, quotes and backslashes in strings are escaped; text in ASCII alone also has
characters beyond ASCII written as escaped UTF-16 units. Numbers that are not finite are written as words.
-/

def unitEscape (n : Nat) : List Char := '\\' :: 'u' :: Text.hexDigits 4 n

def controlLetters : List (Nat × Char) := [(8, 'b'), (9, 't'), (10, 'n'), (12, 'f'), (13, 'r')]

def controlEscape (n : Nat) : List Char :=
  match controlLetters.lookup n with
  | some letter => ['\\', letter]
  | none => unitEscape n

/-- a code point inside a JSON string -/
def barePoint (n : Nat) : List Char :=
  if n = '"'.toNat ∨ n = '\\'.toNat then ['\\', Char.ofNat n]
  else if n < 0x20 then controlEscape n
  else Text.ofCodePoint n

/-- a code point inside a JSON string in ASCII -/
def asciiPoint (n : Nat) : List Char :=
  if n < 0x7f then barePoint n
  else if n < 0x10000 then unitEscape n
  else unitEscape (0xd800 + (n - 0x10000) / 0x400) ++ unitEscape (0xdc00 + (n - 0x10000) % 0x400)

/-- a JSON string; `point` writes its code points -/
def stringText (point : Nat → List Char) (s : String) : String :=
  "\"" ++ String.ofList ((Text.codePoints s).flatMap point) ++ "\""

def realText : Binary64 → String
  | .nan => "NaN"
  | .infinite false => "Infinity"
  | .infinite true => "-Infinity"
  | x => x.text

mutual

/-- text of a document; `point` writes the code points of strings -/
def textWith (point : Nat → List Char) : Json → String
  | .null => "null"
  | .bool true => "true"
  | .bool false => "false"
  | .int n => toString n
  | .real x => realText x
  | .str s => stringText point s
  | .arr items => "[" ++ itemsText point items ++ "]"
  | .obj members => "\x7b" ++ membersText point members ++ "\x7d"

def itemsText (point : Nat → List Char) : List Json → String
  | [] => ""
  | [x] => textWith point x
  | x :: y :: r => textWith point x ++ "," ++ itemsText point (y :: r)

def membersText (point : Nat → List Char) : List (String × Json) → String
  | [] => ""
  | [(k, v)] => stringText point k ++ ":" ++ textWith point v
  | (k, v) :: m :: r => stringText point k ++ ":" ++ textWith point v ++ "," ++ membersText point (m :: r)

end

def text : Json → String := textWith asciiPoint

/-- text of a document with characters beyond ASCII as they are -/
def bareText : Json → String := textWith barePoint

end EditPlan.Json
