import EditPlan.Binary64.Basic
import EditPlan.Decimal
import EditPlan.Number.Basic
import EditPlan.Text.Basic

/-!
Reading numerals. A numeral is a sign, digits with an optional point and an optional exponent. The value is formed exactly
and rounded once. Underscores may group the digits; the fields of a document and free text differ in where they may
stand.
-/

namespace EditPlan

/-- number nearest to a decimal with a sign; powers of ten far outside the range are not formed -/
def Binary64.ofDecimal (negative : Bool) (d : Decimal) : Binary64 :=
  let magnitude : Int := (Nat.toDigits 10 d.coefficient).length + d.exponent
  if d.coefficient = 0 then .finite negative 0 Binary64.zero_representable
  else if 309 < magnitude then .infinite negative
  else if magnitude < -323 then .finite negative 0 Binary64.zero_representable
  else Binary64.ofRatio negative (d.coefficient * Decimal.scaleUp d.exponent) (Decimal.scaleDown d.exponent)

namespace Numeral

def isDigit (c : Char) : Bool := '0' ≤ c && c ≤ '9'

/-- value of a row of digits -/
def ofDigits (cs : List Char) : Nat := cs.foldl (fun n c => n * 10 + (c.toNat - '0'.toNat)) 0

/-- characters without underscores, if each stood between two digits; `afterDigit` tells what came before -/
def joinDigits : Bool → List Char → Option (List Char)
  | _, [] => some []
  | afterDigit, c :: r =>
    if c = '_' then
      if afterDigit && (r.head?.map isDigit).getD false then joinDigits false r else none
    else (joinDigits (isDigit c) r).map (c :: ·)

/-- a leading sign and what follows it -/
def sign : List Char → Bool × List Char
  | '-' :: r => (true, r)
  | '+' :: r => (false, r)
  | cs => (false, cs)

/-- exponent part of a numeral, which ends the text -/
def exponent? : List Char → Option Int
  | [] => some 0
  | c :: r =>
    if c = 'e' ∨ c = 'E' then
      let (negative, ds) := sign r
      if ds.isEmpty || !ds.all isDigit then none
      else some (if negative then -(ofDigits ds : Int) else ofDigits ds)
    else none

/-- a leading point with digits after it, and what follows -/
def fraction : List Char → List Char × List Char
  | '.' :: r => (r.takeWhile isDigit, r.dropWhile isDigit)
  | cs => ([], cs)

def unsigned? (cs : List Char) : Option Decimal :=
  let whole := cs.takeWhile isDigit
  let (part, rest) := fraction (cs.dropWhile isDigit)
  if whole.isEmpty && part.isEmpty then none
  else (exponent? rest).map fun e => ⟨ofDigits (whole ++ part), e - part.length⟩

/-- number named by a word, in any letter case -/
def word? (negative : Bool) (cs : List Char) : Option Binary64 :=
  let w := String.ofList (cs.map Char.toLower)
  if w = "nan" then some .nan
  else if w = "inf" ∨ w = "infinity" then some (.infinite negative)
  else none

/-- number written by characters without blanks at the ends and without underscores -/
def plain? (cs : List Char) : Option Binary64 :=
  let (negative, body) := sign cs
  match word? negative body with
  | some x => some x
  | none => (unsigned? body).map (Binary64.ofDecimal negative)

/-- number written by free text; digits of every script count, and underscores stand between digits -/
def freeNumber? (s : String) : Option Binary64 :=
  (joinDigits false ((Text.trimList Text.isWhiteSpace s.toList).map Text.asciiDigit)).bind plain?

/-- whole number written by free text, with a sign in front of its digits; the same digits and underscores count -/
def freeWhole? (s : String) : Option Int :=
  (joinDigits false ((Text.trimList Text.isWhiteSpace s.toList).map Text.asciiDigit)).bind fun cs =>
    let (negative, ds) := sign cs
    if ds.isEmpty || !ds.all isDigit || mostDigits < ds.length then none
    else some (if negative then -(ofDigits ds : Int) else ofDigits ds)

/-! ## Fields of documents -/

/-- whether two underscores stand together -/
def hasDoubleUnderscore : List Char → Bool
  | '_' :: '_' :: _ => true
  | _ :: r => hasDoubleUnderscore r
  | [] => false

/-- characters without underscores, if none stands at an end and no two stand together -/
def ungrouped? (cs : List Char) : Option (List Char) :=
  if cs.head? = some '_' || cs.getLast? = some '_' || hasDoubleUnderscore cs then none else some (cs.filter (· != '_'))

/-- number written by a field of a document; only ASCII digits count. Blanks may stand around a number or underscores in
it, but not both -/
def number? (s : String) : Option Binary64 :=
  match plain? (Text.trimList Text.isWhiteSpace s.toList) with
  | some x => some x
  | none => (ungrouped? s.toList).bind plain?

/-- what follows zeros and underscores behind a leading zero, from the first significant character on; `last` was read
before and is kept where nothing or a point follows -/
def afterZero? (last : Char) : List Char → Option (List Char)
  | [] => some [last]
  | c :: r =>
    if c = '0' ∨ c = '_' then afterZero? c r
    else if c = '-' ∨ isDigit c then some (c :: r)
    else if c = '.' then some (last :: c :: r)
    else none

/-- a whole numeral without leading zeros; none if it does not begin like one -/
def withoutZeros? : List Char → Option (List Char)
  | [] => none
  | c :: r => if c = '0' then afterZero? c r else if c = '-' ∨ isDigit c then some (c :: r) else none

def withoutZeroFraction (cs : List Char) : List Char :=
  match cs.dropWhile (· != '.') with
  | _ :: z :: zs => if (z :: zs).all (· == '0') then cs.takeWhile (· != '.') else cs
  | _ => cs

/-- a whole numeral without sign in its plain form: leading zeros and a fraction of zeros are taken away, and then the
underscores -/
def plainWhole? (cs : List Char) : Option (List Char) :=
  (withoutZeros? cs).map fun ds => (ungrouped? (withoutZeroFraction ds)).getD (withoutZeroFraction ds)

/-- a whole numeral in its plain form; a minus sign stays in front -/
def signedWhole? : List Char → Option (List Char)
  | '+' :: '-' :: _ => none
  | '+' :: r => plainWhole? r
  | '-' :: r => (plainWhole? r).map ('-' :: ·)
  | cs => plainWhole? cs

/-- why a text is no whole number -/
inductive WholeFault where
  | unreadable
  | oversize
  deriving DecidableEq, Repr

/-- whole number of a minus sign and digits without leading zeros; too many digits are noticed before what follows them is
looked at -/
def wholeDigits (cs : List Char) : Except WholeFault Int :=
  let (negative, body) := match cs with
    | '-' :: r => (true, r)
    | _ => (false, cs)
  let ds := body.takeWhile isDigit
  if ds.isEmpty || ds.head? = some '0' && ds.length != 1 then .error .unreadable
  else if mostDigits < ds.length then .error .oversize
  else if ds.length < body.length then .error .unreadable
  else .ok (if negative then -(ofDigits ds : Int) else ofDigits ds)

/-- whole number written by a field of a document: as it stands, or else in its plain form without blanks around it. Only
the first reading tells too many digits -/
def whole (s : String) : Except WholeFault Int :=
  match wholeDigits s.toList with
  | .error .unreadable =>
    match signedWhole? (Text.trimList Text.isWhiteSpace s.toList) with
    | none => .error .unreadable
    | some cs => (wholeDigits cs).mapError fun _ => .unreadable
  | r => r

end Numeral

end EditPlan
