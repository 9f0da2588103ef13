import EditPlan.Binary64.Basic
import EditPlan.Number.Basic
import EditPlan.Decimal

/-!
Whole numbers and texts out of doubles, and doubles as the numbers that plans are computed with.
-/

namespace EditPlan.Binary64

/-!
## Whole numbers

Whole numbers out of doubles: truncation, rounding half to even, floors, and division with remainder by a positive
whole number carried out in doubles (the remainder is exact, the quotient is rounded like any other operation).
-/

/-- largest whole part below a magnitude -/
def wholePart (u : Nat) : Nat := u / unitsPerOne

/-- whether a magnitude is a whole number -/
def isWhole (u : Nat) : Bool := u % unitsPerOne == 0

def withSign (negative : Bool) (n : Nat) : Int := if negative then -(n : Int) else n

/-- whole number toward zero -/
def truncate : Binary64 → Except Fault Int
  | .nan => .error .nanToInteger
  | .infinite _ => .error .infinityToInteger
  | .finite s u _ => .ok (withSign s (wholePart u))

/-- nearest whole number, a half going to the even neighbour -/
def nearestInt : Binary64 → Except Fault Int
  | .nan => .error .nanToInteger
  | .infinite _ => .error .infinityToInteger
  | .finite s u _ => .ok (withSign s (Decimal.roundDiv u unitsPerOne))

/-- the number of a whole number, unless that is past the range -/
def inRange? : Binary64 → Except Fault Binary64
  | .infinite _ => .error .integerTooLarge
  | x => .ok x

/-- the number of a whole number, unless it lies past the range -/
def ofInt? (n : Int) : Except Fault Binary64 := inRange? (ofInt n)

/-- greatest whole number not above, as a double -/
def floor : Binary64 → Binary64
  | .finite s u h =>
    if isWhole u then .finite s u h
    else if s then ofRatio true (wholePart u + 1) 1
    else ofRatio false (wholePart u) 1
  | x => x

/-- remainder of truncated division by the whole number `m`; it is exact and has the sign of the dividend -/
def remainder (x : Binary64) (m : Nat) : Binary64 :=
  match x with
  | .finite s u _ => ofUnits s (u % (m * unitsPerOne)) 1
  | _ => .nan

/-- remainder of floored division by the whole number `m` -/
def floorMod (x : Binary64) (m : Nat) : Binary64 :=
  let r := remainder x m
  if r.isZero then zero else if r < zero then r + ofInt m else r

/-- quotient of floored division by the whole number `m`, as doubles have it: the exact multiple is formed first, then
divided, and the result is moved to a whole number -/
def floorDiv (x : Binary64) (m : Nat) : Binary64 :=
  let r := remainder x m
  let q := (x - r) / ofInt m
  let q := if r < zero then q - ofInt 1 else q
  let f := floor q
  if ofRatio false 1 2 < q - f then f + ofInt 1 else f

/-!
## Texts

The three texts of a double: the shortest decimal that reads back to it, the text with at most six decimals that filter
arguments use, and `m:ss` for descriptions.
-/

/-! ### Shortest decimal -/

/-- distance to the next larger magnitude, in steps -/
def gapAbove (u : Nat) : Nat := twoPow (lastPlace u)

/-- distance to the next smaller magnitude, in steps -/
def gapBelow (u : Nat) : Nat :=
  if u = twoPow u.log2 ∧ 0 < lastPlace u then twoPow (lastPlace u - 1) else twoPow (lastPlace u)

/-- the range of reals that round to a magnitude, in half steps; its ends round to it when its last bit is zero -/
def target (u : Nat) : Decimal.Target where
  low := 2 * u - gapBelow u
  value := 2 * u
  high := 2 * u + gapAbove u
  denominator := 2 * unitsPerOne
  closed := (u / twoPow (lastPlace u)) % 2 == 0

/-- decimal with the fewest digits that reads back to a positive magnitude -/
def shortest (u : Nat) : Decimal := (target u).shortest

def magnitudeText (u : Nat) : List Char :=
  if u = 0 then Decimal.text Decimal.standard ⟨0, 0⟩ else Decimal.text Decimal.standard (shortest u)

/-- a minus sign where asked for -/
def signText (negative : Bool) : List Char := if negative then ['-'] else []

/-- shortest text that reads back to the number -/
def text : Binary64 → String
  | .nan => "nan"
  | .infinite s => String.ofList (signText s ++ ['i', 'n', 'f'])
  | .finite s u _ => String.ofList (signText s ++ magnitudeText u)

/-! ### Six decimals -/

/-- nearest number to the value rounded to whole millionths; of two millionths equally near the even one is taken -/
def toMillionths : Binary64 → Binary64
  | .finite s u _ => ofRatio s (Decimal.roundDiv (u * 1000000) unitsPerOne) 1000000
  | x => x

/-- text of a whole number, which has no negative zero -/
def wholeText (n : Int) : String := toString n

/-- filter-argument text: at most six decimals, and whole numbers without a point -/
def sixPlaces (x : Binary64) : String :=
  match toMillionths x with
  | .finite s u h => if isWhole u then wholeText (withSign s (wholePart u)) else text (.finite s u h)
  | y => text y

/-! ### Minutes and seconds -/

/-- a whole number with at least two digits -/
def twoDigits (n : Int) : String :=
  if 0 ≤ n ∧ n < 10 then "0" ++ toString n else toString n

/-- minutes and seconds, as `m:ss` -/
def clock (x : Binary64) : Except Fault String := do
  let minutes ← truncate (floorDiv x 60)
  let seconds ← truncate (floorMod x 60)
  return toString minutes ++ ":" ++ twoDigits seconds

end EditPlan.Binary64

namespace EditPlan

/-!
## Doubles as numbers

The arithmetic that plans are computed with.
-/

instance : Number Binary64 where
  decidableLT := inferInstance
  ofRat := Binary64.ofRat
  ofInt? := Binary64.ofInt?
  isZero := Binary64.isZero
  nearestInt := Binary64.nearestInt
  sixPlaces := Binary64.sixPlaces
  clock := Binary64.clock

end EditPlan
