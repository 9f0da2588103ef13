/-!
Numbers, and what can go wrong with them while a command is turned into an operation. All faults are numeric: a plan
never refuses a command for its options.

The arithmetic a timeline needs is one class: the same definitions run on doubles, where every step rounds, and on
rationals, where every step is exact. `atLeast` and `atMost` are the two one-sided bounds from which every clamp is
built; a value that compares with nothing (NaN) is replaced by the bound.

Whole numbers are unbounded, but one of more than 4300 digits is neither read nor written.
-/

namespace EditPlan

/-! ## Faults -/

/-- a numeric step that has no answer -/
inductive Fault where
  | nanToInteger
  | infinityToInteger
  | divisionByZero
  | integerTooLarge
  | tooManyDigits
  deriving DecidableEq, Repr

def Fault.message : Fault → String
  | .nanToInteger => "cannot convert float NaN to integer"
  | .infinityToInteger => "cannot convert float infinity to integer"
  | .divisionByZero => "float division by zero"
  | .integerTooLarge => "int too large to convert to float"
  | .tooManyDigits =>
    "Exceeds the limit (4300 digits) for integer string conversion; use sys.set_int_max_str_digits() to increase the limit"

/-! ## Texts of whole numbers -/

namespace Numeral

/-- digits that a whole number may have where it is read or written -/
def mostDigits : Nat := 4300

/-- a whole number with no more digits than may be written; its sign does not count -/
def IsShort (n : Int) : Prop := (Nat.toDigits 10 n.natAbs).length ≤ mostDigits

instance (n : Int) : Decidable (IsShort n) := inferInstanceAs (Decidable (_ ≤ mostDigits))

/-- decimal text of a whole number, unless it has too many digits -/
def text (n : Int) : Except Fault String := if IsShort n then .ok (toString n) else .error .tooManyDigits

theorem text_of_isShort {n : Int} (h : IsShort n) : text n = .ok (toString n) := if_pos h

theorem text_of_not_isShort {n : Int} (h : ¬ IsShort n) : text n = .error .tooManyDigits := if_neg h

end Numeral

/-! ## Arithmetic -/

/-- numbers that times, levels and factors are made of -/
class Number (ν : Type) extends Add ν, Sub ν, Mul ν, Div ν, LT ν where
  decidableLT : DecidableLT ν
  /-- the number nearest to a rational -/
  ofRat : Rat → ν
  /-- the number of a whole number, unless it is past the largest one -/
  ofInt? : Int → Except Fault ν
  /-- a zero of either sign -/
  isZero : ν → Bool
  /-- nearest whole number, a half going to the even neighbour -/
  nearestInt : ν → Except Fault Int
  /-- filter-argument text: at most six decimals -/
  sixPlaces : ν → String
  /-- minutes and seconds, as `m:ss` -/
  clock : ν → Except Fault String

namespace Number

variable {ν : Type} [Number ν]

instance : DecidableLT ν := Number.decidableLT

def zero : ν := ofRat 0

def one : ν := ofRat 1

def half : ν := ofRat (1 / 2)

/-- whether a number compares with others: it is below one or above zero unless it compares with nothing -/
def isComparable (x : ν) : Bool := decide (x < one) || decide (zero < x)

/-- the value `x`, raised to `low` unless it is above -/
def atLeast (low x : ν) : ν := if low < x then x else low

/-- the value `x`, lowered to `high` unless it is below -/
def atMost (high x : ν) : ν := if x < high then x else high

/-- the value `x`, brought into `low` to `high`; the lower bound wins over an upper bound below it -/
def clamp (x low high : ν) : ν := atLeast low (atMost high x)

/-- sum in list order, starting at zero -/
def sum (xs : List ν) : ν := xs.foldl (· + ·) zero

end Number

end EditPlan
