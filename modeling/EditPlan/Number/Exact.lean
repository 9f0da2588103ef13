import EditPlan.Number.Basic
import EditPlan.Decimal

/-!
Exact numbers: rationals, in which the laws of a timeline are stated, and doubles without their rounding.
-/

namespace EditPlan.Exact

/-!
## Rationals

Rationals as numbers: the exact arithmetic in which the laws of a timeline are stated. No step rounds and none fails.
-/

/-- text of a whole number of millionths, without trailing zeros -/
def millionthsText (k : Nat) : List Char :=
  let fraction := ((Decimal.padded 6 (k % 1000000)).reverse.dropWhile (· == '0')).reverse
  Decimal.digits (k / 1000000) ++ if fraction.isEmpty then [] else '.' :: fraction

/-- at most six decimals; of two millionths equally near the even one is taken -/
def sixPlaces (x : Rat) : String :=
  let k := Decimal.roundDiv (x.num.natAbs * 1000000) x.den
  String.ofList ((if x < 0 ∧ k ≠ 0 then ['-'] else []) ++ millionthsText k)

/-- whole minutes and seconds below, as `m:ss` -/
def clock (x : Rat) : String :=
  let s := x.floor
  toString (s / 60) ++ ":" ++ String.ofList (Decimal.padded 2 (s % 60).toNat)

end EditPlan.Exact

namespace EditPlan

instance : Number Rat where
  decidableLT := inferInstance
  ofRat := id
  ofInt? n := .ok n
  isZero x := x == 0
  nearestInt x := .ok (Decimal.roundDivInt x.num x.den)
  sixPlaces := Exact.sixPlaces
  clock x := .ok (Exact.clock x)

/-!
## Doubles without rounding

Doubles without their rounding: rationals in which every step is exact, beside the two infinities and NaN, which commands
may hold and which compare and compute as they do for doubles. A law of exact arithmetic that is to hold whatever the
numbers of a command are is stated on these. There is one zero.
-/

/-- a rational, or what a double may be beside a number -/
inductive Unrounded where
  | nan
  | infinite (negative : Bool)
  | exact (value : Rat)
  deriving DecidableEq, Repr

namespace Unrounded

/-! ### Order -/

/-- strictly less; nothing is less than NaN and NaN is less than nothing -/
def lt : Unrounded → Unrounded → Bool
  | .nan, _ => false
  | _, .nan => false
  | .infinite s, .infinite t => s && !t
  | .infinite s, .exact _ => s
  | .exact _, .infinite t => !t
  | .exact p, .exact q => decide (p < q)

instance : LT Unrounded := ⟨fun x y => lt x y = true⟩

instance (x y : Unrounded) : Decidable (x < y) := inferInstanceAs (Decidable (lt x y = true))

/-! ### Arithmetic -/

def neg : Unrounded → Unrounded
  | .nan => .nan
  | .infinite s => .infinite (!s)
  | .exact q => .exact (-q)

def add : Unrounded → Unrounded → Unrounded
  | .nan, _ => .nan
  | _, .nan => .nan
  | .infinite s, .infinite t => if s = t then .infinite s else .nan
  | .infinite s, .exact _ => .infinite s
  | .exact _, .infinite t => .infinite t
  | .exact p, .exact q => .exact (p + q)

instance : Add Unrounded := ⟨add⟩

def sub (x y : Unrounded) : Unrounded := add x (neg y)

instance : Sub Unrounded := ⟨sub⟩

/-- an infinity times a number, or over one -/
def infiniteTimes (s : Bool) (q : Rat) : Unrounded := .infinite (s != decide (q < 0))

def mul : Unrounded → Unrounded → Unrounded
  | .nan, _ => .nan
  | _, .nan => .nan
  | .infinite s, .infinite t => .infinite (s != t)
  | .infinite s, .exact q => if q = 0 then .nan else infiniteTimes s q
  | .exact p, .infinite t => if p = 0 then .nan else infiniteTimes t p
  | .exact p, .exact q => .exact (p * q)

instance : Mul Unrounded := ⟨mul⟩

/-- quotient; a number over zero is infinite, zero over zero is NaN -/
def div : Unrounded → Unrounded → Unrounded
  | .nan, _ => .nan
  | _, .nan => .nan
  | .infinite _, .infinite _ => .nan
  | .infinite s, .exact q => infiniteTimes s q
  | .exact _, .infinite _ => .exact 0
  | .exact p, .exact q => if q = 0 then (if p = 0 then .nan else infiniteTimes false p) else .exact (p / q)

instance : Div Unrounded := ⟨div⟩

/-! ### Whole numbers and texts -/

def isZero : Unrounded → Bool
  | .exact q => q == 0
  | _ => false

/-- what is found for a rational; there is nothing to be found for others -/
def overRat {α : Type} (f : Rat → α) : Unrounded → Except Fault α
  | .nan => .error .nanToInteger
  | .infinite _ => .error .infinityToInteger
  | .exact q => .ok (f q)

/-- filter-argument text: at most six decimals -/
def sixPlaces : Unrounded → String
  | .nan => "nan"
  | .infinite s => if s then "-inf" else "inf"
  | .exact q => Exact.sixPlaces q

/-- minutes and seconds, as `m:ss`; the seconds that an infinite number leaves over are a NaN -/
def clock : Unrounded → Except Fault String
  | .exact q => .ok (Exact.clock q)
  | _ => .error .nanToInteger

end Unrounded

instance : Number Unrounded where
  decidableLT := inferInstance
  ofRat := .exact
  ofInt? n := .ok (.exact n)
  isZero := Unrounded.isZero
  nearestInt := Unrounded.overRat fun q => Decimal.roundDivInt q.num q.den
  sixPlaces := Unrounded.sixPlaces
  clock := Unrounded.clock

end EditPlan
