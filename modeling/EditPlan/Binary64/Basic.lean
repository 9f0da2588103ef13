import EditPlan.Decimal

/-!
Binary floating-point numbers of double width as plain data. A finite value is a sign and a whole number of steps of
`2^-1074`; the magnitude carries the proof that it has at most 53 significant bits and stays below `2^1024`, so each
number has one form and equality of values is equality of forms (signed zeros and the one NaN included).

Every operation is computed exactly on the step grid and rounded once, to nearest with ties to even.
Main statement: `nearestUnits_aligned` (rounding always lands on a number of the format).
-/

namespace EditPlan

namespace Binary64

/-- the step of the grid is `2^-stepExponent` -/
def stepExponent : Nat := 1074

/-- magnitudes stay below `2^rangeExponent` -/
def rangeExponent : Nat := 1024

/-- power of two: `2^n` -/
def twoPow (n : Nat) : Nat := Nat.pow 2 n

theorem twoPow_pos (n : Nat) : 0 < twoPow n := Nat.two_pow_pos n

theorem twoPow_add (m n : Nat) : twoPow (m + n) = twoPow m * twoPow n := Nat.pow_add 2 m n

theorem twoPow_le {m n : Nat} (h : m ≤ n) : twoPow m ≤ twoPow n := Nat.pow_le_pow_right (by decide) h

theorem twoPow_dvd {m n : Nat} (h : m ≤ n) : twoPow m ∣ twoPow n := Nat.pow_dvd_pow 2 h

theorem log2_twoPow (n : Nat) : (twoPow n).log2 = n := Nat.log2_two_pow

theorem lt_twoPow_log2 (u : Nat) : u < twoPow (u.log2 + 1) := Nat.lt_log2_self

theorem log2_lt_of_lt_twoPow {u n : Nat} (hu : u ≠ 0) (h : u < twoPow n) : u.log2 < n := (Nat.log2_lt hu).2 h

def unitsPerOne : Nat := twoPow stepExponent

/-- first magnitude past the range, in steps -/
def overflowUnits : Nat := twoPow (rangeExponent + stepExponent)

/-- a magnitude is a multiple of its last place: at most 53 significant bits -/
def Aligned (u : Nat) : Prop := twoPow (u.log2 - 52) ∣ u

/-- a magnitude of the format: aligned and in range -/
def Representable (u : Nat) : Prop := u < overflowUnits ∧ Aligned u

instance (u : Nat) : Decidable (Aligned u) := inferInstanceAs (Decidable (_ ∣ _))

instance (u : Nat) : Decidable (Representable u) := inferInstanceAs (Decidable (_ ∧ _))

end Binary64

/-- a double-width binary floating-point number -/
inductive Binary64 where
  | nan
  | infinite (negative : Bool)
  | finite (negative : Bool) (units : Nat) (representable : Binary64.Representable units)
  deriving DecidableEq

namespace Binary64

/-! ## Rounding onto the format -/

/-- exponent of the last place kept for a magnitude whose whole part is `whole` steps -/
def lastPlace (whole : Nat) : Nat := whole.log2 - 52

/-- magnitude of the format nearest to `p / q` steps, ties to even -/
def nearestUnits (p q : Nat) : Nat :=
  Decimal.roundDiv p (q * twoPow (lastPlace (p / q))) * twoPow (lastPlace (p / q))

theorem div_lastPlace_lt (w : Nat) : w / twoPow (lastPlace w) < twoPow 53 := by
  rw [Nat.div_lt_iff_lt_mul (twoPow_pos _), ← twoPow_add]
  refine Nat.lt_of_lt_of_le (lt_twoPow_log2 w) (twoPow_le ?_)
  unfold lastPlace
  omega

theorem aligned_mul_twoPow {k s : Nat} (hk : k ≤ twoPow 53) : Aligned (k * twoPow s) := by
  unfold Aligned
  by_cases h0 : k = 0
  · rw [h0, Nat.zero_mul]
    exact Nat.dvd_zero _
  by_cases hm : k = twoPow 53
  · rw [hm, ← twoPow_add, log2_twoPow]
    exact twoPow_dvd (Nat.sub_le _ _)
  · have hlt : k * twoPow s < twoPow (53 + s) := by
      rw [twoPow_add]
      exact Nat.mul_lt_mul_of_pos_right (Nat.lt_of_le_of_ne hk hm) (twoPow_pos s)
    have hne : k * twoPow s ≠ 0 := Nat.mul_ne_zero h0 (Nat.ne_of_gt (twoPow_pos s))
    have hlog := log2_lt_of_lt_twoPow hne hlt
    exact Nat.dvd_trans (twoPow_dvd (by omega)) (Nat.dvd_mul_left _ _)

theorem nearestUnits_aligned (p q : Nat) : Aligned (nearestUnits p q) := by
  refine aligned_mul_twoPow ?_
  refine Nat.le_trans (Decimal.roundDiv_le_succ _ _) ?_
  rw [← Nat.div_div_eq_div_mul]
  exact div_lastPlace_lt (p / q)

/-- number with the sign and the magnitude nearest to `p / q` steps; past the range it is infinite -/
def ofUnits (negative : Bool) (p q : Nat) : Binary64 :=
  if h : nearestUnits p q < overflowUnits then .finite negative (nearestUnits p q) ⟨h, nearestUnits_aligned p q⟩
  else .infinite negative

/-- number nearest to `p / q` -/
def ofRatio (negative : Bool) (p q : Nat) : Binary64 := ofUnits negative (p * unitsPerOne) q

def ofRat (r : Rat) : Binary64 := ofRatio (decide (r.num < 0)) r.num.natAbs r.den

/-- number nearest to a whole number -/
def ofInt (n : Int) : Binary64 := ofRatio (decide (n < 0)) n.natAbs 1

theorem overflowUnits_pos : 0 < overflowUnits := twoPow_pos (rangeExponent + stepExponent)

theorem zero_representable : Representable 0 := ⟨overflowUnits_pos, Nat.dvd_zero _⟩

def zero : Binary64 := .finite false 0 zero_representable

instance : Inhabited Binary64 := ⟨zero⟩

/-! ## Sign and value -/

/-- signed count of steps -/
def signed (negative : Bool) (units : Nat) : Int := if negative then -(units : Int) else units

/-- neither NaN nor infinite -/
def isFinite : Binary64 → Bool
  | .finite .. => true
  | _ => false

/-- a zero of either sign -/
def isZero : Binary64 → Bool
  | .finite _ u _ => u == 0
  | _ => false

/-- exact value of a finite number; others have none -/
def toRat? : Binary64 → Option Rat
  | .finite s u _ => some (mkRat (signed s u) unitsPerOne)
  | _ => none

/-- negation flips the sign, also of zero -/
def neg : Binary64 → Binary64
  | .nan => .nan
  | .infinite s => .infinite (!s)
  | .finite s u h => .finite (!s) u h

instance : Neg Binary64 := ⟨neg⟩

/-! ## Order -/

/-- strictly less; nothing is less than NaN and NaN is less than nothing -/
def lt : Binary64 → Binary64 → Bool
  | .nan, _ => false
  | _, .nan => false
  | .infinite s, .infinite t => s && !t
  | .infinite s, .finite .. => s
  | .finite .., .infinite t => !t
  | .finite s u _, .finite t v _ => decide (signed s u < signed t v)

instance : LT Binary64 := ⟨fun x y => lt x y = true⟩

instance (x y : Binary64) : Decidable (x < y) := inferInstanceAs (Decidable (lt x y = true))

/-! ## Arithmetic -/

/-- sum of two finite numbers: exact on the step grid, then rounded; an exact zero is negative only from two negatives -/
def addFinite (s : Bool) (u : Nat) (t : Bool) (v : Nat) : Binary64 :=
  let z := signed s u + signed t v
  if z = 0 then .finite (s && t) 0 zero_representable else ofUnits (decide (z < 0)) z.natAbs 1

/-- sum, rounded once -/
def add : Binary64 → Binary64 → Binary64
  | .nan, _ => .nan
  | _, .nan => .nan
  | .infinite s, .infinite t => if s = t then .infinite s else .nan
  | .infinite s, .finite .. => .infinite s
  | .finite .., .infinite t => .infinite t
  | .finite s u _, .finite t v _ => addFinite s u t v

instance : Add Binary64 := ⟨add⟩

/-- difference, rounded once -/
def sub (x y : Binary64) : Binary64 := add x (neg y)

instance : Sub Binary64 := ⟨sub⟩

/-- product, rounded once -/
def mul : Binary64 → Binary64 → Binary64
  | .nan, _ => .nan
  | _, .nan => .nan
  | .infinite s, .infinite t => .infinite (s != t)
  | .infinite s, .finite t v _ => if v = 0 then .nan else .infinite (s != t)
  | .finite s u _, .infinite t => if u = 0 then .nan else .infinite (s != t)
  | .finite s u _, .finite t v _ => ofUnits (s != t) (u * v) unitsPerOne

instance : Mul Binary64 := ⟨mul⟩

/-- quotient, rounded once; a finite number over zero is infinite, zero over zero is NaN -/
def div : Binary64 → Binary64 → Binary64
  | .nan, _ => .nan
  | _, .nan => .nan
  | .infinite _, .infinite _ => .nan
  | .infinite s, .finite t _ _ => .infinite (s != t)
  | .finite s _ _, .infinite t => .finite (s != t) 0 zero_representable
  | .finite s u _, .finite t v _ =>
    if v = 0 then (if u = 0 then .nan else .infinite (s != t)) else ofUnits (s != t) (u * unitsPerOne) v

instance : Div Binary64 := ⟨div⟩

end Binary64

end EditPlan
