/-!
Decimals: rounding to a grid, the shortest decimal that still names a number, and its text.

Main statements: `roundDiv_le_succ` (never past the next whole number) and `roundDiv_of_dvd` (exact quotients stay).
-/

namespace EditPlan.Decimal

/-!
## Rounding

Rounding a quotient of naturals to the nearest whole number, a half going to the even neighbour.
-/

/-- nearest whole number to `n / d`, a half going to the even neighbour -/
def roundDiv (n d : Nat) : Nat :=
  if 2 * (n % d) < d then n / d
  else if d < 2 * (n % d) then n / d + 1
  else if (n / d) % 2 = 0 then n / d
  else n / d + 1

theorem le_roundDiv (n d : Nat) : n / d ≤ roundDiv n d := by
  unfold roundDiv
  split
  · exact Nat.le_refl _
  · split
    · exact Nat.le_succ _
    · split
      · exact Nat.le_refl _
      · exact Nat.le_succ _

theorem roundDiv_le_succ (n d : Nat) : roundDiv n d ≤ n / d + 1 := by
  unfold roundDiv
  split
  · exact Nat.le_succ _
  · split
    · exact Nat.le_refl _
    · split
      · exact Nat.le_succ _
      · exact Nat.le_refl _

theorem roundDiv_of_dvd {n d : Nat} (hd : 0 < d) (h : d ∣ n) : roundDiv n d = n / d := by
  have hmod : n % d = 0 := Nat.mod_eq_zero_of_dvd h
  simp [roundDiv, hmod, hd]

/-- nearest whole number to a signed quotient, a half going to the even neighbour -/
def roundDivInt (n : Int) (d : Nat) : Int :=
  if n < 0 then -(roundDiv n.natAbs d : Int) else (roundDiv n.natAbs d : Int)

end EditPlan.Decimal

namespace EditPlan

/-!
## Fewest digits

The fewest decimal digits that still name one number. A number is given with the range of reals that round to it, all
over one denominator; the search walks decimal grids `10^q` from coarse to fine and stops at the first grid that has a
point in the range. Of two such points the nearer wins, a tie going to the even one.
-/

/-- the decimal `coefficient · 10^exponent` -/
structure Decimal where
  coefficient : Nat
  exponent : Int
  deriving DecidableEq, Repr

namespace Decimal

/-- a positive value and the range of reals that round to it, as numerators over `denominator` -/
structure Target where
  low : Nat
  value : Nat
  high : Nat
  denominator : Nat
  /-- whether the ends of the range belong to it -/
  closed : Bool

/-- power of ten: `10^n` -/
def tenPow (n : Nat) : Nat := Nat.pow 10 n

theorem tenPow_pos (n : Nat) : 0 < tenPow n := Nat.pow_pos (by decide)

def scaleUp (q : Int) : Nat := tenPow q.toNat

def scaleDown (q : Int) : Nat := tenPow (-q).toNat

namespace Target

/-- whether the grid point `c · 10^q` lies in the range -/
def contains (t : Target) (q : Int) (c : Nat) : Bool :=
  let x := c * (scaleUp q * t.denominator)
  if t.closed then decide (t.low * scaleDown q ≤ x) && decide (x ≤ t.high * scaleDown q)
  else decide (t.low * scaleDown q < x) && decide (x < t.high * scaleDown q)

/-- the grid points of `10^q` on either side of the value -/
def below (t : Target) (q : Int) : Nat := t.value * scaleDown q / (scaleUp q * t.denominator)

/-- the point of the grid `10^q` nearest to the value -/
def nearest (t : Target) (q : Int) : Nat := roundDiv (t.value * scaleDown q) (scaleUp q * t.denominator)

/-- the point of the grid `10^q` that names the value, if the grid has one in the range -/
def point? (t : Target) (q : Int) : Option Nat :=
  match t.contains q (t.below q), t.contains q (t.below q + 1) with
  | true, true => some (t.nearest q)
  | true, false => some (t.below q)
  | false, true => some (t.below q + 1)
  | false, false => none

/-- exponent of the finest grid that is tried -/
def finest : Int := -324

/-- first point found on the grids `10^(finest + n)`, ..., `10^finest`, coarse to fine -/
def search (t : Target) : Nat → Decimal
  | 0 => ⟨t.nearest finest, finest⟩
  | n + 1 =>
    match t.point? (finest + (n + 1 : Nat)) with
    | some c => ⟨c, finest + (n + 1 : Nat)⟩
    | none => t.search n

/-- a grid coarse enough that its first point lies past the value -/
def coarsest (t : Target) : Nat :=
  let bits : Int := (t.value.log2 : Int) + 1 - t.denominator.log2
  (bits * 30103 / 100000 + 1 - finest).toNat

/-- the decimal with the fewest digits in the range -/
def shortest (t : Target) : Decimal := t.search t.coarsest

end Target

end Decimal

end EditPlan

namespace EditPlan.Decimal

/-!
## Layout

Laying out a decimal as text: positional notation for moderate sizes, scientific notation beyond. The decisions are in
one record, `Layout`; `Decimal.text` only follows it.
-/

/-- decisions of a number format -/
structure Layout where
  /-- least exponent of the leading digit that is written positionally -/
  positionalFrom : Int
  /-- least exponent of the leading digit that is written scientifically -/
  positionalBelow : Int
  /-- what follows a whole number -/
  wholeSuffix : String
  /-- least number of digits of an exponent -/
  exponentWidth : Nat

/-- Numbers are positional from `0.0001` to below `10^16`, whole ones end in `.0`, and an exponent has two digits. -/
def standard : Layout := ⟨-4, 16, ".0", 2⟩

/-- decimal digits of a natural, leading digit first -/
def digits (n : Nat) : List Char := Nat.toDigits 10 n

def zeros (n : Nat) : List Char := List.replicate n '0'

def padded (width n : Nat) : List Char := zeros (width - (digits n).length) ++ digits n

def positional (layout : Layout) (ds : List Char) (q : Int) : List Char :=
  let point : Int := ds.length + q
  if 0 ≤ q then ds ++ zeros q.toNat ++ layout.wholeSuffix.toList
  else if 0 < point then ds.take point.toNat ++ '.' :: ds.drop point.toNat
  else '0' :: '.' :: zeros (-point).toNat ++ ds

/-- scientific notation with leading digit at `10^lead` -/
def scientific (layout : Layout) (ds : List Char) (lead : Int) : List Char :=
  let mantissa := match ds with
    | [] => []
    | [d] => [d]
    | d :: r => d :: '.' :: r
  mantissa ++ 'e' :: (if lead < 0 then '-' else '+') :: padded layout.exponentWidth lead.natAbs

def text (layout : Layout) (d : Decimal) : List Char :=
  let ds := digits d.coefficient
  let lead : Int := (ds.length : Int) - 1 + d.exponent
  if layout.positionalFrom ≤ lead ∧ lead < layout.positionalBelow then positional layout ds d.exponent
  else scientific layout ds lead

end EditPlan.Decimal
