import Mathlib.Tactic
import EditPlan.Decimal

/-!
The search for the decimal with the fewest digits. The points of a grid that lie in the range are on both sides of the value
or next to it, so looking at two of them tells whether there is one. The search goes from coarse grids to fine ones: it
never ends on a finer grid than one that is known to have a point in the range, and what it ends with lies in the range.

Main statements:
- `contains_neighbour`: a grid with a point in the range has one next to the value;
- `search_contains`: where the search ends.
-/

namespace EditPlan.Decimal.Target

variable {t : Target} {q : ℤ} {c : ℕ}

/-- the value lies inside its range -/
structure IsInside (t : Target) : Prop where
  denominator : 0 < t.denominator
  low : t.low < t.value
  high : t.value < t.high

theorem contains_iff : t.contains q c = true ↔
    if t.closed then t.low * scaleDown q ≤ c * (scaleUp q * t.denominator) ∧
      c * (scaleUp q * t.denominator) ≤ t.high * scaleDown q
    else t.low * scaleDown q < c * (scaleUp q * t.denominator) ∧
      c * (scaleUp q * t.denominator) < t.high * scaleDown q := by
  unfold contains
  dsimp only
  split_ifs <;> rw [Bool.and_eq_true, decide_eq_true_iff, decide_eq_true_iff]

/-- **A grid with a point in the range** has one right below the value or right above it -/
theorem contains_neighbour (ht : t.IsInside) (h : t.contains q c = true) :
    t.contains q (t.below q) = true ∨ t.contains q (t.below q + 1) = true := by
  have hstep : 0 < scaleUp q * t.denominator := Nat.mul_pos (tenPow_pos _) ht.denominator
  have hdown : 0 < scaleDown q := tenPow_pos _
  have hlow := Nat.mul_lt_mul_of_pos_right ht.low hdown
  have hhigh := Nat.mul_lt_mul_of_pos_right ht.high hdown
  -- the value between two neighbours of the grid
  have hunder : t.below q * (scaleUp q * t.denominator) ≤ t.value * scaleDown q := Nat.div_mul_le_self _ _
  have hover : t.value * scaleDown q < (t.below q + 1) * (scaleUp q * t.denominator) := by
    rw [Nat.mul_comm (t.below q + 1)]
    exact Nat.lt_mul_div_succ _ hstep
  rw [contains_iff] at h
  rw [contains_iff, contains_iff]
  rcases Nat.lt_or_ge (t.below q) c with hgreater | hle
  · have hmul : (t.below q + 1) * (scaleUp q * t.denominator) ≤ c * (scaleUp q * t.denominator) :=
      Nat.mul_le_mul_right _ hgreater
    right
    split_ifs at h ⊢ <;> omega
  · have hmul := Nat.mul_le_mul_right (scaleUp q * t.denominator) hle
    left
    split_ifs at h ⊢ <;> omega

theorem nearest_cases (t : Target) (q : ℤ) : t.nearest q = t.below q ∨ t.nearest q = t.below q + 1 := by
  have hleast : t.below q ≤ t.nearest q := le_roundDiv _ _
  have hmost : t.nearest q ≤ t.below q + 1 := roundDiv_le_succ _ _
  omega

/-- the point that names the value on a grid lies in the range -/
theorem contains_of_point? (h : t.point? q = some c) : t.contains q c = true := by
  unfold point? at h
  split at h
  · next hbelow habove =>
    obtain rfl := Option.some.inj h
    rcases nearest_cases t q with heq | heq
    · rw [heq, hbelow]
    · rw [heq, habove]
  · next hbelow _ =>
    obtain rfl := Option.some.inj h
    exact hbelow
  · next _ habove =>
    obtain rfl := Option.some.inj h
    exact habove
  · exact absurd h (by simp)

theorem point?_isSome (ht : t.IsInside) (h : t.contains q c = true) : (t.point? q).isSome = true := by
  unfold point?
  rcases contains_neighbour ht h with hbelow | habove
  · rw [hbelow]
    cases t.contains q (t.below q + 1) <;> rfl
  · rw [habove]
    cases t.contains q (t.below q) <;> rfl

/-- **The search ends in the range**, and not on a finer grid than one that has a point there -/
theorem search_contains (ht : t.IsInside) {k n : ℕ} (hk : 0 < k) (hkn : k ≤ n) (h : t.contains (finest + k) c = true) :
    finest + k ≤ (t.search n).exponent ∧ t.contains (t.search n).exponent (t.search n).coefficient = true := by
  induction n with
  | zero => omega
  | succ n ih =>
    rw [search]
    split
    · next d hpoint => exact ⟨by dsimp only; omega, contains_of_point? hpoint⟩
    · next hpoint =>
      refine ih (Nat.lt_succ_iff.1 (lt_of_le_of_ne hkn ?_))
      rintro rfl
      have hsome := point?_isSome ht h
      rw [Option.isSome_iff_ne_none] at hsome
      exact hsome hpoint

end EditPlan.Decimal.Target
