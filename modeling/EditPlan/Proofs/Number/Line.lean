import EditPlan.Proofs.Command.Limit
import EditPlan.Proofs.Number.Exact

/-!
Numbers on the line of times. A time is a real number; it has reached a number if it is at the number or after it. A
number is less than another exactly if some time has reached it and not the other. So doubles, infinite ones included, and
rationals share the laws of their order; a NaN stands nowhere and compares with nothing.

Main statements:
- `lt_of_lt_of_not_lt`, `lt_of_not_lt_of_lt`: the order of numbers that compare is linear;
- `Binary64.reached_zero`, `Binary64.exists_reached`: what times reach.
-/

namespace EditPlan

open Number

/-- numbers that stand on the line of times, if they compare -/
class OnLine (ν : Type) [Number ν] where
  /-- whether a time is at the number or after it -/
  Reached : ν → ℝ → Prop
  reached_of_le : ∀ {x : ν} {t u : ℝ}, Reached x t → t ≤ u → Reached x u
  lt_iff : ∀ {x y : ν}, x < y ↔ isComparable x = true ∧ isComparable y = true ∧ ∃ t, Reached x t ∧ ¬ Reached y t

namespace OnLine

variable {ν : Type} [Number ν] [OnLine ν] {x y z : ν} {t u : ℝ}

theorem lt_of_reached (hx : isComparable x = true) (hy : isComparable y = true) (ht : Reached x t)
    (hnot : ¬ Reached y t) : x < y := lt_iff.2 ⟨hx, hy, t, ht, hnot⟩

theorem reached_of_not_lt (hx : isComparable x = true) (hy : isComparable y = true) (h : ¬ y < x) (ht : Reached y t) :
    Reached x t := by
  by_contra hnot
  exact h (lt_of_reached hy hx ht hnot)

theorem lt_of_not_reached (ht : ¬ Reached x t) (hu : Reached x u) : t < u := by
  by_contra h
  exact ht (reached_of_le hu (not_lt.1 h))

theorem lt_of_lt_of_not_lt (hz : isComparable z = true) (hxy : x < y) (hzy : ¬ z < y) : x < z := by
  obtain ⟨hx, hy, t, ht, hnot⟩ := lt_iff.1 hxy
  exact lt_of_reached hx hz ht fun hreached => hnot (reached_of_not_lt hy hz hzy hreached)

theorem lt_of_not_lt_of_lt (hx : isComparable x = true) (hyx : ¬ y < x) (hyz : y < z) : x < z := by
  obtain ⟨hy, hz, t, ht, hnot⟩ := lt_iff.1 hyz
  exact lt_of_reached hx hz (reached_of_not_lt hx hy hyx ht) hnot

theorem comparable_left (h : x < y) : isComparable x = true := (lt_iff.1 h).1

theorem comparable_right (h : x < y) : isComparable y = true := (lt_iff.1 h).2.1

instance : IsStrictOrder ν (· < ·) where
  irrefl x h := by
    obtain ⟨-, -, t, ht, hnot⟩ := lt_iff.1 h
    exact hnot ht
  trans x y z hxy hyz := by
    have hzy : ¬ z < y := by
      intro hzy
      obtain ⟨-, -, t, hyt, hzt⟩ := lt_iff.1 hyz
      obtain ⟨-, -, u, hzu, hyu⟩ := lt_iff.1 hzy
      exact absurd (lt_of_not_reached hzt hzu) (lt_of_not_reached hyu hyt).asymm
    exact lt_of_lt_of_not_lt (comparable_right hyz) hxy hzy

end OnLine

/-- exact numbers stand where they are -/
instance : OnLine Rat where
  Reached x t := (x : ℝ) ≤ t
  reached_of_le := le_trans
  lt_iff := by
    intro x y
    constructor
    · intro h
      exact ⟨Exact.isComparable_eq_true x, Exact.isComparable_eq_true y, x, le_rfl, not_le.2 (Rat.cast_lt.2 h)⟩
    · rintro ⟨-, -, t, hx, hy⟩
      exact Rat.cast_lt.1 (hx.trans_lt (not_le.1 hy))

namespace Binary64

/-- a time has reached negative infinity always, infinity never, and a finite number from its value on -/
def Reached : Binary64 → ℝ → Prop
  | .nan, _ => False
  | .infinite negative, _ => negative = true
  | .finite s u _, t => (signed s u : ℝ) / unitsPerOne ≤ t

variable {x y : Binary64}

theorem units_pos : (0 : ℝ) < unitsPerOne := Nat.cast_pos.2 (twoPow_pos _)

theorem isComparable_iff (x : Binary64) : isComparable x = true ↔ x ≠ .nan := by
  simp only [isComparable, Bool.or_eq_true, decide_eq_true_eq, number_zero, number_one]
  cases x with
  | nan => exact iff_of_false (not_or.2 ⟨nan_lt _, lt_nan zero⟩) (fun h => h rfl)
  | infinite s =>
    refine iff_of_true ?_ (by simp)
    cases s with
    | false => exact Or.inr rfl
    | true => exact Or.inl rfl
  | finite s u h =>
    refine iff_of_true ?_ (by simp)
    have hone : 0 < 1 * unitsPerOne := by rw [Nat.one_mul]; exact twoPow_pos _
    show decide (signed s u < signed false (1 * unitsPerOne)) = true ∨ decide (signed false 0 < signed s u) = true
    rw [decide_eq_true_iff, decide_eq_true_iff]
    cases s <;> simp only [signed, if_true, Bool.false_eq_true, if_false] <;> omega

theorem isComparable_of_isFinite {x : Binary64} (h : x.isFinite = true) : isComparable x = true := by
  rw [isComparable_iff]
  rintro rfl
  exact Bool.false_ne_true h

theorem isFinite_zero : (Number.zero : Binary64).isFinite = true := (congrArg isFinite number_zero).trans rfl

theorem exists_reached (h : x.isFinite = true) : ∃ t, x.Reached t := by
  obtain ⟨s, u, hu, rfl⟩ := exists_finite h
  exact ⟨_, le_rfl⟩

theorem exists_not_reached (h : x.isFinite = true) : ∃ t, ¬ x.Reached t := by
  obtain ⟨s, u, hu, rfl⟩ := exists_finite h
  exact ⟨_, not_le.2 (sub_one_lt _)⟩

/-- of two finite numbers, the steps tell which is reached first -/
theorem signed_lt_iff {s s' : Bool} {u v : ℕ} (hu : Representable u) (hv : Representable v) :
    signed s u < signed s' v ↔ ∃ t, (finite s u hu).Reached t ∧ ¬ (finite s' v hv).Reached t := by
  rw [← Int.cast_lt (R := ℝ), ← div_lt_div_iff_of_pos_right units_pos]
  constructor
  · intro h
    exact ⟨_, le_rfl, not_le.2 h⟩
  · rintro ⟨t, hx, hy⟩
    exact hx.trans_lt (not_le.1 hy)

/-- **Less is reached earlier** -/
theorem lt_iff_reached : x < y ↔ x ≠ .nan ∧ y ≠ .nan ∧ ∃ t, x.Reached t ∧ ¬ y.Reached t := by
  cases x with
  | nan => exact iff_of_false (nan_lt y) fun h => h.1 rfl
  | infinite s =>
    cases y with
    | nan => exact iff_of_false (lt_nan _) fun h => h.2.1 rfl
    | infinite s' =>
      show (s && !s') = true ↔ _
      cases s <;> cases s' <;> simp [Reached]
    | finite s' v hv =>
      show s = true ↔ _
      obtain ⟨t, ht⟩ := exists_not_reached (x := .finite s' v hv) rfl
      constructor
      · intro hs
        exact ⟨by simp, by simp, t, hs, ht⟩
      · rintro ⟨-, -, _, hs, -⟩
        exact hs
  | finite s u hu =>
    cases y with
    | nan => exact iff_of_false (lt_nan _) fun h => h.2.1 rfl
    | infinite s' =>
      show (!s') = true ↔ _
      obtain ⟨t, ht⟩ := exists_reached (x := .finite s u hu) rfl
      rw [Bool.not_eq_true', ← Bool.not_eq_true]
      constructor
      · intro hs
        exact ⟨by simp, by simp, t, ht, hs⟩
      · rintro ⟨-, -, _, -, hs⟩
        exact hs
    | finite s' v hv =>
      show decide (signed s u < signed s' v) = true ↔ _
      rw [decide_eq_true_iff, signed_lt_iff hu hv]
      simp

instance : OnLine Binary64 where
  Reached := Reached
  reached_of_le := by
    intro x t u h htu
    cases x with
    | nan => exact h
    | infinite s => exact h
    | finite s v hv => exact le_trans h htu
  lt_iff := by
    intro x y
    rw [isComparable_iff, isComparable_iff]
    exact lt_iff_reached

theorem reached_zero (t : ℝ) : OnLine.Reached (Number.zero : Binary64) t ↔ 0 ≤ t := by
  rw [number_zero]
  show ((signed false 0 : ℤ) : ℝ) / unitsPerOne ≤ t ↔ 0 ≤ t
  rw [show signed false 0 = 0 from rfl, Int.cast_zero, zero_div]

-- the value of a double is a quotient of large numbers, which no later proof should compute
attribute [irreducible] Reached

end Binary64

end EditPlan
