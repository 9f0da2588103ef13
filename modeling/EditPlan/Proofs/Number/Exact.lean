import Mathlib.Tactic
import EditPlan.Number.Exact
import EditPlan.Proofs.Footage.Windows
import EditPlan.Command.Basic

/-!
Exact arithmetic in the words of the order. On rationals the one-sided bounds are a maximum and a minimum, and every number
compares with the others. Beside infinities and NaN the arithmetic of rationals stays as it is, and what is brought between
two rationals is one of them.

Main statements:
- `mul_exact_exact`: positive factors in a row multiply by their product;
- `clamp_eq`: what becomes of a number that is brought between two rationals, whatever it is.
-/

namespace EditPlan.Exact

open Number

@[simp] theorem zero_eq : (Number.zero : Rat) = 0 := rfl

@[simp] theorem one_eq : (Number.one : Rat) = 1 := rfl

theorem atLeast_eq_max (low x : Rat) : atLeast low x = max low x := by
  unfold atLeast
  split_ifs with h
  · exact (max_eq_right h.le).symm
  · exact (max_eq_left (not_lt.1 h)).symm

theorem atMost_eq_min (high x : Rat) : atMost high x = min high x := by
  unfold atMost
  split_ifs with h
  · exact (min_eq_right h.le).symm
  · exact (min_eq_left (not_lt.1 h)).symm

theorem sum_eq (xs : List Rat) : Number.sum xs = xs.sum := List.sum_eq_foldl.symm

theorem isComparable_eq_true (x : Rat) : isComparable x = true := by
  rw [isComparable, Bool.or_eq_true]
  rcases lt_or_ge x 1 with h | h
  · exact Or.inl (decide_eq_true h)
  · exact Or.inr (decide_eq_true (lt_of_lt_of_le zero_lt_one h))

theorem limitShare_nonneg (x : Rat) : 0 ≤ limitShare x := by
  rw [limitShare, clamp, atLeast_eq_max, zero_eq]
  exact le_max_left _ _

theorem limitShare_le_one (x : Rat) : limitShare x ≤ 1 := by
  rw [limitShare, clamp, atLeast_eq_max, atMost_eq_min, zero_eq, one_eq]
  exact max_le zero_le_one (min_le_left _ _)

/-- removals at exact times are always visited in the order of their starts -/
theorem inOrder_sorted (segments : List (Segment Rat)) : Footage.Sorted (Footage.inOrder segments) := by
  have : IsStrictOrder Rat (@LT.lt Rat Number.toLT) := inferInstanceAs (IsStrictOrder Rat (· < ·))
  exact Footage.inOrder_sorted fun s _ => isComparable_eq_true s.start

end EditPlan.Exact

namespace EditPlan.Unrounded

open Number

variable {p q : ℚ}

/-! ## Rationals -/

@[simp] theorem one_eq : (Number.one : Unrounded) = .exact 1 := rfl

@[simp] theorem half_eq : (Number.half : Unrounded) = .exact (1 / 2) := rfl

@[simp] theorem exact_add (p q : ℚ) : exact p + exact q = exact (p + q) := rfl

@[simp] theorem exact_mul (p q : ℚ) : exact p * exact q = exact (p * q) := rfl

theorem exact_sub (p q : ℚ) : exact p - exact q = exact (p - q) := congrArg exact (sub_eq_add_neg p q).symm

theorem exact_div (p : ℚ) (hq : q ≠ 0) : exact p / exact q = exact (p / q) := if_neg hq

theorem exact_lt : exact p < exact q ↔ p < q := decide_eq_true_iff

theorem isZero_exact_of_pos (hq : 0 < q) : Number.isZero (exact q) = false := beq_false_of_ne hq.ne'

/-! ## Factors -/

theorem infinite_mul_exact (s : Bool) (hq : 0 < q) : infinite s * exact q = infinite s := by
  have hproduct : infinite s * exact q = infiniteTimes s q := if_neg hq.ne'
  rw [hproduct, infiniteTimes, decide_eq_false (not_lt.2 hq.le), Bool.bne_false]

theorem mul_exact_one (x : Unrounded) : x * exact 1 = x := by
  cases x with
  | nan => rfl
  | infinite s => exact infinite_mul_exact s zero_lt_one
  | exact q => rw [exact_mul, mul_one]

/-- **Positive factors in a row** multiply by their product -/
theorem mul_exact_exact (x : Unrounded) (hp : 0 < p) (hq : 0 < q) : x * exact p * exact q = x * exact (p * q) := by
  cases x with
  | nan => rfl
  | infinite s => rw [infinite_mul_exact s hp, infinite_mul_exact s hq, infinite_mul_exact s (mul_pos hp hq)]
  | exact r => rw [exact_mul, exact_mul, exact_mul, mul_assoc]

/-! ## Ranges -/

theorem atLeast_exact (low q : ℚ) : atLeast (exact low) (exact q) = exact (max low q) := by
  unfold atLeast
  split_ifs with h
  · rw [max_eq_right (exact_lt.1 h).le]
  · rw [max_eq_left (not_lt.1 (mt exact_lt.2 h))]

theorem atMost_exact (high q : ℚ) : atMost (exact high) (exact q) = exact (min high q) := by
  unfold atMost
  split_ifs with h
  · rw [min_eq_right (exact_lt.1 h).le]
  · rw [min_eq_left (not_lt.1 (mt exact_lt.2 h))]

/-- what is meant between two rationals; a NaN stands for the upper one -/
def confined (low high : ℚ) : Unrounded → ℚ
  | .nan => max low high
  | .infinite s => if s then low else max low high
  | .exact q => max low (min high q)

/-- **A number in range** is a rational, whatever was given -/
theorem clamp_eq (x : Unrounded) (low high : ℚ) : clamp x (exact low) (exact high) = exact (confined low high x) := by
  cases x with
  | nan => exact atLeast_exact low high
  | infinite s =>
    cases s with
    | false => exact atLeast_exact low high
    | true => rfl
  | exact q => rw [clamp, atMost_exact, atLeast_exact, confined]

/-- the share that is meant, from zero to one -/
def share (x : Unrounded) : ℚ := confined 0 1 x

theorem limitShare_eq (x : Unrounded) : limitShare x = exact (share x) := clamp_eq x 0 1

theorem share_mem (x : Unrounded) : 0 ≤ share x ∧ share x ≤ 1 := by
  cases x with
  | nan => exact ⟨by decide, by decide⟩
  | infinite s => cases s <;> exact ⟨by decide, by decide⟩
  | exact q => exact ⟨le_max_left _ _, max_le zero_le_one (min_le_left _ _)⟩

end EditPlan.Unrounded
