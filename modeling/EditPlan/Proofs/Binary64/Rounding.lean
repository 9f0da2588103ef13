import Mathlib.Tactic
import EditPlan.Binary64.Text

/-!
Rounding onto the format, seen from the numbers of the format: what is not above one of them is not rounded past it, and
the same from below. So a number of the format is rounded to itself, and a bound by such a number outlives a rounding.

Main statements:
- `nearestUnits_le`, `le_nearestUnits`: rounding stays on its side of every number of the format;
- `nearestUnits_eq`: a number of the format is rounded to itself;
- `ofRat_whole`: a whole number of at most 53 bits is the double of its value.
-/

namespace EditPlan.Decimal

/-- a quotient that is not above a whole number is not rounded past it -/
theorem roundDiv_le {n d k : ℕ} (h : n ≤ d * k) : roundDiv n d ≤ k := by
  rcases Nat.eq_zero_or_pos d with rfl | hd
  · rw [Nat.zero_mul, Nat.le_zero] at h
    subst h
    exact Nat.zero_le k
  · rcases (Nat.div_le_of_le_mul h).lt_or_eq with hlt | heq
    · exact (roundDiv_le_succ n d).trans hlt
    · -- the quotient reaches the whole number, so there is no remainder
      have hn : n = d * k := le_antisymm h (heq ▸ Nat.mul_div_le n d)
      rw [roundDiv_of_dvd hd ⟨k, hn⟩, heq]

end EditPlan.Decimal

namespace EditPlan.Binary64

variable {p q u v : ℕ}

/-! ## Grids -/

theorem log2_mono (h : u ≤ v) : u.log2 ≤ v.log2 := by
  by_cases hu : u = 0
  · subst hu
    exact Nat.zero_le _
  · have hv : v ≠ 0 := by omega
    exact (Nat.le_log2 hv).2 ((Nat.log2_self_le hu).trans h)

theorem lastPlace_mono (h : u ≤ v) : lastPlace u ≤ lastPlace v := Nat.sub_le_sub_right (log2_mono h) 52

theorem twoPow_lt {m n : ℕ} (h : m < n) : twoPow m < twoPow n := Nat.pow_lt_pow_right Nat.one_lt_two h

theorem twoPow_succ (k : ℕ) : twoPow (k + 1) = 2 * twoPow k := Nat.pow_succ'

theorem unitsPerOne_eq : unitsPerOne = 2 * twoPow 1073 := twoPow_succ 1073

theorem aligned_twoPow (k : ℕ) : Aligned (twoPow k) := by
  have h := aligned_mul_twoPow (s := k) (twoPow_pos 53)
  rwa [Nat.one_mul] at h

theorem representable_twoPow {k : ℕ} (h : k < rangeExponent + stepExponent) : Representable (twoPow k) :=
  ⟨twoPow_lt h, aligned_twoPow k⟩

theorem representable_whole {n : ℕ} (h : n ≤ twoPow 53) : Representable (n * unitsPerOne) := by
  refine ⟨?_, aligned_mul_twoPow h⟩
  calc n * unitsPerOne ≤ twoPow 53 * unitsPerOne := Nat.mul_le_mul_right _ h
    _ = twoPow (53 + stepExponent) := by rw [twoPow_add, unitsPerOne]
    _ < overflowUnits := twoPow_lt (by decide)

/-! ## Rounding to nearest -/

theorem nearestUnits_le (hv : Aligned v) (h : p ≤ q * v) : nearestUnits p q ≤ v := by
  -- the grid on which `p / q` is rounded is at least as fine as that of `v`
  obtain ⟨k, hk⟩ : twoPow (lastPlace (p / q)) ∣ v := (twoPow_dvd (lastPlace_mono (Nat.div_le_of_le_mul h))).trans hv
  have hround : Decimal.roundDiv p (q * twoPow (lastPlace (p / q))) ≤ k := by
    apply Decimal.roundDiv_le
    rwa [Nat.mul_assoc, ← hk]
  calc nearestUnits p q ≤ k * twoPow (lastPlace (p / q)) := Nat.mul_le_mul_right _ hround
    _ = v := by rw [Nat.mul_comm, ← hk]

/-- a number on the grid on which a quotient is rounded stays below it -/
theorem le_nearestUnits_of_dvd (hq : 0 < q) (hdvd : twoPow (lastPlace (p / q)) ∣ v) (h : q * v ≤ p) :
    v ≤ nearestUnits p q := by
  obtain ⟨k, hk⟩ := hdvd
  have hquotient : k ≤ p / (q * twoPow (lastPlace (p / q))) := by
    rw [Nat.le_div_iff_mul_le (Nat.mul_pos hq (twoPow_pos _)), Nat.mul_comm, Nat.mul_assoc, ← hk]
    exact h
  calc v = k * twoPow (lastPlace (p / q)) := by rw [Nat.mul_comm, ← hk]
    _ ≤ nearestUnits p q := Nat.mul_le_mul_right _ (hquotient.trans (Decimal.le_roundDiv _ _))

theorem le_nearestUnits (hq : 0 < q) (hv : Aligned v) (h : q * v ≤ p) : v ≤ nearestUnits p q := by
  have hle : v ≤ p / q := by
    rw [Nat.le_div_iff_mul_le hq, Nat.mul_comm]
    exact h
  rcases (log2_mono hle).lt_or_eq with hlt | heq
  · -- the greatest power of two below the quotient lies between both, and it is on the grid
    have hne : p / q ≠ 0 := by
      intro h0
      rw [h0] at hlt
      exact Nat.not_lt_zero _ hlt
    have hpow : v ≤ twoPow (p / q).log2 := (lt_twoPow_log2 v).le.trans (twoPow_le hlt)
    refine hpow.trans (le_nearestUnits_of_dvd hq (twoPow_dvd (Nat.sub_le _ _)) ?_)
    calc q * twoPow (p / q).log2 ≤ q * (p / q) := Nat.mul_le_mul_left q (Nat.log2_self_le hne)
      _ ≤ p := Nat.mul_div_le p q
  · refine le_nearestUnits_of_dvd hq ?_ h
    rw [lastPlace, ← heq]
    exact hv

theorem nearestUnits_eq (hq : 0 < q) (hv : Aligned v) (h : p = q * v) : nearestUnits p q = v :=
  le_antisymm (nearestUnits_le hv h.le) (le_nearestUnits hq hv h.ge)

/-! ## Numbers from quotients -/

theorem ofUnits_of_le (s : Bool) (hv : Representable v) (h : p ≤ q * v) :
    ∃ hr, ofUnits s p q = .finite s (nearestUnits p q) hr :=
  ⟨_, dif_pos ((nearestUnits_le hv.2 h).trans_lt hv.1)⟩

theorem ofUnits_of_nearestUnits (s : Bool) (hv : Representable v) (h : nearestUnits p q = v) :
    ofUnits s p q = .finite s v hv := by
  subst h
  exact dif_pos hv.1

theorem ofUnits_of_isFinite {s : Bool} (h : (ofUnits s p q).isFinite = true) :
    ∃ hr, ofUnits s p q = .finite s (nearestUnits p q) hr := by
  unfold ofUnits at h ⊢
  split_ifs at h ⊢ with hrange
  · exact ⟨⟨hrange, nearestUnits_aligned p q⟩, rfl⟩
  · exact absurd h Bool.false_ne_true

theorem ofUnits_eq (s : Bool) (hq : 0 < q) (hv : Representable v) (h : p = q * v) : ofUnits s p q = .finite s v hv :=
  ofUnits_of_nearestUnits s hv (nearestUnits_eq hq hv.2 h)

theorem isZero_ofUnits (s : Bool) (hq : 0 < q) (h : q ≤ p) : (ofUnits s p q).isZero = false := by
  have hpos : 1 ≤ nearestUnits p q := le_nearestUnits hq (aligned_twoPow 0) ((Nat.mul_one q).trans_le h)
  unfold ofUnits
  split_ifs
  · exact beq_false_of_ne (Nat.ne_of_gt hpos)
  · rfl

/-- a whole number of at most 53 bits has its own double -/
theorem ofRatio_whole (s : Bool) {n : ℕ} (hn : n ≤ twoPow 53) :
    ofRatio s n 1 = .finite s (n * unitsPerOne) (representable_whole hn) :=
  ofUnits_eq s Nat.one_pos (representable_whole hn) (Nat.one_mul _).symm

theorem ofInt_whole {n : ℕ} (hn : n ≤ twoPow 53) :
    ofInt n = .finite false (n * unitsPerOne) (representable_whole hn) := by
  have hsign : decide ((n : ℤ) < 0) = false := decide_eq_false (Int.natCast_nonneg n).not_gt
  rw [ofInt, hsign, Int.natAbs_natCast, ofRatio_whole false hn]

theorem ofRat_whole {n : ℕ} (hn : n ≤ twoPow 53) :
    ofRat n = .finite false (n * unitsPerOne) (representable_whole hn) := by
  have hsign : decide ((n : ℤ) < 0) = false := decide_eq_false (Int.natCast_nonneg n).not_gt
  rw [ofRat, Rat.num_natCast, Rat.den_natCast, hsign, Int.natAbs_natCast, ofRatio_whole false hn]

end EditPlan.Binary64
