import EditPlan.Proofs.Binary64.Rounding

/-!
Bounds on magnitudes. A bound that is a number of the format outlives every operation, so a computation whose exact
results stay in range never leaves the finite numbers, and each conversion to a whole number has an answer.

Main statements:
- `Bounded.add`, `Bounded.mul`, `Bounded.div`, `Bounded.floor`: one bound for each operation;
- `isZero_add`, `isZero_sub`: a sum is zero only if it is zero before it is rounded;
- `clock_isFinite`, `clock_not_isFinite`: minutes and seconds exist exactly of a finite number, however large.
-/

namespace EditPlan.Binary64

variable {a b n v : ℕ} {x y : Binary64}

/-! ## Bounded numbers -/

/-- a finite number of at most `v` steps, of either sign -/
inductive Bounded (v : ℕ) : Binary64 → Prop
  | finite (s : Bool) (u : ℕ) (h : Representable u) (hu : u ≤ v) : Bounded v (.finite s u h)

namespace Bounded

theorem isFinite (hx : Bounded v x) : x.isFinite := by
  cases hx
  rfl

theorem mono (hx : Bounded a x) (h : a ≤ v) : Bounded v x := by
  cases hx with
  | finite s u hr hu => exact .finite s u hr (hu.trans h)

end Bounded

theorem exists_finite (hx : x.isFinite) : ∃ s u h, x = .finite s u h := by
  cases x with
  | nan => exact absurd hx Bool.false_ne_true
  | infinite s => exact absurd hx Bool.false_ne_true
  | finite s u h => exact ⟨s, u, h, rfl⟩

theorem bounded_ofUnits (s : Bool) {p q : ℕ} (hv : Representable v) (h : p ≤ q * v) : Bounded v (ofUnits s p q) := by
  obtain ⟨hr, hround⟩ := ofUnits_of_le s hv h
  rw [hround]
  exact .finite s _ hr (nearestUnits_le hv.2 h)

theorem bounded_ofRatio_whole (s : Bool) (hv : Representable v) (h : n * unitsPerOne ≤ v) :
    Bounded v (ofRatio s n 1) := bounded_ofUnits s hv (by rwa [Nat.one_mul])

/-! ## Operations -/

theorem natAbs_signed (s : Bool) (u : ℕ) : (signed s u).natAbs = u := by
  cases s <;> simp [signed]

theorem natAbs_signed_add_le (s t : Bool) (u w : ℕ) : (signed s u + signed t w).natAbs ≤ u + w := by
  calc (signed s u + signed t w).natAbs ≤ (signed s u).natAbs + (signed t w).natAbs := Int.natAbs_add_le _ _
    _ = u + w := by rw [natAbs_signed, natAbs_signed]

theorem natAbs_signed_sub_le (s : Bool) {u w : ℕ} (h : w ≤ u) : (signed s u + signed (!s) w).natAbs ≤ u := by
  cases s <;> simp only [signed, Bool.not_true, Bool.not_false, if_true, if_false, Bool.false_eq_true] <;> omega

theorem bounded_addFinite (s t : Bool) {u w : ℕ} (hv : Representable v)
    (h : (signed s u + signed t w).natAbs ≤ v) : Bounded v (addFinite s u t w) := by
  simp only [addFinite]
  split_ifs
  · exact .finite _ 0 zero_representable (Nat.zero_le v)
  · exact bounded_ofUnits _ hv (by rwa [Nat.one_mul])

/-- a sum is zero only if it is zero before it is rounded -/
theorem isZero_addFinite (s t : Bool) (u w : ℕ) :
    (addFinite s u t w).isZero = decide (signed s u + signed t w = 0) := by
  simp only [addFinite]
  split_ifs with h
  · rw [decide_eq_true h]
    rfl
  · rw [decide_eq_false h]
    exact isZero_ofUnits _ Nat.one_pos (Int.natAbs_pos.2 h)

theorem isZero_add {s t : Bool} {u w : ℕ} (hu : Representable u) (hw : Representable w) :
    (Binary64.finite s u hu + .finite t w hw).isZero = decide (signed s u + signed t w = 0) := isZero_addFinite s t u w

theorem isZero_sub {s t : Bool} {u w : ℕ} (hu : Representable u) (hw : Representable w) :
    (Binary64.finite s u hu - .finite t w hw).isZero = decide (signed s u + signed (!t) w = 0) :=
  isZero_addFinite s (!t) u w

theorem div_finite {s t : Bool} {u w : ℕ} (hu : Representable u) (hw : Representable w) (hpos : 0 < w) :
    Binary64.finite s u hu / .finite t w hw = ofUnits (s != t) (u * unitsPerOne) w := if_neg hpos.ne'

namespace Bounded

theorem neg (hx : Bounded v x) : Bounded v (-x) := by
  cases hx with
  | finite s u h hu => exact .finite (!s) u h hu

theorem add (hx : Bounded a x) (hy : Bounded b y) (hv : Representable v) (h : a + b ≤ v) : Bounded v (x + y) := by
  cases hx with
  | finite s u hu hua =>
    cases hy with
    | finite t w hw hwb =>
      exact bounded_addFinite s t hv ((natAbs_signed_add_le s t u w).trans ((Nat.add_le_add hua hwb).trans h))

theorem sub (hx : Bounded a x) (hy : Bounded b y) (hv : Representable v) (h : a + b ≤ v) : Bounded v (x - y) :=
  hx.add hy.neg hv h

theorem mul (hx : Bounded a x) (hy : Bounded b y) (hv : Representable v) (h : a * b ≤ unitsPerOne * v) :
    Bounded v (x * y) := by
  cases hx with
  | finite s u hu hua =>
    cases hy with
    | finite t w hw hwb =>
      show Bounded v (Binary64.mul (.finite s u hu) (.finite t w hw))
      rw [Binary64.mul]
      exact bounded_ofUnits (s != t) hv ((Nat.mul_le_mul hua hwb).trans h)

theorem div (hx : Bounded a x) {t : Bool} {w : ℕ} {hw : Representable w} (hpos : 0 < w) (hv : Representable v)
    (h : a * unitsPerOne ≤ w * v) : Bounded v (x / .finite t w hw) := by
  cases hx with
  | finite s u hu hua =>
    rw [div_finite hu hw hpos]
    exact bounded_ofUnits (s != t) hv ((Nat.mul_le_mul_right _ hua).trans h)

/-- the floor of a negative number is up to one further from zero -/
theorem floor (hx : Bounded a x) (hv : Representable v) (h : a + unitsPerOne ≤ v) : Bounded v x.floor := by
  cases hx with
  | finite s u hu hua =>
    have hwhole : wholePart u * unitsPerOne ≤ u := Nat.div_mul_le_self u unitsPerOne
    have hsucc : (wholePart u + 1) * unitsPerOne = wholePart u * unitsPerOne + unitsPerOne := Nat.succ_mul _ _
    simp only [Binary64.floor]
    split_ifs
    · exact .finite s u hu (by omega)
    · exact bounded_ofRatio_whole true hv (by omega)
    · exact bounded_ofRatio_whole false hv (by omega)

theorem add_twoPow {k : ℕ} (hx : Bounded (twoPow k) x) (hy : Bounded (twoPow k) y)
    (hk : k + 1 < rangeExponent + stepExponent) : Bounded (twoPow (k + 1)) (x + y) :=
  hx.add hy (representable_twoPow hk) (by rw [twoPow_succ, Nat.two_mul])

theorem floor_twoPow {k : ℕ} (hx : Bounded (twoPow k) x) (hone : stepExponent ≤ k)
    (hk : k + 1 < rangeExponent + stepExponent) : Bounded (twoPow (k + 1)) x.floor := by
  refine hx.floor (representable_twoPow hk) ?_
  rw [twoPow_succ, Nat.two_mul]
  exact Nat.add_le_add_left (twoPow_le hone) _

end Bounded

/-! ## Whole numbers -/

theorem truncate_ok (hx : x.isFinite) : ∃ k, truncate x = .ok k := by
  obtain ⟨s, u, h, rfl⟩ := exists_finite hx
  exact ⟨_, rfl⟩

theorem nearestInt_ok (hx : x.isFinite) : ∃ k, nearestInt x = .ok k := by
  obtain ⟨s, u, h, rfl⟩ := exists_finite hx
  exact ⟨_, rfl⟩

/-- a whole number up to the greatest power of two in range has a double -/
theorem ofInt?_ok {k : ℤ} (hk : k.natAbs ≤ twoPow 1023) : ∃ x, ofInt? k = .ok x := by
  have hgreatest : Representable (twoPow 1023 * unitsPerOne) := by
    rw [unitsPerOne, ← twoPow_add]
    exact representable_twoPow (by decide)
  have hfinite : (ofInt k).isFinite := by
    rw [ofInt]
    exact (bounded_ofRatio_whole _ hgreatest (Nat.mul_le_mul_right _ hk)).isFinite
  rw [ofInt?]
  generalize ofInt k = x at hfinite ⊢
  cases x with
  | nan => exact ⟨_, rfl⟩
  | infinite s => exact absurd hfinite Bool.false_ne_true
  | finite s u h => exact ⟨_, rfl⟩

/-! ## Minutes and seconds -/

theorem bounded_one : Bounded unitsPerOne (ofInt 1) := by
  have h := ofInt_whole (n := 1) (by decide)
  rw [Nat.cast_one] at h
  rw [h]
  exact .finite _ _ _ (Nat.one_mul _).le

theorem remainder_finite (s : Bool) {u m : ℕ} (hu : Representable u) (hpos : 0 < m) (hm : m ≤ twoPow 53) :
    ∃ r hr, remainder (.finite s u hu) m = .finite s r hr ∧ r ≤ u ∧ r ≤ m * unitsPerOne := by
  have hdivisor : u % (m * unitsPerOne) ≤ 1 * (m * unitsPerOne) := by
    rw [Nat.one_mul]
    exact (Nat.mod_lt u (Nat.mul_pos hpos (twoPow_pos _))).le
  have hdividend : u % (m * unitsPerOne) ≤ 1 * u := by
    rw [Nat.one_mul]
    exact Nat.mod_le _ _
  obtain ⟨hr, hround⟩ := ofUnits_of_le s hu hdividend
  refine ⟨_, hr, ?_, nearestUnits_le hu.2 hdividend, nearestUnits_le (representable_whole hm).2 hdivisor⟩
  rw [remainder, hround]

/-- a quotient by sixty is at least five powers of two below the range -/
theorem bounded_quotient (s : Bool) {u r : ℕ} (hu : Representable u) (hr : Representable r) (hru : r ≤ u) :
    Bounded (twoPow 2093) ((.finite s u hu - .finite s r hr) / ofInt (60 : ℕ)) := by
  have hmultiple : Bounded u (.finite s u hu - .finite s r hr) :=
    bounded_addFinite s (!s) hu (natAbs_signed_sub_le s hru)
  have hrange : u ≤ 60 * twoPow 2093 := by
    have htop : overflowUnits = twoPow 5 * twoPow 2093 := twoPow_add 5 2093
    calc u ≤ twoPow 5 * twoPow 2093 := htop ▸ hu.1.le
      _ ≤ 60 * twoPow 2093 := Nat.mul_le_mul_right _ (by decide)
  rw [ofInt_whole (by decide)]
  refine hmultiple.div (Nat.mul_pos (by decide) (twoPow_pos _)) (representable_twoPow (by decide)) ?_
  calc u * unitsPerOne ≤ 60 * twoPow 2093 * unitsPerOne := Nat.mul_le_mul_right _ hrange
    _ = 60 * unitsPerOne * twoPow 2093 := Nat.mul_right_comm _ _ _

/-- so moving the quotient to a whole number, by one at a time, stays in range -/
theorem floorDiv_isFinite (hx : x.isFinite) : (floorDiv x 60).isFinite := by
  obtain ⟨s, u, hu, rfl⟩ := exists_finite hx
  obtain ⟨r, hr, hrem, hru, -⟩ := remainder_finite s hu (m := 60) (by decide) (by decide)
  have hquotient := bounded_quotient s hu hr hru
  have hone : ∀ {k}, stepExponent ≤ k → Bounded (twoPow k) (ofInt 1) := fun hk => bounded_one.mono (twoPow_le hk)
  simp only [floorDiv, hrem]
  generalize (Binary64.finite s u hu - .finite s r hr) / ofInt (60 : ℕ) = q at hquotient ⊢
  have hlower : Bounded (twoPow 2094) (if Binary64.finite s r hr < zero then q - ofInt 1 else q) := by
    split_ifs
    · exact hquotient.add_twoPow (hone (by decide)).neg (by decide)
    · exact hquotient.mono (twoPow_le (by decide))
  generalize (if Binary64.finite s r hr < zero then q - ofInt 1 else q) = lower at hlower ⊢
  have hfloor := hlower.floor_twoPow (by decide) (by decide)
  split_ifs
  · exact (hfloor.add_twoPow (hone (by decide)) (by decide)).isFinite
  · exact hfloor.isFinite

theorem floorMod_isFinite (hx : x.isFinite) : (floorMod x 60).isFinite := by
  obtain ⟨s, u, hu, rfl⟩ := exists_finite hx
  obtain ⟨r, hr, hrem, -, hrm⟩ := remainder_finite s hu (m := 60) (by decide) (by decide)
  simp only [floorMod, hrem]
  split_ifs
  · rfl
  · have hremainder : Bounded (60 * unitsPerOne) (.finite s r hr) := .finite s r hr hrm
    have hdivisor : Bounded (60 * unitsPerOne) (ofInt (60 : ℕ)) := by
      rw [ofInt_whole (by decide)]
      exact .finite _ _ _ le_rfl
    exact (hremainder.add hdivisor (representable_whole (n := 120) (by decide)) (by omega)).isFinite
  · rfl

theorem nan_lt (y : Binary64) : ¬ nan < y := Bool.false_ne_true

theorem lt_nan (x : Binary64) : ¬ x < nan := by
  cases x <;> exact Bool.false_ne_true

theorem sub_nan (x : Binary64) : x - nan = nan := by
  cases x <;> rfl

theorem nan_div (y : Binary64) : nan / y = nan := rfl

theorem floorDiv_of_not_isFinite (hx : x.isFinite = false) (m : ℕ) : floorDiv x m = nan := by
  have hrem : remainder x m = nan := by
    cases x with
    | finite s u hu => exact absurd hx Bool.true_eq_false.mp
    | _ => rfl
  have hfloor : floor nan = nan := rfl
  simp only [floorDiv, hrem, sub_nan, nan_div, if_neg (nan_lt zero), hfloor, if_neg (lt_nan _)]

/-- **Minutes and seconds exist of every finite number** -/
theorem clock_isFinite (hx : x.isFinite) : ∃ text, clock x = .ok text := by
  obtain ⟨minutes, hminutes⟩ := truncate_ok (floorDiv_isFinite hx)
  obtain ⟨seconds, hseconds⟩ := truncate_ok (floorMod_isFinite hx)
  refine ⟨toString minutes ++ ":" ++ twoDigits seconds, ?_⟩
  simp only [clock, hminutes, hseconds]
  rfl

/-- **Of no other number**: an infinite one has no quotient either -/
theorem clock_not_isFinite (hx : x.isFinite = false) : clock x = .error .nanToInteger := by
  simp only [clock, floorDiv_of_not_isFinite hx]
  rfl

end EditPlan.Binary64
