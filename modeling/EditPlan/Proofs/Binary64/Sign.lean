import EditPlan.Proofs.Command.Range

/-!
Doubles that are not below zero, positive infinity included and NaN not. Sums of them stay so, and so do products with a
positive finite number. A difference is one of them if it was taken because its second number is less than its first, also
where one of the two is infinite: then the other is not.

Main statements:
- `zero_le_iff`: which doubles these are;
- `zero_le_add`, `zero_le_sum`, `zero_le_sub_of_lt`, `zero_le_mul`: what keeps them;
- `isZero_add_iff`: a sum of them is zero only if both are.
-/

namespace EditPlan.Binary64

variable {x y : Binary64} {s : Bool} {u p q : ℕ}

/-! ## Which they are -/

/-- **Not below zero** are positive infinity, the finite numbers without a minus sign, and the negative zero -/
theorem zero_le_iff :
    (Number.zero : Binary64) ≤ x ↔ x = .infinite false ∨ ∃ s u h, x = .finite s u h ∧ 0 ≤ signed s u := by
  have hle : (Number.zero : Binary64) ≤ x ↔ x ≠ .nan ∧ ¬ x < zero := by
    rw [number_zero]
    exact ⟨fun h => h.2, fun h => ⟨by simp [zero], h⟩⟩
  rw [hle]
  cases x with
  | nan => simp
  | infinite s =>
    have hlt : infinite s < zero ↔ s = true := Iff.rfl
    simp [hlt]
  | finite s u h =>
    have hlt : finite s u h < zero ↔ signed s u < 0 := decide_eq_true_iff
    rw [hlt, not_lt]
    constructor
    · rintro ⟨-, hsign⟩
      exact Or.inr ⟨s, u, h, rfl, hsign⟩
    · rintro (hinf | ⟨s', u', h', heq, hsign⟩)
      · exact absurd hinf (by simp)
      · obtain ⟨rfl, rfl⟩ := finite.inj heq
        exact ⟨by simp, hsign⟩

theorem zero_le_infinite : (Number.zero : Binary64) ≤ .infinite false := zero_le_iff.2 (Or.inl rfl)

theorem zero_le_finite {h : Representable u} (hsign : 0 ≤ signed s u) : (Number.zero : Binary64) ≤ .finite s u h :=
  zero_le_iff.2 (Or.inr ⟨s, u, h, rfl, hsign⟩)

theorem signed_false_nonneg (u : ℕ) : 0 ≤ signed false u := Int.natCast_nonneg u

theorem units_eq_zero_of_nonneg (h : 0 ≤ signed true u) : u = 0 := by
  simp only [signed, if_true] at h
  omega

theorem number_zero_ne_nan : (Number.zero : Binary64) ≠ .nan :=
  (isComparable_iff _).1 (isComparable_of_isFinite isFinite_zero)

theorem zero_le_number_zero : (Number.zero : Binary64) ≤ Number.zero := le_refl number_zero_ne_nan

/-- what is rounded without a minus sign is not below zero, in range or past it -/
theorem zero_le_ofUnits (p q : ℕ) : (Number.zero : Binary64) ≤ ofUnits false p q := by
  unfold ofUnits
  split_ifs
  · exact zero_le_finite (signed_false_nonneg _)
  · exact zero_le_infinite

theorem zero_le_ofRat {q : ℚ} (hq : 0 ≤ q) : (Number.zero : Binary64) ≤ Number.ofRat q := by
  show (Number.zero : Binary64) ≤ Binary64.ofRat q
  rw [Binary64.ofRat, decide_eq_false (not_lt.2 (Rat.num_nonneg.2 hq))]
  exact zero_le_ofUnits _ _

/-! ## What keeps them -/

theorem zero_le_addFinite {s t : Bool} {u v : ℕ} (hu : 0 ≤ signed s u) (hv : 0 ≤ signed t v) :
    (Number.zero : Binary64) ≤ addFinite s u t v := by
  simp only [addFinite]
  split_ifs
  · exact zero_le_finite (by cases s <;> cases t <;> decide)
  · rw [decide_eq_false (not_lt.2 (Int.add_nonneg hu hv))]
    exact zero_le_ofUnits _ _

/-- **A sum** of them is one of them -/
theorem zero_le_add (hx : (Number.zero : Binary64) ≤ x) (hy : (Number.zero : Binary64) ≤ y) :
    (Number.zero : Binary64) ≤ x + y := by
  rcases zero_le_iff.1 hx with rfl | ⟨s, u, hu, rfl, hsu⟩
  · rcases zero_le_iff.1 hy with rfl | ⟨t, v, hv, rfl, -⟩
    · exact zero_le_infinite
    · exact zero_le_infinite
  · rcases zero_le_iff.1 hy with rfl | ⟨t, v, hv, rfl, hsv⟩
    · exact zero_le_infinite
    · exact zero_le_addFinite hsu hsv

theorem zero_le_foldl_add {xs : List Binary64} (h : ∀ x ∈ xs, (Number.zero : Binary64) ≤ x) {start : Binary64}
    (hstart : (Number.zero : Binary64) ≤ start) : (Number.zero : Binary64) ≤ xs.foldl (· + ·) start := by
  induction xs generalizing start with
  | nil => exact hstart
  | cons x xs ih =>
    rw [List.foldl_cons]
    exact ih (fun y hy => h y (List.mem_cons_of_mem x hy)) (zero_le_add hstart (h x List.mem_cons_self))

theorem zero_le_sum {xs : List Binary64} (h : ∀ x ∈ xs, (Number.zero : Binary64) ≤ x) :
    (Number.zero : Binary64) ≤ Number.sum xs := zero_le_foldl_add h zero_le_number_zero

theorem signed_not (t : Bool) (v : ℕ) : signed (!t) v = -signed t v := by
  cases t <;> simp [signed]

/-- **A difference** of a number and a lesser one is not below zero and no NaN, infinite numbers included -/
theorem zero_le_sub_of_lt (h : y < x) : (Number.zero : Binary64) ≤ x - y := by
  cases x with
  | nan => exact absurd h (lt_nan y)
  | infinite s =>
    cases y with
    | nan => exact absurd h (nan_lt _)
    | infinite t =>
      obtain ⟨rfl, hs⟩ : t = true ∧ (!s) = true := Bool.and_eq_true_iff.1 h
      rw [Bool.not_eq_true'] at hs
      subst hs
      exact zero_le_infinite
    | finite t v hv =>
      have hs : (!s) = true := h
      rw [Bool.not_eq_true'] at hs
      subst hs
      exact zero_le_infinite
  | finite s u hu =>
    cases y with
    | nan => exact absurd h (nan_lt _)
    | infinite t =>
      have ht : t = true := h
      subst ht
      exact zero_le_infinite
    | finite t v hv =>
      have hlt : signed t v < signed s u := of_decide_eq_true h
      show (Number.zero : Binary64) ≤ addFinite s u (!t) v
      have hsum : 0 < signed s u + signed (!t) v := by
        rw [signed_not]
        omega
      rw [addFinite, if_neg hsum.ne', decide_eq_false (not_lt.2 hsum.le)]
      exact zero_le_ofUnits _ _

/-- **A product** with a positive finite number is one of them; an infinite one stays infinite -/
theorem zero_le_mul (hx : (Number.zero : Binary64) ≤ x) (hy : Number.zero < y) (hfinite : y.isFinite = true) :
    (Number.zero : Binary64) ≤ x * y := by
  obtain ⟨t, v, hv, rfl⟩ := exists_finite hfinite
  rw [number_zero] at hy
  have hpos : signed false 0 < signed t v := of_decide_eq_true hy
  have ht : t = false := by
    cases t with
    | false => rfl
    | true => simp only [signed, if_true, Bool.false_eq_true, if_false] at hpos; omega
  subst ht
  have hv0 : v ≠ 0 := by
    rintro rfl
    exact absurd hpos (lt_irrefl _)
  rcases zero_le_iff.1 hx with rfl | ⟨s, u, hu, rfl, hsign⟩
  · have hproduct : Binary64.infinite false * .finite false v hv = .infinite false := if_neg hv0
    rw [hproduct]
    exact zero_le_infinite
  · show (Number.zero : Binary64) ≤ Binary64.mul (.finite s u hu) (.finite false v hv)
    rw [Binary64.mul]
    cases s with
    | false => exact zero_le_ofUnits _ _
    | true =>
      -- a negative zero gives a negative zero
      obtain rfl := units_eq_zero_of_nonneg hsign
      have hround : ofUnits (true != false) (0 * v) unitsPerOne = .finite (true != false) 0 zero_representable :=
        ofUnits_eq _ (twoPow_pos _) zero_representable (by rw [Nat.zero_mul, Nat.mul_zero])
      rw [hround]
      exact zero_le_finite (by decide)

/-! ## Which of them are zero -/

theorem zero_lt_infinite : zero < .infinite false := rfl

theorem zero_lt_of_not_isZero (hx : (Number.zero : Binary64) ≤ x) (hne : x.isZero = false) : Number.zero < x := by
  rw [number_zero]
  rcases zero_le_iff.1 hx with rfl | ⟨s, u, hu, rfl, hsign⟩
  · exact zero_lt_infinite
  · have hu0 : u ≠ 0 := by simpa [isZero] using hne
    have hpos : signed false 0 < signed s u := by
      cases s with
      | false => simp only [signed, Bool.false_eq_true, if_false]; omega
      | true => exact absurd (units_eq_zero_of_nonneg hsign) hu0
    exact decide_eq_true hpos

/-- a difference of a number and a lesser one is above zero if both are finite -/
theorem zero_lt_sub_of_lt (h : y < x) (hx : x.isFinite = true) (hy : y.isFinite = true) : Number.zero < x - y := by
  obtain ⟨s, u, hu, rfl⟩ := exists_finite hx
  obtain ⟨t, v, hv, rfl⟩ := exists_finite hy
  have hlt : signed t v < signed s u := of_decide_eq_true h
  refine zero_lt_of_not_isZero (zero_le_sub_of_lt h) ((isZero_sub hu hv).trans (decide_eq_false ?_))
  rw [signed_not]
  omega

theorem not_isZero_of_pos (h : Number.zero < x) : x.isZero = false := by
  rw [number_zero] at h
  cases x with
  | finite s u hu =>
    have hsteps : signed false 0 < signed s u := of_decide_eq_true h
    have hu : u ≠ 0 := by
      rintro rfl
      cases s <;> exact absurd hsteps (by decide)
    simpa [isZero] using hu
  | _ => rfl

/-- **A sum of them is zero** only if both are -/
theorem isZero_add_iff (hx : (Number.zero : Binary64) ≤ x) (hy : (Number.zero : Binary64) ≤ y) :
    (x + y).isZero = true ↔ x.isZero = true ∧ y.isZero = true := by
  rcases zero_le_iff.1 hx with rfl | ⟨s, u, hu, rfl, hsu⟩
  · rcases zero_le_iff.1 hy with rfl | ⟨t, v, hv, rfl, -⟩
    · exact iff_of_false Bool.false_ne_true fun h => Bool.false_ne_true h.1
    · exact iff_of_false Bool.false_ne_true fun h => Bool.false_ne_true h.1
  · rcases zero_le_iff.1 hy with rfl | ⟨t, v, hv, rfl, hsv⟩
    · exact iff_of_false Bool.false_ne_true fun h => Bool.false_ne_true h.2
    · rw [isZero_add, decide_eq_true_iff]
      have hzero : ∀ (s : Bool) (u : ℕ) (hu : Representable u),
          (Binary64.finite s u hu).isZero = true ↔ signed s u = 0 := by
        intro s u hu
        cases s <;> simp [isZero, signed]
      rw [hzero, hzero]
      omega

end EditPlan.Binary64
