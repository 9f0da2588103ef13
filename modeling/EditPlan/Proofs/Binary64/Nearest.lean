import EditPlan.Proofs.Binary64.Rounding

/-!
Which quotients are rounded to a magnitude: those around it up to half the gap to its neighbours, and of the ends exactly
the ones of a magnitude whose last bit is zero. The range in which the shortest decimal is searched is this one, so every
decimal found in it is read back as the magnitude.

Main statements:
- `Decimal.roundDiv_eq_iff`: which quotients are rounded to a whole number;
- `Binary64.nearestUnits_eq_iff`: which quotients are rounded to a magnitude;
- `Binary64.contains_target_iff`: the range of a magnitude has exactly the decimals that are rounded to it.
-/

namespace EditPlan.Decimal

variable {n d m c x y below above : ℕ} {closed : Bool}

/-! ## Ranges -/

/-- `y` lies at most half of `below` under `x` and at most half of `above` over it; the ends count where it is `closed` -/
structure Around (closed : Bool) (below above x y : ℕ) : Prop where
  low : 2 * x ≤ 2 * y + below
  high : 2 * y ≤ 2 * x + above
  ends : closed = true ∨ 2 * x < 2 * y + below ∧ 2 * y < 2 * x + above

/-- where no end is reached it does not matter whether the ends count -/
theorem Around.of_inside (hlow : 2 * x < 2 * y + below) (hhigh : 2 * y < 2 * x + above) : Around closed below above x y :=
  ⟨hlow.le, hhigh.le, .inr ⟨hlow, hhigh⟩⟩

/-! ## Whole numbers -/

/-- **Rounded to a whole number** are the quotients around it up to a half, a half only if the number is even -/
theorem roundDiv_eq_iff (hd : 0 < d) : roundDiv n d = m ↔ Around (m % 2 == 0) d d (d * m) n := by
  have hsplit := Nat.div_add_mod n d
  have hmod := Nat.mod_lt n hd
  constructor
  · rintro rfl
    unfold roundDiv
    split_ifs with hunder hover heven
    · exact .of_inside (by omega) (by omega)
    · exact .of_inside (by rw [Nat.mul_succ]; omega) (by rw [Nat.mul_succ]; omega)
    · exact ⟨by omega, by omega, .inl (beq_iff_eq.2 heven)⟩
    · exact ⟨by rw [Nat.mul_succ]; omega, by rw [Nat.mul_succ]; omega, .inl (beq_iff_eq.2 (by omega))⟩
  · rintro ⟨hlow, hhigh, hends⟩
    rw [beq_iff_eq] at hends
    -- only the quotient and the next whole number are that near
    have hleast : n / d ≤ m := by
      by_contra hlt
      have hmul : d * (m + 1) ≤ d * (n / d) := Nat.mul_le_mul_left d (not_le.1 hlt)
      rw [Nat.mul_succ] at hmul
      omega
    have hmost : m ≤ n / d + 1 := by
      by_contra hlt
      have hmul : d * (n / d + 1 + 1) ≤ d * m := Nat.mul_le_mul_left d (not_le.1 hlt)
      rw [Nat.mul_succ, Nat.mul_succ] at hmul
      omega
    rcases hleast.eq_or_lt with rfl | hlt
    · unfold roundDiv
      split_ifs <;> omega
    · obtain rfl : m = n / d + 1 := le_antisymm hmost hlt
      rw [Nat.mul_succ] at hlow hhigh hends
      unfold roundDiv
      split_ifs <;> omega

theorem roundDiv_near (hd : 0 < d) (h : Around closed above above n (d * c)) :
    Around closed above above n (d * roundDiv n d) := by
  obtain ⟨hlow, hhigh, -⟩ := (roundDiv_eq_iff hd).1 (rfl : roundDiv n d = _)
  obtain ⟨hlow', hhigh', hends⟩ := h
  rcases lt_trichotomy c (roundDiv n d) with hlt | heq | hgt
  · have hmul : d * (c + 1) ≤ d * roundDiv n d := Nat.mul_le_mul_left d hlt
    rw [Nat.mul_succ] at hmul
    exact ⟨by omega, by omega, hends.imp_right fun h => ⟨by omega, by omega⟩⟩
  · rw [← heq]
    exact ⟨hlow', hhigh', hends⟩
  · have hmul : d * (roundDiv n d + 1) ≤ d * c := Nat.mul_le_mul_left d hgt
    rw [Nat.mul_succ] at hmul
    exact ⟨by omega, by omega, hends.imp_right fun h => ⟨by omega, by omega⟩⟩

end EditPlan.Decimal

namespace EditPlan.Binary64

open Decimal

variable {p q u : ℕ}

/-! ## Gaps between magnitudes -/

theorem gapAbove_pos (u : ℕ) : 0 < gapAbove u := twoPow_pos _

theorem gapBelow_cases (u : ℕ) :
    (u = twoPow u.log2 ∧ 0 < lastPlace u ∧ gapBelow u = twoPow (lastPlace u - 1)) ∨
      ((u = twoPow u.log2 → lastPlace u = 0) ∧ gapBelow u = gapAbove u) := by
  unfold gapBelow
  split_ifs with h
  · exact .inl ⟨h.1, h.2, rfl⟩
  · exact .inr ⟨fun hpow => Nat.eq_zero_of_not_pos fun hplace => h ⟨hpow, hplace⟩, rfl⟩

theorem gapBelow_dvd (u : ℕ) : gapBelow u ∣ gapAbove u := by
  rcases gapBelow_cases u with ⟨-, -, hgap⟩ | ⟨-, hgap⟩
  · rw [hgap]
    exact twoPow_dvd (Nat.sub_le _ _)
  · rw [hgap]

theorem gapBelow_pos (u : ℕ) : 0 < gapBelow u := Nat.pos_of_dvd_of_pos (gapBelow_dvd u) (gapAbove_pos u)

theorem gapAbove_dvd (hu : Aligned u) : gapAbove u ∣ u := hu

theorem gapBelow_le (hu : Aligned u) (h0 : u ≠ 0) : gapBelow u ≤ u :=
  Nat.le_of_dvd (Nat.pos_of_ne_zero h0) ((gapBelow_dvd u).trans hu)

/-- the last bit is zero also for the finer grid below -/
theorem even_gapBelow (hu : Aligned u) (heven : u / gapAbove u % 2 = 0) : u / gapBelow u % 2 = 0 := by
  obtain ⟨m, hm⟩ := gapAbove_dvd hu
  obtain ⟨k, hk⟩ := gapBelow_dvd u
  have habove : u / gapAbove u = m := Nat.div_eq_of_eq_mul_right (gapAbove_pos u) hm
  have hbelow : u / gapBelow u = k * m := Nat.div_eq_of_eq_mul_right (gapBelow_pos u) (by rw [← Nat.mul_assoc, ← hk, ← hm])
  rw [habove] at heven
  rw [hbelow, Nat.mul_mod, heven, Nat.mul_zero, Nat.zero_mod]

/-- a magnitude with another gap below it is a power of two, and its last bit is zero -/
theorem even_of_gapBelow_ne (h : gapBelow u ≠ gapAbove u) : u / gapAbove u % 2 = 0 := by
  rcases gapBelow_cases u with ⟨hpow, hplace, -⟩ | ⟨-, hgap⟩
  · have hlog : u.log2 = lastPlace u + 52 := by
      unfold lastPlace at hplace ⊢
      omega
    have hquotient : u / gapAbove u = twoPow 52 := by
      refine Nat.div_eq_of_eq_mul_right (gapAbove_pos u) ?_
      rw [gapAbove, ← twoPow_add, ← hlog]
      exact hpow
    rw [hquotient]
    decide
  · exact absurd hgap h

/-! ## Places of a quotient near a magnitude -/

/-- between two numbers of a grid there is at least one step of it -/
theorem add_le_of_dvd {g a b : ℕ} (ha : g ∣ a) (hb : g ∣ b) (h : a < b) : a + g ≤ b := by
  have hle := Nat.le_of_dvd (Nat.sub_pos_of_lt h) (Nat.dvd_sub hb ha)
  omega

/-- not below a magnitude, and not further from it than half a gap, a quotient has its last place -/
theorem lastPlace_of_above (hq : 0 < q) (hu : Aligned u) (hp : q * u ≤ p)
    (hhigh : 2 * p ≤ 2 * (q * u) + q * gapAbove u) : lastPlace (p / q) = lastPlace u := by
  have hle : u ≤ p / q := (Nat.le_div_iff_mul_le hq).2 ((Nat.mul_comm u q).trans_le hp)
  -- the next power of two is on the grid of the magnitude, so the quotient does not reach it
  have hnext : u + gapAbove u ≤ twoPow (u.log2 + 1) := by
    refine add_le_of_dvd (gapAbove_dvd hu) (twoPow_dvd ?_) (lt_twoPow_log2 u)
    unfold lastPlace
    omega
  have hlt : p / q < twoPow (u.log2 + 1) := by
    rw [Nat.div_lt_iff_lt_mul hq, Nat.mul_comm]
    have hgap : 0 < q * gapAbove u := Nat.mul_pos hq (gapAbove_pos u)
    have hmul := Nat.mul_le_mul_left q hnext
    rw [Nat.mul_add] at hmul
    omega
  refine le_antisymm ?_ (lastPlace_mono hle)
  by_cases hzero : p / q = 0
  · rw [hzero]
    exact Nat.zero_le _
  · exact Nat.sub_le_sub_right (Nat.lt_succ_iff.1 (log2_lt_of_lt_twoPow hzero hlt)) 52

/-- a quotient from one power of two up to the next has the places of the first -/
theorem lastPlace_of_between {L : ℕ} (hlow : twoPow L ≤ p / q) (hhigh : p / q < twoPow (L + 1)) :
    lastPlace (p / q) = L - 52 := by
  have hne : p / q ≠ 0 := ((twoPow_pos L).trans_le hlow).ne'
  have hlog : (p / q).log2 = L :=
    le_antisymm (Nat.lt_succ_iff.1 (log2_lt_of_lt_twoPow hne hhigh)) ((Nat.le_log2 hne).2 hlow)
  rw [lastPlace, hlog]

/-- below a magnitude, and not further from it than half the gap there, the places of a quotient are that gap -/
theorem gapBelow_of_below (hq : 0 < q) (hu : Aligned u) (h0 : u ≠ 0) (hp : p < q * u)
    (hlow : 2 * (q * u) ≤ 2 * p + q * gapBelow u) : twoPow (lastPlace (p / q)) = gapBelow u := by
  have hlt : p / q < u := (Nat.div_lt_iff_lt_mul hq).2 (hp.trans_eq (Nat.mul_comm q u))
  have hle : ∀ v, q * v ≤ p → v ≤ p / q := fun v hv => (Nat.le_div_iff_mul_le hq).2 ((Nat.mul_comm v q).trans_le hv)
  rcases gapBelow_cases u with ⟨hpow, hplace, hgap⟩ | ⟨hplace, hgap⟩
  · -- below a power of two the places are one finer
    obtain ⟨L, hL⟩ : ∃ L, u.log2 = L + 1 := ⟨u.log2 - 1, by unfold lastPlace at hplace; omega⟩
    rw [hL] at hpow
    have hhalf : twoPow L ≤ p / q := by
      apply hle
      have hmul := Nat.mul_le_mul_left q (gapBelow_le hu h0)
      have hdouble : q * u = 2 * (q * twoPow L) := by rw [hpow, twoPow_succ, Nat.mul_left_comm]
      omega
    rw [hgap, lastPlace_of_between hhalf (hpow ▸ hlt), lastPlace, hL]
    exact congrArg twoPow (by omega)
  · rw [hgap]
    refine congrArg twoPow (le_antisymm (lastPlace_mono hlt.le) ?_)
    by_cases hpow : u = twoPow u.log2
    · rw [hplace hpow]
      exact Nat.zero_le _
    · -- the power of two below is on the grid, so the quotient does not leave it behind
      have hprevious : twoPow u.log2 + gapAbove u ≤ u :=
        add_le_of_dvd (twoPow_dvd (Nat.sub_le _ _)) (gapAbove_dvd hu) (lt_of_le_of_ne (Nat.log2_self_le h0) (Ne.symm hpow))
      have hmul := Nat.mul_le_mul_left q hprevious
      rw [Nat.mul_add] at hmul
      rw [hgap] at hlow
      have hbound : twoPow u.log2 ≤ p / q := hle _ (by omega)
      rw [lastPlace_of_between hbound (hlt.trans (lt_twoPow_log2 u)), lastPlace]

theorem twoPow_lastPlace_le_gapBelow {w : ℕ} (h : w < u) : twoPow (lastPlace w) ≤ gapBelow u := by
  rcases gapBelow_cases u with ⟨hpow, hplace, hgap⟩ | ⟨-, hgap⟩
  · rw [hgap]
    refine twoPow_le ?_
    by_cases hzero : w = 0
    · subst hzero
      exact Nat.zero_le _
    · have hlog : w.log2 < u.log2 := log2_lt_of_lt_twoPow hzero (h.trans_eq hpow)
      unfold lastPlace
      omega
  · rw [hgap]
    exact twoPow_le (lastPlace_mono h.le)

/-! ## What is rounded to a magnitude -/

/-- a magnitude on the grid on which a quotient is rounded, as a whole number of its steps -/
theorem nearestUnits_eq_iff_of_grid {g : ℕ} (hq : 0 < q) (hgrid : twoPow (lastPlace (p / q)) = g) (hdvd : g ∣ u) :
    nearestUnits p q = u ↔ Around (u / g % 2 == 0) (q * g) (q * g) (q * u) p := by
  obtain ⟨m, rfl⟩ := hdvd
  have hpos : 0 < g := hgrid ▸ twoPow_pos _
  rw [nearestUnits, hgrid, Nat.mul_comm g m, Nat.mul_left_inj hpos.ne', roundDiv_eq_iff (Nat.mul_pos hq hpos),
    Nat.mul_div_cancel m hpos, Nat.mul_comm m, Nat.mul_assoc]

/-- **Rounded to a magnitude** are the quotients around it up to half the gaps, the ends only if its last bit is zero -/
theorem nearestUnits_eq_iff (hq : 0 < q) (hu : Aligned u) (h0 : u ≠ 0) :
    nearestUnits p q = u ↔ Around (u / gapAbove u % 2 == 0) (q * gapBelow u) (q * gapAbove u) (q * u) p := by
  have hgapBelow : 0 < q * gapBelow u := Nat.mul_pos hq (gapBelow_pos u)
  have hgapAbove : 0 < q * gapAbove u := Nat.mul_pos hq (gapAbove_pos u)
  rcases le_or_gt (q * u) p with habove | hbelow
  · have hle : u ≤ p / q := (Nat.le_div_iff_mul_le hq).2 ((Nat.mul_comm u q).trans_le habove)
    constructor
    · intro hround
      have hplace : lastPlace (p / q) ≤ lastPlace u := by
        refine Nat.sub_le_sub_right ((Nat.le_log2 h0).2 ?_) 52
        -- the power of two below the quotient bounds what it is rounded to
        have hne : p / q ≠ 0 := ((Nat.pos_of_ne_zero h0).trans_le hle).ne'
        have hpower := le_nearestUnits hq (aligned_twoPow (p / q).log2)
          ((Nat.mul_le_mul_left q (Nat.log2_self_le hne)).trans (Nat.mul_div_le p q))
        exact hpower.trans_eq hround
      have hgrid : twoPow (lastPlace (p / q)) = gapAbove u := congrArg twoPow (le_antisymm hplace (lastPlace_mono hle))
      obtain ⟨-, hhigh, hends⟩ := (nearestUnits_eq_iff_of_grid hq hgrid (gapAbove_dvd hu)).1 hround
      exact ⟨by omega, hhigh, hends.imp_right fun h => ⟨by omega, h.2⟩⟩
    · rintro ⟨-, hhigh, hends⟩
      have hgrid : twoPow (lastPlace (p / q)) = gapAbove u := congrArg twoPow (lastPlace_of_above hq hu habove hhigh)
      exact (nearestUnits_eq_iff_of_grid hq hgrid (gapAbove_dvd hu)).2
        ⟨by omega, hhigh, hends.imp_right fun h => ⟨by omega, h.2⟩⟩
  · have hdvd : gapBelow u ∣ u := (gapBelow_dvd u).trans (gapAbove_dvd hu)
    constructor
    · intro hround
      have hlt : p / q < u := (Nat.div_lt_iff_lt_mul hq).2 (hbelow.trans_eq (Nat.mul_comm q u))
      have hplaces := (nearestUnits_eq_iff_of_grid hq rfl ((twoPow_dvd (lastPlace_mono hlt.le)).trans hu)).1 hround
      have hlow : 2 * (q * u) ≤ 2 * p + q * gapBelow u :=
        hplaces.low.trans (Nat.add_le_add_left (Nat.mul_le_mul_left q (twoPow_lastPlace_le_gapBelow hlt)) _)
      have hgrid := gapBelow_of_below hq hu h0 hbelow hlow
      obtain ⟨-, -, hends⟩ := (nearestUnits_eq_iff_of_grid hq hgrid hdvd).1 hround
      refine ⟨hlow, by omega, ?_⟩
      by_cases hgap : gapBelow u = gapAbove u
      · rw [hgap] at hends ⊢
        exact hends
      · exact .inl (beq_iff_eq.2 (even_of_gapBelow_ne hgap))
    · rintro ⟨hlow, -, hends⟩
      have hgrid := gapBelow_of_below hq hu h0 hbelow hlow
      refine (nearestUnits_eq_iff_of_grid hq hgrid hdvd).2 ⟨hlow, by omega, ?_⟩
      rw [beq_iff_eq] at hends ⊢
      exact hends.imp (even_gapBelow hu) fun h => ⟨h.1, by omega⟩

/-! ## The range of the shortest decimal -/

/-- **The range of a magnitude** has exactly the decimals that are rounded to it -/
theorem contains_target_iff (hu : Aligned u) (h0 : u ≠ 0) (e : ℤ) (c : ℕ) :
    (target u).contains e c = true ↔ nearestUnits (c * scaleUp e * unitsPerOne) (scaleDown e) = u := by
  have hq : 0 < scaleDown e := tenPow_pos _
  rw [nearestUnits_eq_iff hq hu h0]
  have hpoint : c * (scaleUp e * (2 * unitsPerOne)) = 2 * (c * scaleUp e * unitsPerOne) := by
    generalize unitsPerOne = one
    ring
  have hlow : (2 * u - gapBelow u) * scaleDown e = 2 * (scaleDown e * u) - scaleDown e * gapBelow u := by
    rw [Nat.sub_mul, Nat.mul_comm (gapBelow u), Nat.mul_assoc, Nat.mul_comm u]
  have hhigh : (2 * u + gapAbove u) * scaleDown e = 2 * (scaleDown e * u) + scaleDown e * gapAbove u := by ring
  have hgap : scaleDown e * gapBelow u ≤ scaleDown e * u := Nat.mul_le_mul_left _ (gapBelow_le hu h0)
  have hpos : 0 < scaleDown e * u := Nat.mul_pos hq (Nat.pos_of_ne_zero h0)
  simp only [Target.contains, target, hpoint, hlow, hhigh]
  split_ifs with hclosed
  · rw [Bool.and_eq_true, decide_eq_true_iff, decide_eq_true_iff]
    exact ⟨fun h => ⟨by omega, h.2, .inl hclosed⟩, fun h => ⟨by have := h.low; omega, h.high⟩⟩
  · rw [Bool.and_eq_true, decide_eq_true_iff, decide_eq_true_iff]
    refine ⟨fun h => .of_inside (by omega) h.2, fun h => ?_⟩
    obtain ⟨hunder, hover⟩ := h.ends.resolve_left hclosed
    omega

end EditPlan.Binary64
