import EditPlan.Proofs.Binary64.Literal

/-!
Minutes and seconds of a duration. Below `2^53` the remainder by sixty is a number of the format, so every step of the
division is exact: the multiple of sixty below, the quotient, and the whole seconds of the remainder. The text therefore
shows the whole seconds of the duration, and durations are written alike exactly if these agree.

Main statements:
- `remainder_exact`, `floorDiv_exact`, `floorMod_exact`: quotient and remainder without rounding;
- `clock_eq`: the text of a duration;
- `clock_shows_floor`: what is read back from it.
Witness: `clock_shows_floor_below_minute`.
-/

namespace EditPlan

open Numeral

namespace Binary64

variable {s : Bool} {u r m k : ℕ}

/-! ## Division by a whole number -/

theorem lastPlace_dvd_one (h : u < twoPow 53 * unitsPerOne) : twoPow (lastPlace u) ∣ unitsPerOne := by
  refine twoPow_dvd ?_
  by_cases hu : u = 0
  · subst hu
    decide
  · rw [unitsPerOne, ← twoPow_add] at h
    have hlog : u.log2 < 53 + stepExponent := log2_lt_of_lt_twoPow hu h
    unfold lastPlace
    omega

/-- so the remainder by a whole number keeps to its places -/
theorem representable_mod (hu : Representable u) (h : u < twoPow 53 * unitsPerOne) (m : ℕ) :
    Representable (u % (m * unitsPerOne)) := by
  have hle : u % (m * unitsPerOne) ≤ u := Nat.mod_le _ _
  refine ⟨hle.trans_lt hu.1, (twoPow_dvd (lastPlace_mono hle)).trans ?_⟩
  exact (Nat.dvd_mod_iff ((lastPlace_dvd_one h).mul_left m)).2 hu.2

/-- **The remainder is not rounded** -/
theorem remainder_exact (hu : Representable u) (h : u < twoPow 53 * unitsPerOne) (m : ℕ) :
    remainder (.finite s u hu) m = .finite s (u % (m * unitsPerOne)) (representable_mod hu h m) :=
  ofUnits_eq s Nat.one_pos _ (Nat.one_mul _).symm

/-- a difference of numbers without a minus sign is exact if it is a number of the format -/
theorem sub_exact (hu : Representable u) (hr : Representable r) (hk : Representable k) (h : u = k + r) :
    Binary64.finite false u hu - .finite false r hr = .finite false k hk := by
  have hsum : signed false u + signed true r = k := by
    simp only [signed, Bool.false_eq_true, if_false, if_true]
    omega
  show addFinite false u true r = _
  simp only [addFinite, hsum]
  split_ifs with hzero
  · have hk0 : k = 0 := Int.natCast_eq_zero.1 hzero
    subst hk0
    rfl
  · rw [decide_eq_false (Int.natCast_nonneg k).not_gt, Int.natAbs_natCast]
    exact ofUnits_eq false Nat.one_pos hk (Nat.one_mul k).symm

theorem sub_same (hu : Representable u) : Binary64.finite false u hu - .finite false u hu = zero :=
  sub_exact hu hu zero_representable (Nat.zero_add u).symm

theorem not_lt_zero (hu : Representable u) : ¬ Binary64.finite false u hu < zero := by
  intro hlt
  exact absurd (of_decide_eq_true hlt : (u : ℤ) < 0) (Int.natCast_nonneg u).not_gt

theorem floor_whole (hk : Representable (k * unitsPerOne)) :
    floor (.finite false (k * unitsPerOne) hk) = .finite false (k * unitsPerOne) hk := by
  simp only [floor, isWhole_mul, if_true]

/-- **The quotient is not rounded** either: it is a whole number when it is formed -/
theorem floorDiv_exact (hu : Representable u) (h : u < twoPow 53 * unitsPerOne) (hm : 0 < m) (hm' : m ≤ twoPow 53) :
    ∃ hk, floorDiv (.finite false u hu) m = .finite false (u / (m * unitsPerOne) * unitsPerOne) hk := by
  have hmultiple : m * (u / (m * unitsPerOne)) ≤ twoPow 53 := by
    have hpos : 0 < unitsPerOne := twoPow_pos _
    refine Nat.le_of_mul_le_mul_right ?_ hpos
    calc m * (u / (m * unitsPerOne)) * unitsPerOne = m * unitsPerOne * (u / (m * unitsPerOne)) := Nat.mul_right_comm _ _ _
      _ ≤ u := Nat.mul_div_le u _
      _ ≤ twoPow 53 * unitsPerOne := h.le
  have hk : Representable (u / (m * unitsPerOne) * unitsPerOne) :=
    representable_whole ((Nat.le_mul_of_pos_left _ hm).trans hmultiple)
  refine ⟨hk, ?_⟩
  have hsplit : u = m * (u / (m * unitsPerOne)) * unitsPerOne + u % (m * unitsPerOne) := by
    rw [Nat.mul_right_comm, Nat.div_add_mod]
  have hsub := sub_exact hu (representable_mod hu h m) (representable_whole hmultiple) hsplit
  have hdiv : Binary64.finite false (m * (u / (m * unitsPerOne)) * unitsPerOne) (representable_whole hmultiple) / ofInt m =
      .finite false (u / (m * unitsPerOne) * unitsPerOne) hk := by
    have hpos : 0 < m * unitsPerOne := Nat.mul_pos hm (twoPow_pos _)
    rw [ofInt_whole hm']
    rw [div_finite _ _ hpos]
    refine ofUnits_eq false hpos hk ?_
    generalize unitsPerOne = one
    ring
  have hhalf : ofRatio false 1 2 = .finite false (twoPow 1073) (representable_twoPow (by decide)) := by
    rw [ofRatio, Nat.one_mul]
    exact ofUnits_eq false Nat.two_pos _ unitsPerOne_eq
  have hnear : ¬ ofRatio false 1 2 < zero := by
    rw [hhalf]
    exact not_lt_zero _
  simp only [floorDiv, remainder_exact hu h, hsub, hdiv, if_neg (not_lt_zero _), floor_whole hk, sub_same]
  exact if_neg hnear

/-- a floored remainder without a minus sign is the remainder -/
theorem floorMod_exact (hu : Representable u) (h : u < twoPow 53 * unitsPerOne) (m : ℕ) :
    floorMod (.finite false u hu) m = .finite false (u % (m * unitsPerOne)) (representable_mod hu h m) := by
  simp only [floorMod, remainder_exact hu h, if_neg (not_lt_zero _)]
  split_ifs with hzero
  · simp only [isZero, beq_iff_eq] at hzero
    simp only [zero, hzero]
  · rfl

/-! ## The text of a duration -/

/-- seconds that a text of minutes and seconds shows: digits, a colon and two digits, the first of them below six -/
def shownSeconds? (cs : List Char) : Option ℕ :=
  match cs.takeWhile isDigit, cs.dropWhile isDigit with
  | m :: minutes, [':', tens, ones] =>
    if isDigit tens && decide (tens < '6') && isDigit ones then
      some (60 * ofDigits (m :: minutes) + ofDigits [tens, ones])
    else none
  | _, _ => none

theorem twoDigits_lt {n : ℕ} (h : n < 60) : (twoDigits n).toList = [Nat.digitChar (n / 10), Nat.digitChar (n % 10)] := by
  have hall : ∀ k < 60, (twoDigits (k : ℕ)).toList = [Nat.digitChar (k / 10), Nat.digitChar (k % 10)] := by decide
  exact hall n h

/-- text of whole seconds, as minutes and seconds -/
def secondsText (n : ℕ) : String := toString ((n / 60 : ℕ) : ℤ) ++ ":" ++ twoDigits ((n % 60 : ℕ) : ℤ)

theorem shownSeconds?_secondsText (n : ℕ) : shownSeconds? (secondsText n).toList = some n := by
  have htext : (secondsText n).toList =
      Nat.toDigits 10 (n / 60) ++ [':', Nat.digitChar (n % 60 / 10), Nat.digitChar (n % 60 % 10)] := by
    have hminutes : toString ((n / 60 : ℕ) : ℤ) = (n / 60).repr := rfl
    have hcolon : ":".toList = [':'] := rfl
    rw [secondsText, String.toList_append, String.toList_append, twoDigits_lt (Nat.mod_lt n (by decide)), hminutes,
      Nat.toList_repr, hcolon, List.append_assoc, List.singleton_append]
  have hpair : ∀ k < 60, (isDigit (Nat.digitChar (k / 10)) && decide (Nat.digitChar (k / 10) < '6') &&
      isDigit (Nat.digitChar (k % 10))) = true ∧ ofDigits [Nat.digitChar (k / 10), Nat.digitChar (k % 10)] = k := by
    decide
  obtain ⟨hdigits, hvalue⟩ := hpair (n % 60) (Nat.mod_lt n (by decide))
  have hcolon : ∀ c ∈ [':', Nat.digitChar (n % 60 / 10), Nat.digitChar (n % 60 % 10)].head?, isDigit c = false := by
    rintro c hc
    obtain rfl : ':' = c := Option.some.inj hc
    decide
  obtain ⟨htake, hdrop⟩ := Literal.takeWhile_digits (Decimal.areDigits_toDigits (n / 60)) hcolon
  obtain ⟨d, minutes, hcons⟩ := List.exists_cons_of_ne_nil (Nat.toDigits_ne_nil (n := n / 60) (b := 10))
  have hread : ofDigits (d :: minutes) = n / 60 := by rw [← hcons, Literal.ofDigits_toDigits]
  rw [htext, shownSeconds?, htake, hdrop, hcons]
  simp only [hdigits, if_true, hread, hvalue]
  rw [Nat.div_add_mod]

/-- **The text of a duration** is that of its whole seconds -/
theorem clock_eq (hu : Representable u) (h : u < twoPow 53 * unitsPerOne) (hsign : 0 ≤ signed s u) :
    clock (.finite s u hu) = .ok (secondsText (wholePart u)) := by
  cases s with
  | true =>
    -- negative zero has its own remainder, which is negative zero again
    obtain rfl : u = 0 := by
      simp only [signed, if_true] at hsign
      omega
    have hzero : clock (.finite true 0 zero_representable) = .ok (secondsText 0) := by decide +kernel
    rw [wholePart, Nat.zero_div]
    exact hzero
  | false =>
    obtain ⟨hk, hquotient⟩ := floorDiv_exact hu h (m := 60) (by decide) (by decide)
    have hminutes : wholePart (u / (60 * unitsPerOne) * unitsPerOne) = wholePart u / 60 := by
      rw [wholePart_mul, wholePart, Nat.div_div_eq_div_mul, Nat.mul_comm 60]
    have hseconds : wholePart (u % (60 * unitsPerOne)) = wholePart u % 60 := by
      rw [wholePart, wholePart, Nat.mul_comm 60, Nat.mod_mul_right_div_self]
    simp only [clock, hquotient, floorMod_exact hu h, truncate, withSign, Bool.false_eq_true, if_false, hminutes, hseconds]
    rfl

/-! ## What it shows -/

theorem exists_units {x : Binary64} {p : ℚ} (hx : x.toRat? = some p) (hp : 0 ≤ p) (hp' : p < 2 ^ 53) :
    ∃ s u hu, x = .finite s u hu ∧ 0 ≤ signed s u ∧ u < twoPow 53 * unitsPerOne ∧ ⌊p⌋ = wholePart u := by
  have hone : (0 : ℚ) < unitsPerOne := Nat.cast_pos.2 (twoPow_pos _)
  cases x with
  | finite s u hu =>
    obtain rfl : mkRat (signed s u) unitsPerOne = p := Option.some.inj hx
    rw [Rat.mkRat_eq_div] at hp hp' ⊢
    have hsign : 0 ≤ signed s u := by
      rw [le_div_iff₀ hone, zero_mul] at hp
      exact Int.cast_nonneg_iff.1 hp
    have hsteps : signed s u = u := by rw [← Int.natAbs_of_nonneg hsign, natAbs_signed]
    rw [hsteps] at hp' ⊢
    refine ⟨s, u, hu, rfl, hsign, ?_, Rat.floor_intCast_div_natCast _ _⟩
    have hpow : (twoPow 53 : ℚ) = 2 ^ 53 := Nat.cast_pow 2 53
    rw [div_lt_iff₀ hone, ← hpow] at hp'
    exact_mod_cast hp'
  | _ => exact absurd hx (by simp [toRat?])

/-- **Minutes and seconds are exact below `2^53`**: a duration is written, and what is read back are its whole seconds; so
the order of durations is kept, and two are written alike exactly if they have the same whole seconds -/
theorem clock_shows_floor {x y : Binary64} {p q : ℚ} (hx : x.toRat? = some p) (hp : 0 ≤ p) (hp' : p < 2 ^ 53)
    (hy : y.toRat? = some q) (hq : 0 ≤ q) (hq' : q < 2 ^ 53) :
    ∃ a b m n, clock x = .ok a ∧ clock y = .ok b ∧ shownSeconds? a.toList = some m ∧ shownSeconds? b.toList = some n ∧
      (m : ℤ) = ⌊p⌋ ∧ (n : ℤ) = ⌊q⌋ ∧ (p ≤ q → m ≤ n) ∧ (a = b ↔ ⌊p⌋ = ⌊q⌋) := by
  obtain ⟨s, u, hu, rfl, hsign, hlt, hfloor⟩ := exists_units hx hp hp'
  obtain ⟨t, v, hv, rfl, hsign', hlt', hfloor'⟩ := exists_units hy hq hq'
  refine ⟨_, _, _, _, clock_eq hu hlt hsign, clock_eq hv hlt' hsign', shownSeconds?_secondsText _,
    shownSeconds?_secondsText _, hfloor.symm, hfloor'.symm, ?_, ?_⟩
  · intro hle
    have hfloors := Int.floor_mono hle
    rw [hfloor, hfloor'] at hfloors
    exact Int.ofNat_le.1 hfloors
  · rw [hfloor, hfloor', Int.natCast_inj]
    constructor
    · intro htext
      have hread := congrArg (fun text : String => shownSeconds? text.toList) htext
      simpa only [shownSeconds?_secondsText, Option.some.injEq] using hread
    · intro hwhole
      rw [hwhole]

/-- the double right below two minutes, and two minutes -/
theorem clock_shows_floor_below_minute :
    let below := ofRat (120 - 1 / 2 ^ 46)
    let minutes := ofRat 120
    below.toRat? = some (120 - 1 / 2 ^ 46) ∧ minutes.toRat? = some 120 ∧ ∃ a b, clock below = .ok a ∧
      clock minutes = .ok b ∧ shownSeconds? a.toList = some 119 ∧ shownSeconds? b.toList = some 120 ∧ a ≠ b := by
  intro below minutes
  have hbelow : below.toRat? = some (120 - 1 / 2 ^ 46) := by decide +kernel
  have hminutes : minutes.toRat? = some 120 := by decide +kernel
  have hfloor : ⌊(120 - 1 / 2 ^ 46 : ℚ)⌋ = 119 := by decide +kernel
  have hfloor' : ⌊(120 : ℚ)⌋ = 120 := by decide +kernel
  obtain ⟨a, b, m, n, ha, hb, hshown, hshown', hm, hn, -, hsame⟩ :=
    clock_shows_floor hbelow (by norm_num) (by norm_num) hminutes (by norm_num) (by norm_num)
  rw [hfloor] at hm
  rw [hfloor'] at hn
  obtain rfl : m = 119 := Int.ofNat_inj.1 hm
  obtain rfl : n = 120 := Int.ofNat_inj.1 hn
  refine ⟨hbelow, hminutes, a, b, ha, hb, hshown, hshown', ?_⟩
  rw [Ne, hsame, hfloor, hfloor']
  decide

end Binary64

end EditPlan
