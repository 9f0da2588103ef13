import Mathlib.Data.Bool.AllAny
import EditPlan.Filter.Value
import EditPlan.Proofs.Binary64.Literal
import EditPlan.Proofs.Binary64.Nearest
import EditPlan.Proofs.Decimal.Shortest

/-!
Numbers in filter arguments are read back. A number is moved to the double nearest to a whole number of millionths, and such
a double stays where it is: the millionths nearest to it are rounded to it again. A whole one is written with its digits; of
any other the shortest decimal has at most six places, so it is in the range of the double, and is read as the double.

Main statements:
- `toMillionths_toMillionths`: rounding to millionths twice is rounding once;
- `shortest_millionths`: the shortest decimal of a double with a fraction that was rounded to millionths;
- `sixPlaces_stable`: the text of a finite number, and what is read back from it.
Witness: `sixPlaces_stable_tiny`.
-/

namespace EditPlan

namespace Binary64

open Decimal

variable {s : Bool} {u k p q : ℕ}

/-! ## Rounding to millionths -/

/-- a magnitude with a fraction is below `2^53`, since larger ones have no places for it -/
theorem lt_of_not_isWhole {u : ℕ} (hu : Representable u) (h : isWhole u = false) : u < twoPow 53 * unitsPerOne := by
  by_contra hlarge
  rw [unitsPerOne, ← twoPow_add, not_lt] at hlarge
  have hlog : 53 + stepExponent ≤ u.log2 := (log2_twoPow _).symm.trans_le (log2_mono hlarge)
  have hdvd : unitsPerOne ∣ u := (twoPow_dvd (by omega)).trans hu.2
  exact absurd (beq_iff_eq.2 (Nat.mod_eq_zero_of_dvd hdvd)) (by simpa [isWhole] using h)

/-- a magnitude below one has places much finer than a millionth -/
theorem millionth_gapAbove_lt (hlt : u.log2 < stepExponent) : 1000000 * gapAbove u < unitsPerOne := by
  have hfine : gapAbove u ≤ twoPow 1022 := by
    refine twoPow_le ?_
    unfold lastPlace
    unfold stepExponent at hlt
    omega
  have hone : unitsPerOne = twoPow 52 * twoPow 1022 := twoPow_add 52 1022
  rw [hone]
  exact (Nat.mul_le_mul_left _ hfine).trans_lt (Nat.mul_lt_mul_of_pos_right (by decide) (twoPow_pos _))

/-- a magnitude that is a whole number of millionths is rounded to itself -/
theorem nearestUnits_millionths_of_dvd (hu : Aligned u) (hdvd : unitsPerOne ∣ u * 1000000) :
    nearestUnits (roundDiv (u * 1000000) unitsPerOne * unitsPerOne) 1000000 = u := by
  have hone : 0 < unitsPerOne := twoPow_pos _
  have hmillion : 0 < 1000000 := by decide
  refine nearestUnits_eq hmillion hu ?_
  rw [roundDiv_of_dvd hone hdvd, Nat.div_mul_cancel hdvd, Nat.mul_comm]

/-- **The millionths nearest to a double are rounded to it**, if any millionths are -/
theorem nearestUnits_millionths (h : nearestUnits (k * unitsPerOne) 1000000 = u) :
    nearestUnits (roundDiv (u * 1000000) unitsPerOne * unitsPerOne) 1000000 = u := by
  have hu : Aligned u := h ▸ nearestUnits_aligned _ _
  have hone : 0 < unitsPerOne := twoPow_pos _
  have hmillion : 0 < 1000000 := by decide
  by_cases h0 : u = 0
  · refine nearestUnits_millionths_of_dvd hu ?_
    rw [h0, Nat.zero_mul]
    exact Nat.dvd_zero _
  have hnear := (nearestUnits_eq_iff hmillion hu h0).1 h
  rcases gapBelow_cases u with ⟨hpow, -, -⟩ | ⟨-, hgap⟩
  · by_cases hwhole : stepExponent ≤ u.log2
    · refine nearestUnits_millionths_of_dvd hu (Dvd.dvd.mul_right ?_ _)
      rw [hpow]
      exact twoPow_dvd hwhole
    · -- only one whole number of millionths is rounded to it
      have hfine := millionth_gapAbove_lt (not_le.1 hwhole)
      have hgaps : 1000000 * gapBelow u ≤ 1000000 * gapAbove u :=
        Nat.mul_le_mul_left _ (Nat.le_of_dvd (gapAbove_pos u) (gapBelow_dvd u))
      have hsame : roundDiv (u * 1000000) unitsPerOne = k := by
        obtain ⟨hlow, hhigh, -⟩ := hnear
        rw [Nat.mul_comm k, Nat.mul_comm 1000000 u] at hlow hhigh
        exact (roundDiv_eq_iff hone).2 (.of_inside (by omega) (by omega))
      rw [hsame, h]
  · -- the gaps on both sides are the same, so a nearer whole number of millionths is as good
    refine (nearestUnits_eq_iff hmillion hu h0).2 ?_
    rw [hgap, Nat.mul_comm k, Nat.mul_comm 1000000 u] at hnear
    rw [hgap, Nat.mul_comm _ unitsPerOne, Nat.mul_comm 1000000 u]
    exact roundDiv_near hone hnear

theorem isFinite_toMillionths {x : Binary64} (hx : x.isFinite = true) : x.toMillionths.isFinite = true := by
  obtain ⟨s, u, hu, rfl⟩ := exists_finite hx
  rw [toMillionths, ofRatio]
  cases hwhole : isWhole u with
  | true =>
    have hdvd : unitsPerOne ∣ u := Nat.dvd_of_mod_eq_zero (beq_iff_eq.1 hwhole)
    rw [ofUnits_of_nearestUnits s hu (nearestUnits_millionths_of_dvd hu.2 (hdvd.mul_right _))]
    rfl
  | false =>
    -- below `2^53` the bound is a whole number of millionths, which the rounding does not leave behind
    have hlt := lt_of_not_isWhole hu hwhole
    have hround : roundDiv (u * 1000000) unitsPerOne ≤ twoPow 53 * 1000000 := by
      apply roundDiv_le
      calc u * 1000000 ≤ twoPow 53 * unitsPerOne * 1000000 := Nat.mul_le_mul_right _ hlt.le
        _ = unitsPerOne * (twoPow 53 * 1000000) := by ring
    refine (bounded_ofUnits s (representable_whole (n := twoPow 53) le_rfl) ?_).isFinite
    calc roundDiv (u * 1000000) unitsPerOne * unitsPerOne ≤ twoPow 53 * 1000000 * unitsPerOne :=
          Nat.mul_le_mul_right _ hround
      _ = 1000000 * (twoPow 53 * unitsPerOne) := by ring

theorem toMillionths_eq (s : Bool) (hu : Representable u) :
    ∃ hv, toMillionths (.finite s u hu) =
      .finite s (nearestUnits (roundDiv (u * 1000000) unitsPerOne * unitsPerOne) 1000000) hv := by
  have hfinite : (toMillionths (.finite s u hu)).isFinite = true := isFinite_toMillionths rfl
  rw [toMillionths, ofRatio] at hfinite ⊢
  exact ofUnits_of_isFinite hfinite

/-- **Rounding to millionths twice** is rounding once -/
theorem toMillionths_toMillionths (x : Binary64) : x.toMillionths.toMillionths = x.toMillionths := by
  cases x with
  | finite s u hu =>
    obtain ⟨hv, hround⟩ := toMillionths_eq s hu
    rw [hround, toMillionths, ofRatio]
    exact ofUnits_of_nearestUnits s hv (nearestUnits_millionths rfl)
  | _ => rfl

theorem sixPlaces_toMillionths (x : Binary64) : x.toMillionths.sixPlaces = x.sixPlaces := by
  rw [sixPlaces, toMillionths_toMillionths, ← sixPlaces]

/-! ## Doubles with a fraction -/

/-- the shortest decimal lies in the range of its magnitude -/
theorem isInside_target (hu : Aligned u) (h0 : u ≠ 0) : (target u).IsInside where
  denominator := Nat.mul_pos two_pos (twoPow_pos _)
  low := by
    have hgap := gapBelow_le hu h0
    have hpos := gapBelow_pos u
    simp only [target]
    omega
  high := Nat.lt_add_of_pos_right (gapAbove_pos u)

/-- the grid of millionths is the one with number 318; what is not rounded to zero is at least a millionth, so the search
starts there or on a coarser one -/
theorem millionths_le_coarsest (h : nearestUnits (k * unitsPerOne) 1000000 = u) (h0 : u ≠ 0) :
    318 ≤ (target u).coarsest := by
  have hk : 1 ≤ k := by
    refine Nat.pos_of_ne_zero fun hk => h0 ?_
    rw [← h, hk, Nat.zero_mul]
    exact nearestUnits_eq (by decide) zero_representable.2 rfl
  have hpower : twoPow 1054 ≤ u := by
    rw [← h]
    refine le_nearestUnits (by decide) (aligned_twoPow 1054) ?_
    have hone : unitsPerOne = twoPow 20 * twoPow 1054 := twoPow_add 20 1054
    have hmillionth : 1000000 * twoPow 1054 ≤ unitsPerOne := by
      rw [hone]
      exact Nat.mul_le_mul_right _ (by decide)
    exact hmillionth.trans (Nat.le_mul_of_pos_left _ hk)
  have hlog : 1054 ≤ u.log2 := (log2_twoPow 1054).symm.trans_le (log2_mono hpower)
  have hvalue : (2 * u).log2 = u.log2 + 1 := Nat.log2_two_mul h0
  have hdenominator : (2 * unitsPerOne).log2 = 1075 := by
    rw [unitsPerOne, ← twoPow_succ, log2_twoPow]
    rfl
  simp only [Target.coarsest, target, hvalue, hdenominator, Target.finest]
  omega

/-- **The shortest decimal of a double that was rounded to millionths** has at most six places and is read as it -/
theorem shortest_millionths (h : nearestUnits (k * unitsPerOne) 1000000 = u) (h0 : u ≠ 0) :
    -6 ≤ (shortest u).exponent ∧
      nearestUnits ((shortest u).coefficient * scaleUp (shortest u).exponent * unitsPerOne)
        (scaleDown (shortest u).exponent) = u := by
  have hu : Aligned u := h ▸ nearestUnits_aligned _ _
  have hpoint : (target u).contains (Target.finest + (318 : ℕ)) k = true := by
    rw [contains_target_iff hu h0]
    have hup : scaleUp (Target.finest + (318 : ℕ)) = 1 := rfl
    have hdown : scaleDown (Target.finest + (318 : ℕ)) = 1000000 := rfl
    rw [hup, hdown, Nat.mul_one]
    exact h
  obtain ⟨hexponent, hcontains⟩ :=
    Target.search_contains (isInside_target hu h0) (by decide) (millionths_le_coarsest h h0) hpoint
  exact ⟨hexponent, (contains_target_iff hu h0 _ _).1 hcontains⟩

/-! ## Decimals are read -/

theorem ofDecimal_of_nearestUnits (s : Bool) {d : Decimal} (h0 : d.coefficient ≠ 0) (hlow : -324 ≤ d.lead)
    (hhigh : d.lead ≤ 308) (hu : Representable u)
    (hread : nearestUnits (d.coefficient * scaleUp d.exponent * unitsPerOne) (scaleDown d.exponent) = u) :
    ofDecimal s d = .finite s u hu := by
  unfold lead digits at hlow hhigh
  unfold ofDecimal
  dsimp only
  rw [if_neg h0, if_neg (by omega), if_neg (by omega)]
  exact ofUnits_of_nearestUnits s hu hread

theorem scaleUp_of_nonpos {e : ℤ} (he : e ≤ 0) : scaleUp e = 1 := by
  rw [scaleUp, Int.toNat_of_nonpos he]
  rfl

theorem scaleDown_of_nonneg {e : ℤ} (he : 0 ≤ e) : scaleDown e = 1 := by
  rw [scaleDown, Int.toNat_of_nonpos (Int.neg_nonpos_of_nonneg he)]
  rfl

theorem length_digits_le_iff {c n : ℕ} (hn : 0 < n) : (digits c).length ≤ n ↔ c < tenPow n :=
  Nat.length_toDigits_le_iff (by decide) hn

/-- **A decimal that is read as a double with a fraction** is not zero, has places behind the point, and is below `10^16` -/
theorem decimal_of_fraction {d : Decimal} (hu : Representable u) (hwhole : isWhole u = false)
    (hread : nearestUnits (d.coefficient * scaleUp d.exponent * unitsPerOne) (scaleDown d.exponent) = u) :
    d.coefficient ≠ 0 ∧ d.exponent < 0 ∧ d.lead < 16 := by
  have hscale : 0 < scaleDown d.exponent := tenPow_pos _
  -- from `2^53` on there are no fractions
  have hlarge : ¬ scaleDown d.exponent * twoPow 53 ≤ d.coefficient * scaleUp d.exponent := by
    intro hle
    have hmul := Nat.mul_le_mul_right unitsPerOne hle
    rw [Nat.mul_assoc (scaleDown d.exponent)] at hmul
    have hround := le_nearestUnits hscale (representable_whole (n := twoPow 53) le_rfl).2 hmul
    rw [hread] at hround
    exact hround.not_gt (lt_of_not_isWhole hu hwhole)
  have hexponent : d.exponent < 0 := by
    by_contra hnonneg
    rw [scaleDown_of_nonneg (not_lt.1 hnonneg), Nat.one_mul, not_le] at hlarge
    have hexact := nearestUnits_eq Nat.one_pos (representable_whole hlarge.le).2 (Nat.one_mul _).symm
    rw [scaleDown_of_nonneg (not_lt.1 hnonneg), hexact] at hread
    rw [← hread, isWhole_mul] at hwhole
    exact Bool.noConfusion hwhole
  refine ⟨?_, hexponent, ?_⟩
  · intro h0
    rw [h0, Nat.zero_mul, Nat.zero_mul, nearestUnits_eq hscale zero_representable.2 (Nat.mul_zero _).symm] at hread
    rw [← hread, isWhole, Nat.zero_mod] at hwhole
    exact Bool.noConfusion hwhole
  · by_contra hlead
    unfold lead at hlead
    refine hlarge ?_
    rw [scaleUp_of_nonpos hexponent.le, Nat.mul_one]
    have hdigits : tenPow ((-d.exponent).toNat + 16) ≤ d.coefficient :=
      not_lt.1 fun hlt => absurd ((length_digits_le_iff (by omega)).2 hlt) (by omega)
    calc scaleDown d.exponent * twoPow 53 ≤ tenPow (-d.exponent).toNat * tenPow 16 := Nat.mul_le_mul_left _ (by decide)
      _ = tenPow ((-d.exponent).toNat + 16) := (Nat.pow_add 10 _ _).symm
      _ ≤ d.coefficient := hdigits

theorem ofDecimal_whole (s : Bool) {n : ℕ} (hn : Representable (n * unitsPerOne)) :
    ofDecimal s ⟨n, 0⟩ = .finite s (n * unitsPerOne) hn := by
  by_cases h0 : n = 0
  · subst h0
    simp only [ofDecimal, if_true, Nat.zero_mul]
  · have hrange : n < tenPow 309 := by
      have hlt := hn.1
      rw [overflowUnits, twoPow_add, ← unitsPerOne] at hlt
      have hpower : twoPow rangeExponent ≤ tenPow 309 := by decide +kernel
      exact (Nat.lt_of_mul_lt_mul_right hlt).trans_le hpower
    have hdigits : (digits n).length ≤ 309 := (length_digits_le_iff (by decide)).2 hrange
    have hlead : lead ⟨n, 0⟩ = ((digits n).length : ℤ) - 1 := Int.add_zero _
    refine ofDecimal_of_nearestUnits s h0 (by omega) (by omega) hn ?_
    rw [scaleDown_of_nonneg le_rfl, scaleUp_of_nonpos le_rfl, Nat.mul_one]
    exact nearestUnits_eq Nat.one_pos hn.2 (Nat.one_mul _).symm

/-! ## Texts are read back -/

theorem sixPlaces_whole (s : Bool) {n : ℕ} (hn : Representable (n * unitsPerOne)) :
    sixPlaces (.finite s (n * unitsPerOne) hn) = wholeText (withSign s n) := by
  have hround : toMillionths (.finite s (n * unitsPerOne) hn) = .finite s (n * unitsPerOne) hn := by
    rw [toMillionths, ofRatio]
    exact ofUnits_of_nearestUnits s hn (nearestUnits_millionths_of_dvd hn.2 ((Nat.dvd_mul_left _ _).mul_right _))
  rw [sixPlaces, hround]
  dsimp only
  rw [if_pos (isWhole_mul n), wholePart_mul]

/-- a literal that has at most an exponent of minus five or six, and is read as a number with the same text -/
structure IsStable (shown : String) (l : Literal) : Prop where
  proper : l.IsProper
  spelled : shown.toList = l.text
  exponent : ∀ e ∈ l.exponent, e = (true, ['0', '5']) ∨ e = (true, ['0', '6'])
  stable : (ofDecimal l.negative l.decimal).sixPlaces = shown

/-- the sign of a whole number, if it has one, stands in front of its digits -/
theorem withSign_decide (s : Bool) (n : ℕ) : withSign (decide (withSign s n < 0)) n = withSign s n := by
  cases s with
  | false =>
    have hnonneg : ¬ withSign false n < 0 := (Int.natCast_nonneg n).not_gt
    rw [decide_eq_false hnonneg]
  | true =>
    rcases Nat.eq_zero_or_pos n with rfl | hpos
    · rfl
    · have hneg : withSign true n < 0 := Int.neg_neg_of_pos (Int.natCast_pos.2 hpos)
      rw [decide_eq_true hneg]

/-- **A whole number** is written with its digits; a negative zero has no sign -/
theorem isStable_whole (s : Bool) {n : ℕ} (hn : Representable (n * unitsPerOne)) :
    ∃ l, IsStable (sixPlaces (.finite s (n * unitsPerOne) hn)) l := by
  obtain ⟨l, hl, htext, hnegative, hexponent, hdecimal⟩ := literal_wholeText (withSign s n)
  have habs : (withSign s n).natAbs = n := by cases s <;> simp [withSign]
  rw [sixPlaces_whole]
  refine ⟨l, hl, htext, by simp [hexponent], ?_⟩
  rw [hdecimal, habs, ofDecimal_whole _ hn, sixPlaces_whole, hnegative, withSign_decide]

/-- **A number with a fraction** is written with at most six places -/
theorem isStable_fraction {hu : Representable u} (hwhole : isWhole u = false)
    (hstable : toMillionths (.finite s u hu) = .finite s u hu) : ∃ l, IsStable (sixPlaces (.finite s u hu)) l := by
  have h0 : u ≠ 0 := by
    rintro rfl
    rw [isWhole, Nat.zero_mod] at hwhole
    exact Bool.noConfusion hwhole
  obtain ⟨hv, hround⟩ := toMillionths_eq s hu
  obtain ⟨-, hk⟩ := finite.inj (hround.symm.trans hstable)
  obtain ⟨hplaces, hread⟩ := shortest_millionths hk h0
  obtain ⟨hne, hneg, hlead⟩ := decimal_of_fraction hu hwhole hread
  have hlow : -6 ≤ (shortest u).lead := by
    have hlength : 0 < (digits (shortest u).coefficient).length := Nat.length_toDigits_pos
    unfold lead
    omega
  obtain ⟨l, hl, hbody, hexponent, hdecimal⟩ := literal_text (shortest u)
  obtain ⟨l', hl', htext, hnegative, hexponent', hdecimal'⟩ := literal_signed hl s
  have hsix : sixPlaces (.finite s u hu) = String.ofList l'.text := by
    rw [sixPlaces, hstable]
    dsimp only
    rw [if_neg (by simp [hwhole]), text, magnitudeText, if_neg h0, hbody, htext]
  refine ⟨l', hl', by rw [hsix, String.toList_ofList], ?_, ?_⟩
  · rintro e he
    rw [hexponent'] at he
    obtain ⟨hsmall, rfl⟩ := hexponent e he
    have hcases : (shortest u).lead = -5 ∨ (shortest u).lead = -6 := by omega
    rcases hcases with h | h
    · rw [h]
      exact .inl (by decide)
    · rw [h]
      exact .inr (by decide)
  · rw [hnegative, hdecimal', hdecimal hneg, ofDecimal_of_nearestUnits s hne (by omega) (by omega) hu hread]

/-- **A finite number** is first rounded to millionths -/
theorem exists_isStable {x : Binary64} (hx : x.isFinite = true) : ∃ l, IsStable x.sixPlaces l := by
  obtain ⟨s, u, hu, hround⟩ := exists_finite (isFinite_toMillionths hx)
  have hstable := toMillionths_toMillionths x
  rw [hround] at hstable
  rw [← sixPlaces_toMillionths, hround]
  cases hwhole : isWhole u with
  | true =>
    have hdvd : unitsPerOne ∣ u := Nat.dvd_of_mod_eq_zero (beq_iff_eq.1 hwhole)
    obtain ⟨n, rfl⟩ : ∃ n, n * unitsPerOne = u := ⟨u / unitsPerOne, Nat.div_mul_cancel hdvd⟩
    exact isStable_whole s hu
  | false => exact isStable_fraction hwhole hstable

/-- **A finite number in a filter argument** is a literal -/
theorem sixPlaces_literal {x : Binary64} (hx : x.isFinite = true) :
    ∃ l : Literal, l.IsProper ∧ x.sixPlaces.toList = l.text := by
  obtain ⟨l, h⟩ := exists_isStable hx
  exact ⟨l, h.proper, h.spelled⟩

/-! ## Characters of texts -/

/-- characters that separate filters, options or the parts of an expression -/
def separators : List Char := Filter.graphSpecial ++ Filter.optionSpecial ++ " =()+*/|".toList

/-- a text has digits, minus signs, a point and the mark of an exponent -/
theorem IsStable.mem {shown : String} {l : Literal} (h : IsStable shown l) {c : Char} (hc : c ∈ shown.toList) :
    Numeral.isDigit c = true ∨ c ∈ ['-', '.', 'e'] := by
  rw [h.spelled, Literal.text_eq, List.mem_append] at hc
  rcases hc with hc | hc
  · exact (Literal.mem_front h.proper hc).imp_right fun hmark => List.mem_append_left ['e'] hmark
  · cases hexponent : l.exponent with
    | none => simp [hexponent, Literal.exponentText] at hc
    | some e =>
      rw [hexponent] at hc
      have hfive : ∀ c ∈ Literal.exponentText (some (true, ['0', '5'])),
          Numeral.isDigit c = true ∨ c ∈ ['-', '.', 'e'] := List.all_iff_forall_prop.1 (by decide)
      have hsix : ∀ c ∈ Literal.exponentText (some (true, ['0', '6'])),
          Numeral.isDigit c = true ∨ c ∈ ['-', '.', 'e'] := List.all_iff_forall_prop.1 (by decide)
      rcases h.exponent e hexponent with rfl | rfl
      · exact hfive c hc
      · exact hsix c hc

/-- **The text of a finite number is safe and stable**: it is a number literal with at most an exponent of minus five or
six, no negative zero and without separators, and the number it is read as has the same text -/
theorem sixPlaces_stable {x : Binary64} (hx : x.isFinite = true) :
    ∃ l : Literal, l.IsProper ∧ x.sixPlaces.toList = l.text ∧
      (∀ e ∈ l.exponent, e = (true, ['0', '5']) ∨ e = (true, ['0', '6'])) ∧
      x.sixPlaces ≠ "-0" ∧ (∀ c ∈ x.sixPlaces.toList, c ∉ separators) ∧
      Numeral.plain? x.sixPlaces.toList = some (ofDecimal l.negative l.decimal) ∧
      (ofDecimal l.negative l.decimal).sixPlaces = x.sixPlaces := by
  obtain ⟨l, h⟩ := exists_isStable hx
  have hread := Literal.plain?_text h.proper
  rw [← h.spelled] at hread
  refine ⟨l, h.proper, h.spelled, h.exponent, ?_, ?_, hread, h.stable⟩
  · -- a negative zero is read as such, but its text has no sign
    intro hminus
    have hzero : Numeral.plain? "-0".toList = some (.finite true 0 zero_representable) := by decide +kernel
    have htext : sixPlaces (.finite true 0 zero_representable) = "0" := by decide +kernel
    have hstable := h.stable
    rw [hminus, hzero] at hread
    rw [← Option.some.inj hread, htext, hminus] at hstable
    exact absurd hstable (by decide)
  · intro c hc hseparator
    have hnone : ∀ c ∈ separators, Numeral.isDigit c = false ∧ c ∉ ['-', '.', 'e'] :=
      List.all_iff_forall_prop.1 (by decide)
    obtain ⟨hdigit, hmark⟩ := hnone c hseparator
    rcases h.mem hc with hnumeral | hnumeral
    · exact Bool.false_ne_true (hdigit.symm.trans hnumeral)
    · exact hmark hnumeral

/-- a tiny number that is no double; its text has a sign and an exponent -/
theorem sixPlaces_stable_tiny :
    let x := ofRat (-3 / 200000)
    x.isFinite = true ∧ x.sixPlaces = "-1.5e-05" ∧
      ∃ y, Numeral.plain? "-1.5e-05".toList = some y ∧ y.sixPlaces = "-1.5e-05" := by
  intro x
  have hfinite : x.isFinite = true := by decide +kernel
  have htext : x.sixPlaces = "-1.5e-05" := by decide +kernel
  obtain ⟨l, -, -, -, -, -, hread, hstable⟩ := sixPlaces_stable hfinite
  rw [htext] at hread hstable
  exact ⟨hfinite, htext, _, hread, hstable⟩

end Binary64

end EditPlan
