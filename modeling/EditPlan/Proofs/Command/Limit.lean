import EditPlan.Proofs.Binary64.Bounds
import EditPlan.Command.Basic

/-!
What bringing a double into its range leaves of it, NaN and infinities included. A level between two bounds is always a
finite number between them. A time is bounded on one side only: an infinite time survives on the open side, and a NaN
survives only where there is no bound at all.

Main statements:
- `clamp_upTo`: a level is a finite number between its bounds, whatever it was;
- `isFinite_limitStart`: a start stays infinite only if it was positive infinity;
- `isFinite_limitEnd`: an end under a finite bound stays infinite only if it was negative infinity;
- `Command.limit_limit`: bringing a command into range twice is bringing it once;
- `Command.isFinite_limit`: a command whose numbers are finite keeps them so.
-/

namespace EditPlan

open Number

/-- a value brought into a range is one of the bounds, or lies strictly between them -/
theorem Number.clamp_cases {ν : Type} [Number ν] (x low high : ν) :
    clamp x low high = low ∨ clamp x low high = high ∨ clamp x low high = x ∧ low < x ∧ x < high := by
  unfold clamp atLeast atMost
  split_ifs with hlow hhigh
  · exact Or.inr (Or.inr ⟨rfl, hhigh, hlow⟩)
  · exact Or.inl rfl
  · exact Or.inr (Or.inl rfl)
  · exact Or.inl rfl

/-! ## Twice is once -/

theorem map_twice {α : Type} {f : α → α} (hf : ∀ x, f (f x) = f x) (a : Option α) : (a.map f).map f = a.map f := by
  cases a with
  | none => rfl
  | some x => exact congrArg some (hf x)

section Twice

variable {ν : Type} [Number ν]

theorem atLeast_atLeast (low x : ν) : atLeast low (atLeast low x) = atLeast low x := by
  unfold atLeast
  split_ifs <;> rfl

theorem atMost_atMost (high x : ν) : atMost high (atMost high x) = atMost high x := by
  unfold atMost
  split_ifs <;> rfl

theorem clamp_clamp (x low high : ν) : clamp (clamp x low high) low high = clamp x low high := by
  unfold clamp atLeast atMost
  split_ifs <;> simp_all

theorem limitEnd_limitEnd (duration : Option ν) (t : ν) :
    limitEnd duration (limitEnd duration t) = limitEnd duration t := by
  cases duration with
  | none => rfl
  | some d => exact atMost_atMost d t

/-- two bounds on ends that are as good as a third one, in a command: all else is bounded the same way each time -/
theorem Command.limit_limit_of_ends {d e f : Option ν} (hend : ∀ t, limitEnd e (limitEnd d t) = limitEnd f t)
    (c : Command ν) : (c.limit d).limit e = c.limit f := by
  have hlevel : ∀ x : ν, limitLevel (limitLevel x) = limitLevel x := fun x => clamp_clamp x _ _
  have hshare : ∀ x : ν, limitShare (limitShare x) = limitShare x := fun x => clamp_clamp x _ _
  have hvolume : ∀ x : ν, limitVolume (limitVolume x) = limitVolume x := fun x => clamp_clamp x _ _
  have hstart : ∀ x : ν, limitStart (limitStart x) = limitStart x := fun x => atLeast_atLeast _ x
  cases c with
  | trim start stop => simp only [limit, hstart, hend]
  | cut segments =>
    have hsegment : Segment.limit e ∘ Segment.limit d = Segment.limit f := by
      funext s
      simp only [Function.comp_apply, Segment.limit, hstart, hend]
    simp only [limit, List.map_map, hsegment]
  | colorCorrection adjustments preset =>
    simp only [limit, ColorAdjustments.limit, map_twice hlevel]
  | audio action params =>
    simp only [limit, AudioParams.limit, map_twice hshare, map_twice hvolume]
  | effect name intensity params => simp only [limit, hshare]
  | _ => rfl

/-- **Bringing a command into range twice is bringing it once** -/
theorem Command.limit_limit (duration : Option ν) (c : Command ν) :
    (c.limit duration).limit duration = c.limit duration :=
  Command.limit_limit_of_ends (limitEnd_limitEnd duration) c

end Twice

namespace Binary64

variable {x high : Binary64} {v : ℕ}

/-! ## Constants -/

theorem number_whole {n : ℕ} (hn : n ≤ twoPow 53) :
    (Number.ofRat (n : ℚ) : Binary64) = .finite false (n * unitsPerOne) (representable_whole hn) := ofRat_whole hn

theorem number_zero : (Number.zero : Binary64) = zero := by
  have h := number_whole (n := 0) (by decide)
  rw [Nat.cast_zero] at h
  rw [Number.zero, h, zero]
  simp only [Nat.zero_mul]

theorem number_one : (one : Binary64) = .finite false (1 * unitsPerOne) (representable_whole (by decide)) := by
  have h := number_whole (n := 1) (by decide)
  rw [Nat.cast_one] at h
  rw [one, h]

theorem number_half : (half : Binary64) = .finite false (twoPow 1073) (representable_twoPow (by decide)) := by
  have htwice : 1 * unitsPerOne = 2 * twoPow 1073 := by rw [Nat.one_mul, unitsPerOne_eq]
  have hnum : (1 / 2 : ℚ).num = 1 := by decide +kernel
  have hden : (1 / 2 : ℚ).den = 2 := by decide +kernel
  have hsign : decide ((1 : ℤ) < 0) = false := by decide
  show Binary64.ofRat (1 / 2) = _
  rw [ofRat, hnum, hden, hsign, Int.natAbs_one, ofRatio]
  exact ofUnits_eq false Nat.two_pos _ htwice

/-! ## Levels -/

/-- a finite number from zero to `v` steps -/
inductive UpTo (v : ℕ) : Binary64 → Prop
  | finite (u : ℕ) (h : Representable u) (hu : u ≤ v) : UpTo v (.finite false u h)

theorem UpTo.bounded (hx : UpTo v x) : Bounded v x := by
  cases hx with
  | finite u h hu => exact .finite false u h hu

/-- strictly between zero and a finite number there are only finite numbers -/
theorem upTo_of_between {hv : Representable v} (hlow : zero < x) (hhigh : x < .finite false v hv) : UpTo v x := by
  cases x with
  | nan => exact absurd hhigh (nan_lt _)
  | infinite s =>
    cases s with
    | false => exact absurd hhigh Bool.false_ne_true
    | true => exact absurd hlow Bool.false_ne_true
  | finite s u hu =>
    have hpos : signed false 0 < signed s u := of_decide_eq_true hlow
    have hlt : signed s u < signed false v := of_decide_eq_true hhigh
    cases s with
    | false => exact .finite u hu (Int.ofNat_lt.1 hlt).le
    | true => simp only [signed, if_true, Bool.false_eq_true, if_false] at hpos; omega

/-- **A level is a finite number between its bounds**, whatever it was -/
theorem clamp_upTo (x : Binary64) {hv : Representable v} : UpTo v (clamp x Number.zero (.finite false v hv)) := by
  rcases clamp_cases x Number.zero (.finite false v hv) with h | h | ⟨h, hlow, hhigh⟩
  · rw [h, number_zero]
    exact .finite 0 _ (Nat.zero_le v)
  · rw [h]
    exact .finite v hv le_rfl
  · rw [h]
    rw [number_zero] at hlow
    exact upTo_of_between hlow hhigh

theorem upTo_limitShare (x : Binary64) : UpTo (1 * unitsPerOne) (limitShare x) := by
  rw [limitShare, number_one]
  exact clamp_upTo x

theorem upTo_limitVolume (x : Binary64) : UpTo (2 * unitsPerOne) (limitVolume x) := by
  have htwo : (Number.ofRat 2 : Binary64) = .finite false (2 * unitsPerOne) (representable_whole (by decide)) :=
    number_whole (n := 2) (by decide)
  rw [limitVolume, htwo]
  exact clamp_upTo x

theorem UpTo.toRat (hx : UpTo (1 * unitsPerOne) x) : ∃ q, x.toRat? = some q ∧ 0 ≤ q ∧ q ≤ 1 := by
  cases hx with
  | finite u h hu =>
    rw [Nat.one_mul] at hu
    have hpos : (0 : ℚ) < unitsPerOne := Nat.cast_pos.2 (twoPow_pos _)
    refine ⟨_, rfl, ?_⟩
    rw [Rat.mkRat_eq_div, signed, if_neg Bool.false_ne_true, Int.cast_natCast]
    exact ⟨div_nonneg (Nat.cast_nonneg u) hpos.le, (div_le_one hpos).2 (Nat.cast_le.2 hu)⟩

/-! ## Times -/

/-- **A start stays infinite only if it was positive infinity** -/
theorem isFinite_limitStart (x : Binary64) : (limitStart x).isFinite = true ↔ x ≠ .infinite false := by
  rw [limitStart, number_zero, atLeast]
  cases x with
  | nan =>
    rw [if_neg (lt_nan zero)]
    exact iff_of_true rfl (by simp)
  | infinite s =>
    cases s with
    | false => exact iff_of_false Bool.false_ne_true (fun h => h rfl)
    | true => exact iff_of_true rfl (by simp)
  | finite s u h =>
    refine iff_of_true ?_ (by simp)
    split_ifs <;> rfl

/-- **An end under a finite bound stays infinite only if it was negative infinity** -/
theorem isFinite_limitEnd {d : Binary64} (hd : d.isFinite = true) (x : Binary64) :
    (limitEnd (some d) x).isFinite = true ↔ x ≠ .infinite true := by
  rw [limitEnd, atMost]
  cases x with
  | nan =>
    rw [if_neg (nan_lt d)]
    exact iff_of_true hd (by simp)
  | infinite s =>
    obtain ⟨t, w, hw, rfl⟩ := exists_finite hd
    cases s with
    | false => exact iff_of_true rfl (by simp)
    | true => exact iff_of_false Bool.false_ne_true (fun h => h rfl)
  | finite s u h =>
    refine iff_of_true ?_ (by simp)
    split_ifs
    · rfl
    · exact hd

end Binary64

/-! ## The numbers of a command -/

def ColorAdjustments.numbers {ν : Type} (a : ColorAdjustments ν) : List ν :=
  a.brightness.toList ++ a.contrast.toList ++ a.saturation.toList ++ a.temperature.toList ++ a.tint.toList ++
    a.exposure.toList

def AudioParams.numbers {ν : Type} (p : AudioParams ν) : List ν :=
  p.volume.toList ++ p.musicVolume.toList ++ p.fadeDuration.toList ++ p.noiseReduction.toList

namespace Command

/-- times, levels and factors of a command -/
def numbers {ν : Type} : Command ν → List ν
  | .trim start stop => [start, stop]
  | .cut segments => segments.flatMap fun s => [s.start, s.stop]
  | .removeSilence threshold minDuration padding => threshold.toList ++ [minDuration, padding]
  | .addCaptions .. => []
  | .colorCorrection adjustments _ => adjustments.numbers
  | .audio _ params => params.numbers
  | .transition _ duration _ => [duration]
  | .effect _ intensity _ => [intensity]
  | .exportVideo _ _ _ _ fps => [fps]
  | .thumbnail _ _ timestamps => timestamps.getD []
  | .unknown .. => []

end Command

/-- what was brought into a range with finite bounds is finite -/
theorem Binary64.isFinite_clamp {x low high : Binary64} (hx : x.isFinite = true) (hlow : low.isFinite = true)
    (hhigh : high.isFinite = true) : (clamp x low high).isFinite = true := by
  rcases clamp_cases x low high with h | h | ⟨h, -⟩
  · rw [h]
    exact hlow
  · rw [h]
    exact hhigh
  · rw [h]
    exact hx

theorem forall_mem_toList_map {α : Type} {P : α → Prop} {f : α → α} {a : Option α} (hf : ∀ x, P x → P (f x))
    (h : ∀ x ∈ a.toList, P x) : ∀ x ∈ (a.map f).toList, P x := by
  cases a with
  | none => exact h
  | some x =>
    intro y hy
    rw [List.mem_singleton.1 hy]
    exact hf x (h x (List.mem_singleton.2 rfl))

/-- **Finite numbers stay finite** under a duration that is finite or unknown -/
theorem Command.isFinite_limit {duration : Option Binary64} (hd : ∀ d, duration = some d → d.isFinite = true)
    {c : Command Binary64} (h : ∀ x ∈ c.numbers, x.isFinite = true) :
    ∀ x ∈ (c.limit duration).numbers, x.isFinite = true := by
  have hstart : ∀ t : Binary64, t.isFinite = true → (limitStart t).isFinite = true := by
    intro t ht
    rw [Binary64.isFinite_limitStart]
    rintro rfl
    exact Bool.false_ne_true ht
  have hend : ∀ t : Binary64, t.isFinite = true → (limitEnd duration t).isFinite = true := by
    intro t ht
    cases duration with
    | none => exact ht
    | some d =>
      rw [Binary64.isFinite_limitEnd (hd d rfl)]
      rintro rfl
      exact Bool.false_ne_true ht
  have hshare : ∀ x : Binary64, x.isFinite = true → (limitShare x).isFinite = true :=
    fun x _ => (Binary64.upTo_limitShare x).bounded.isFinite
  have hvolume : ∀ x : Binary64, x.isFinite = true → (limitVolume x).isFinite = true :=
    fun x _ => (Binary64.upTo_limitVolume x).bounded.isFinite
  have hlevel : ∀ x : Binary64, x.isFinite = true → (limitLevel x).isFinite = true := by
    intro x hx
    exact Binary64.isFinite_clamp hx (by decide +kernel) (by decide +kernel)
  cases c with
  | trim start stop =>
    simp only [limit, numbers, List.forall_mem_cons] at h ⊢
    exact ⟨hstart start h.1, hend stop h.2.1, h.2.2⟩
  | cut segments =>
    simp only [limit, numbers, Segment.limit, List.forall_mem_flatMap, List.forall_mem_map, List.forall_mem_cons]
      at h ⊢
    intro s hs
    exact ⟨hstart s.start (h s hs).1, hend s.stop (h s hs).2.1, (h s hs).2.2⟩
  | colorCorrection adjustments preset =>
    simp only [limit, numbers, ColorAdjustments.numbers, ColorAdjustments.limit, List.forall_mem_append] at h ⊢
    obtain ⟨⟨⟨⟨⟨hbrightness, hcontrast⟩, hsaturation⟩, htemperature⟩, htint⟩, hexposure⟩ := h
    exact ⟨⟨⟨⟨⟨forall_mem_toList_map hlevel hbrightness, forall_mem_toList_map hlevel hcontrast⟩,
      forall_mem_toList_map hlevel hsaturation⟩, forall_mem_toList_map hlevel htemperature⟩,
      forall_mem_toList_map hlevel htint⟩, forall_mem_toList_map hlevel hexposure⟩
  | audio action params =>
    simp only [limit, numbers, AudioParams.numbers, AudioParams.limit, List.forall_mem_append] at h ⊢
    obtain ⟨⟨⟨hloudness, hmusic⟩, hfade⟩, hnoise⟩ := h
    exact ⟨⟨⟨forall_mem_toList_map hvolume hloudness, forall_mem_toList_map hshare hmusic⟩, hfade⟩,
      forall_mem_toList_map hshare hnoise⟩
  | effect name intensity params =>
    simp only [limit, numbers, List.forall_mem_cons] at h ⊢
    exact ⟨hshare intensity h.1, h.2⟩
  | _ => simpa only [limit] using h

end EditPlan
