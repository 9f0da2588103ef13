import EditPlan.Proofs.Binary64.Sign

/-!
Bringing commands into range several times. Two passes are one pass under the tighter of their durations, so a second pass
changes nothing, the order of two passes does not matter, and a pass under an unknown duration can be left out before
another one. This holds of every double in the commands: a NaN that an unknown duration leaves alone meets the bound of a
later pass as it would have met it in the first one.

The durations are above zero, as those of a video are. Zero itself has two signs, and of two passes the last one gives its
own.

Main statement:
- `limitCommands_limitCommands`: two passes are one.
Witness:
- `limitCommands_limitCommands_endless_first`: a NaN under an endless duration and then under a finite one.
-/

namespace EditPlan

open Number OnLine

namespace Binary64

variable {x y : Binary64}

theorem eq_of_not_lt (hx : Number.zero < x) (hy : y ≠ .nan) (hxy : ¬ x < y) (hyx : ¬ y < x) : x = y := by
  rcases sameNumber_of_not_lt (ne_nan_of_lt_right hx) hy hxy hyx with h | ⟨hzero, -⟩
  · exact h
  · exact absurd hzero (by rw [not_isZero_of_pos hx]; exact Bool.false_ne_true)

end Binary64

/-! ## The tighter duration -/

/-- the smaller of two numbers; the first one if neither is -/
def lesser {ν : Type} [Number ν] (x y : ν) : ν := if y < x then y else x

/-- the tighter of two durations; one that is not known bounds nothing -/
def tighter {ν : Type} [Number ν] : Option ν → Option ν → Option ν
  | some d, some e => some (lesser d e)
  | some d, none => some d
  | none, e => e

section Bounds

variable {x y : Binary64}

theorem lesser_comm (hx : Number.zero < x) (hy : Number.zero < y) : lesser x y = lesser y x := by
  unfold lesser
  split_ifs with hyx hxy hxy
  · exact absurd hxy (asymm_of (· < ·) hyx)
  · rfl
  · rfl
  · exact Binary64.eq_of_not_lt hx (Binary64.ne_nan_of_lt_right hy) hxy hyx

/-- **A number that is bounded twice is bounded once by the smaller bound** -/
theorem atMost_atMost_of_pos (hx : Number.zero < x) (hy : Number.zero < y) (t : Binary64) :
    atMost y (atMost x t) = atMost (lesser x y) t := by
  by_cases ht : t < x
  · have hleft : atMost x t = t := if_pos ht
    rw [hleft, lesser]
    split_ifs with hyx
    · rfl
    · have hty : t < y := lt_of_lt_of_not_lt (comparable_right hy) ht hyx
      rw [hleft, atMost, if_pos hty]
  · have hleft : atMost x t = x := if_neg ht
    rw [hleft, lesser]
    split_ifs with hyx
    · have hty : ¬ t < y := fun hlt => ht (trans_of (· < ·) hlt hyx)
      rw [atMost, atMost, if_neg hty, if_neg (asymm_of (· < ·) hyx)]
    · rw [hleft, atMost]
      split_ifs with hxy
      · rfl
      · exact (Binary64.eq_of_not_lt hx (Binary64.ne_nan_of_lt_right hy) hxy hyx).symm

end Bounds

variable {d e : Option Binary64}

theorem tighter_comm (hd : ∀ x ∈ d, Number.zero < x) (he : ∀ x ∈ e, Number.zero < x) : tighter d e = tighter e d := by
  cases d with
  | none => cases e <;> rfl
  | some x =>
    cases e with
    | none => rfl
    | some y => exact congrArg some (lesser_comm (hd x rfl) (he y rfl))

/-- an end that is bounded twice is bounded once by the tighter duration -/
theorem limitEnd_limitEnd_of_pos (hd : ∀ x ∈ d, Number.zero < x) (he : ∀ x ∈ e, Number.zero < x) (t : Binary64) :
    limitEnd e (limitEnd d t) = limitEnd (tighter d e) t := by
  cases d with
  | none => rfl
  | some x =>
    cases e with
    | none => rfl
    | some y => exact atMost_atMost_of_pos (hd x rfl) (he y rfl) t

/-! ## Passes -/

/-- **Two passes are one pass under the tighter duration**, whatever doubles the commands hold. So a second pass changes
nothing, two passes can change places, and a pass under an unknown duration can be left out before another. -/
theorem limitCommands_limitCommands (d e : Option Binary64) (hd : ∀ x ∈ d, Number.zero < x)
    (he : ∀ x ∈ e, Number.zero < x) (cs : List (Command Binary64)) :
    limitCommands e (limitCommands d cs) = limitCommands (tighter d e) cs ∧
    limitCommands d (limitCommands d cs) = limitCommands d cs ∧
    limitCommands e (limitCommands d cs) = limitCommands d (limitCommands e cs) ∧
    limitCommands d (limitCommands none cs) = limitCommands d cs := by
  have hpass : ∀ {f g h : Option Binary64}, (∀ t, limitEnd g (limitEnd f t) = limitEnd h t) →
      limitCommands g (limitCommands f cs) = limitCommands h cs := by
    intro f g h hend
    simp only [limitCommands, List.map_map, Function.comp_def, Command.limit_limit_of_ends hend]
  have hboth := hpass (limitEnd_limitEnd_of_pos hd he)
  refine ⟨hboth, hpass (limitEnd_limitEnd d), ?_, hpass fun t => rfl⟩
  rw [hboth, tighter_comm hd he, hpass (limitEnd_limitEnd_of_pos he hd)]

/-- a NaN end under an endless duration and then under one of a hundred seconds; the first makes it infinite -/
theorem limitCommands_limitCommands_endless_first :
    let n : ℤ → Binary64 := fun k => ofRat k
    let endless : Option Binary64 := some (.infinite false)
    let cs : List (Command Binary64) := [.trim .nan .nan, .cut [⟨n (-5), n 500⟩]]
    (∀ x ∈ endless, Number.zero < x) ∧ (∀ x ∈ some (n 100), Number.zero < x) ∧
      limitCommands endless cs = [.trim (n 0) (.infinite false), .cut [⟨n 0, n 500⟩]] ∧
      limitCommands (some (n 100)) (limitCommands endless cs) = [.trim (n 0) (n 100), .cut [⟨n 0, n 100⟩]] ∧
      limitCommands endless (limitCommands (some (n 100)) cs) = [.trim (n 0) (n 100), .cut [⟨n 0, n 100⟩]] := by
  intro n endless cs
  have hendless : ∀ x ∈ endless, Number.zero < x := by decide +kernel
  have hd : ∀ x ∈ some (n 100), Number.zero < x := by decide +kernel
  have hstarts : limitStart .nan = n 0 ∧ limitStart (n (-5)) = n 0 := by decide +kernel
  have hopen : limitEnd endless .nan = .infinite false ∧ limitEnd endless (n 500) = n 500 := by decide +kernel
  have hstops : limitEnd (some (n 100)) .nan = n 100 ∧ limitEnd (some (n 100)) (n 500) = n 100 := by decide +kernel
  have htighter : tighter endless (some (n 100)) = some (n 100) := by decide +kernel
  obtain ⟨hboth, -, hcomm, -⟩ := limitCommands_limitCommands endless (some (n 100)) hendless hd cs
  have honce : limitCommands (some (n 100)) cs = [.trim (n 0) (n 100), .cut [⟨n 0, n 100⟩]] := by
    simp only [cs, limitCommands, List.map_cons, List.map_nil, Command.limit, Segment.limit, hstarts, hstops]
  rw [htighter, honce] at hboth
  refine ⟨hendless, hd, ?_, hboth, hcomm.symm.trans hboth⟩
  simp only [cs, limitCommands, List.map_cons, List.map_nil, Command.limit, Segment.limit, hstarts, hopen]

end EditPlan
