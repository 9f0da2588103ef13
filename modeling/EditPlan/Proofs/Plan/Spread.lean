import EditPlan.Proofs.Number.Exact
import EditPlan.Proofs.Plan.Prefix

/-!
Thumbnails for which no times are given, in exact arithmetic: their times divide the video as it is by then into one gap more
than there are thumbnails, all of one length. So none of them is the first or the last frame.

Main statements:
- `edges_multiples`: with both edges around them, the times are the multiples of one gap;
- `spreadTimes_exact`: what a known duration is divided into;
- `thumbnails_between_edges`: the thumbnails behind any commands that leave a positive duration.
Witness:
- `thumbnails_between_edges_none_asked`: no thumbnail is asked for, so there is one, in the middle of what a trim and a
  change of speed leave.
-/

namespace EditPlan

open Number Unrounded

/-! ## Equal gaps -/

/-- the multiples of a gap, from the first to the one of number `n` -/
def multiples (gap : ℚ) (n : ℕ) : List ℚ := (List.range n).map fun i => gap * ((i + 1 : ℕ) : ℚ)

/-- **With both edges around them** they are the multiples from zero on -/
theorem edges_multiples (gap : ℚ) (n : ℕ) :
    0 :: multiples gap n ++ [gap * ((n + 1 : ℕ) : ℚ)] = (List.range (n + 2)).map fun i : ℕ => gap * (i : ℚ) := by
  rw [List.range_succ, List.range_succ_eq_map, List.map_append, List.map_cons, List.map_map, Nat.cast_zero, mul_zero]
  rfl

theorem isChain_multiples (gap : ℚ) (n : ℕ) :
    (0 :: multiples gap n ++ [gap * ((n + 1 : ℕ) : ℚ)]).IsChain fun a b => b - a = gap := by
  rw [edges_multiples, List.isChain_map, List.isChain_range]
  intro i _
  rw [Nat.succ_eq_add_one, Nat.cast_add_one]
  ring

theorem multiples_between {gap : ℚ} (hgap : 0 < gap) (n : ℕ) : (multiples gap n).Pairwise (· < ·) ∧
    ∀ t ∈ multiples gap n, 0 < t ∧ t < gap * ((n + 1 : ℕ) : ℚ) := by
  have hup : (0 :: multiples gap n ++ [gap * ((n + 1 : ℕ) : ℚ)]).Pairwise (· < ·) := by
    rw [edges_multiples, List.pairwise_map]
    exact List.pairwise_lt_range.imp fun h => mul_lt_mul_of_pos_left (Nat.cast_lt.2 h) hgap
  rw [List.cons_append, List.pairwise_cons, List.pairwise_append] at hup
  obtain ⟨hfirst, hinner, -, hlast⟩ := hup
  exact ⟨hinner, fun t ht => ⟨hfirst t (List.mem_append_left _ ht), hlast t ht _ (List.mem_singleton_self _)⟩⟩

theorem length_multiples (gap : ℚ) (n : ℕ) : (multiples gap n).length = n := by
  rw [multiples, List.length_map, List.length_range]

/-- **What a known duration is divided into**: equal gaps, one more than there are times -/
theorem spreadTimes_exact {count : ℤ} {n : ℕ} (hcount : count = n) (duration : ℚ) :
    Build.spreadTimes (exact duration) count = .ok ((multiples (duration / (n + 1)) n).map exact) := by
  have hgaps : ((count + 1 : ℤ) : ℚ) ≠ 0 := by
    rw [hcount]
    push_cast
    positivity
  refine bind_eq_ok.2 ⟨exact ((count + 1 : ℤ) : ℚ), rfl, ?_⟩
  have hinterval : exact duration / exact ((count + 1 : ℤ) : ℚ) = exact (duration / (n + 1)) := by
    rw [exact_div duration hgaps, hcount]
    push_cast
    rfl
  have hnat : count.toNat = n := by rw [hcount, Int.toNat_natCast]
  simp only [hinterval, hnat, multiples, List.map_map]
  rfl

/-! ## Plans -/

/-- **Thumbnails for which no times are given** lie between the edges of the video as it is by then. Behind any commands that
are planned and leave a positive duration, however many are asked for, there is at least one; their times go up, and the gaps
between them and to both edges are all of one length. -/
theorem thumbnails_between_edges (planner : Planner Unrounded) (context : Option (VideoContext Unrounded))
    (cs : List (Command Unrounded)) {before : Plan Unrounded} {duration : ℚ}
    (hplan : (planner.plan context cs).result = .ok before)
    (hduration : (planner.plan context cs).planner.state.duration = some (exact duration)) (hpos : 0 < duration)
    (count : ℤ) (style : String) {timestamps : Option (List Unrounded)} (hnone : timestamps = none ∨ timestamps = some []) :
    ∃ op, ∃ times : List ℚ,
      (planner.plan context (cs ++ [.thumbnail count style timestamps])).result =
        .ok ⟨before.operations ++ [op], op.output⟩ ∧
      op.detail = .thumbnail (max 1 count) style (times.map exact) ∧
      op.invocation.videoFilter = some (Build.thumbnailFilter (times.map exact)) ∧
      times.length = max 1 count ∧ times.Pairwise (· < ·) ∧ (∀ t ∈ times, 0 < t ∧ t < duration) ∧
      (0 :: times ++ [duration]).IsChain fun a b => b - a = duration / (max 1 count + 1) := by
  obtain ⟨n, hn⟩ : ∃ n : ℕ, max 1 count = n := ⟨(max 1 count).toNat, (Int.toNat_of_nonneg (by omega)).symm⟩
  have hcast : ((max 1 count : ℤ) : ℚ) = n := by rw [hn, Int.cast_natCast]
  obtain ⟨times, hspread⟩ : ∃ times, times = multiples (duration / (n + 1)) n := ⟨_, rfl⟩
  have hlength : times.length = n := by rw [hspread, length_multiples]
  have hgap : 0 < duration / (n + 1) := by positivity
  have hlast : duration / (n + 1) * ((n + 1 : ℕ) : ℚ) = duration := by
    rw [Nat.cast_add_one]
    exact div_mul_cancel₀ duration (by positivity)
  have hbetween := multiples_between hgap n
  have hchain := isChain_multiples (duration / (n + 1)) n
  rw [hlast, ← hspread] at hbetween hchain
  have htimes : Build.thumbnailTimes (planner.plan context cs).planner.state (max 1 count) timestamps =
      .ok (times.map exact) := by
    unfold Build.thumbnailTimes
    rcases hnone with rfl | rfl
    · rw [hduration, hspread]
      exact spreadTimes_exact hn duration
    · rw [hduration, hspread]
      exact spreadTimes_exact hn duration
  have hknown : times.map exact ≠ [] :=
    Build.thumbnailTimes_ne_nil (by omega) htimes (by rw [hduration]; exact Option.some_ne_none _)
  obtain ⟨op, hbuild, hdetail, hfilter, -⟩ :=
    Build.thumbnail_of_times planner.setup before.finalOutput style htimes hknown
  have hframes : Build.thumbnailFrames (max 1 count) (times.map exact) = max 1 count := by
    rw [Build.thumbnailFrames, List.length_map, hlength, hn, ite_self]
  rw [hframes] at hdetail
  exact ⟨op, times, (plan_append_one hplan hbuild).1, hdetail, hfilter, by rw [hlength, hn], hbetween.1, hbetween.2,
    by rwa [hcast]⟩

/-- no thumbnail is asked for, so there is one, in the middle of what a trim and a change of speed leave -/
theorem thumbnails_between_edges_none_asked :
    let planner : Planner Unrounded := .fresh ⟨"in.mp4", "/w", "ffmpeg", "captions.srt", exact (-40)⟩
    let context : Option (VideoContext Unrounded) := some { duration := some (exact 120) }
    let cs : List (Command Unrounded) := [.trim (exact 10) (exact 50), .effect "speed_up" (exact 1) []]
    ∃ before, (planner.plan context cs).result = .ok before ∧
      (planner.plan context cs).planner.state.duration = some (exact 20) ∧
      ∃ op, (planner.plan context (cs ++ [.thumbnail (-3) "auto" none])).result =
          .ok ⟨before.operations ++ [op], op.output⟩ ∧
        op.detail = .thumbnail 1 "auto" [exact 10] := by
  intro planner context cs
  have hplan : (planner.plan context cs).result = .ok _ := plan_eq_ok.2 ⟨by decide +kernel, rfl⟩
  have hduration : (planner.plan context cs).planner.state.duration = some (exact 20) := by decide +kernel
  obtain ⟨op, times, hmade, hdetail, -, hlength, -, -, hchain⟩ :=
    thumbnails_between_edges planner context cs hplan hduration (by norm_num) (-3) "auto" (Or.inl rfl)
  obtain ⟨t, rfl⟩ : ∃ t, times = [t] := by
    rw [max_eq_left (by decide)] at hlength
    exact List.length_eq_one_iff.1 (by exact_mod_cast hlength)
  have hgap : t - 0 = 20 / ((max 1 (-3) : ℤ) + 1) := (List.isChain_cons_cons.1 hchain).1
  obtain rfl : t = 10 := by
    rw [max_eq_left (by decide)] at hgap
    norm_num at hgap
    exact hgap
  exact ⟨_, hplan, hduration, op, hmade, hdetail⟩

end EditPlan
