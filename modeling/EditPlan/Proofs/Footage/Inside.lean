import EditPlan.Proofs.Footage.Cover
import EditPlan.Proofs.Plan.Operations
import EditPlan.Plan.Planner

/-!
Windows in the video. A removal in range starts at zero or later and ends at the duration or earlier, but an end before
zero stays and so does a start after the duration. The cursor takes the first and a window ends at the second, so that the
windows of a cut in range leave the video.

Main statements:
- `exists_start`, `exists_stop`: a removal that ends before all others start, or starts after all others end, bounds a
  window;
- `inside_iff`: the windows of removals in range lie in the video exactly if no removal lies out of it;
- `limited_cut_inside_iff`: so do the windows of a cut that was brought in range.
Witnesses:
- `limited_cut_inside_overhanging`: removals that begin before zero and end after the duration, and an inverted one;
- `limited_cut_outside`: a removal before the beginning and one after the end.
-/

namespace EditPlan

open Number OnLine

variable {ν : Type} [Number ν] [OnLine ν] {d t : ν}

/-! ## Times in range -/

theorem not_limitStart_lt (t : ν) : ¬ limitStart t < zero := by
  unfold limitStart atLeast
  split_ifs with h
  · exact asymm_of (· < ·) h
  · exact irrefl_of (· < ·) zero

theorem not_lt_limitEnd (d t : ν) : ¬ d < limitEnd (some d) t := by
  rw [limitEnd, atMost]
  split_ifs with h
  · exact asymm_of (· < ·) h
  · exact irrefl_of (· < ·) d

theorem isComparable_limitStart (hd : zero < d) (ht : isComparable t = true) : isComparable (limitStart t) = true := by
  unfold limitStart atLeast
  split_ifs
  · exact ht
  · exact comparable_left hd

theorem isComparable_limitEnd (hd : zero < d) (ht : isComparable t = true) : isComparable (limitEnd (some d) t) = true := by
  rw [limitEnd, atMost]
  split_ifs
  · exact ht
  · exact comparable_right hd

theorem lt_limitStart_iff (hd : zero < d) (t : ν) : d < limitStart t ↔ d < t := by
  unfold limitStart atLeast
  split_ifs with h
  · exact Iff.rfl
  · exact iff_of_false (asymm_of (· < ·) hd) fun hlt => h (trans_of (· < ·) hd hlt)

theorem limitEnd_lt_iff (hd : zero < d) (t : ν) : limitEnd (some d) t < zero ↔ t < zero := by
  rw [limitEnd, atMost]
  split_ifs with h
  · exact Iff.rfl
  · exact iff_of_false (asymm_of (· < ·) hd) fun hlt => h (trans_of (· < ·) hlt hd)

namespace Footage

/-- a window from zero or later to the duration or earlier, which ends after it starts -/
def Window.Inside {ν : Type} [Number ν] (duration : ν) (w : Window ν) : Prop :=
  ¬ w.start < zero ∧ ∃ e, w.stop = some e ∧ w.start < e ∧ ¬ duration < e

variable {cursor d : ν} {s : Segment ν} {row segments : List (Segment ν)} {duration : Option ν} {w : Window ν}

/-! ## Where windows start and end -/

section Rows

variable {ν : Type} [Number ν] {cursor d : ν} {s : Segment ν} {row : List (Segment ν)} {duration : Option ν} {w : Window ν}

theorem exists_start_cursor (hend : cursor < d) (hrow : ∀ r ∈ row, cursor < r.start) :
    ∃ w ∈ keptFrom cursor row (some d), w.start = cursor := by
  cases row with
  | nil =>
    refine ⟨⟨cursor, some d⟩, ?_, rfl⟩
    show _ ∈ ending cursor (some d)
    rw [ending_of_lt hend]
    exact List.mem_singleton_self _
  | cons r row =>
    refine ⟨⟨cursor, some r.start⟩, ?_, rfl⟩
    rw [keptFrom_cons, if_pos (hrow r List.mem_cons_self)]
    exact List.mem_append_left _ (List.mem_singleton_self _)

/-- **Where a removal ends before all others start, a window starts** -/
theorem exists_start (hs : s ∈ row) (hend : s.stop < d) (hrow : ∀ r ∈ row, s.stop < r.start) (cursor : ν) :
    ∃ w ∈ keptFrom cursor row (some d), w.start = s.stop := by
  induction row generalizing cursor with
  | nil => exact absurd hs List.not_mem_nil
  | cons r row ih =>
    have hrest : ∀ q ∈ row, s.stop < q.start := fun q hq => hrow q (List.mem_cons_of_mem r hq)
    have hlater : ∃ w ∈ keptFrom r.stop row (some d), w.start = s.stop := by
      rcases List.mem_cons.1 hs with rfl | hs
      · exact exists_start_cursor hend hrest
      · exact ih hs hrest r.stop
    obtain ⟨w, hw, hstart⟩ := hlater
    rw [keptFrom_cons]
    exact ⟨w, List.mem_append_right _ hw, hstart⟩

/-- **Where a removal starts after all others end, a window ends** -/
theorem exists_stop (hs : s ∈ row) (hcursor : cursor < s.start) (hrow : ∀ r ∈ row, r.stop < s.start)
    (duration : Option ν) : ∃ w ∈ keptFrom cursor row duration, w.stop = some s.start := by
  induction row generalizing cursor with
  | nil => exact absurd hs List.not_mem_nil
  | cons r row ih =>
    rw [keptFrom_cons]
    rcases List.mem_cons.1 hs with rfl | hs
    · refine ⟨⟨cursor, some s.start⟩, List.mem_append_left _ ?_, rfl⟩
      rw [if_pos hcursor]
      exact List.mem_singleton_self _
    · obtain ⟨w, hw, hstop⟩ := ih hs (hrow r List.mem_cons_self) fun q hq => hrow q (List.mem_cons_of_mem r hq)
      exact ⟨w, List.mem_append_right _ hw, hstop⟩

end Rows

/-! ## In the video -/

/-- **The windows of removals in range lie in the video exactly if no removal lies out of it** -/
theorem inside_iff (hd : zero < d) (hcomparable : ∀ s ∈ segments, s.Comparable)
    (hlow : ∀ s ∈ segments, ¬ s.start < zero) (hhigh : ∀ s ∈ segments, ¬ d < s.stop) :
    (∀ w ∈ kept segments (some d), w.Inside d) ↔ ∀ s ∈ segments, ¬ s.stop < zero ∧ ¬ d < s.start := by
  have hmem : ∀ {s}, s ∈ inOrder segments ↔ s ∈ segments := (inOrder_perm segments).mem_iff
  constructor
  · intro hinside s hs
    rw [kept_eq_keptFrom] at hinside
    refine ⟨fun hbefore => ?_, fun hafter => ?_⟩
    · -- it ends before zero, all others start at zero or later, and a window starts at its end
      have hrow : ∀ r ∈ inOrder segments, s.stop < r.start := fun r hr =>
        lt_of_lt_of_not_lt (hcomparable r (hmem.1 hr)).start hbefore (hlow r (hmem.1 hr))
      obtain ⟨w, hw, hstart⟩ := exists_start (hmem.2 hs) (trans_of (· < ·) hbefore hd) hrow zero
      exact (hinside w hw).1 (hstart ▸ hbefore)
    · have hrow : ∀ r ∈ inOrder segments, r.stop < s.start := fun r hr =>
        lt_of_not_lt_of_lt (hcomparable r (hmem.1 hr)).stop (hhigh r (hmem.1 hr)) hafter
      obtain ⟨w, hw, hstop⟩ := exists_stop (hmem.2 hs) (trans_of (· < ·) hd hafter) hrow (some d)
      obtain ⟨-, e, he, -, hle⟩ := hinside w hw
      rw [hstop] at he
      exact hle (Option.some.inj he ▸ hafter)
  · intro hin w hw
    obtain ⟨e, he, hlt⟩ := kept_closed hw
    rw [kept_eq_keptFrom] at hw
    obtain ⟨hstarts, hstops⟩ := bounds_of_mem hw
    refine ⟨?_, e, he, hlt, ?_⟩
    · rcases hstarts with hstart | ⟨s, hs, hstart⟩
      · rw [hstart]
        exact irrefl_of (· < ·) zero
      · rw [hstart]
        exact (hin s (hmem.1 hs)).1
    · rcases hstops with hstop | ⟨s, hs, hstop⟩
      · rw [← Option.some.inj (hstop.symm.trans he)]
        exact irrefl_of (· < ·) d
      · rw [← Option.some.inj (hstop.symm.trans he)]
        exact (hin s (hmem.1 hs)).2

theorem inside_limit_iff (hd : zero < d) (hcomparable : ∀ s ∈ segments, s.Comparable) :
    (∀ w ∈ kept (segments.map (Segment.limit (some d))) (some d), w.Inside d) ↔
      ∀ s ∈ segments, ¬ s.stop < zero ∧ ¬ d < s.start := by
  have hlimited : ∀ s ∈ segments.map (Segment.limit (some d)), s.Comparable := List.forall_mem_map.2 fun s hs =>
    ⟨isComparable_limitStart hd (hcomparable s hs).start, isComparable_limitEnd hd (hcomparable s hs).stop⟩
  rw [inside_iff hd hlimited (List.forall_mem_map.2 fun s _ => not_limitStart_lt s.start)
    (List.forall_mem_map.2 fun s _ => not_lt_limitEnd d s.stop), List.forall_mem_map]
  simp only [Segment.limit, limitEnd_lt_iff hd, lt_limitStart_iff hd]

end Footage

/-- **When a cut in range keeps only what the video has.** Take a duration above zero and removals with finite bounds. The
cut that was brought in range of the duration is planned where the running duration is the same, and its windows, each of
which ends after it starts, all lie in the video exactly if no removal ends before zero and none starts after the
duration. -/
theorem limited_cut_inside_iff (setup : Setup Binary64) (s : State Binary64) (input : String) (d : Binary64)
    (hpos : zero < d) (hduration : s.duration = some d) (segments : List (Segment Binary64))
    (hfinite : ∀ x ∈ segments, x.start.isFinite = true ∧ x.stop.isFinite = true) :
    ∃ op windows, ((Command.cut segments).limit (some d)).build setup s input = .ok (some op) ∧
      op.detail = .cut windows ∧ (∀ w ∈ windows, w.Closed) ∧
      ((∀ w ∈ windows, w.Inside d) ↔ ∀ x ∈ segments, ¬ x.stop < zero ∧ ¬ d < x.start) := by
  have hcomparable : ∀ x ∈ segments, x.Comparable := fun x hx =>
    Footage.comparable_of_isFinite (hfinite x hx).1 (hfinite x hx).2
  refine ⟨Build.cut setup s input (segments.map (Segment.limit (some d))), _, rfl, rfl, ?_, ?_⟩
  · intro w hw
    rw [hduration] at hw
    exact Footage.kept_closed hw
  · rw [hduration]
    exact Footage.inside_limit_iff hpos hcomparable

/-- removals that reach out of the video on either side are cut off there, and an inverted one in it does no harm -/
theorem limited_cut_inside_overhanging :
    let sec : Int → Binary64 := fun n => ofRat n
    let segments : List (Segment Binary64) := [⟨sec 60, sec 40⟩, ⟨sec 90, sec 160⟩, ⟨sec (-5), sec 10⟩]
    let setup : Setup Binary64 := ⟨"in.mp4", "/w", "ffmpeg", "captions.srt", zero⟩
    zero < sec 100 ∧ (∀ x ∈ segments, x.start.isFinite = true ∧ x.stop.isFinite = true) ∧
      ∃ op windows, ((Command.cut segments).limit (some (sec 100))).build setup ⟨0, some (sec 100), true⟩ "in.mp4" =
        .ok (some op) ∧ op.detail = .cut windows ∧ ∀ w ∈ windows, w.Inside (sec 100) := by
  intro sec segments setup
  have hpos : zero < sec 100 := by decide +kernel
  have hfinite : ∀ x ∈ segments, x.start.isFinite = true ∧ x.stop.isFinite = true := by decide +kernel
  have hin : ∀ x ∈ segments, ¬ x.stop < zero ∧ ¬ sec 100 < x.start := by decide +kernel
  obtain ⟨op, windows, hbuild, hdetail, -, hinside⟩ :=
    limited_cut_inside_iff setup ⟨0, some (sec 100), true⟩ "in.mp4" (sec 100) hpos rfl segments hfinite
  exact ⟨hpos, hfinite, op, windows, hbuild, hdetail, hinside.2 hin⟩

/-- **Windows out of the video.** A removal before the beginning makes a window that starts before zero, and one after the
end makes a window that ends after it. -/
theorem limited_cut_outside :
    let sec : Int → Binary64 := fun n => ofRat n
    let planner := Planner.fresh (⟨"in.mp4", "/w", "ffmpeg", "captions.srt", zero⟩ : Setup Binary64)
    let windows := fun segments => (planner.plan (some { duration := some (sec 100) })
      (limitCommands (some (sec 100)) [.cut segments])).result.toOption.map fun plan =>
        plan.operations.map fun op => match op.detail with
          | .cut kept => kept
          | _ => []
    windows [⟨sec (-5), sec (-1)⟩] = some [[⟨sec (-1), some (sec 100)⟩]] ∧ sec (-1) < zero ∧
      windows [⟨sec 150, sec 160⟩] = some [[⟨zero, some (sec 150)⟩]] ∧ sec 100 < sec 150 := by
  decide +kernel

end EditPlan
