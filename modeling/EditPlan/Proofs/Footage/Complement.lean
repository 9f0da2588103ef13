import EditPlan.Proofs.Footage.Cover
import EditPlan.Proofs.Plan.Timeline

/-!
A cut of removals that lie in the video and do not meet. Visited in order each removal is behind the one before it, so the
cursor never moves back: the windows are what the removals leave of the video, in whatever order they are given.

Main statements:
- `DisjointWithin.inOrder_behind`: in order, each removal starts where the one before it ends or later;
- `span_keptFrom`: in exact arithmetic windows and removals together are the video from the cursor on;
- `kept_complement`: a cut keeps exactly what is not removed, and its length is the new duration.
Witnesses:
- `kept_complement_touching`: removals given in reverse that touch each other, the beginning and the end;
- `kept_below_zero`: with a duration below zero there is nothing to remove from, and zero is kept.
-/

namespace EditPlan

open Number OnLine

variable {ν : Type} [Number ν] [OnLine ν]

/-- removals that hold no time in common -/
def Segment.Apart (a b : Segment ν) : Prop := ∀ t, a.Holds t → ¬ b.Holds t

/-- a removal that starts where the first one ends, or later -/
def Segment.Behind {ν : Type} [Number ν] (a b : Segment ν) : Prop := ¬ b.start < a.stop

instance {ν : Type} [Number ν] (a b : Segment ν) : Decidable (a.Behind b) := inferInstanceAs (Decidable (¬ _))

def Footage.removed (segments : List (Segment Rat)) : Rat := (segments.map fun s => s.stop - s.start).sum

namespace Footage

/-- removals that are not empty, lie in a video of the duration and do not meet -/
structure DisjointWithin (duration : ν) (segments : List (Segment ν)) : Prop where
  nonempty : ∀ s ∈ segments, s.start < s.stop
  low : ∀ s ∈ segments, ¬ s.start < zero
  high : ∀ s ∈ segments, ¬ duration < s.stop
  apart : segments.Pairwise Segment.Apart

variable {cursor d : ν} {a b s : Segment ν} {row segments : List (Segment ν)} {duration : Option ν} {w : Window ν} {t : ℝ}

/-! ## Order -/

theorem proper_of_lt (h : s.start < s.stop) : s.Proper :=
  ⟨⟨comparable_left h, comparable_right h⟩, asymm_of (· < ·) h⟩

/-- of two removals that do not meet, the one that does not start first is behind the other -/
theorem behind_of_apart (ha : a.start < a.stop) (hb : b.start < b.stop) (horder : ¬ b.start < a.start)
    (hapart : a.Apart b) : a.Behind b := by
  intro hlt
  -- else both hold the times from the later start on, until one of them ends
  obtain ⟨hstart, -, t, ht, hta⟩ := lt_iff.1 hlt
  obtain ⟨-, -, u, hu, hub⟩ := lt_iff.1 hb
  have hearly : ∀ v, Reached b.start v → Reached a.start v := fun v hv =>
    reached_of_not_lt (comparable_left ha) hstart horder hv
  rcases le_total t u with hle | hle
  · exact hapart t ⟨hearly t ht, hta⟩ ⟨ht, fun hstop => hub (reached_of_le hstop hle)⟩
  · exact hapart u ⟨hearly u hu, fun hstop => hta (reached_of_le hstop hle)⟩ ⟨hu, hub⟩

theorem apart_of_behind (ha : a.Proper) (hb : b.Proper) (h : a.Behind b) : a.Apart b := fun _ hta htb =>
  hta.2 (reached_of_not_lt ha.stop hb.start h htb.1)

theorem behind_asymm (ha : a.start < a.stop) (hb : b.start < b.stop) (hab : a.Behind b) : ¬ b.Behind a := by
  intro hba
  have hcross : a.start < b.start := lt_of_lt_of_not_lt (comparable_left hb) ha hab
  exact hba (trans_of (· < ·) hcross hb)

namespace DisjointWithin

theorem proper (h : DisjointWithin d segments) (hs : s ∈ segments) : s.Proper := proper_of_lt (h.nonempty s hs)

theorem of_behind (hnonempty : ∀ s ∈ segments, s.start < s.stop) (hlow : ∀ s ∈ segments, ¬ s.start < zero)
    (hhigh : ∀ s ∈ segments, ¬ d < s.stop) (h : segments.Pairwise fun a b => a.Behind b ∨ b.Behind a) :
    DisjointWithin d segments := by
  refine ⟨hnonempty, hlow, hhigh, h.imp_of_mem fun {a b} ha hb hab => ?_⟩
  have ha := proper_of_lt (hnonempty a ha)
  have hb := proper_of_lt (hnonempty b hb)
  rcases hab with hab | hba
  · exact apart_of_behind ha hb hab
  · exact fun t hta htb => apart_of_behind hb ha hba t htb hta

theorem perm {others : List (Segment ν)} (h : DisjointWithin d segments) (hperm : others.Perm segments) :
    DisjointWithin d others where
  nonempty s hs := h.nonempty s (hperm.subset hs)
  low s hs := h.low s (hperm.subset hs)
  high s hs := h.high s (hperm.subset hs)
  apart := (hperm.pairwise_iff fun hab t hb ha => hab t ha hb).2 h.apart

/-- **In order, each removal is behind all that are visited before it** -/
theorem inOrder_behind (h : DisjointWithin d segments) : (inOrder segments).Pairwise Segment.Behind := by
  have hvisited : DisjointWithin d (inOrder segments) := h.perm (inOrder_perm segments)
  have hsorted : Sorted (inOrder segments) := inOrder_sorted fun s hs => (h.proper hs).start
  refine (hsorted.and hvisited.apart).imp_of_mem fun {a b} ha hb hab => ?_
  exact behind_of_apart (hvisited.nonempty a ha) (hvisited.nonempty b hb) hab.1 hab.2

theorem inOrder_eq {others : List (Segment ν)} (h : DisjointWithin d segments) (hperm : others.Perm segments) :
    inOrder others = inOrder segments := by
  have hothers : DisjointWithin d others := h.perm hperm
  have hvisited : (inOrder others).Perm (inOrder segments) :=
    (inOrder_perm others).trans (hperm.trans (inOrder_perm segments).symm)
  refine hvisited.eq_of_pairwise (fun a b ha hb hab hba => ?_) hothers.inOrder_behind h.inOrder_behind
  have ha' := hothers.nonempty a ((inOrder_perm others).subset ha)
  have hb' := h.nonempty b ((inOrder_perm segments).subset hb)
  exact absurd hba (behind_asymm ha' hb' hab)

end DisjointWithin

/-! ## No removal is kept -/

/-- a window between removals that are behind each other holds no time of them -/
theorem not_holds_of_holds (hproper : ∀ s ∈ row, s.Proper) (hbehind : row.Pairwise Segment.Behind)
    (hw : w ∈ keptFrom cursor row duration) (ht : w.Holds t) : ∀ s ∈ row, ¬ s.Holds t := by
  induction row generalizing cursor with
  | nil => exact fun s hs => absurd hs List.not_mem_nil
  | cons s row ih =>
    obtain ⟨hs, hproper⟩ := List.forall_mem_cons.1 hproper
    obtain ⟨hfirst, hbehind⟩ := List.pairwise_cons.1 hbehind
    rw [keptFrom_cons] at hw
    rw [List.forall_mem_cons]
    rcases List.mem_append.1 hw with hw | hw
    · -- the window in front of `s` is over where `s` starts, and all others start later
      split_ifs at hw
      · rw [List.mem_singleton.1 hw] at ht
        have hbefore : ¬ Reached s.start t := ht.2 s.start rfl
        refine ⟨fun hst => hbefore hst.1, fun r hr hrt => hbefore ?_⟩
        exact reached_of_not_lt hs.start hs.stop hs.le
          (reached_of_not_lt hs.stop (hproper r hr).start (hfirst r hr) hrt.1)
      · exact absurd hw List.not_mem_nil
    · have hafter : Reached s.stop t := reached_of_mem hs.stop id (fun r hr => ⟨hproper r hr, hfirst r hr⟩) hw ht.1
      exact ⟨fun hst => hst.2 hafter, ih hproper hbehind hw⟩

/-- **A time is kept exactly if no removal holds it**, from zero on and before the duration -/
theorem DisjointWithin.holds_iff (h : DisjointWithin d segments) (hzero : isComparable (zero : ν) = true)
    (hd : isComparable d = true) (ht : Reached (zero : ν) t) (hend : ¬ Reached d t) :
    (∃ w ∈ kept segments (some d), w.Holds t) ↔ ∀ s ∈ segments, ¬ s.Holds t := by
  have hproper : ∀ s ∈ inOrder segments, s.Proper := fun s hs => h.proper ((inOrder_perm segments).subset hs)
  rw [kept_eq_keptFrom]
  constructor
  · rintro ⟨w, hw, hwt⟩ s hs
    exact not_holds_of_holds hproper h.inOrder_behind hw hwt s ((inOrder_perm segments).symm.subset hs)
  · intro huncut
    refine exists_holds hzero (fun s hs => (hproper s hs).toComparable) ht ?_ fun s hs =>
      huncut s ((inOrder_perm segments).subset hs)
    rintro e he
    rw [← Option.some.inj he]
    exact ⟨hd, hend⟩

/-! ## Lengths -/

theorem removed_cons (s : Segment Rat) (row : List (Segment Rat)) :
    removed (s :: row) = s.stop - s.start + removed row := by
  rw [removed, List.map_cons, List.sum_cons, removed]

theorem removed_perm {row segments : List (Segment Rat)} (h : row.Perm segments) : removed row = removed segments :=
  (h.map _).sum_eq

/-- **Windows and removals together are the video from the cursor on**, if the cursor never moves back -/
theorem span_keptFrom {cursor d : Rat} {row : List (Segment Rat)} (hbehind : row.Pairwise Segment.Behind)
    (hcursor : cursor ≤ d) (hrow : ∀ s ∈ row, cursor ≤ s.start ∧ s.stop ≤ d) :
    span (keptFrom cursor row (some d)) = d - cursor - removed row := by
  induction row generalizing cursor with
  | nil =>
    show span (ending cursor (some d)) = d - cursor - 0
    rcases hcursor.lt_or_eq with hlt | rfl
    · rw [ending_of_lt hlt, span_singleton, sub_zero]
    · rw [ending_of_not_lt (lt_irrefl cursor), sub_self, sub_zero]
      rfl
  | cons s row ih =>
    obtain ⟨hfirst, hbehind⟩ := List.pairwise_cons.1 hbehind
    obtain ⟨⟨hstart, hstop⟩, hrow⟩ := List.forall_mem_cons.1 hrow
    have hrest := ih hbehind hstop fun r hr => ⟨not_lt.1 (hfirst r hr), (hrow r hr).2⟩
    have hfront : span (if cursor < s.start then [⟨cursor, some s.start⟩] else []) = s.start - cursor := by
      split_ifs with hlt
      · exact span_singleton cursor s.start
      · rw [hstart.antisymm (not_lt.1 hlt), sub_self]
        rfl
    rw [keptFrom_cons, span_append, hfront, hrest, removed_cons]
    ring

/-- from a video below zero nothing can be removed -/
theorem DisjointWithin.eq_nil {d : Rat} {segments : List (Segment Rat)} (h : DisjointWithin d segments) (hd : d < 0) :
    segments = [] := by
  refine List.eq_nil_iff_forall_not_mem.2 fun s hs => ?_
  have hlow : 0 ≤ s.start := not_lt.1 (h.low s hs)
  have hhigh : s.stop ≤ d := not_lt.1 (h.high s hs)
  exact absurd (h.nonempty s hs) (not_lt.2 (hhigh.trans (hd.le.trans hlow)))

theorem DisjointWithin.span_kept {d : Rat} {segments : List (Segment Rat)} (h : DisjointWithin d segments) :
    span (kept segments (some d)) = max 0 d - removed segments := by
  rcases lt_or_ge d 0 with hneg | hd
  · rw [h.eq_nil hneg, max_eq_left hneg.le, kept_eq_keptFrom]
    show span (ending 0 (some d)) = 0 - 0
    rw [ending_of_not_lt hneg.not_gt, sub_zero]
    rfl
  · have hrow : ∀ s ∈ inOrder segments, (0 : Rat) ≤ s.start ∧ s.stop ≤ d := fun s hs =>
      have hmem := (inOrder_perm segments).subset hs
      ⟨not_lt.1 (h.low s hmem), not_lt.1 (h.high s hmem)⟩
    rw [max_eq_right hd, kept_eq_keptFrom, ← removed_perm (inOrder_perm segments), ← sub_zero d]
    simpa using span_keptFrom h.inOrder_behind hd hrow

/-! ## The cut -/

/-- **A cut keeps exactly what is not removed.** Take removals that are not empty, lie in the video and do not meet, in any
order. With doubles and a finite duration, a time from zero on and before the duration is in a window exactly if no removal
holds it, and every other order of the removals gives the same windows. In exact arithmetic the windows are together as
long as the video less the removals, which is then the running duration; of a video below zero nothing is left, and it is
zero. -/
theorem kept_complement :
    (∀ (d : Binary64) (segments : List (Segment Binary64)), d.isFinite = true → DisjointWithin d segments →
      (∀ t : ℝ, 0 ≤ t → ¬ Reached d t →
        ((∃ w ∈ kept segments (some d), w.Holds t) ↔ ∀ s ∈ segments, ¬ s.Holds t)) ∧
      ∀ others : List (Segment Binary64), others.Perm segments → kept others (some d) = kept segments (some d)) ∧
    ∀ (d : Rat) (segments : List (Segment Rat)), DisjointWithin d segments →
      totalLength (kept segments (some d)) = some (max 0 d - removed segments) ∧
      ∀ (setup : Setup Rat) (p : Progress Rat), p.fault = none → p.state.duration = some d →
        (Progress.step setup p (.cut segments)).state.duration = some (max 0 d - removed segments) := by
  refine ⟨fun d segments hd h => ⟨fun t ht hend => ?_, fun others hperm => ?_⟩, fun d segments h => ⟨?_, ?_⟩⟩
  · refine h.holds_iff (Binary64.isComparable_of_isFinite Binary64.isFinite_zero) (Binary64.isComparable_of_isFinite hd)
      ?_ hend
    rwa [Binary64.reached_zero]
  · rw [kept_eq_keptFrom, kept_eq_keptFrom, h.inOrder_eq hperm]
  · rw [totalLength_of_closed fun w hw => kept_closed hw, Exact.sum_eq, ← h.span_kept]
    rfl
  · intro setup p hp hduration
    rw [Progress.state_step hp, ← h.span_kept]
    show Command.cutDuration segments p.state.duration = _
    rw [hduration, Command.cutDuration_eq]

/-- removals in reverse that touch each other, the beginning and the end leave the one stretch between them -/
theorem kept_complement_touching :
    let sec : Int → Binary64 := fun n => ofRat n
    let segments : List (Segment Binary64) := [⟨sec 50, sec 100⟩, ⟨sec 20, sec 30⟩, ⟨sec 0, sec 20⟩]
    let exact : List (Segment Rat) := [⟨50, 100⟩, ⟨20, 30⟩, ⟨0, 20⟩]
    (DisjointWithin (sec 100) segments ∧ kept segments (some (sec 100)) = [⟨sec 30, some (sec 50)⟩] ∧
      ∀ t : ℝ, 0 ≤ t → ¬ Reached (sec 100) t →
        ((∃ w ∈ kept segments (some (sec 100)), w.Holds t) ↔ ∀ s ∈ segments, ¬ s.Holds t)) ∧
      DisjointWithin 100 exact ∧ totalLength (kept exact (some 100)) = some (max 0 100 - removed exact) := by
  intro sec segments exact
  have h : DisjointWithin (sec 100) segments :=
    .of_behind (by decide +kernel) (by decide +kernel) (by decide +kernel) (by decide +kernel)
  have hexact : DisjointWithin 100 exact :=
    .of_behind (by decide +kernel) (by decide +kernel) (by decide +kernel) (by decide +kernel)
  exact ⟨⟨h, by decide +kernel, (kept_complement.1 (sec 100) segments (by decide +kernel) h).1⟩, hexact,
    (kept_complement.2 100 exact hexact).1⟩

/-- **Below zero nothing is left, not less than nothing.** A video of 10 seconds that is sped up with strength 3 is said to
be -5 seconds long; a cut that removes nothing of it then makes it zero, where -5 less nothing is -5. -/
theorem kept_below_zero :
    let planner := Planner.fresh (⟨"in.mp4", "/w", "ffmpeg", "captions.srt", -30⟩ : Setup Rat)
    let after := fun cs => (planner.plan (some { duration := some 10 }) cs).planner.state.duration
    after [.effect "speed_up" 3 []] = some (-5) ∧ DisjointWithin (-5 : Rat) [] ∧
      after [.effect "speed_up" 3 [], .cut []] = some 0 ∧ (0 : Rat) ≠ -5 - removed [] := by
  intro planner after
  exact ⟨by decide +kernel, .of_behind (by simp) (by simp) (by simp) List.Pairwise.nil, by decide +kernel,
    by decide +kernel⟩

end Footage

end EditPlan
