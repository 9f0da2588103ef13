import EditPlan.Proofs.Binary64.SixPlaces
import EditPlan.Proofs.Filter.Frames
import EditPlan.Proofs.Plan.Operations

/-!
The frames that a thumbnail command picks. Its filter is read back as an expression and worked out on every frame of a row
that goes up: a frame is kept exactly if it is the first at or after one of the times, each taken as it is printed. Times may
come in any order and more than once; where one frame is the first for several of them it is kept once, and no more frames
are kept than the command writes.

Main statements:
- `selected?_thumbnailFilter`: the filter is read back;
- `counts_times`: where its expression counts;
- `thumbnails_first_frames`: the frames that are kept.
Witness:
- `thumbnails_first_frames_unsorted`: times out of order, one of them twice and one behind the last frame.
-/

namespace EditPlan

open Number EditPlan.Filter

/-- the time that is read where a time is printed -/
def printed? (x : Binary64) : Option Binary64 := Numeral.plain? (sixPlaces x).toList

theorem printed?_isSome {x : Binary64} (hx : x.isFinite = true) : (printed? x).isSome := by
  obtain ⟨l, hl, htext⟩ := Binary64.sixPlaces_literal hx
  have hread : printed? x = some (Binary64.ofDecimal l.negative l.decimal) := by
    rw [printed?, ← Literal.plain?_text hl, ← htext]
    rfl
  rw [hread]
  rfl

/-- in a row of frames the one at `t` is the first at or after a time as it is printed, if `front` stands before it -/
def IsFirstAt (x : Binary64) (front : List Binary64) (t : Binary64) : Prop :=
  ∃ y, printed? x = some y ∧ y ≤ t ∧ ∀ p ∈ front.getLast?, p < y

/-! ## The filter is read back -/

def timeTerm (x : Binary64) : Expr := Expr.firstAt (sixPlaces x)

theorem isProper_timeTerm {x : Binary64} (hx : x.isFinite = true) : (timeTerm x).IsProper := by
  have hliteral := Binary64.sixPlaces_literal hx
  exact ⟨⟨trivial, hliteral⟩, ⟨trivial, ⟨trivial, hliteral⟩, rfl⟩, rfl⟩

theorem isProper_sum {α : Type} {xs : List α} {term : α → Expr} {first : Expr} (hfirst : first.IsProper)
    (hrest : ∀ x ∈ xs, (term x).IsProper ∧ (term x).isSum = false) : (Expr.sum first (xs.map term)).IsProper := by
  induction xs generalizing first with
  | nil => exact hfirst
  | cons x xs ih =>
    obtain ⟨⟨hx, hsum⟩, hxs⟩ := List.forall_mem_cons.1 hrest
    exact ih ⟨hfirst, hx, hsum⟩ hxs

/-- **The filter of finite times is read back** as the sum of their terms -/
theorem selected?_thumbnailFilter {x : Binary64} {xs : List Binary64} (h : ∀ z ∈ x :: xs, z.isFinite = true) :
    selected? (Build.thumbnailFilter (x :: xs)) = some (Expr.sum (timeTerm x) (xs.map timeTerm)) := by
  obtain ⟨hx, hxs⟩ := List.forall_mem_cons.1 h
  have hproper : (Expr.sum (timeTerm x) (xs.map timeTerm)).IsProper :=
    isProper_sum (isProper_timeTerm hx) fun z hz => ⟨isProper_timeTerm (hxs z hz), rfl⟩
  have hread := selected?_text hproper "scale=1920:-1" (by decide)
  rw [String.append_assoc] at hread
  exact hread

/-! ## Where it counts -/

/-- **The expression of times counts** on a frame at or after one of them, if there is no frame before that or it is before
the time -/
theorem counts_times {x : Binary64} {xs : List Binary64} (h : ∀ z ∈ x :: xs, z.isFinite = true) (t previous : Binary64) :
    (Expr.sum (timeTerm x) (xs.map timeTerm)).Counts t previous
      (∃ z ∈ x :: xs, ∃ y, printed? z = some y ∧ y ≤ t ∧ Ahead previous y) := by
  have hterm : ∀ z ∈ x :: xs, (timeTerm z).Counts t previous (∃ y, printed? z = some y ∧ y ≤ t ∧ Ahead previous y) := by
    intro z hz
    obtain ⟨y, hy⟩ := Option.isSome_iff_exists.1 (printed?_isSome (h z hz))
    refine (Expr.counts_firstAt hy t previous).congr ⟨fun hfirst => ⟨y, hy, hfirst⟩, ?_⟩
    rintro ⟨y', hy', hfirst⟩
    rwa [Option.some.inj (hy.symm.trans hy')]
  obtain ⟨hx, hxs⟩ := List.forall_mem_cons.1 hterm
  exact (hx.sum hxs).congr (by rw [List.exists_mem_cons_iff])

/-- between frames that go up, a time is ahead of the frame before exactly if that is before the time -/
theorem ahead_getLast_iff {front back : List Binary64} {t : Binary64} (hup : (front ++ t :: back).Pairwise (· < ·))
    (y : Binary64) : Ahead (front.getLast?.getD .nan) y ↔ ∀ p ∈ front.getLast?, p < y := by
  cases hlast : front.getLast? with
  | none => exact iff_of_true (.inl rfl) (by simp)
  | some p =>
    have hp : p < t := (List.pairwise_append.1 hup).2.2 p (List.mem_of_mem_getLast? hlast) t List.mem_cons_self
    have hne := Binary64.ne_nan_of_lt_left hp
    simp [Ahead, hne]

/-! ## Thumbnails -/

/-- **Thumbnails are the first frames at or after their times.** A thumbnail command with finite times, given or worked out,
is planned; its filter is read as an expression, which has a value on every frame of a row that goes up. The value is not zero
exactly on the frames that are the first at or after a time as it is printed, and no more frames are kept than are asked for,
which is the number of the times. -/
theorem thumbnails_first_frames (setup : Setup Binary64) (s : State Binary64) {count : ℤ}
    {timestamps : Option (List Binary64)} {times : List Binary64}
    (htimes : Build.thumbnailTimes s (max 1 count) timestamps = .ok times) (hne : times ≠ [])
    (hfinite : ∀ x ∈ times, x.isFinite = true) (input style : String) :
    ∃ op filter e, (Command.thumbnail count style timestamps).build setup s input = .ok (some op) ∧
      op.detail = .thumbnail times.length style times ∧
      op.invocation.outputOptions = ["-vsync", "vfr", "-frames:v", toString (times.length : ℤ)] ∧
      op.invocation.videoFilter = some filter ∧ selected? filter = some e ∧
      ∀ frames : List Binary64, frames.Pairwise (· < ·) →
        (∀ front t back, frames = front ++ t :: back → ∃ v, e.value? t (front.getLast?.getD .nan) = some v ∧
          (isZero v = false ↔ ∃ x ∈ times, IsFirstAt x front t)) ∧
        (e.picked .nan frames).length ≤ times.length := by
  obtain ⟨op, hbuild, hdetail, hfilter, hoptions⟩ := Build.thumbnail_of_times setup input style htimes hne
  cases times with
  | nil => exact absurd rfl hne
  | cons x xs =>
    refine ⟨op, _, _, hbuild, hdetail, hoptions, hfilter, selected?_thumbnailFilter hfinite, fun frames hup => ⟨?_, ?_⟩⟩
    · rintro front t back rfl
      obtain ⟨v, hv, -, hzero⟩ := counts_times hfinite t (front.getLast?.getD .nan)
      refine ⟨v, hv, hzero.trans ?_⟩
      simp only [IsFirstAt, ahead_getLast_iff hup]
    · have hkeeps : ∀ t previous, (Expr.sum (timeTerm x) (xs.map timeTerm)).keeps t previous = true ↔
          ∃ y ∈ (x :: xs).filterMap printed?, y ≤ t ∧ Ahead previous y := by
        intro t previous
        rw [(counts_times hfinite t previous).keeps_iff]
        simp only [List.mem_filterMap]
        constructor
        · rintro ⟨z, hz, y, hy, hfirst⟩
          exact ⟨y, ⟨z, hz, hy⟩, hfirst⟩
        · rintro ⟨y, ⟨z, hz, hy⟩, hfirst⟩
          exact ⟨z, hz, y, hy, hfirst⟩
      exact (length_picked_le hkeeps (fun _ _ => .inl rfl) hup).trans
        ((List.length_filter_le _ _).trans (List.length_filterMap_le _ _))

/-- five times out of order, one of them given twice and one behind the last frame: two frames are kept, the first of them
for three times at once -/
theorem thumbnails_first_frames_unsorted :
    let sec : ℚ → Binary64 := fun q => ofRat q
    let setup : Setup Binary64 := ⟨"in.mp4", "/w", "ffmpeg", "captions.srt", sec (-40)⟩
    let s : State Binary64 := ⟨0, none, true⟩
    let times := [sec (7 / 2), sec 30, sec (3 / 2), sec (3 / 2), sec (5 / 4)]
    let frames := [sec 0, sec 1, sec 2, sec 3, sec 4, sec 5]
    Build.thumbnailTimes s (max 1 3) (some times) = .ok times ∧ times ≠ [] ∧ (∀ x ∈ times, x.isFinite = true) ∧
      frames.Pairwise (· < ·) ∧
      ∃ op filter e, (Command.thumbnail 3 "auto" (some times)).build setup s "in.mp4" = .ok (some op) ∧
        op.invocation.videoFilter = some filter ∧ selected? filter = some e ∧
        (e.picked .nan frames).length ≤ times.length ∧ e.picked .nan frames = [sec 2, sec 4] := by
  intro sec setup s times frames
  have htimes : Build.thumbnailTimes s (max 1 3) (some times) = .ok times := rfl
  have hne : times ≠ [] := List.cons_ne_nil _ _
  have hfinite : ∀ x ∈ times, x.isFinite = true := by decide +kernel
  have hup : frames.Pairwise (· < ·) := by decide +kernel
  obtain ⟨op, filter, e, hbuild, -, -, hfilter, hread, hframes⟩ :=
    thumbnails_first_frames setup s htimes hne hfinite "in.mp4" "auto"
  obtain ⟨op', hbuild', -, hfilter', -⟩ := Build.thumbnail_of_times setup "in.mp4" "auto" htimes hne
  obtain rfl : op = op' := Option.some.inj (Except.ok.inj (hbuild.symm.trans hbuild'))
  obtain rfl : filter = Build.thumbnailFilter times := Option.some.inj (hfilter.symm.trans hfilter')
  obtain rfl := Option.some.inj (hread.symm.trans (selected?_thumbnailFilter hfinite))
  exact ⟨htimes, hne, hfinite, hup, op, _, _, hbuild, hfilter, hread, (hframes frames hup).2, by decide +kernel⟩

end EditPlan
