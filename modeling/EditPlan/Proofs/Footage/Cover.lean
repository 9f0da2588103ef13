import EditPlan.Proofs.Footage.Windows
import EditPlan.Proofs.Number.Line

/-!
Which times a cut keeps. A window and a segment hold the times from their start on that are before their end; an open
window holds all from its start on. Removals may overlap, lie in each other or outside the video: the cursor then moves
back, but no window starts before the start of the removal behind which it stands, and this keeps the windows apart.

Main statements:
- `keptFrom_pairwise`: behind removals in order, each window is over before the next one begins;
- `exists_holds`: a time that no removal holds is in a window, in whatever order the removals are;
- `kept_covers`: no time that is not cut is lost or repeated.
Witness:
- `kept_covers_nested`: removals that overlap, touch, lie in each other and before the beginning.
-/

namespace EditPlan

open Number OnLine

variable {ν : Type} [Number ν] [OnLine ν]

/-- a time in a segment: at its start or after it, and before its end -/
def Segment.Holds (s : Segment ν) (t : ℝ) : Prop := Reached s.start t ∧ ¬ Reached s.stop t

/-- a segment whose bounds compare with other times -/
structure Segment.Comparable {ν : Type} [Number ν] (s : Segment ν) : Prop where
  start : isComparable s.start = true
  stop : isComparable s.stop = true

/-- a segment that does not end before it starts -/
structure Segment.Proper {ν : Type} [Number ν] (s : Segment ν) : Prop extends s.Comparable where
  le : ¬ s.stop < s.start

namespace Footage

/-- a time in a window: at its start or after it, and before its end if it has one -/
def Window.Holds (w : Window ν) (t : ℝ) : Prop := Reached w.start t ∧ ∀ e ∈ w.stop, ¬ Reached e t

/-- a window that is over before the other begins -/
def Window.Before (v w : Window ν) : Prop := ∀ t u, v.Holds t → w.Holds u → t < u

variable {cursor : ν} {s : Segment ν} {row segments : List (Segment ν)} {duration : Option ν} {w : Window ν}
  {windows : List (Window ν)} {t : ℝ}

/-! ## Windows behind a cursor -/

section Rows

variable {ν : Type} [Number ν] {cursor : ν} {s : Segment ν} {row : List (Segment ν)} {duration : Option ν}
  {w : Window ν}

/-- windows that are kept from a cursor on, the one after the last removal included -/
def keptFrom (cursor : ν) (row : List (Segment ν)) (duration : Option ν) : List (Window ν) :=
  (between cursor row).1 ++ ending (between cursor row).2 duration

theorem kept_eq_keptFrom (segments : List (Segment ν)) (duration : Option ν) :
    kept segments duration = keptFrom zero (inOrder segments) duration := rfl

theorem keptFrom_cons (cursor : ν) (s : Segment ν) (row : List (Segment ν)) (duration : Option ν) :
    keptFrom cursor (s :: row) duration =
      (if cursor < s.start then [⟨cursor, some s.start⟩] else []) ++ keptFrom s.stop row duration := by
  rw [keptFrom, between_cons, List.append_assoc]
  rfl

/-- behind the last removal there is one window or none -/
theorem ending_cases (cursor : ν) (duration : Option ν) :
    ending cursor duration = [] ∨ ending cursor duration = [⟨cursor, duration⟩] := by
  cases duration with
  | none => exact Or.inr rfl
  | some d =>
    by_cases hlt : cursor < d
    · exact Or.inr (ending_of_lt hlt)
    · exact Or.inl (ending_of_not_lt hlt)

theorem eq_of_mem_ending (h : w ∈ ending cursor duration) : w = ⟨cursor, duration⟩ := by
  rcases ending_cases cursor duration with hending | hending
  · rw [hending] at h
    exact absurd h List.not_mem_nil
  · rw [hending] at h
    exact List.mem_singleton.1 h

/-- a window starts at the cursor or where a removal ends, and ends at the duration or where a removal starts -/
theorem bounds_of_mem (h : w ∈ keptFrom cursor row duration) :
    (w.start = cursor ∨ ∃ s ∈ row, w.start = s.stop) ∧ (w.stop = duration ∨ ∃ s ∈ row, w.stop = some s.start) := by
  induction row generalizing cursor with
  | nil =>
    rw [eq_of_mem_ending h]
    exact ⟨Or.inl rfl, Or.inl rfl⟩
  | cons s row ih =>
    rw [keptFrom_cons] at h
    rcases List.mem_append.1 h with h | h
    · split_ifs at h
      · rw [List.mem_singleton.1 h]
        exact ⟨Or.inl rfl, Or.inr ⟨s, List.mem_cons_self, rfl⟩⟩
      · exact absurd h List.not_mem_nil
    · obtain ⟨hstart, hstop⟩ := ih h
      refine ⟨Or.inr ?_, ?_⟩
      · rcases hstart with hstart | ⟨r, hr, hstart⟩
        · exact ⟨s, List.mem_cons_self, hstart⟩
        · exact ⟨r, List.mem_cons_of_mem s hr, hstart⟩
      · exact hstop.imp_right fun ⟨r, hr, hstop⟩ => ⟨r, List.mem_cons_of_mem s hr, hstop⟩

theorem closed_of_mem_dropLast (h : w ∈ (keptFrom cursor row duration).dropLast) : w.Closed := by
  rcases ending_cases (between cursor row).2 duration with hending | hending
  · rw [keptFrom, hending, List.append_nil] at h
    exact between_closed (List.mem_of_mem_dropLast h)
  · rw [keptFrom, hending, List.dropLast_concat] at h
    exact between_closed h

/-- a window that is not closed is the one after the last removal, and the duration is unknown -/
theorem closed_or_open (h : w ∈ keptFrom cursor row duration) : w.Closed ∨ w.stop = none := by
  rcases List.mem_append.1 h with h | h
  · exact Or.inl (between_closed h)
  · cases duration with
    | none => exact Or.inr (congrArg Window.stop (eq_of_mem_ending h))
    | some d => exact Or.inl (ending_closed h)

end Rows

/-! ## Order -/

/-- windows start at a place or later, if the cursor and all removals do -/
theorem reached_of_mem {x : ν} (hx : isComparable x = true) (hcursor : Reached cursor t → Reached x t)
    (hrow : ∀ r ∈ row, r.Proper ∧ ¬ r.start < x) (hw : w ∈ keptFrom cursor row duration) (ht : Reached w.start t) :
    Reached x t := by
  rcases (bounds_of_mem hw).1 with hstart | ⟨r, hr, hstart⟩
  · rw [hstart] at ht
    exact hcursor ht
  · rw [hstart] at ht
    obtain ⟨hr, hlater⟩ := hrow r hr
    exact reached_of_not_lt hx hr.start hlater (reached_of_not_lt hr.start hr.stop hr.le ht)

/-- **Behind removals in order, each window is over before the next one begins** -/
theorem keptFrom_pairwise (hsorted : Sorted row) (hproper : ∀ r ∈ row, r.Proper) (cursor : ν) (duration : Option ν) :
    (keptFrom cursor row duration).Pairwise Window.Before := by
  induction row generalizing cursor with
  | nil =>
    show (ending cursor duration).Pairwise Window.Before
    rcases ending_cases cursor duration with hending | hending
    · rw [hending]
      exact List.Pairwise.nil
    · rw [hending]
      exact List.pairwise_singleton _ _
  | cons s row ih =>
    obtain ⟨hlater, hsorted⟩ := List.pairwise_cons.1 hsorted
    obtain ⟨hs, hproper⟩ := List.forall_mem_cons.1 hproper
    rw [keptFrom_cons]
    have hrest := ih hsorted hproper s.stop
    split_ifs
    · -- the cursor may move back, but not before the start of `s`, and there the window in front is over
      refine List.pairwise_cons.2 ⟨fun w hw t u ht hu => lt_of_not_reached (ht.2 s.start rfl) ?_, hrest⟩
      exact reached_of_mem hs.start (reached_of_not_lt hs.start hs.stop hs.le)
        (fun r hr => ⟨hproper r hr, hlater r hr⟩) hw hu.1
    · exact hrest

/-- of windows one after the other, at most one holds a time -/
theorem holds_once (h : windows.Pairwise Window.Before) (hw : w ∈ windows) (ht : w.Holds t) :
    ∃ front back, windows = front ++ w :: back ∧ ∀ v ∈ front ++ back, ¬ v.Holds t := by
  obtain ⟨front, back, rfl⟩ := List.append_of_mem hw
  obtain ⟨-, hback, hfront⟩ := List.pairwise_append.1 h
  refine ⟨front, back, rfl, fun v hv hvt => ?_⟩
  rcases List.mem_append.1 hv with hv | hv
  · exact absurd (hfront v hv w List.mem_cons_self t t hvt ht) (lt_irrefl t)
  · exact absurd ((List.pairwise_cons.1 hback).1 v hv t t ht hvt) (lt_irrefl t)

/-! ## Cover -/

/-- **A time that no removal holds is in a window**, if it has come to the cursor and not to the end -/
theorem exists_holds (hcursor : isComparable cursor = true) (hrow : ∀ s ∈ row, s.Comparable) (ht : Reached cursor t)
    (hend : ∀ d ∈ duration, isComparable d = true ∧ ¬ Reached d t) (huncut : ∀ s ∈ row, ¬ s.Holds t) :
    ∃ w ∈ keptFrom cursor row duration, w.Holds t := by
  induction row generalizing cursor with
  | nil =>
    refine ⟨⟨cursor, duration⟩, ?_, ht, fun d hd => (hend d hd).2⟩
    cases duration with
    | none => exact List.mem_singleton_self _
    | some d =>
      have hlt : cursor < d := lt_of_reached hcursor (hend d rfl).1 ht (hend d rfl).2
      show _ ∈ ending cursor (some d)
      rw [ending_of_lt hlt]
      exact List.mem_singleton_self _
  | cons s row ih =>
    obtain ⟨hs, hrow⟩ := List.forall_mem_cons.1 hrow
    obtain ⟨hnot, huncut⟩ := List.forall_mem_cons.1 huncut
    rw [keptFrom_cons]
    by_cases hstart : Reached s.start t
    · -- the time has come to the removal and is not in it, so it is behind it
      have hstop : Reached s.stop t := by
        by_contra hstop
        exact hnot ⟨hstart, hstop⟩
      obtain ⟨w, hw, hwt⟩ := ih hs.stop hrow hstop huncut
      exact ⟨w, List.mem_append_right _ hw, hwt⟩
    · have hlt : cursor < s.start := lt_of_reached hcursor hs.start ht hstart
      refine ⟨⟨cursor, some s.start⟩, List.mem_append_left _ (by simp [hlt]), ht, ?_⟩
      intro e he
      rwa [← Option.some.inj he]

/-- a window that ends after it starts holds some time -/
theorem exists_of_closed (h : w.Closed) : ∃ t, w.Holds t := by
  obtain ⟨e, he, hlt⟩ := h
  obtain ⟨-, -, t, ht, hnot⟩ := lt_iff.1 hlt
  refine ⟨t, ht, fun e' he' => ?_⟩
  rwa [← Option.some.inj (he.symm.trans he')]

/-! ## Doubles -/

theorem comparable_of_isFinite {s : Segment Binary64} (hstart : s.start.isFinite = true)
    (hstop : s.stop.isFinite = true) : s.Comparable :=
  ⟨Binary64.isComparable_of_isFinite hstart, Binary64.isComparable_of_isFinite hstop⟩

theorem isFinite_start {cursor : Binary64} {row : List (Segment Binary64)} {duration : Option Binary64}
    {w : Window Binary64} (hcursor : cursor.isFinite = true) (hrow : ∀ s ∈ row, s.stop.isFinite = true)
    (hw : w ∈ keptFrom cursor row duration) : w.start.isFinite = true := by
  rcases (bounds_of_mem hw).1 with hstart | ⟨s, hs, hstart⟩
  · rw [hstart]
    exact hcursor
  · rw [hstart]
    exact hrow s hs

/-- **No time that is not cut is lost or repeated.** Take removals with finite bounds that do not end before they start,
in any order and however they lie, and a duration that is not NaN, or none. Each window that is kept holds some time; each
is over before the next one begins; a time from zero on and before the duration that no removal holds is in one window and
in no other; and only the last window can be open. -/
theorem kept_covers (segments : List (Segment Binary64)) (duration : Option Binary64)
    (hfinite : ∀ s ∈ segments, s.start.isFinite = true ∧ s.stop.isFinite = true)
    (hordered : ∀ s ∈ segments, ¬ s.stop < s.start) (hduration : duration ≠ some .nan) :
    let windows := kept segments duration
    (∀ w ∈ windows, ∃ t, w.Holds t) ∧ windows.Pairwise Window.Before ∧
    (∀ t : ℝ, 0 ≤ t → (∀ d ∈ duration, ¬ Reached d t) → (∀ s ∈ segments, ¬ s.Holds t) →
      ∃ front w back, windows = front ++ w :: back ∧ w.Holds t ∧ ∀ v ∈ front ++ back, ¬ v.Holds t) ∧
    ∀ w ∈ windows.dropLast, w.stop ≠ none := by
  intro windows
  have hmem : ∀ s ∈ inOrder segments, s ∈ segments := fun s hs => (inOrder_perm segments).subset hs
  have hproper : ∀ s ∈ inOrder segments, s.Proper := fun s hs =>
    ⟨comparable_of_isFinite (hfinite s (hmem s hs)).1 (hfinite s (hmem s hs)).2, hordered s (hmem s hs)⟩
  have hsorted : Sorted (inOrder segments) := inOrder_sorted fun s hs =>
    Binary64.isComparable_of_isFinite (hfinite s hs).1
  have hpairwise : windows.Pairwise Window.Before := keptFrom_pairwise hsorted hproper zero duration
  refine ⟨fun w hw => ?_, hpairwise, fun t ht hend huncut => ?_, fun w hw => ?_⟩
  · rcases closed_or_open hw with hclosed | hopen
    · exact exists_of_closed hclosed
    · have hstart := isFinite_start Binary64.isFinite_zero (fun s hs => (hfinite s (hmem s hs)).2) hw
      obtain ⟨t, ht⟩ := Binary64.exists_reached hstart
      exact ⟨t, ht, fun e he => absurd he (by simp [hopen])⟩
  · have hcomparable : ∀ d ∈ duration, isComparable d = true ∧ ¬ Reached d t := by
      intro d hd
      refine ⟨(Binary64.isComparable_iff d).2 ?_, hend d hd⟩
      rintro rfl
      exact hduration hd
    have hzero : isComparable (zero : Binary64) = true := Binary64.isComparable_of_isFinite Binary64.isFinite_zero
    have hreached : Reached (zero : Binary64) t := by rwa [Binary64.reached_zero]
    obtain ⟨w, hw, hwt⟩ := exists_holds hzero (fun s hs => (hproper s hs).toComparable) hreached hcomparable
      fun s hs => huncut s (hmem s hs)
    obtain ⟨front, back, hsplit, hothers⟩ := holds_once hpairwise hw hwt
    exact ⟨front, w, back, hsplit, hwt, hothers⟩
  · obtain ⟨e, he, -⟩ := closed_of_mem_dropLast hw
    simp [he]

/-- removals that touch, lie in each other and before the beginning: the time from 40 to 50 is cut and yet kept, but none
that is not cut is lost, and the windows stay apart -/
theorem kept_covers_nested :
    let sec : Int → Binary64 := fun n => ofRat n
    let segments : List (Segment Binary64) :=
      [⟨sec 10, sec 50⟩, ⟨sec 30, sec 40⟩, ⟨sec (-5), sec (-1)⟩, ⟨sec 20, sec 30⟩]
    let windows := kept segments (some (sec 100))
    windows = [⟨sec (-1), some (sec 10)⟩, ⟨sec 40, some (sec 100)⟩] ∧
      (∀ s ∈ segments, s.start.isFinite = true ∧ s.stop.isFinite = true) ∧ (∀ s ∈ segments, ¬ s.stop < s.start) ∧
      windows.Pairwise Window.Before ∧ (∀ w ∈ windows.dropLast, w.stop ≠ none) := by
  intro sec segments windows
  have hfinite : ∀ s ∈ segments, s.start.isFinite = true ∧ s.stop.isFinite = true := by decide +kernel
  have hordered : ∀ s ∈ segments, ¬ s.stop < s.start := by decide +kernel
  have hduration : some (sec 100) ≠ some Binary64.nan := by decide +kernel
  obtain ⟨-, hpairwise, -, hclosed⟩ := kept_covers segments (some (sec 100)) hfinite hordered hduration
  exact ⟨by decide +kernel, hfinite, hordered, hpairwise, hclosed⟩

end Footage

end EditPlan
