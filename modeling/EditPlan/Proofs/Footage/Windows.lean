import Mathlib.Tactic
import EditPlan.Footage
import EditPlan.Binary64.Text
import EditPlan.Number.Exact

/-!
What a cut keeps, whatever its removals: their order, and the shape of the windows between them.

Nothing is assumed of the removals, which may overlap, be inverted or lie outside the video, and nothing of the numbers
but that their order is transitive where rows are sorted.

Main statements:
- `inOrder_perm`, `inOrder_sorted`: removals are visited once each, and none starts before one visited earlier;
- `kept_closed`: with a known duration every window has an end, and it ends after it starts.
-/

namespace EditPlan.Footage

open Number

variable {ν : Type} [Number ν]

/-! ## Order of the removals -/

theorem place_perm (row : List (Segment ν)) (s : Segment ν) : (place row s).Perm (s :: row) := by
  unfold place
  refine List.perm_middle.trans ?_
  rw [List.takeWhile_append_dropWhile]

theorem foldl_place_perm (segments row : List (Segment ν)) : (segments.foldl place row).Perm (segments ++ row) := by
  induction segments generalizing row with
  | nil => exact List.Perm.refl _
  | cons s rest ih =>
    rw [List.foldl_cons]
    exact (ih _).trans ((List.Perm.append_left rest (place_perm row s)).trans List.perm_middle)

theorem inOrder_perm (segments : List (Segment ν)) : (inOrder segments).Perm segments := by
  unfold inOrder
  split_ifs
  · simpa using foldl_place_perm segments []
  · exact MergeSort.sort_perm _ _

/-- a row in which no removal starts before one on its left -/
def Sorted (row : List (Segment ν)) : Prop := row.Pairwise fun a b => ¬ b.start < a.start

section Sorted

variable [IsStrictOrder ν (· < ·)]

theorem place_sorted {row : List (Segment ν)} (h : Sorted row)
    (s : Segment ν) : Sorted (place row s) := by
  induction row with
  | nil => simp [place, Sorted]
  | cons t rest ih =>
    obtain ⟨ht, hrest⟩ := List.pairwise_cons.1 h
    by_cases hst : s.start < t.start
    · -- the new removal goes in front of all others
      have hplace : place (t :: rest) s = s :: t :: rest := by simp [place, startsBefore, hst]
      rw [hplace]
      refine List.pairwise_cons.2 ⟨fun u hu hus => ?_, h⟩
      have hut : u.start < t.start := trans_of (· < ·) hus hst
      rcases List.mem_cons.1 hu with heq | hu
      · rw [heq] at hut
        exact irrefl_of (· < ·) _ hut
      · exact ht u hu hut
    · have hplace : place (t :: rest) s = t :: place rest s := by simp [place, startsBefore, hst]
      rw [hplace]
      refine List.pairwise_cons.2 ⟨fun u hu => ?_, ih hrest⟩
      rcases List.mem_cons.1 ((place_perm rest s).subset hu) with rfl | hu
      · exact hst
      · exact ht u hu

theorem foldl_place_sorted (segments : List (Segment ν))
    {row : List (Segment ν)} (h : Sorted row) : Sorted (segments.foldl place row) := by
  induction segments generalizing row with
  | nil => exact h
  | cons s rest ih => exact ih (place_sorted h s)

/-- removals that compare with each other are visited in the order of their starts -/
theorem inOrder_sorted {segments : List (Segment ν)}
    (h : ∀ s ∈ segments, isComparable s.start = true) : Sorted (inOrder segments) := by
  unfold inOrder
  rw [if_pos (List.all_eq_true.2 h)]
  exact foldl_place_sorted segments List.Pairwise.nil

end Sorted

/-! ## Windows -/

/-- a window with an end after its start -/
def Window.Closed (w : Window ν) : Prop := ∃ e, w.stop = some e ∧ w.start < e

theorem between_cons (cursor : ν) (s : Segment ν) (rest : List (Segment ν)) :
    (between cursor (s :: rest)).1 =
      (if cursor < s.start then [⟨cursor, some s.start⟩] else []) ++ (between s.stop rest).1 := by
  simp only [between]
  split_ifs <;> rfl

theorem ending_of_lt {cursor d : ν} (h : cursor < d) : ending cursor (some d) = [⟨cursor, some d⟩] := if_pos h

theorem ending_of_not_lt {cursor d : ν} (h : ¬ cursor < d) : ending cursor (some d) = [] := if_neg h

theorem between_closed {cursor : ν} {segments : List (Segment ν)} {w : Window ν}
    (hw : w ∈ (between cursor segments).1) : w.Closed := by
  induction segments generalizing cursor with
  | nil => simp [between] at hw
  | cons s rest ih =>
    rw [between_cons] at hw
    rcases List.mem_append.1 hw with hw | hw
    · split_ifs at hw with hlt
      · rw [List.mem_singleton] at hw
        subst hw
        exact ⟨s.start, rfl, hlt⟩
      · simp at hw
    · exact ih hw

theorem ending_closed {cursor d : ν} {w : Window ν} (hw : w ∈ ending cursor (some d)) : w.Closed := by
  by_cases hlt : cursor < d
  · rw [ending_of_lt hlt, List.mem_singleton] at hw
    subst hw
    exact ⟨d, rfl, hlt⟩
  · rw [ending_of_not_lt hlt] at hw
    exact absurd hw List.not_mem_nil

/-- **With a known duration every window is closed**: it was kept because it ends after it starts -/
theorem kept_closed {segments : List (Segment ν)} {d : ν} {w : Window ν} (hw : w ∈ kept segments (some d)) :
    w.Closed := by
  rcases List.mem_append.1 hw with hw | hw
  · exact between_closed hw
  · exact ending_closed hw

/-- length of a window; nothing for an open one -/
def Window.span (w : Window ν) : ν :=
  match w.stop with
  | some e => e - w.start
  | none => zero

theorem length?_of_closed {w : Window ν} (h : w.Closed) : w.length? = some w.span := by
  obtain ⟨e, he, -⟩ := h
  simp [Window.length?, Window.span, he]

theorem totalLength_of_closed {windows : List (Window ν)} (h : ∀ w ∈ windows, w.Closed) :
    totalLength windows = some (sum (windows.map Window.span)) := by
  have hall : windows.mapM Window.length? = some (windows.map Window.span) := by
    induction windows with
    | nil => rfl
    | cons w rest ih =>
      have hrest := ih fun v hv => h v (List.mem_cons_of_mem w hv)
      simp [length?_of_closed (h w List.mem_cons_self), hrest]
  rw [totalLength, hall, Option.map_some]

/-- a window without an end has no length, so a row with such a window has none -/
theorem totalLength_of_open {windows : List (Window ν)} {w : Window ν} (hw : w ∈ windows)
    (hopen : w.stop = none) : totalLength windows = none := by
  have hnone : windows.mapM Window.length? = none := by
    induction windows with
    | nil => exact absurd hw List.not_mem_nil
    | cons v rest ih =>
      rcases List.mem_cons.1 hw with rfl | hw
      · simp [Window.length?, hopen]
      · simp [ih hw]
  rw [totalLength, hnone, Option.map_none]

end EditPlan.Footage
