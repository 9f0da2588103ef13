import EditPlan.MergeSort.Search

/-!
Joining two neighbouring runs into one. What is in place already at both ends stays; of the rest the shorter run is held
and the two are merged from the end where the held run lies, element by element until one side wins several times in a
row, and then by searching for the end of a winning streak. An element of the first run goes before an equal one of the
second.
Main statement: `joined_perm` (nothing is lost and nothing added).
-/

namespace EditPlan.MergeSort

variable {α : Type}

/-- wins in a row from which searching for the end of a streak pays -/
def usualStreak : Nat := 7

/-- two runs that are being merged, both from their near ends on, and what is merged so far in reverse -/
structure Merge (α : Type) where
  held : List α
  other : List α
  merged : List α

namespace Merge

/-- whether the rest is settled: the last element of the held run goes behind all of the other run -/
def isSettled (m : Merge α) : Bool := m.other.isEmpty || m.held.length ≤ 1

/-- both runs as one -/
def result (m : Merge α) : List α := m.merged.reverse ++ m.other ++ m.held

/-- the first `n` elements of the held run are merged -/
def takeHeld (m : Merge α) (n : Nat) : Merge α :=
  { m with held := m.held.drop n, merged := (m.held.take n).reverse ++ m.merged }

/-- the first `n` elements of the other run are merged -/
def takeOther (m : Merge α) (n : Nat) : Merge α :=
  { m with other := m.other.drop n, merged := (m.other.take n).reverse ++ m.merged }

/-- elements that are not merged yet -/
def left (m : Merge α) : Nat := m.held.length + m.other.length

/-- element by element, until one run has won `enough` times in a row; the other run wins where `first other held` -/
def alternate (first : α → α → Bool) (enough heldWins otherWins : Nat) (m : Merge α) : Merge α :=
  match _hh : m.held, _ho : m.other with
  | h :: _, o :: _ =>
    if m.isSettled || enough ≤ heldWins || enough ≤ otherWins then m
    else if first o h then alternate first enough 0 (otherWins + 1) (m.takeOther 1)
    else alternate first enough (heldWins + 1) 0 (m.takeHeld 1)
  | _, _ => m
  termination_by m.left
  decreasing_by
    · simp only [left, takeOther, _hh, _ho, List.drop_one, List.tail_cons, List.length_cons]; omega
    · simp only [left, takeHeld, _hh, _ho, List.drop_one, List.tail_cons, List.length_cons]; omega

/-- a streak of the held run at once, and then the element of the other run that ends it; the length of the streak -/
def heldStreak (first : α → α → Bool) (lean : Nat) (m : Merge α) : Merge α × Nat :=
  match m.other with
  | [] => (m, 0)
  | o :: _ =>
    if m.isSettled then (m, 0)
    else
      let n := leading (fun h => !first o h) lean m.held
      let taken := m.takeHeld n
      (if taken.isSettled then taken else taken.takeOther 1, n)

/-- a streak of the other run at once, and then the element of the held run that ends it; the length of the streak -/
def otherStreak (first : α → α → Bool) (lean : Nat) (m : Merge α) : Merge α × Nat :=
  match m.held with
  | [] => (m, 0)
  | h :: _ =>
    if m.isSettled then (m, 0)
    else
      let n := leading (fun o => first o h) lean m.other
      let taken := m.takeOther n
      (if taken.isSettled then taken else taken.takeHeld 1, n)

/-- both streaks, the held run's first if `heldFirst`; whether one of them was long -/
def streaks (first : α → α → Bool) (lean : Nat) (heldFirst : Bool) (m : Merge α) : Merge α × Bool :=
  let one := if heldFirst then heldStreak first lean m else otherStreak first lean m
  let two := if heldFirst then otherStreak first lean one.1 else heldStreak first lean one.1
  (two.1, usualStreak ≤ one.2 || usualStreak ≤ two.2)

theorem left_takeHeld_le (m : Merge α) (n : Nat) : (m.takeHeld n).left ≤ m.left := by
  simp only [left, takeHeld, List.length_drop]
  omega

theorem left_takeOther_le (m : Merge α) (n : Nat) : (m.takeOther n).left ≤ m.left := by
  simp only [left, takeOther, List.length_drop]
  omega

theorem left_heldStreak_le (first : α → α → Bool) (lean : Nat) (m : Merge α) :
    (heldStreak first lean m).1.left ≤ m.left := by
  unfold heldStreak
  split
  · exact Nat.le_refl _
  · split
    · exact Nat.le_refl _
    · simp only
      split
      · exact left_takeHeld_le ..
      · exact Nat.le_trans (left_takeOther_le ..) (left_takeHeld_le ..)

theorem left_otherStreak_le (first : α → α → Bool) (lean : Nat) (m : Merge α) :
    (otherStreak first lean m).1.left ≤ m.left := by
  unfold otherStreak
  split
  · exact Nat.le_refl _
  · split
    · exact Nat.le_refl _
    · simp only
      split
      · exact left_takeOther_le ..
      · exact Nat.le_trans (left_takeHeld_le ..) (left_takeOther_le ..)

theorem left_heldStreak_lt {first : α → α → Bool} {lean : Nat} {m : Merge α} (h : ¬ m.isSettled) :
    (heldStreak first lean m).1.left < m.left := by
  simp only [isSettled, Bool.or_eq_true, List.isEmpty_iff, decide_eq_true_eq, not_or] at h
  unfold heldStreak
  split
  · simp_all
  · rename_i o os ho
    rw [if_neg (by simp [isSettled, h])]
    simp only
    split
    · rename_i hs
      simp only [isSettled, takeHeld, Bool.or_eq_true, List.isEmpty_iff, List.length_drop, decide_eq_true_eq] at hs
      simp only [left, takeHeld, List.length_drop]
      rcases hs with hs | hs
      · exact absurd hs h.1
      · omega
    · refine Nat.lt_of_lt_of_le ?_ (left_takeHeld_le m (leading (fun h => !first o h) lean m.held))
      simp only [left, takeOther, takeHeld, ho, List.length_drop, List.length_cons]
      omega

theorem left_otherStreak_lt {first : α → α → Bool} {lean : Nat} {m : Merge α} (h : ¬ m.isSettled) :
    (otherStreak first lean m).1.left < m.left := by
  simp only [isSettled, Bool.or_eq_true, List.isEmpty_iff, decide_eq_true_eq, not_or] at h
  have hpos := List.length_pos_iff.mpr h.1
  unfold otherStreak
  split
  · rename_i hn
    simp [hn] at h
  · rename_i x xs hx
    rw [if_neg (by simp [isSettled, h])]
    simp only
    split
    · rename_i hs
      simp only [isSettled, takeOther, Bool.or_eq_true, List.isEmpty_iff, List.drop_eq_nil_iff] at hs
      simp only [left, takeOther, List.length_drop]
      rcases hs with hs | hs
      · omega
      · exact absurd (of_decide_eq_true hs) h.2
    · refine Nat.lt_of_lt_of_le ?_ (left_takeOther_le m (leading (fun o => first o x) lean m.other))
      simp only [left, takeOther, takeHeld, hx, List.length_drop, List.length_cons]
      omega

theorem left_streaks_lt {first : α → α → Bool} {lean : Nat} {heldFirst : Bool} {m : Merge α} (h : ¬ m.isSettled) :
    (streaks first lean heldFirst m).1.left < m.left := by
  unfold streaks
  cases heldFirst
  · exact Nat.lt_of_le_of_lt (left_heldStreak_le ..) (left_otherStreak_lt h)
  · exact Nat.lt_of_le_of_lt (left_otherStreak_le ..) (left_heldStreak_lt h)

/-- streaks as long as they are long, each round making the next search come sooner; leaving makes it come later -/
def search (first : α → α → Bool) (lean : Nat) (heldFirst : Bool) (patience : Nat) (m : Merge α) : Merge α × Nat :=
  if h : m.isSettled then (m, patience)
  else
    let next := streaks first lean heldFirst m
    let patience := max 1 (patience - 1)
    if next.1.isSettled then (next.1, patience)
    else if next.2 then search first lean heldFirst patience next.1
    else (next.1, patience + 1)
  termination_by m.left
  decreasing_by exact left_streaks_lt h

theorem left_alternate_le (first : α → α → Bool) (enough heldWins otherWins : Nat) (m : Merge α) :
    (alternate first enough heldWins otherWins m).left ≤ m.left := by
  fun_induction alternate first enough heldWins otherWins m with
  | case1 => exact Nat.le_refl _
  | case2 => rename_i ih; exact Nat.le_trans ih (left_takeOther_le ..)
  | case3 => rename_i ih; exact Nat.le_trans ih (left_takeHeld_le ..)
  | case4 => exact Nat.le_refl _

theorem left_search_lt {first : α → α → Bool} {lean : Nat} {heldFirst : Bool} {patience : Nat} {m : Merge α}
    (h : ¬ m.isSettled) : (search first lean heldFirst patience m).1.left < m.left := by
  fun_induction search first lean heldFirst patience m with
  | case1 _ _ hs => exact absurd hs h
  | case2 _ _ hs => exact left_streaks_lt hs
  | case3 _ _ hs _ _ hn _ ih => exact Nat.lt_trans (ih hn) (left_streaks_lt hs)
  | case4 _ _ hs => exact left_streaks_lt hs

/-- the whole merge, and the patience it leaves behind -/
def run (first : α → α → Bool) (lean : Nat) (heldFirst : Bool) (patience : Nat) (m : Merge α) : Merge α × Nat :=
  let next := alternate first patience 0 0 m
  if h : next.isSettled then (next, patience)
  else
    let after := search first lean heldFirst (patience + 1) next
    if after.1.isSettled then after else run first lean heldFirst after.2 after.1
  termination_by m.left
  decreasing_by exact Nat.lt_of_lt_of_le (left_search_lt h) (left_alternate_le ..)

/-! ## Nothing is lost -/

/-- all elements, merged or not -/
def elements (m : Merge α) : List α := m.merged ++ (m.held ++ m.other)

theorem result_perm (m : Merge α) : m.result.Perm m.elements := by
  simp only [result, elements, List.append_assoc]
  exact (List.reverse_perm _).append List.perm_append_comm

theorem takeHeld_perm (m : Merge α) (n : Nat) : (m.takeHeld n).elements.Perm m.elements := by
  simp only [elements, takeHeld]
  calc ((m.held.take n).reverse ++ m.merged ++ (m.held.drop n ++ m.other)).Perm
        (m.merged ++ m.held.take n ++ (m.held.drop n ++ m.other)) :=
          (((List.reverse_perm _).append_right _).trans List.perm_append_comm).append_right _
    _ = m.merged ++ (m.held ++ m.other) := by
          rw [List.append_assoc, ← List.append_assoc (m.held.take n), List.take_append_drop]

theorem takeOther_perm (m : Merge α) (n : Nat) : (m.takeOther n).elements.Perm m.elements := by
  simp only [elements, takeOther]
  calc ((m.other.take n).reverse ++ m.merged ++ (m.held ++ m.other.drop n)).Perm
        (m.merged ++ m.other.take n ++ (m.other.drop n ++ m.held)) :=
          (((List.reverse_perm _).append_right _).trans List.perm_append_comm).append List.perm_append_comm
    _ = m.merged ++ (m.other ++ m.held) := by
          rw [List.append_assoc, ← List.append_assoc (m.other.take n), List.take_append_drop]
    List.Perm _ (m.merged ++ (m.held ++ m.other)) := List.perm_append_comm.append_left _

theorem alternate_perm (first : α → α → Bool) (enough heldWins otherWins : Nat) (m : Merge α) :
    (alternate first enough heldWins otherWins m).elements.Perm m.elements := by
  fun_induction alternate first enough heldWins otherWins m with
  | case1 => exact .refl _
  | case2 => rename_i ih; exact ih.trans (takeOther_perm ..)
  | case3 => rename_i ih; exact ih.trans (takeHeld_perm ..)
  | case4 => exact .refl _

theorem heldStreak_perm (first : α → α → Bool) (lean : Nat) (m : Merge α) :
    (heldStreak first lean m).1.elements.Perm m.elements := by
  unfold heldStreak
  split
  · exact .refl _
  · split
    · exact .refl _
    · simp only
      split
      · exact takeHeld_perm ..
      · exact (takeOther_perm ..).trans (takeHeld_perm ..)

theorem otherStreak_perm (first : α → α → Bool) (lean : Nat) (m : Merge α) :
    (otherStreak first lean m).1.elements.Perm m.elements := by
  unfold otherStreak
  split
  · exact .refl _
  · split
    · exact .refl _
    · simp only
      split
      · exact takeOther_perm ..
      · exact (takeHeld_perm ..).trans (takeOther_perm ..)

theorem streaks_perm (first : α → α → Bool) (lean : Nat) (heldFirst : Bool) (m : Merge α) :
    (streaks first lean heldFirst m).1.elements.Perm m.elements := by
  unfold streaks
  cases heldFirst
  · exact (heldStreak_perm ..).trans (otherStreak_perm ..)
  · exact (otherStreak_perm ..).trans (heldStreak_perm ..)

theorem search_perm (first : α → α → Bool) (lean : Nat) (heldFirst : Bool) (patience : Nat) (m : Merge α) :
    (search first lean heldFirst patience m).1.elements.Perm m.elements := by
  fun_induction search first lean heldFirst patience m with
  | case1 => exact .refl _
  | case2 => exact streaks_perm ..
  | case3 => rename_i ih; exact ih.trans (streaks_perm ..)
  | case4 => exact streaks_perm ..

theorem run_perm (first : α → α → Bool) (lean : Nat) (heldFirst : Bool) (patience : Nat) (m : Merge α) :
    (run first lean heldFirst patience m).1.elements.Perm m.elements := by
  fun_induction run first lean heldFirst patience m with
  | case1 => exact alternate_perm ..
  | case2 => exact (search_perm ..).trans (alternate_perm ..)
  | case3 => rename_i ih; exact ih.trans ((search_perm ..).trans (alternate_perm ..))

end Merge

/-- two runs as one run, the first of which has to go behind the front of the second: merged from the front if the first
is not longer, and otherwise from the end; the patience that is left -/
def merged (before : α → α → Bool) (patience : Nat) (first second : List α) : List α × Nat :=
  if first.length ≤ second.length then
    let after := Merge.run before 0 true patience ((Merge.mk first second []).takeOther 1)
    (after.1.result, after.2)
  else
    let after := Merge.run (fun o h => before h o) 1 false patience
      ((Merge.mk second.reverse first.reverse []).takeOther 1)
    (after.1.result.reverse, after.2)

theorem merged_perm (before : α → α → Bool) (patience : Nat) (first second : List α) :
    (merged before patience first second).1.Perm (first ++ second) := by
  unfold merged
  split
  · simp only
    refine (Merge.result_perm _).trans ((Merge.run_perm ..).trans ((Merge.takeOther_perm ..).trans ?_))
    exact .refl _
  · simp only
    refine (List.reverse_perm _).trans
      ((Merge.result_perm _).trans ((Merge.run_perm ..).trans ((Merge.takeOther_perm ..).trans ?_)))
    exact ((List.reverse_perm _).append (List.reverse_perm _)).trans List.perm_append_comm

/-- number of elements at the front of the first run that are in place already -/
def readyFront (before : α → α → Bool) (xs : List α) : List α → Nat
  | [] => xs.length
  | y :: _ => leading (fun x => !before y x) 0 xs

/-- number of elements at the end of the second run that are in place already, the first run ending with `last` -/
def readyBack (before : α → α → Bool) (last : Option α) (ys : List α) : Nat :=
  match last with
  | none => ys.length
  | some x => leading (fun y => !before y x) 1 ys.reverse

/-- two neighbouring runs as one run, and the patience that is left -/
def joined (before : α → α → Bool) (patience : Nat) (xs ys : List α) : List α × Nat :=
  let front := readyFront before xs ys
  let back := ys.length - readyBack before (xs.drop front).getLast? ys
  if (xs.drop front).isEmpty || (ys.take back).isEmpty then (xs ++ ys, patience)
  else
    let middle := merged before patience (xs.drop front) (ys.take back)
    (xs.take front ++ middle.1 ++ ys.drop back, middle.2)

theorem joined_perm (before : α → α → Bool) (patience : Nat) (xs ys : List α) :
    (joined before patience xs ys).1.Perm (xs ++ ys) := by
  unfold joined
  simp only
  generalize readyFront before xs ys = front
  generalize ys.length - readyBack before (xs.drop front).getLast? ys = back
  split
  · exact .refl _
  · calc (xs.take front ++ (merged before patience (xs.drop front) (ys.take back)).1 ++ ys.drop back).Perm
          (xs.take front ++ (xs.drop front ++ ys.take back) ++ ys.drop back) :=
            ((merged_perm ..).append_left _).append_right _
      _ = xs ++ ys := by
            rw [← List.append_assoc (xs.take front), List.take_append_drop, List.append_assoc, List.take_append_drop]

end EditPlan.MergeSort
