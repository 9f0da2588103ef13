import EditPlan.MergeSort.Join

/-!
Sorting by runs: a row is cut into runs, short ones are lengthened by insertion, and neighbouring runs are joined in an
order that keeps their lengths balanced. Each border between two runs has a power, the depth in the halving of the whole
row at which the middles of the two runs part; deeper borders are joined first.
Main statement: `sort_perm` (the sorted row has the elements of the row).
-/

namespace EditPlan.MergeSort

variable {α : Type}

/-- number of elements from which a row is halved before the shortest run is chosen -/
def fewElements : Nat := 64

/-- length of the shortest run in a row of `n` elements, rounded up if `odd` or a halving left a remainder -/
def shortestRun (odd n : Nat) : Nat :=
  if n < fewElements then n + odd else shortestRun (max odd (n % 2)) (n / 2)
  termination_by n
  decreasing_by simp only [fewElements] at *; omega

/-- first binary place in which the fractions `a / 2n` and `b / 2n` differ, among the first `places` -/
def partingPlace (n a b : Nat) : (places : Nat) → Nat
  | 0 => 1
  | places + 1 => if a / n = b / n then 1 + partingPlace n (2 * (a % n)) (2 * (b % n)) places else 1

/-- a run that waits for its neighbour -/
structure Pending (α : Type) where
  start : Nat
  row : List α
  /-- power of the border behind the run -/
  power : Nat

/-- the middle of a run, doubled -/
def Pending.middle (p : Pending α) : Nat := 2 * p.start + p.row.length

/-- runs that wait, the last one first, and the patience of the merges -/
structure Stack (α : Type) where
  runs : List (Pending α)
  patience : Nat

/-- all elements of the runs that wait -/
def Stack.elements (s : Stack α) : List α := s.runs.flatMap Pending.row

/-- two neighbouring runs joined -/
def Pending.join (before : α → α → Bool) (patience : Nat) (first second : Pending α) : Pending α × Nat :=
  let j := joined before patience first.row second.row
  (⟨first.start, j.1, first.power⟩, j.2)

/-- runs behind whose last border a deeper one lies, joined -/
def joinDeeper (before : α → α → Bool) (power patience : Nat) : List (Pending α) → Stack α
  | last :: below :: rest =>
    if power < below.power then
      let j := Pending.join before patience below last
      joinDeeper before power j.2 (j.1 :: rest)
    else ⟨last :: below :: rest, patience⟩
  | runs => ⟨runs, patience⟩
  termination_by runs => runs.length

/-- one more run, in a row of `total` elements -/
def Stack.push (before : α → α → Bool) (total : Nat) (s : Stack α) (row : List α) : Stack α :=
  match s.runs with
  | [] => { s with runs := [⟨0, row, 0⟩] }
  | last :: _ =>
    let new : Pending α := ⟨last.start + last.row.length, row, 0⟩
    let power := partingPlace total last.middle new.middle total
    let s := joinDeeper before power s.patience s.runs
    match s.runs with
    | [] => { s with runs := [new] }
    | last :: rest => { s with runs := new :: { last with power := power } :: rest }

/-- the runs that wait as one row -/
def joinAll (before : α → α → Bool) (patience : Nat) : List (Pending α) → List α
  | [] => []
  | [p] => p.row
  | [last, below] => (joined before patience below.row last.row).1
  | last :: below :: third :: rest =>
    if third.row.length < last.row.length then
      let j := Pending.join before patience third below
      joinAll before j.2 (last :: j.1 :: rest)
    else
      let j := Pending.join before patience below last
      joinAll before j.2 (j.1 :: third :: rest)
  termination_by runs => runs.length

/-- the run at the front, lengthened to `least` elements where it is shorter, and what follows it -/
def nextRun (before : α → α → Bool) (least : Nat) (xs : List α) : List α × List α :=
  let (run, rest) := frontRun before xs
  ((rest.take (least - run.length)).foldl (insert before) run, rest.drop (least - run.length))

theorem length_nextRun_lt (before : α → α → Bool) (least : Nat) {xs : List α} (h : xs ≠ []) :
    (nextRun before least xs).2.length < xs.length := by
  have hlen := (frontRun_perm before xs).length_eq
  have hpos := length_frontRun_pos before h
  simp only [nextRun, List.length_append, List.length_drop] at *
  omega

/-- all runs of a row on top of those that wait -/
def collect (before : α → α → Bool) (total : Nat) (s : Stack α) (xs : List α) : Stack α :=
  if _h : xs = [] then s
  else
    let next := nextRun before (shortestRun 0 total) xs
    collect before total (s.push before total next.1) next.2
  termination_by xs.length
  decreasing_by exact length_nextRun_lt before _ _h

/-- row in order; where elements compare with each other, equal ones stay as they were -/
def sort (before : α → α → Bool) (xs : List α) : List α :=
  let s := collect before xs.length ⟨[], usualStreak⟩ xs
  joinAll before s.patience s.runs

/-! ## Nothing is lost -/

theorem join_perm (before : α → α → Bool) (patience : Nat) (first second : Pending α) :
    (Pending.join before patience first second).1.row.Perm (first.row ++ second.row) := joined_perm ..

theorem joinDeeper_perm (before : α → α → Bool) (power patience : Nat) (runs : List (Pending α)) :
    (joinDeeper before power patience runs).elements.Perm (runs.flatMap Pending.row) := by
  fun_induction joinDeeper before power patience runs with
  | case1 patience last below rest _ j ih =>
    refine ih.trans ?_
    simp only [List.flatMap_cons]
    exact (((join_perm ..).trans List.perm_append_comm).append_right _).trans (.of_eq (List.append_assoc ..))
  | case2 => exact .refl _
  | case3 => exact .refl _

theorem push_perm (before : α → α → Bool) (total : Nat) (s : Stack α) (row : List α) :
    (s.push before total row).elements.Perm (row ++ s.elements) := by
  unfold Stack.push
  split
  · rename_i h
    simp [Stack.elements, h]
  · rename_i last rest h
    simp only
    have hp := joinDeeper_perm before
      (partingPlace total last.middle (Pending.middle ⟨last.start + last.row.length, row, 0⟩) total) s.patience s.runs
    split
    · rename_i h'
      have hs : (s.runs.flatMap Pending.row).length = 0 := by
        rw [← hp.length_eq]; simp [Stack.elements, h']
      simp [Stack.elements, List.length_eq_zero_iff.mp hs]
    · rename_i top others h'
      rw [Stack.elements, h'] at hp
      simp only [Stack.elements, List.flatMap_cons] at hp ⊢
      exact hp.append_left _

theorem joinAll_perm (before : α → α → Bool) (patience : Nat) (runs : List (Pending α)) :
    (joinAll before patience runs).Perm (runs.flatMap Pending.row) := by
  fun_induction joinAll before patience runs with
  | case1 => exact .refl _
  | case2 => simp
  | case3 => simpa using (joined_perm ..).trans List.perm_append_comm
  | case4 patience last below third rest _ j ih =>
    refine ih.trans ?_
    simp only [List.flatMap_cons]
    refine List.Perm.append_left _ ?_
    exact (((join_perm ..).trans List.perm_append_comm).append_right _).trans (.of_eq (List.append_assoc ..))
  | case5 patience last below third rest _ j ih =>
    refine ih.trans ?_
    simp only [List.flatMap_cons]
    exact (((join_perm ..).trans List.perm_append_comm).append_right _).trans (.of_eq (List.append_assoc ..))

theorem foldl_insert_perm (before : α → α → Bool) (row xs : List α) :
    (xs.foldl (insert before) row).Perm (row ++ xs) := by
  induction xs generalizing row with
  | nil => simp
  | cons x xs ih =>
    exact (ih _).trans (((insert_perm ..).append_right _).trans List.perm_middle.symm)

theorem nextRun_perm (before : α → α → Bool) (least : Nat) (xs : List α) :
    ((nextRun before least xs).1 ++ (nextRun before least xs).2).Perm xs := by
  simp only [nextRun]
  refine ((foldl_insert_perm ..).append_right _).trans ?_
  rw [List.append_assoc, List.take_append_drop]
  exact frontRun_perm before xs

theorem collect_perm (before : α → α → Bool) (total : Nat) (s : Stack α) (xs : List α) :
    (collect before total s xs).elements.Perm (s.elements ++ xs) := by
  fun_induction collect before total s xs with
  | case1 => simp
  | case2 s xs _ next ih =>
    refine ih.trans (((push_perm ..).append_right _).trans ?_)
    refine (List.perm_append_comm.append_right _).trans ?_
    rw [List.append_assoc]
    exact (nextRun_perm ..).append_left _

theorem sort_perm (before : α → α → Bool) (xs : List α) : (sort before xs).Perm xs :=
  (joinAll_perm ..).trans ((collect_perm ..).trans (by simp [Stack.elements]))

end EditPlan.MergeSort
