import EditPlan.Proofs.Plan.Operations
import EditPlan.Proofs.Plan.Steps

/-!
Plans of longer and longer lists. A run does not look back: what it does next depends on the state and the file where it
stands, and it adds to what was done without touching it. So the plan of the front part of a list begins the plan of the
whole, and a front part that cannot be planned stops the whole in the same way.

Main statements:
- `run_andThen`: a run goes on as it would begin;
- `plan_append_of_ok`, `plan_append_of_error`: the plan of a list, by the plan of its front part;
- `plan_prefix`: the front part of a plan, and what the rest of it depends on.
Witness:
- `plan_prefix_trim_cut`: two front parts that leave the same.
-/

namespace EditPlan

open Number

variable {ν : Type} [Number ν]

namespace Progress

variable {setup : Setup ν} {p q : Progress ν}

/-! ## A run goes on as it would begin -/

/-- a run that stands at a state and a file and has done nothing yet -/
def standing (s : State ν) (file : String) : Progress ν := { state := s, current := file }

/-- a run, seen as the continuation of another one -/
def andThen (p q : Progress ν) : Progress ν :=
  { q with operations := p.operations ++ q.operations, events := p.events ++ q.events }

theorem step_andThen (c : Command ν) : step setup (p.andThen q) c = p.andThen (step setup q c) := by
  cases hfault : q.fault with
  | some e =>
    have hstop : q.fault.isSome := by simp [hfault]
    rw [step_stopped hstop]
    exact step_stopped hstop
  | none =>
    have hgoes : (p.andThen q).fault = none := hfault
    rcases hb : c.build setup q.state q.current with e | (_ | op)
    · rw [step_error hfault hb, step_error hgoes hb]
      simp only [andThen, List.append_assoc]
    · rw [step_none hfault hb, step_none hgoes hb]
      simp only [andThen, List.append_assoc]
    · rw [step_some hfault hb, step_some hgoes hb]
      simp only [andThen, List.append_assoc]

/-- **A run goes on as it would begin**: it adds to what was done before -/
theorem run_andThen (cs : List (Command ν)) : run setup (p.andThen q) cs = p.andThen (run setup q cs) := by
  induction cs generalizing q with
  | nil => rfl
  | cons c cs ih => rw [run_cons, run_cons, step_andThen, ih]

omit [Number ν] in
theorem andThen_standing (h : p.fault = none) : p.andThen (standing p.state p.current) = p := by
  simp [andThen, standing, ← h]

end Progress

/-! ## Plans of two parts -/

/-- what a plan adds to one that begins it -/
def Plan.beyond (plan front : Plan ν) : Plan ν := ⟨plan.operations.drop front.operations.length, plan.finalOutput⟩

section Parts

variable {planner : Planner ν} {context : Option (VideoContext ν)} {xs : List (Command ν)} {front : Plan ν} {e : Fault}

theorem progress_append (planner : Planner ν) (context : Option (VideoContext ν)) (xs ys : List (Command ν)) :
    planner.progress context (xs ++ ys) = Progress.run planner.setup (planner.progress context xs) ys :=
  Progress.run_append _ _ xs ys

/-- **A front part that cannot be planned** stops the whole with the same fault, in the same state -/
theorem plan_append_of_error (h : (planner.plan context xs).result = .error e) (ys : List (Command ν)) :
    (planner.plan context (xs ++ ys)).result = .error e ∧
      (planner.plan context (xs ++ ys)).planner = (planner.plan context xs).planner := by
  have hstop : (planner.progress context xs).fault = some e := plan_eq_error.1 h
  have hwhole : planner.progress context (xs ++ ys) = planner.progress context xs := by
    rw [progress_append, Progress.run_stopped (by rw [hstop]; rfl)]
  rw [plan_eq_error, planner_plan, planner_plan, hwhole]
  exact ⟨hstop, rfl⟩

/-- **A front part that is planned** begins the whole; the rest is planned from the state and the file that it leaves -/
theorem plan_append_of_ok (h : (planner.plan context xs).result = .ok front) (ys : List (Command ν)) :
    let rest := Progress.run planner.setup (.standing (planner.plan context xs).planner.state front.finalOutput) ys
    (planner.plan context (xs ++ ys)).result =
        rest.result.map (fun plan => ⟨front.operations ++ plan.operations, plan.finalOutput⟩) ∧
      (planner.plan context (xs ++ ys)).planner = ⟨planner.setup, rest.state⟩ := by
  intro rest
  obtain ⟨hfault, rfl⟩ := plan_eq_ok.1 h
  have hwhole : planner.progress context (xs ++ ys) = (planner.progress context xs).andThen rest := by
    rw [progress_append, ← Progress.run_andThen]
    congr 1
    exact (Progress.andThen_standing hfault).symm
  rw [result_plan, planner_plan, hwhole]
  refine ⟨?_, rfl⟩
  unfold Progress.result Progress.andThen
  cases rest.fault <;> rfl

theorem plan_append_one {c : Command ν} {op : Operation ν} (h : (planner.plan context xs).result = .ok front)
    (hbuild : c.build planner.setup (planner.plan context xs).planner.state front.finalOutput = .ok (some op)) :
    (planner.plan context (xs ++ [c])).result = .ok ⟨front.operations ++ [op], op.output⟩ ∧
      (planner.plan context (xs ++ [c])).planner.state = c.advance (planner.plan context xs).planner.state := by
  have hstep := Progress.step_some
    (p := .standing (planner.plan context xs).planner.state front.finalOutput) rfl hbuild
  obtain ⟨hresult, hplanner⟩ := plan_append_of_ok h [c]
  rw [Progress.run_cons, hstep] at hresult hplanner
  rw [hresult, hplanner]
  exact ⟨rfl, rfl⟩

theorem operations_append {plan : Plan ν} {ys : List (Command ν)} (h : (planner.plan context xs).result = .ok front)
    (hwhole : (planner.plan context (xs ++ ys)).result = .ok plan) :
    ∃ later, plan.operations = front.operations ++ later := by
  obtain ⟨rest, -, rfl⟩ := map_eq_ok.1 ((plan_append_of_ok h ys).1.symm.trans hwhole)
  exact ⟨rest.operations, rfl⟩

theorem beyond_of_ok (h : (planner.plan context xs).result = .ok front) (ys : List (Command ν)) :
    (planner.plan context (xs ++ ys)).result.map (fun plan => plan.beyond front) =
      (Progress.run planner.setup (.standing (planner.plan context xs).planner.state front.finalOutput) ys).result := by
  rw [(plan_append_of_ok h ys).1]
  cases (Progress.run planner.setup (.standing (planner.plan context xs).planner.state front.finalOutput) ys).result with
  | error e => rfl
  | ok plan => simp [Except.map, Plan.beyond]

end Parts

/-- **Plans are made from the front.** If a list has a plan, so has every front part, and its operations begin those of the
list. What the list adds to them depends on the front part only through the file, the counter and the duration that it
leaves: another front part that leaves the same is followed by the same operations or the same fault, to the same state. A
front part that has no plan gives the whole list its fault and its state. -/
theorem plan_prefix (planner : Planner ν) (context : Option (VideoContext ν)) (xs ys : List (Command ν)) :
    let left := planner.plan context xs
    let whole := planner.plan context (xs ++ ys)
    (∀ plan, whole.result = .ok plan → ∃ front, left.result = .ok front ∧ front.operations <+: plan.operations) ∧
    (∀ e, left.result = .error e → whole.result = .error e ∧ whole.planner = left.planner) ∧
    ∀ front, left.result = .ok front → ∀ others other, (planner.plan context others).result = .ok other →
      let otherLeft := planner.plan context others
      let otherWhole := planner.plan context (others ++ ys)
      other.finalOutput = front.finalOutput →
      otherLeft.planner.state.counter = left.planner.state.counter →
      otherLeft.planner.state.duration = left.planner.state.duration →
      otherWhole.result.map (fun plan => plan.beyond other) = whole.result.map (fun plan => plan.beyond front) ∧
        otherWhole.planner = whole.planner := by
  intro left whole
  refine ⟨?_, fun e h => plan_append_of_error h ys, ?_⟩
  · intro plan hplan
    cases hleft : left.result with
    | error e => exact absurd (hplan.symm.trans (plan_append_of_error hleft ys).1) (by simp)
    | ok front =>
      refine ⟨front, rfl, ?_⟩
      obtain ⟨rest, -, rfl⟩ := map_eq_ok.1 ((plan_append_of_ok hleft ys).1.symm.trans hplan)
      exact List.prefix_append _ _
  · intro front hfront others other hother otherLeft otherWhole hfile hcounter hduration
    have hsound : otherLeft.planner.state.hasAudio = left.planner.state.hasAudio :=
      (Progress.hasAudio_run others).trans (Progress.hasAudio_run xs).symm
    have hstate : otherLeft.planner.state = left.planner.state := State.ext hcounter hduration hsound
    rw [beyond_of_ok hother ys, beyond_of_ok hfront ys, (plan_append_of_ok hother ys).2, (plan_append_of_ok hfront ys).2,
      hfile, hstate]
    exact ⟨rfl, rfl⟩

/-- a trim, and a cut behind a command that is not understood, leave the same; so the same fade and thumbnails follow -/
theorem plan_prefix_trim_cut :
    let planner := Planner.fresh (⟨"in.mp4", "/w", "ffmpeg", "captions.srt", zero⟩ : Setup Binary64)
    let context : Option (VideoContext Binary64) := some { duration := some (ofRat 10) }
    let xs : List (Command Binary64) := [.trim zero (ofRat 4)]
    let others : List (Command Binary64) := [.unknown "pause" [], .cut [⟨ofRat 4, ofRat 10⟩]]
    let ys : List (Command Binary64) := [.transition "fade" one "end", .thumbnail 3 "auto" none]
    ∃ plan front other, (planner.plan context (xs ++ ys)).result = .ok plan ∧
      (planner.plan context xs).result = .ok front ∧ (planner.plan context others).result = .ok other ∧
      front.operations <+: plan.operations ∧ (plan.beyond front).operations.length = 2 ∧
      (planner.plan context (others ++ ys)).result.map (fun plan => plan.beyond other) = .ok (plan.beyond front) := by
  intro planner context xs others ys
  have hplan : (planner.plan context (xs ++ ys)).result = .ok _ := plan_eq_ok.2 ⟨by decide +kernel, rfl⟩
  have hothers : (planner.plan context others).result = .ok _ := plan_eq_ok.2 ⟨by decide +kernel, rfl⟩
  obtain ⟨hbegins, -, hrest⟩ := plan_prefix planner context xs ys
  obtain ⟨front, hfront, hbegin⟩ := hbegins _ hplan
  have hxs : (planner.plan context xs).result = .ok _ := plan_eq_ok.2 ⟨by decide +kernel, rfl⟩
  obtain rfl := Except.ok.inj (hfront.symm.trans hxs)
  have hsame := (hrest _ hxs others _ hothers (by decide +kernel) (by decide +kernel) (by decide +kernel)).1
  exact ⟨_, _, _, hplan, hxs, hothers, hbegin, by decide +kernel, hsame.trans (by rw [hplan]; rfl)⟩

end EditPlan
