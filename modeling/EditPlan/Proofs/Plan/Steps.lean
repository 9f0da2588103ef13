import Mathlib.Tactic
import EditPlan.Plan.Planner
import EditPlan.Number.Exact
import EditPlan.Proofs.Footage.Windows
import EditPlan.Proofs.Plan.Operations

/-!
What one command does to a run, said once: it stops the run, is passed over, or adds one operation; in all three cases the
state moves on as `advance` says. From this, what a whole list does.

Main statements:
- `step_error`, `step_none`, `step_some`: the three cases;
- `run_take_succ`: the run of one command more;
- `state_run`: the state that a run leaves, also where it stops half-way;
- `inv_run`: what every command keeps of the state, a run keeps, also where it stops half-way;
- `fault_run`: if each command has a fault of its own or none, a run stops with the first there is;
- `plan_eq_ok`, `plan_eq_error`, `planner_plan`: what a plan takes from its run;
- `Command.cutDuration_of_known`, `Command.cutDuration_of_unknown`: the duration behind a cut.
-/

namespace EditPlan

attribute [ext] State

/-- state behind commands, whatever their operations are -/
def State.behind {ν : Type} [Number ν] (s : State ν) (cs : List (Command ν)) : State ν :=
  cs.foldl (fun t c => c.advance t) s

/-! ## What a cut leaves -/

namespace Command

variable {ν : Type} [Number ν]

/-- what a cut leaves of a known duration is the length of all its windows together -/
theorem cutDuration_of_known (segments : List (Segment ν)) (d : ν) :
    cutDuration segments (some d) = some (Number.sum ((Footage.kept segments (some d)).map Footage.Window.span)) := by
  have htotal := Footage.totalLength_of_closed fun w (hw : w ∈ Footage.kept segments (some d)) => Footage.kept_closed hw
  unfold cutDuration
  cases hkept : Footage.kept segments (some d) with
  | nil => rfl
  | cons w rest =>
    rw [hkept] at htotal
    exact htotal

/-- behind the last removal of an unknown duration there is a window without an end -/
theorem cutDuration_of_unknown (segments : List (Segment ν)) : cutDuration segments none = none := by
  have hopen : ∃ w ∈ Footage.kept segments none, w.stop = none :=
    ⟨_, List.mem_append_right _ (List.mem_singleton_self _), rfl⟩
  obtain ⟨w, hw, hstop⟩ := hopen
  unfold cutDuration
  cases hkept : Footage.kept segments none with
  | nil => exact absurd hw (by simp [hkept])
  | cons v rest =>
    rw [hkept] at hw
    exact Footage.totalLength_of_open hw hstop

end Command

namespace Progress

variable {ν : Type} [Number ν] {setup : Setup ν} {p : Progress ν} {c : Command ν}

/-! ## One command -/

theorem step_stopped (h : p.fault.isSome) : step setup p c = p := if_pos h

theorem step_error {e : Fault} (h : p.fault = none) (hb : c.build setup p.state p.current = .error e) :
    step setup p c = { p with state := c.advance p.state, events := p.events ++ eventsOf c, fault := some e } := by
  simp [step, h, hb]

theorem step_none (h : p.fault = none) (hb : c.build setup p.state p.current = .ok none) :
    step setup p c = { p with state := c.advance p.state, events := p.events ++ eventsOf c } := by
  simp [step, h, hb]

theorem step_some {op : Operation ν} (h : p.fault = none) (hb : c.build setup p.state p.current = .ok (some op)) :
    step setup p c = { p with
      state := c.advance p.state, events := p.events ++ eventsOf c, current := op.output,
      operations := p.operations ++ [op] } := by
  simp [step, h, hb]

/-- the state moves on also where the operation cannot be made -/
theorem state_step (h : p.fault = none) : (step setup p c).state = c.advance p.state := by
  rcases hb : c.build setup p.state p.current with e | (_ | op)
  · rw [step_error h hb]
  · rw [step_none h hb]
  · rw [step_some h hb]

/-- a command stops the run exactly if its operation cannot be made -/
theorem fault_step (h : p.fault = none) : (step setup p c).fault = faultOf? (c.build setup p.state p.current) := by
  rcases hb : c.build setup p.state p.current with e | (_ | op)
  · rw [step_error h hb]
    rfl
  · rw [step_none h hb]
    exact h
  · rw [step_some h hb]
    exact h

theorem fault_step_error {e : Fault} (h : p.fault = none) (hb : c.build setup p.state p.current = .error e) :
    (step setup p c).fault = some e := by
  rw [fault_step h, hb]
  rfl

theorem fault_step_ok {r : Option (Operation ν)} (h : p.fault = none)
    (hb : c.build setup p.state p.current = .ok r) : (step setup p c).fault = none := by
  rw [fault_step h, hb]
  rfl

theorem hasAudio_step : (step setup p c).state.hasAudio = p.state.hasAudio := by
  cases hfault : p.fault with
  | some e => rw [step_stopped (by rw [hfault]; rfl)]
  | none => rw [state_step hfault]; rfl

/-! ## A list of commands -/

theorem run_cons (cs : List (Command ν)) : run setup p (c :: cs) = run setup (step setup p c) cs := rfl

theorem run_stopped (h : p.fault.isSome) (cs : List (Command ν)) : run setup p cs = p := by
  induction cs with
  | nil => rfl
  | cons d cs ih => rw [run_cons, step_stopped h, ih]

theorem hasAudio_run (cs : List (Command ν)) : (run setup p cs).state.hasAudio = p.state.hasAudio := by
  induction cs generalizing p with
  | nil => rfl
  | cons c cs ih => rw [run_cons, ih, hasAudio_step]

theorem run_take_succ {cs : List (Command ν)} {n : ℕ} (h : cs[n]? = some c) :
    run setup p (cs.take (n + 1)) = step setup (run setup p (cs.take n)) c := by
  rw [List.take_add_one, h, Option.toList_some, run_append]
  rfl

theorem run_take_of_none {cs : List (Command ν)} {n : ℕ} (h : cs[n]? = none) :
    run setup p (cs.take (n + 1)) = run setup p (cs.take n) := by
  rw [List.take_add_one, h, Option.toList_none, List.append_nil]

/-- **What a run leaves.** A run without a fault leaves the state behind all its commands; one with a fault leaves the state
behind the command that has no operation, which has moved on nevertheless. -/
theorem state_run {p : Progress ν} (h : p.fault = none) (cs : List (Command ν)) :
    (run setup p cs).fault = none ∧ (run setup p cs).state = p.state.behind cs ∨
    ∃ e front c back input, (run setup p cs).fault = some e ∧ cs = front ++ c :: back ∧
      c.build setup (p.state.behind front) input = .error e ∧
      (run setup p cs).state = c.advance (p.state.behind front) := by
  induction cs generalizing p with
  | nil => exact Or.inl ⟨h, rfl⟩
  | cons c cs ih =>
    have hstate : (step setup p c).state = c.advance p.state := state_step h
    rw [run_cons]
    cases hb : c.build setup p.state p.current with
    | error e =>
      have hstop : (step setup p c).fault = some e := fault_step_error h hb
      rw [run_stopped (by rw [hstop]; rfl)]
      exact Or.inr ⟨e, [], c, cs, p.current, hstop, rfl, hb, hstate⟩
    | ok r =>
      have hgoes : (step setup p c).fault = none := fault_step_ok h hb
      rcases ih hgoes with ⟨hnone, hall⟩ | ⟨e, front, d, back, input, hstop, hsplit, hbuild, hlast⟩
      · rw [hstate] at hall
        exact Or.inl ⟨hnone, hall⟩
      · rw [hstate] at hbuild hlast
        exact Or.inr ⟨e, c :: front, d, back, input, hstop, by rw [hsplit]; rfl, hbuild, hlast⟩

/-- **What every command keeps of a state, a run keeps**, also where it stops -/
theorem inv_run {inv : State ν → Prop} {cs : List (Command ν)} (hmove : ∀ c ∈ cs, ∀ s, inv s → inv (c.advance s))
    (hp : inv p.state) : inv (run setup p cs).state := by
  induction cs generalizing p with
  | nil => exact hp
  | cons c cs ih =>
    rw [run_cons]
    refine ih (fun d hd => hmove d (List.mem_cons_of_mem c hd)) ?_
    cases hfault : p.fault with
    | some e => rwa [step_stopped (by rw [hfault]; rfl)]
    | none =>
      rw [state_step hfault]
      exact hmove c List.mem_cons_self p.state hp

/-- **Where a run stops.** Let each command have a fault of its own or none, the same in all states of which the invariant
holds, and let every command keep the invariant. Then a run stops with the first fault there is. -/
theorem fault_run (inv : State ν → Prop) {fault? : Command ν → Option Fault} {cs : List (Command ν)}
    (hmove : ∀ c ∈ cs, ∀ s, inv s → inv (c.advance s))
    (hbuild : ∀ c ∈ cs, ∀ s input, inv s → faultOf? (c.build setup s input) = fault? c) (h : p.fault = none)
    (hp : inv p.state) : (run setup p cs).fault = cs.findSome? fault? := by
  induction cs generalizing p with
  | nil => exact h
  | cons c cs ih =>
    have hc : (step setup p c).fault = fault? c := by
      rw [fault_step h, hbuild c List.mem_cons_self p.state p.current hp]
    rw [run_cons, List.findSome?_cons]
    cases hfault : fault? c with
    | some e =>
      rw [hfault] at hc
      rw [run_stopped (by rw [hc]; rfl), hc]
    | none =>
      rw [hfault] at hc
      refine ih (fun d hd => hmove d (List.mem_cons_of_mem c hd)) (fun d hd => hbuild d (List.mem_cons_of_mem c hd)) hc ?_
      rw [state_step h]
      exact hmove c List.mem_cons_self p.state hp

/-! ## The result of a run -/

omit [Number ν] in
theorem result_eq_ok {plan : Plan ν} : p.result = .ok plan ↔ p.fault = none ∧ ⟨p.operations, p.current⟩ = plan := by
  unfold result
  cases p.fault <;> simp

omit [Number ν] in
theorem result_eq_error {e : Fault} : p.result = .error e ↔ p.fault = some e := by
  unfold result
  cases p.fault <;> simp

end Progress

section Plans

variable {ν : Type} [Number ν] (planner : Planner ν) (context : Option (VideoContext ν)) (cs : List (Command ν))

/-- the run that makes a plan -/
def Planner.progress : Progress ν := Progress.run planner.setup (Progress.start planner.setup.source context) cs

theorem result_plan : (planner.plan context cs).result = (planner.progress context cs).result := rfl

theorem planner_plan : (planner.plan context cs).planner = ⟨planner.setup, (planner.progress context cs).state⟩ := rfl

variable {planner context cs}

/-- behind a plan that was made stands the state behind all its commands -/
theorem state_of_plan {plan : Plan ν} (h : (planner.plan context cs).result = .ok plan) :
    (planner.plan context cs).planner.state = (Progress.start planner.setup.source context).state.behind cs := by
  rcases @Progress.state_run _ _ planner.setup (Progress.start planner.setup.source context) rfl cs with
    ⟨-, hstate⟩ | ⟨e, -, -, -, -, hstop, -⟩
  · exact hstate
  · rw [result_plan, Progress.result_eq_ok] at h
    exact absurd (h.1.symm.trans hstop) (by simp)

theorem plan_eq_ok {plan : Plan ν} : (planner.plan context cs).result = .ok plan ↔
    (planner.progress context cs).fault = none ∧
      ⟨(planner.progress context cs).operations, (planner.progress context cs).current⟩ = plan := by
  rw [result_plan, Progress.result_eq_ok]

theorem plan_eq_error {e : Fault} :
    (planner.plan context cs).result = .error e ↔ (planner.progress context cs).fault = some e := by
  rw [result_plan, Progress.result_eq_error]

end Plans

end EditPlan
