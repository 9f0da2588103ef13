import Mathlib.Tactic
import EditPlan.Proofs.Plan.Files
import EditPlan.Proofs.Plan.Steps

/-!
The chain of a plan. `Makes` says what a run without a fault has done: each understood command, in order, made one
operation out of the state and the file that the one before it left. A command that is not understood leaves no trace
but its report. What is said of plans is read off this relation, one command at a time.

Main statements:
- `makes_of_run`, `makes_of_plan`: a run or a plan without a fault is such a chain;
- `Makes.built`, `Makes.adjacent`: the commands of one operation and of two neighbours, with the states they met;
- `run_filter`: commands that are not understood change no more of a run than its reports;
- `plan_of_makes`: a chain of the understood commands is a plan;
- `plan_isChain`: the shape of every plan, and the same plan without the commands that are not understood.
-/

namespace EditPlan

open Number

variable {ν : Type} [Number ν] {setup : Setup ν} {s s' : State ν} {file file' : String} {c d : Command ν}
  {cs : List (Command ν)} {a b op : Operation ν} {ops : List (Operation ν)}

/-! ## Commands that are understood -/

namespace Command

/-- whether a command is of one of the ten kinds -/
def isUnderstood (c : Command ν) : Bool := c.kind?.isSome

theorem isUnderstood_of_build (h : c.build setup s file = .ok (some op)) : c.isUnderstood = true := by
  rw [isUnderstood, kind_of_build h]
  rfl

theorem not_isUnderstood_of_build (h : c.build setup s file = .ok none) : c.isUnderstood = false := by
  rw [isUnderstood, kind?_of_build_none h]
  rfl

theorem build_of_not_isUnderstood (h : c.isUnderstood = false) : c.build setup s file = .ok none := by
  cases c with
  | unknown tag extras => rfl
  | _ => exact absurd h (by simp [isUnderstood, kind?])

theorem advance_of_not_isUnderstood (h : c.isUnderstood = false) (s : State ν) : c.advance s = s := by
  cases c with
  | unknown tag extras => rfl
  | _ => exact absurd h (by simp [isUnderstood, kind?])

end Command

/-! ## What a run without a fault has done -/

/-- from the state `s` and the file `file` on, commands make operations, one each, and leave the state `s'` and the
file `file'` -/
inductive Makes (setup : Setup ν) :
    State ν → String → List (Command ν) → List (Operation ν) → State ν → String → Prop where
  | nil (s : State ν) (file : String) : Makes setup s file [] [] s file
  | cons {s s' : State ν} {file file' : String} {c : Command ν} {op : Operation ν} {cs : List (Command ν)}
      {ops : List (Operation ν)} : c.build setup s file = .ok (some op) →
      Makes setup (c.advance s) op.output cs ops s' file' → Makes setup s file (c :: cs) (op :: ops) s' file'

namespace Progress

/-- **A run without a fault** goes on from its start by a chain of its understood commands -/
theorem makes_of_run {p : Progress ν} {cs : List (Command ν)} (h : p.fault = none)
    (hrun : (run setup p cs).fault = none) :
    ∃ ops, (run setup p cs).operations = p.operations ++ ops ∧
      Makes setup p.state p.current (cs.filter Command.isUnderstood) ops (run setup p cs).state
        (run setup p cs).current := by
  induction cs generalizing p with
  | nil => exact ⟨[], (List.append_nil _).symm, .nil _ _⟩
  | cons c cs ih =>
    rw [run_cons] at hrun ⊢
    rcases hb : c.build setup p.state p.current with e | (_ | op)
    · have hstop : (step setup p c).fault = some e := fault_step_error h hb
      rw [run_stopped (by rw [hstop]; rfl), hstop] at hrun
      exact absurd hrun (by simp)
    · have hskip := Command.not_isUnderstood_of_build hb
      rw [step_none h hb, Command.advance_of_not_isUnderstood hskip] at hrun ⊢
      rw [List.filter_cons_of_neg (by simp [hskip])]
      exact ih (by exact h) hrun
    · have hunderstood := Command.isUnderstood_of_build hb
      rw [step_some h hb] at hrun ⊢
      obtain ⟨ops, hops, hmakes⟩ := ih (by exact h) hrun
      rw [List.filter_cons_of_pos hunderstood]
      exact ⟨op :: ops, by rw [hops, List.append_assoc]; rfl, .cons hb hmakes⟩

end Progress

/-- **A plan** is the chain of its understood commands from the source on -/
theorem makes_of_plan {planner : Planner ν} {context : Option (VideoContext ν)} {plan : Plan ν}
    (h : (planner.plan context cs).result = .ok plan) :
    Makes planner.setup (Progress.start planner.setup.source context).state planner.setup.source
      (cs.filter Command.isUnderstood) plan.operations (planner.plan context cs).planner.state plan.finalOutput := by
  obtain ⟨hfault, rfl⟩ := plan_eq_ok.1 h
  obtain ⟨ops, hops, hmakes⟩ := Progress.makes_of_run rfl hfault
  obtain rfl : (planner.progress context cs).operations = ops := hops
  exact hmakes

/-! ## One operation of a chain, and two neighbours -/

namespace Makes

theorem length_eq (h : Makes setup s file cs ops s' file') : ops.length = cs.length := by
  induction h with
  | nil => rfl
  | cons _ _ ih => rw [List.length_cons, List.length_cons, ih]

/-- each operation is built from the command of its place, in a state that has sound as at the start -/
theorem built (h : Makes setup s file cs ops s' file') {i : ℕ} (hop : ops[i]? = some op) :
    ∃ c t input, cs[i]? = some c ∧ t.hasAudio = s.hasAudio ∧ c.build setup t input = .ok (some op) := by
  induction h generalizing i with
  | nil => exact absurd hop (by simp)
  | cons hb _ ih =>
    cases i with
    | zero => exact ⟨_, _, _, rfl, rfl, by rw [hb, ← hop]; rfl⟩
    | succ i => exact ih hop

/-- the first operation is built from the first command, in the state and from the file at the start -/
theorem first (h : Makes setup s file cs ops s' file') (hop : ops[0]? = some op) :
    ∃ c, cs[0]? = some c ∧ c.build setup s file = .ok (some op) := by
  cases h with
  | nil => exact absurd hop (by simp)
  | cons hb _ => exact ⟨_, rfl, by rw [hb, ← hop]; rfl⟩

/-- of two neighbours the second is built in the state that the first one's command leaves, from the first one's file -/
theorem adjacent (h : Makes setup s file cs ops s' file') {i : ℕ} (ha : ops[i]? = some a)
    (hb : ops[i + 1]? = some b) : ∃ c d t input, cs[i]? = some c ∧ cs[i + 1]? = some d ∧
      c.build setup t input = .ok (some a) ∧ d.build setup (c.advance t) a.output = .ok (some b) := by
  induction h generalizing i with
  | nil => exact absurd ha (by simp)
  | cons hbuild hrest ih =>
    cases i with
    | zero =>
      obtain ⟨d, hd, hnext⟩ := hrest.first hb
      rw [← Option.some.inj ha]
      exact ⟨_, d, _, _, rfl, hd, hbuild, hnext⟩
    | succ i => exact ih ha hb

theorem kinds (h : Makes setup s file cs ops s' file') :
    ops.map (fun op => op.kind.tag) = cs.map Command.tag := by
  induction h with
  | nil => rfl
  | cons hb _ ih => rw [List.map_cons, List.map_cons, ih, Command.tag_of_kind? (kind_of_build hb)]

theorem each (h : Makes setup s file cs ops s' file') :
    List.Forall₂ (fun c op => ∃ t input, c.build setup t input = .ok (some op)) cs ops := by
  induction h with
  | nil => exact List.Forall₂.nil
  | cons hb _ ih => exact List.Forall₂.cons ⟨_, _, hb⟩ ih

theorem last (h : Makes setup s file cs ops s' file') :
    file' = (ops.getLast?.map Operation.output).getD file := by
  induction h with
  | nil => rfl
  | @cons s s' file file' c op cs ops _ _ ih =>
    rw [ih, List.getLast?_cons]
    cases ops.getLast? with
    | none => rfl
    | some last => rfl

end Makes

/-! ## Numbered files -/

namespace Operation

/-- whether an operation writes a numbered file: all do but exports and thumbnails -/
def isNumbered (op : Operation ν) : Bool := op.kind != .exportVideo && op.kind != .thumbnail

end Operation

/-- an operation writes a numbered file exactly if its command takes a number, and then it is the next one -/
theorem isNumbered_of_build (h : c.build setup s file = .ok (some op)) :
    op.isNumbered = c.numbersItsFile ∧ (c.numbersItsFile = true → op.output = setup.numberedFile s) := by
  have hkind := kind_of_build h
  obtain ⟨-, -, houtput⟩ := call_of_build h
  rw [Operation.isNumbered]
  cases c with
  | unknown tag extras => exact absurd hkind (by simp [Command.kind?])
  | _ =>
    rw [← Option.some.inj hkind]
    exact ⟨rfl, fun hnumber => by first | exact houtput | exact absurd hnumber Bool.false_ne_true⟩

/-- **Numbered files are consecutive**: they count up from the counter, in order, and the counter ends at the last one -/
theorem Makes.numbered (h : Makes setup s file cs ops s' file') :
    (ops.filter Operation.isNumbered).map Operation.output =
        (List.range' (s.counter + 1) (ops.filter Operation.isNumbered).length).map
          (fun n => setup.file ("temp_" ++ toString n ++ ".mp4")) ∧
      s'.counter = s.counter + (ops.filter Operation.isNumbered).length := by
  induction h with
  | nil => exact ⟨rfl, rfl⟩
  | @cons s s' file file' c op cs ops hb _ ih =>
    obtain ⟨hnumbered, houtput⟩ := isNumbered_of_build hb
    obtain ⟨hfiles, hcounter⟩ := ih
    cases htakes : c.numbersItsFile with
    | true =>
      have hadvance : (c.advance s).counter = s.counter + 1 := if_pos htakes
      rw [hadvance] at hfiles hcounter
      rw [List.filter_cons_of_pos (hnumbered.trans htakes), List.map_cons, List.length_cons, List.range'_succ,
        List.map_cons, hfiles, houtput htakes]
      exact ⟨rfl, by omega⟩
    | false =>
      have hadvance : (c.advance s).counter = s.counter := if_neg (by simp [htakes])
      rw [hadvance] at hfiles hcounter
      rw [List.filter_cons_of_neg (by simp [hnumbered, htakes])]
      exact ⟨hfiles, hcounter⟩

/-! ## Commands that are not understood -/

namespace Progress

/-- two runs that are alike but for what they reported -/
structure Alike (p q : Progress ν) : Prop where
  state : p.state = q.state
  current : p.current = q.current
  operations : p.operations = q.operations
  fault : p.fault = q.fault

variable {p q : Progress ν}

/-- runs that are alike stay alike under the same command -/
theorem Alike.step (h : Alike p q) (setup : Setup ν) (c : Command ν) :
    Alike (step setup p c) (step setup q c) := by
  cases hq : q.fault with
  | some e =>
    rw [step_stopped (by rw [h.fault, hq]; rfl), step_stopped (by rw [hq]; rfl)]
    exact h
  | none =>
    have hp : p.fault = none := h.fault.trans hq
    have hadvance : c.advance p.state = c.advance q.state := by rw [h.state]
    have hbuild : c.build setup p.state p.current = c.build setup q.state q.current := by rw [h.state, h.current]
    rcases hb : c.build setup q.state q.current with e | (_ | op)
    · rw [step_error hp (hbuild.trans hb), step_error hq hb]
      exact ⟨hadvance, h.current, h.operations, rfl⟩
    · rw [step_none hp (hbuild.trans hb), step_none hq hb]
      exact ⟨hadvance, h.current, h.operations, h.fault⟩
    · rw [step_some hp (hbuild.trans hb), step_some hq hb]
      exact ⟨hadvance, rfl, congrArg (· ++ [op]) h.operations, h.fault⟩

theorem alike_step_of_not_isUnderstood (hc : c.isUnderstood = false) (p : Progress ν) :
    Alike p (step setup p c) := by
  cases hfault : p.fault with
  | some e => rw [step_stopped (by simp [hfault])]; exact ⟨rfl, rfl, rfl, rfl⟩
  | none =>
    rw [step_none hfault (Command.build_of_not_isUnderstood hc)]
    exact ⟨(Command.advance_of_not_isUnderstood hc _).symm, rfl, rfl, rfl⟩

omit [Number ν] in
theorem Alike.symm (h : Alike p q) : Alike q p := ⟨h.state.symm, h.current.symm, h.operations.symm, h.fault.symm⟩

omit [Number ν] in
theorem Alike.trans {r : Progress ν} (h : Alike p q) (h' : Alike q r) : Alike p r :=
  ⟨h.state.trans h'.state, h.current.trans h'.current, h.operations.trans h'.operations, h.fault.trans h'.fault⟩

/-- **Commands that are not understood can be left out**: the run without them is alike -/
theorem run_filter (h : Alike p q) (cs : List (Command ν)) :
    Alike (run setup p (cs.filter Command.isUnderstood)) (run setup q cs) := by
  induction cs generalizing p q with
  | nil => exact h
  | cons c cs ih =>
    rw [run_cons]
    cases hc : c.isUnderstood with
    | true =>
      rw [List.filter_cons_of_pos hc, run_cons]
      exact ih (h.step setup c)
    | false =>
      rw [List.filter_cons_of_neg (by simp [hc])]
      exact ih (h.trans (alike_step_of_not_isUnderstood hc q))

omit [Number ν] in
theorem Alike.result_eq (h : Alike p q) : p.result = q.result := by
  rw [result, result, h.fault, h.operations, h.current]

theorem run_of_makes (h : Makes setup s file cs ops s' file') (hfault : p.fault = none) (hstate : p.state = s)
    (hfile : p.current = file) :
    Alike (run setup p cs) { p with state := s', current := file', operations := p.operations ++ ops } := by
  induction h generalizing p with
  | nil => exact ⟨hstate, hfile, (List.append_nil _).symm, rfl⟩
  | cons hb _ ih =>
    subst hstate hfile
    have hrest := ih (p := step setup p _) (fault_step_ok hfault hb) (state_step hfault) (by rw [step_some hfault hb])
    rw [step_some hfault hb] at hrest
    rw [run_cons, step_some hfault hb]
    exact hrest.trans ⟨rfl, rfl, List.append_assoc _ _ _, rfl⟩

end Progress

/-- **A chain of the understood commands** from the source on is a plan -/
theorem plan_of_makes {planner : Planner ν} {context : Option (VideoContext ν)}
    (h : Makes planner.setup (Progress.start planner.setup.source context).state planner.setup.source
      (cs.filter Command.isUnderstood) ops s' file') :
    (planner.plan context cs).result = .ok ⟨ops, file'⟩ ∧ (planner.plan context cs).planner.state = s' := by
  have hrun := Progress.run_of_makes (p := Progress.start planner.setup.source context) h rfl rfl rfl
  have hwhole : Progress.Alike (planner.progress context cs) _ :=
    (Progress.run_filter ⟨rfl, rfl, rfl, rfl⟩ cs).symm.trans hrun
  exact ⟨plan_eq_ok.2 ⟨hwhole.fault, by rw [hwhole.operations, hwhole.current]; rfl⟩, hwhole.state⟩

/-! ## The shape of a plan -/

/-- the shape of a plan of understood commands: one operation for each, of its kind, all linked from the source to the
final file, and numbered files counting up from one -/
structure Plan.IsChain (setup : Setup ν) (cs : List (Command ν)) (plan : Plan ν) : Prop where
  length : plan.operations.length = cs.length
  kinds : plan.operations.map (fun op => op.kind.tag) = cs.map Command.tag
  first : ∀ op, plan.operations[0]? = some op → op.input = setup.source
  later : ∀ i a b, plan.operations[i]? = some a → plan.operations[i + 1]? = some b → b.input = a.output
  arguments : ∀ op ∈ plan.operations, ∃ options,
    op.invocation.arguments = [setup.binary, "-y", "-i", op.input] ++ options ++ [op.output]
  final : plan.finalOutput = (plan.operations.getLast?.map Operation.output).getD setup.source
  numbered : (plan.operations.filter Operation.isNumbered).map Operation.output =
    (List.range' 1 (plan.operations.filter Operation.isNumbered).length).map
      fun n => setup.file ("temp_" ++ toString n ++ ".mp4")

/-- a vector begins with the binary and the input and ends with the output -/
theorem arguments_of_build (h : c.build setup s file = .ok (some op)) : ∃ options,
    op.invocation.arguments = [setup.binary, "-y", "-i", op.input] ++ options ++ [op.output] := by
  obtain ⟨hbinary, -, -⟩ := call_of_build h
  refine ⟨Invocation.valueOption "-filter_complex" op.invocation.filterGraph ++
    op.invocation.maps.flatMap (["-map", ·]) ++ Invocation.valueOption "-vf" op.invocation.videoFilter ++
    Invocation.valueOption "-af" op.invocation.audioFilter ++ op.invocation.outputOptions, ?_⟩
  rw [Invocation.arguments, hbinary]
  simp only [Operation.input, Operation.output, List.append_assoc]

/-- a plan that was made has the shape, and the counter stands at the number of its numbered files -/
theorem Makes.isChain {plan : Plan ν} (h : Makes setup s setup.source cs plan.operations s' plan.finalOutput)
    (hcounter : s.counter = 0) : plan.IsChain setup cs ∧
      s'.counter = (plan.operations.filter Operation.isNumbered).length := by
  obtain ⟨hfiles, hcount⟩ := h.numbered
  rw [hcounter, Nat.zero_add] at hfiles hcount
  refine ⟨⟨h.length_eq, h.kinds, ?_, ?_, ?_, h.last, hfiles⟩, hcount⟩
  · intro op hop
    obtain ⟨c, -, hb⟩ := h.first hop
    exact (call_of_build hb).2.1
  · intro i a b ha hb
    obtain ⟨c, d, t, input, -, -, -, hnext⟩ := h.adjacent ha hb
    exact (call_of_build hnext).2.1
  · intro op hop
    obtain ⟨i, hi⟩ := List.mem_iff_getElem?.1 hop
    obtain ⟨c, t, input, -, -, hb⟩ := h.built hi
    exact arguments_of_build hb

/-- **The shape of every plan.** A plan has one operation for each understood command, of its kind and in order; the first
reads the source, each later one what the one before it wrote, and the final file is the last one written; numbered files
count up from one without a gap, and the counter stands at the last number. Commands that are not understood change
neither the plan nor the state of the planner. -/
theorem plan_isChain (planner : Planner ν) (context : Option (VideoContext ν)) (cs : List (Command ν)) (plan : Plan ν)
    (h : (planner.plan context cs).result = .ok plan) :
    let understood := cs.filter Command.isUnderstood
    let outcome := planner.plan context cs
    plan.IsChain planner.setup understood ∧
      outcome.planner.state.counter = (plan.operations.filter Operation.isNumbered).length ∧
      (planner.plan context understood).result = .ok plan ∧
      (planner.plan context understood).planner = outcome.planner := by
  intro understood outcome
  obtain ⟨hshape, hcounter⟩ := (makes_of_plan h).isChain rfl
  set p : Progress ν := ⟨(planner.reset context).state, planner.setup.source, [], [], none⟩
  have halike : Progress.Alike (Progress.run planner.setup p understood) (Progress.run planner.setup p cs) :=
    Progress.run_filter ⟨rfl, rfl, rfl, rfl⟩ cs
  refine ⟨hshape, hcounter, ?_, ?_⟩
  · exact halike.result_eq.trans h
  · exact congrArg (fun state => { planner.reset context with state := state }) halike.state

/-- a colour correction, an export and a cut, and among them a command that is not understood -/
theorem plan_isChain_export_between :
    let planner := Planner.fresh (⟨"in.mp4", "/w", "ffmpeg", "captions.srt", zero⟩ : Setup Binary64)
    let cs : List (Command Binary64) := [.colorCorrection {} none, .unknown "speed_ramp" [],
      .exportVideo "webm" "original" "original" "medium" one, .cut []]
    ∃ plan, (planner.plan none cs).result = .ok plan ∧
      plan.operations.map (fun op => (op.input, op.output)) =
        [("in.mp4", "/w/temp_1.mp4"), ("/w/temp_1.mp4", "/w/output.webm"), ("/w/output.webm", "/w/temp_2.mp4")] ∧
      plan.IsChain planner.setup (cs.filter Command.isUnderstood) ∧
      (planner.plan none cs).planner.state.counter = (plan.operations.filter Operation.isNumbered).length ∧
      (planner.plan none (cs.filter Command.isUnderstood)).result = .ok plan ∧
      (planner.plan none (cs.filter Command.isUnderstood)).planner = (planner.plan none cs).planner := by
  intro planner cs
  exact ⟨_, rfl, by decide +kernel, plan_isChain planner none cs _ rfl⟩

end EditPlan
