import EditPlan.Proofs.Plan.Faults

/-!
The running duration in doubles, whatever the times are. Where it is known it is a length of time: a number that is not below
zero, perhaps infinite, and never NaN. A trim takes the greater of zero and a difference, which also turns a NaN into zero. A
cut adds up windows, each of which was kept because it ends after it starts, so that no window has a NaN for its length, not
even one from or to infinity. A change of speed multiplies by a positive finite factor.

A duration that is not known becomes known with the first trim that is reached, also if the run stops there, and a duration
that is known stays so.

Main statements:
- `Command.durationAfter_eq_none_iff`: which commands make a duration known;
- `Command.zero_le_durationAfter`, `zero_le_estimate_of_build`: what a command leaves, and what its operation is said to
  take;
- `state_run_reached`: the state that a run leaves is that behind the commands that it reached;
- `duration_invariant`: every point of every run.
Witness:
- `duration_invariant_endless_source`: an endless source, and removals and a speed that are not numbers.
-/

namespace EditPlan

open Number

/-! ## Known and unknown durations -/

section Known

variable {ν : Type} [Number ν]

namespace Command

/-- **Only a trim makes a duration known**, and none makes it unknown -/
theorem durationAfter_eq_none_iff (c : Command ν) (s : State ν) :
    c.durationAfter s = none ↔ s.duration = none ∧ c.kind? ≠ some .trim := by
  cases c with
  | trim start stop => exact iff_of_false (by simp [durationAfter]) fun h => h.2 rfl
  | cut segments =>
    rw [durationAfter]
    cases s.duration with
    | none => exact iff_of_true (cutDuration_of_unknown segments) ⟨rfl, by simp [kind?]⟩
    | some d => exact iff_of_false (by simp [cutDuration_of_known]) fun h => absurd h.1 (by simp)
  | effect name intensity params =>
    have hscaled : (Command.effect name intensity params).durationAfter s = none ↔ s.duration = none := by
      rw [durationAfter]
      split
      · split_ifs
        · exact Iff.rfl
        · exact Option.map_eq_none_iff
      · exact Iff.rfl
    rw [hscaled]
    simp [kind?]
  | _ => simp [durationAfter, kind?]

end Command

/-- a duration behind commands is unknown if it was at the start and none of them is a trim -/
theorem State.duration_behind_eq_none_iff (s : State ν) (cs : List (Command ν)) :
    (s.behind cs).duration = none ↔ s.duration = none ∧ ∀ c ∈ cs, c.kind? ≠ some .trim := by
  induction cs generalizing s with
  | nil => simp [State.behind]
  | cons c cs ih =>
    have hstep : (c.advance s).duration = none ↔ s.duration = none ∧ c.kind? ≠ some .trim :=
      c.durationAfter_eq_none_iff s
    have hrest : (s.behind (c :: cs)).duration = ((c.advance s).behind cs).duration := rfl
    rw [hrest, ih, hstep, List.forall_mem_cons, and_assoc]

/-! ## Estimates -/

/-- a trim and a cut are said to take a share of the time that they leave or find, all else a fixed time -/
theorem estimate_of_build {setup : Setup ν} {s : State ν} {input : String} {c : Command ν} {op : Operation ν}
    (h : c.build setup s input = .ok (some op)) :
    (∃ start stop, op.estimate = Command.trimmed start stop * ofRat (1 / 10)) ∨ op.estimate = Build.cutEstimate s ∨
      ∃ q, 0 ≤ q ∧ op.estimate = ofRat q := by
  cases c with
  | trim start stop =>
    obtain ⟨_, -, h⟩ := bind_eq_ok.1 (map_some_eq_ok.1 h)
    obtain ⟨_, -, h⟩ := bind_eq_ok.1 h
    rw [← Except.ok.inj h]
    exact .inl ⟨start, stop, rfl⟩
  | cut segments =>
    rw [← Option.some.inj (Except.ok.inj h)]
    exact .inr (.inl rfl)
  | addCaptions style language =>
    obtain ⟨_, -, h⟩ := bind_eq_ok.1 (map_some_eq_ok.1 h)
    rw [← Except.ok.inj h]
    exact .inr (.inr ⟨60, by norm_num, rfl⟩)
  | audio action params =>
    obtain ⟨_, -, h⟩ := bind_eq_ok.1 (map_some_eq_ok.1 h)
    rw [← Except.ok.inj h]
    exact .inr (.inr ⟨20, by norm_num, rfl⟩)
  | effect name intensity params =>
    obtain ⟨_, -, h⟩ := bind_eq_ok.1 (map_some_eq_ok.1 h)
    rw [← Except.ok.inj h]
    exact .inr (.inr ⟨30, by norm_num, rfl⟩)
  | thumbnail count style timestamps =>
    obtain ⟨_, -, h⟩ := bind_eq_ok.1 (map_some_eq_ok.1 h)
    obtain ⟨_, -, h⟩ := bind_eq_ok.1 h
    rw [← Except.ok.inj h]
    exact .inr (.inr ⟨10, by norm_num, rfl⟩)
  | unknown tag extras => exact absurd (Except.ok.inj h) (by simp)
  | _ =>
    rw [← Option.some.inj (Except.ok.inj h)]
    exact .inr (.inr ⟨_, by norm_num, rfl⟩)

/-! ## What a run reaches -/

namespace Progress

/-- commands that a run comes to: all of them, or those up to the one that stops it -/
def reached (setup : Setup ν) (p : Progress ν) : List (Command ν) → List (Command ν)
  | [] => []
  | c :: cs => if p.fault.isSome then [] else c :: reached setup (step setup p c) cs

/-- **A run leaves the state behind what it reached**, also where it was stopped -/
theorem state_run_reached (setup : Setup ν) (p : Progress ν) (cs : List (Command ν)) :
    (run setup p cs).state = p.state.behind (reached setup p cs) := by
  induction cs generalizing p with
  | nil => rfl
  | cons c cs ih =>
    cases hfault : p.fault with
    | some e =>
      have hstopped : p.fault.isSome := by rw [hfault]; rfl
      rw [run_stopped hstopped, reached, if_pos hstopped]
      rfl
    | none =>
      have hgoes : ¬ p.fault.isSome := by simp [hfault]
      rw [run_cons, ih, state_step hfault, reached, if_neg hgoes]
      rfl

end Progress

end Known

/-! ## Lengths of time -/

namespace Footage

open Binary64

theorem zero_le_span {w : Window Binary64} (h : w.Closed) : (Number.zero : Binary64) ≤ w.span := by
  obtain ⟨e, hstop, hlt⟩ := h
  rw [Window.span, hstop]
  exact zero_le_sub_of_lt hlt

end Footage

section Commands

open Binary64

variable {s : State Binary64} {c : Command Binary64}

theorem Command.zero_le_trimmed (start stop : Binary64) : (Number.zero : Binary64) ≤ Command.trimmed start stop :=
  (Range.confines_atLeast number_zero_ne_nan (stop - start)).holds.low _ rfl

/-- **A command in range leaves a length of time** where it found one -/
theorem Command.zero_le_durationAfter (c : Command Binary64) (bound : Option Binary64)
    (hs : ∀ d ∈ s.duration, Number.zero ≤ d) : ∀ d ∈ (c.limit bound).durationAfter s, Number.zero ≤ d := by
  cases c with
  | trim start stop =>
    intro d hd
    rw [← Option.mem_some.1 hd]
    exact zero_le_trimmed _ _
  | cut segments =>
    rw [limit, durationAfter]
    cases hduration : s.duration with
    | none =>
      rw [cutDuration_of_unknown]
      exact fun d hd => absurd hd (by simp)
    | some known =>
      intro d hd
      rw [cutDuration_of_known] at hd
      rw [← Option.mem_some.1 hd]
      refine zero_le_sum (List.forall_mem_map.2 fun w hw => ?_)
      exact Footage.zero_le_span (Footage.kept_closed hw)
  | effect name intensity params =>
    rw [limit, durationAfter]
    cases hspeed : speedFactor? name (limitShare intensity) with
    | none => exact hs
    | some factor =>
      obtain ⟨hpos, hfinite⟩ := zero_lt_speedFactor hspeed
      dsimp only
      split_ifs
      · exact hs
      · intro d hd
        obtain ⟨known, hknown, rfl⟩ := Option.map_eq_some_iff.1 hd
        exact zero_le_mul (hs known hknown) hpos hfinite
  | _ => exact hs

theorem Build.zero_le_cutEstimate (hs : ∀ d ∈ s.duration, Number.zero ≤ d) : Number.zero ≤ Build.cutEstimate s := by
  unfold cutEstimate
  cases hduration : s.duration with
  | none => exact zero_le_ofRat (by norm_num)
  | some d => exact zero_le_mul (hs d hduration) (by decide +kernel) (by decide +kernel)

/-- **What an operation is said to take** is a length of time -/
theorem zero_le_estimate_of_build {setup : Setup Binary64} {input : String} {op : Operation Binary64}
    (hs : ∀ d ∈ s.duration, Number.zero ≤ d) (h : c.build setup s input = .ok (some op)) : Number.zero ≤ op.estimate := by
  rcases estimate_of_build h with ⟨start, stop, htrim⟩ | hcut | ⟨q, hq, hfixed⟩
  · rw [htrim]
    exact zero_le_mul (Command.zero_le_trimmed start stop) (by decide +kernel) (by decide +kernel)
  · rw [hcut]
    exact Build.zero_le_cutEstimate hs
  · rw [hfixed]
    exact zero_le_ofRat hq

end Commands

/-! ## Runs -/

/-- a run that has only lengths of time: of the video by now, and of the work on each operation -/
structure Progress.Timed (p : Progress Binary64) : Prop where
  duration : ∀ d ∈ p.state.duration, Number.zero ≤ d
  estimates : ∀ op ∈ p.operations, Number.zero ≤ op.estimate

namespace Progress

variable {setup : Setup Binary64} {p : Progress Binary64}

theorem Timed.step (h : p.Timed) (bound : Option Binary64) (c : Command Binary64) :
    (step setup p (c.limit bound)).Timed := by
  cases hfault : p.fault with
  | some e => rwa [step_stopped (by rw [hfault]; rfl)]
  | none =>
    have hmoved := c.zero_le_durationAfter bound h.duration
    rcases hbuild : (c.limit bound).build setup p.state p.current with e | (_ | op)
    · rw [step_error hfault hbuild]
      exact ⟨hmoved, h.estimates⟩
    · rw [step_none hfault hbuild]
      exact ⟨hmoved, h.estimates⟩
    · rw [step_some hfault hbuild]
      refine ⟨hmoved, fun op' hop => ?_⟩
      rcases List.mem_append.1 hop with hop | hop
      · exact h.estimates op' hop
      · rw [List.mem_singleton.1 hop]
        exact zero_le_estimate_of_build h.duration hbuild

theorem Timed.run (h : p.Timed) (setup : Setup Binary64) (bound : Option Binary64) (cs : List (Command Binary64)) :
    (run setup p (limitCommands bound cs)).Timed := by
  induction cs generalizing p with
  | nil => exact h
  | cons c cs ih => exact ih (h.step bound c)

end Progress

/-- **The running duration**, at every point of a run of commands in range: it is unknown or a length of time. It is unknown
exactly if the context gives none and no trim was reached, and every operation that was made is said to take a length of
time. The times of the commands are any doubles. -/
theorem duration_invariant (planner : Planner Binary64) (b : Brief Binary64) (hcontext : ∀ d ∈ b.duration, Number.zero ≤ d)
    (n : ℕ) :
    let commands := b.limit.commands.take n
    let run := planner.progress b.context commands
    let reached := (Progress.start planner.setup.source b.context).reached planner.setup commands
    (∀ d ∈ run.state.duration, Number.zero ≤ d) ∧
      (run.state.duration = none ↔ b.duration = none ∧ ∀ c ∈ reached, c.kind? ≠ some .trim) ∧
      ∀ op ∈ run.operations, Number.zero ≤ op.estimate := by
  have hstart : (Progress.start planner.setup.source b.context).Timed := ⟨hcontext, fun _ hop => absurd hop List.not_mem_nil⟩
  have hcommands : b.limit.commands.take n = limitCommands b.duration (b.commands.take n) := List.map_take.symm
  have hrun := hstart.run planner.setup b.duration (b.commands.take n)
  rw [← hcommands] at hrun
  refine ⟨hrun.duration, ?_, hrun.estimates⟩
  rw [Planner.progress, Progress.state_run_reached]
  exact State.duration_behind_eq_none_iff _ _

/-- an endless source from which removals are cut that are inverted or have a NaN for an end; then a speed that is a NaN, and
a trim that ends before it starts -/
theorem duration_invariant_endless_source :
    let sec : ℤ → Binary64 := fun k => ofRat k
    let planner : Planner Binary64 := .fresh ⟨"in.mp4", "/w", "ffmpeg", "captions.srt", sec (-40)⟩
    let b : Brief Binary64 := ⟨[.cut [⟨sec 9, sec 3⟩, ⟨.nan, sec 5⟩, ⟨sec 4, .nan⟩], .effect "speed_up" .nan [],
      .trim (sec 7) (sec 2)], some { duration := some (.infinite false) }⟩
    (∀ d ∈ b.duration, Number.zero ≤ d) ∧
      (List.range 4).map (fun n => (planner.progress b.context (b.limit.commands.take n)).state.duration) =
        [some (.infinite false), some (.infinite false), some (.infinite false), some (sec 0)] ∧
      (∀ d ∈ (planner.progress b.context (b.limit.commands.take 3)).state.duration, Number.zero ≤ d) ∧
      ∀ op ∈ (planner.progress b.context (b.limit.commands.take 3)).operations, Number.zero ≤ op.estimate := by
  intro sec planner b
  have hcontext : ∀ d ∈ b.duration, Number.zero ≤ d := by
    intro d hd
    rw [← Option.mem_some.1 hd]
    exact Binary64.zero_le_infinite
  obtain ⟨hduration, -, hestimates⟩ := duration_invariant planner b hcontext 3
  exact ⟨hcontext, by decide +kernel, hduration, hestimates⟩

end EditPlan
