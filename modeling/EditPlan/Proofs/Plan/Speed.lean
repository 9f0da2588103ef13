import EditPlan.Proofs.Number.Exact
import EditPlan.Proofs.Plan.Prefix

/-!
Changes of speed in exact arithmetic. Such an effect has one factor: the picture is stretched by it, the sound is played at
its inverse, which `atempo` takes from a half to two, and the running duration is multiplied by it. Intensities may be any
numbers, infinite or NaN; they are brought into range before a factor is made of them.

Main statements:
- `speedFactor?_limitShare`, `stretch_mem`: the factor of an intensity in range, from a half to two;
- `effectParts_of_speed`: what such an effect makes of picture and sound;
- `duration_behind_limit`: the duration behind commands among which no trim and no cut is;
- `speed_in_step`: picture, sound and timeline over a whole plan.
Witness:
- `speed_in_step_mixed`: intensities of all sorts, between other commands.
-/

namespace EditPlan

open Number Unrounded

/-! ## One effect -/

section Effect

variable {ν : Type} [Number ν] {s : State ν} {name : String} {intensity factor : ν}

/-- **What an effect that changes the speed makes of picture and sound** -/
theorem effectParts_of_speed (hspeed : speedFactor? name intensity = some factor) (hzero : isZero factor = false) :
    Build.effectParts s name intensity = .ok ("setpts=" ++ sixPlaces factor ++ "*PTS",
      if s.hasAudio then some ("atempo=" ++ sixPlaces (one / factor)) else none, if s.hasAudio then [] else copySound) := by
  have hstall : stallsOn s.hasAudio factor = false := by rw [stallsOn, hzero, Bool.and_false]
  simp only [Build.effectParts, hspeed, hstall, Bool.false_eq_true, if_false]
  split_ifs <;> rfl

/-- an effect that changes the speed by a factor other than zero is planned -/
theorem build_of_speed (setup : Setup ν) (input : String) (params : Object)
    (hspeed : speedFactor? name intensity = some factor) (hzero : isZero factor = false) :
    ∃ op, (Command.effect name intensity params).build setup s input = .ok (some op) ∧
      op.invocation.videoFilter = some ("setpts=" ++ sixPlaces factor ++ "*PTS") ∧
      op.invocation.audioFilter = if s.hasAudio then some ("atempo=" ++ sixPlaces (one / factor)) else none :=
  ⟨_, map_some_eq_ok.2 (bind_eq_ok.2 ⟨_, effectParts_of_speed hspeed hzero, rfl⟩), rfl, rfl⟩

end Effect

/-- the factor that an effect is meant to stretch time by, from its name and its intensity as it was given -/
def stretch (name : String) (intensity : Unrounded) : ℚ :=
  if name = "slow_motion" then 1 + share intensity else if name = "speed_up" then 1 - share intensity / 2 else 1

theorem stretch_mem (name : String) (intensity : Unrounded) :
    1 / 2 ≤ stretch name intensity ∧ stretch name intensity ≤ 2 := by
  obtain ⟨hlow, hhigh⟩ := share_mem intensity
  unfold stretch
  split_ifs
  · constructor <;> linarith
  · constructor <;> linarith
  · constructor <;> norm_num

theorem stretch_pos (name : String) (intensity : Unrounded) : 0 < stretch name intensity := by
  linarith [(stretch_mem name intensity).1]

/-- **The factor of an intensity in range**; other effects have none -/
theorem speedFactor?_limitShare (name : String) (intensity : Unrounded) : speedFactor? name (limitShare intensity) =
    if name = "slow_motion" ∨ name = "speed_up" then some (.exact (stretch name intensity)) else none := by
  rw [limitShare_eq]
  unfold speedFactor? stretch
  by_cases hslow : name = "slow_motion"
  · rw [if_pos hslow, if_pos (Or.inl hslow), if_pos hslow, one_eq, exact_add]
  · by_cases hfast : name = "speed_up"
    · rw [if_neg hslow, if_pos hfast, if_pos (Or.inr hfast), if_neg hslow, if_pos hfast, half_eq, exact_mul, one_eq,
        exact_sub, mul_one_div]
    · rw [if_neg hslow, if_neg hfast, if_neg fun h => h.elim hslow hfast]

/-- **A tempo** lies in the range of factors again and undoes its factor -/
theorem tempo_mem {f : ℚ} (hlow : 1 / 2 ≤ f) (hhigh : f ≤ 2) : 1 / 2 ≤ 1 / f ∧ 1 / f ≤ 2 ∧ f * (1 / f) = 1 := by
  have hpos : 0 < f := by linarith
  refine ⟨one_div_le_one_div_of_le hpos hhigh, ?_, mul_one_div_cancel hpos.ne'⟩
  rw [div_le_iff₀ hpos]
  linarith

/-! ## One command -/

namespace Command

variable {c : Command Unrounded} {bound : Option Unrounded}

/-- factor of a command: one for all but the changes of speed -/
def stretch : Command Unrounded → ℚ
  | .effect name intensity _ => EditPlan.stretch name intensity
  | _ => 1

/-- a command that does not choose stretches of the video -/
def KeepsAll (c : Command Unrounded) : Prop := c.kind? ≠ some .trim ∧ c.kind? ≠ some .cut

theorem stretch_pos (c : Command Unrounded) : 0 < c.stretch := by
  cases c with
  | effect name intensity params => exact EditPlan.stretch_pos name intensity
  | _ => exact zero_lt_one

/-- **Of a command in range every numeric step has an answer** in exact arithmetic behind a known duration, unless it is a
trim or captions of a size with too many digits -/
theorem definite_limit_unrounded (bound : Option Unrounded) (h : c.kind? ≠ some .trim)
    (hcaption : (c.limit bound).captionFault? = none) {s : State Unrounded} (hknown : s.duration ≠ none) :
    (c.limit bound).Definite s := by
  cases c with
  | trim start stop => exact absurd rfl h
  | addCaptions style language => exact captionFault?_eq_none.1 hcaption style language rfl
  | audio action params =>
    show ∃ percent, nearestInt ((params.volume.map limitVolume).getD one * ofRat 100) = .ok percent
    have hvolume : ∃ q, (params.volume.map limitVolume).getD one = .exact q := by
      cases params.volume with
      | none => exact ⟨1, rfl⟩
      | some volume => exact ⟨_, clamp_eq volume 0 2⟩
    obtain ⟨q, hq⟩ := hvolume
    rw [hq]
    exact ⟨_, rfl⟩
  | effect name intensity params =>
    refine ⟨fun factor hfactor => ?_, ?_, ?_⟩
    · rw [speedFactor?_limitShare] at hfactor
      split_ifs at hfactor
      rw [← Option.some.inj hfactor]
      exact isZero_exact_of_pos (EditPlan.stretch_pos name intensity)
    · rw [limitShare_eq]
      exact ⟨_, rfl⟩
    · rw [limitShare_eq]
      exact ⟨_, rfl⟩
  | thumbnail count style timestamps => exact ⟨⟨_, rfl⟩, fun hnone => absurd hnone hknown⟩
  | _ => exact trivial

/-- **A command in range multiplies the duration by its factor**, unless it is a trim or a cut -/
theorem duration_advance_limit (h : c.KeepsAll) (bound : Option Unrounded) (s : State Unrounded) :
    ((c.limit bound).advance s).duration = s.duration.map (· * .exact c.stretch) := by
  have hsame : s.duration = s.duration.map (· * exact 1) := by simp [mul_exact_one]
  cases c with
  | trim start stop => exact absurd rfl h.1
  | cut segments => exact absurd rfl h.2
  | effect name intensity params =>
    show (Command.effect name (limitShare intensity) params).durationAfter s = _
    rw [durationAfter, speedFactor?_limitShare]
    by_cases hspeed : name = "slow_motion" ∨ name = "speed_up"
    · have hstall : stallsOn s.hasAudio (exact (EditPlan.stretch name intensity)) = false := by
        rw [stallsOn, isZero_exact_of_pos (EditPlan.stretch_pos name intensity), Bool.and_false]
      rw [if_pos hspeed]
      simp only [hstall, Bool.false_eq_true, if_false, stretch]
    · have hone : EditPlan.stretch name intensity = 1 := by
        rw [EditPlan.stretch, if_neg fun h => hspeed (Or.inl h), if_neg fun h => hspeed (Or.inr h)]
      rw [if_neg hspeed, stretch, hone]
      exact hsame
  | _ => exact hsame

end Command

/-! ## Lists -/

/-- **The duration behind commands in range**, none of which is a trim or a cut: their factors in a row -/
theorem State.duration_behind_limit (bound : Option Unrounded) {cs : List (Command Unrounded)} (h : ∀ c ∈ cs, c.KeepsAll)
    (s : State Unrounded) :
    (s.behind (limitCommands bound cs)).duration = s.duration.map (· * .exact (cs.map Command.stretch).prod) := by
  have hpos : ∀ cs : List (Command Unrounded), 0 < (cs.map Command.stretch).prod := fun cs =>
    List.prod_pos (List.forall_mem_map.2 fun c _ => c.stretch_pos)
  induction cs generalizing s with
  | nil => simp [State.behind, limitCommands, mul_exact_one]
  | cons c cs ih =>
    obtain ⟨hc, hcs⟩ := List.forall_mem_cons.1 h
    have hrest : s.behind (limitCommands bound (c :: cs)) =
        ((c.limit bound).advance s).behind (limitCommands bound cs) := rfl
    rw [hrest, ih hcs, Command.duration_advance_limit hc]
    cases s.duration with
    | none => rfl
    | some d =>
      rw [Option.map_some, Option.map_some, Option.map_some, mul_exact_exact d c.stretch_pos (hpos cs), List.map_cons,
        List.prod_cons]

/-! ## Plans -/

/-- an operation that keeps picture, sound and timeline in step by one factor `f`, between the state before it and the state
after it -/
structure Operation.KeepsStep (op : Operation Unrounded) (hasAudio : Bool) (f : ℚ) (before after : State Unrounded) :
    Prop where
  factor : 1 / 2 ≤ f ∧ f ≤ 2
  tempo : 1 / 2 ≤ 1 / f ∧ 1 / f ≤ 2 ∧ f * (1 / f) = 1
  picture : op.invocation.videoFilter = some ("setpts=" ++ Number.sixPlaces (exact f) ++ "*PTS")
  sound : op.invocation.audioFilter = if hasAudio then some ("atempo=" ++ Number.sixPlaces (exact (1 / f))) else none
  timeline : after.duration = before.duration.map (· * exact f)

section Plans

variable {name : String} {cs : List (Command Unrounded)}

/-- **A change of speed in range** is planned, and keeps step by its factor -/
theorem keepsStep_of_build (bound : Option Unrounded) (setup : Setup Unrounded) (s : State Unrounded) (input : String)
    (intensity : Unrounded) (params : Object) (hname : name = "slow_motion" ∨ name = "speed_up") :
    ∃ op, ((Command.effect name intensity params).limit bound).build setup s input = .ok (some op) ∧
      op.KeepsStep s.hasAudio (stretch name intensity) s
        (((Command.effect name intensity params).limit bound).advance s) := by
  have hspeed := speedFactor?_limitShare name intensity
  rw [if_pos hname] at hspeed
  have hpos := stretch_pos name intensity
  obtain ⟨hlow, hhigh⟩ := stretch_mem name intensity
  obtain ⟨op, hbuild, hpicture, hsound⟩ := build_of_speed (s := s) setup input params hspeed (isZero_exact_of_pos hpos)
  rw [one_eq, exact_div 1 hpos.ne'] at hsound
  have hkeeps : (Command.effect name intensity params).KeepsAll := ⟨by simp [Command.kind?], by simp [Command.kind?]⟩
  exact ⟨op, hbuild, ⟨hlow, hhigh⟩, tempo_mem hlow hhigh, hpicture, hsound, Command.duration_advance_limit hkeeps bound s⟩

variable (planner : Planner Unrounded) {context : VideoContext Unrounded} {d : Unrounded} (bound : Option Unrounded)

/-- **Commands in range are planned** in exact arithmetic behind a known duration, as long as none is a trim or a cut and no
captions have too many digits -/
theorem plan_limit_iff (hd : context.duration = some d) (h : ∀ c ∈ cs, c.KeepsAll) :
    (∃ plan, (planner.plan (some context) (limitCommands bound cs)).result = .ok plan) ↔ ShortCaptions cs := by
  have hfault : (planner.progress (some context) (limitCommands bound cs)).fault =
      (limitCommands bound cs).findSome? Command.captionFault? := by
    refine Progress.fault_run (fun s => s.duration ≠ none) ?_ ?_ rfl ?_
    · intro c hc s hs
      obtain ⟨c', hc', rfl⟩ := List.mem_map.1 hc
      rw [Command.duration_advance_limit (h c' hc')]
      simpa using hs
    · intro c hc s input hs
      obtain ⟨c', hc', rfl⟩ := List.mem_map.1 hc
      exact Command.faultOf?_build
        (fun hcaption => Command.definite_limit_unrounded bound (h c' hc').1 hcaption hs) planner.setup input
    · show context.duration ≠ none
      rw [hd]
      exact Option.some_ne_none d
  rw [← shortCaptions_limit bound, shortCaptions_iff, ← hfault]
  constructor
  · rintro ⟨plan, hplan⟩
    exact (plan_eq_ok.1 hplan).1
  · intro hnone
    exact ⟨_, plan_eq_ok.2 ⟨hnone, rfl⟩⟩

end Plans

/-- **Changes of speed keep picture, sound and timeline in step.** Commands without a trim and a cut, brought into range, are
planned in exact arithmetic, unless the size of some captions has too many digits. The duration at the end of a plan is then
the known one times the factors of all of them. The operation of each change of speed stretches the picture by its factor,
plays the sound at its inverse where there is any, and multiplies the duration that the commands before it have left. -/
theorem speed_in_step (planner : Planner Unrounded) (context : VideoContext Unrounded) {d : Unrounded}
    (hd : context.duration = some d) (cs : List (Command Unrounded)) (hcs : ∀ c ∈ cs, c.KeepsAll) :
    let outcome := fun cs => planner.plan (some context) (limitCommands context.duration cs)
    ((∃ plan, (outcome cs).result = .ok plan) ↔ ShortCaptions cs) ∧
    ∀ plan, (outcome cs).result = .ok plan →
      (outcome cs).planner.state.duration = some (d * exact (cs.map Command.stretch).prod) ∧
      ∀ front name intensity params back, cs = front ++ .effect name intensity params :: back →
        name = "slow_motion" ∨ name = "speed_up" →
        ∃ earlier op later, (outcome front).result = .ok earlier ∧ plan.operations = earlier.operations ++ op :: later ∧
          op.KeepsStep context.hasAudio (stretch name intensity) (outcome front).planner.state
            (outcome (front ++ [.effect name intensity params])).planner.state := by
  intro outcome
  have hplanned := plan_limit_iff planner context.duration hd hcs
  refine ⟨hplanned, ?_⟩
  intro plan hplan
  refine ⟨?_, ?_⟩
  · show (planner.plan (some context) (limitCommands context.duration cs)).planner.state.duration = _
    rw [state_of_plan hplan, State.duration_behind_limit context.duration hcs]
    show context.duration.map _ = _
    rw [hd, Option.map_some]
  · rintro front name intensity params back rfl hname
    have hfront : ∀ c ∈ front, c.KeepsAll := fun c hc => hcs c (List.mem_append_left _ hc)
    have hcaptions : ShortCaptions front := fun style language hc =>
      hplanned.1 ⟨plan, hplan⟩ style language (List.mem_append_left _ hc)
    obtain ⟨earlier, hearlier⟩ := (plan_limit_iff planner context.duration hd hfront).2 hcaptions
    have hsound : (outcome front).planner.state.hasAudio = context.hasAudio := Progress.hasAudio_run _
    obtain ⟨op, hbuild, hkeeps⟩ := keepsStep_of_build context.duration planner.setup (outcome front).planner.state
      earlier.finalOutput intensity params hname
    obtain ⟨hmade, hmoved⟩ := plan_append_one hearlier hbuild
    have hnext : limitCommands context.duration (front ++ [.effect name intensity params]) = limitCommands context.duration
        front ++ [(Command.effect name intensity params).limit context.duration] := by simp [limitCommands]
    have hwhole : limitCommands context.duration (front ++ .effect name intensity params :: back) =
        limitCommands context.duration (front ++ [.effect name intensity params]) ++
          limitCommands context.duration back := by simp [limitCommands]
    rw [← hnext] at hmade hmoved
    obtain ⟨later, hlater⟩ := operations_append hmade (by rwa [← hwhole])
    refine ⟨earlier, op, later, hearlier, by rw [hlater, List.append_assoc]; rfl, ?_⟩
    rw [hmoved, ← hsound]
    exact hkeeps

/-- a slow motion that is a NaN and another that is negative without bound, a half of a speed-up, and commands between them:
two minutes become three, and the half plays the picture at three quarters and the sound at four thirds -/
theorem speed_in_step_mixed :
    let planner : Planner Unrounded := .fresh ⟨"in.mp4", "/w", "ffmpeg", "captions.srt", exact (-40)⟩
    let context : VideoContext Unrounded := { duration := some (exact 120) }
    let front : List (Command Unrounded) := [.effect "slow_motion" .nan [], .transition "fade" .nan "end"]
    let back : List (Command Unrounded) :=
      [.unknown "pause" [], .effect "slow_motion" (.infinite true) [], .thumbnail 3 "auto" none]
    let cs := front ++ .effect "speed_up" (exact (1 / 2)) [] :: back
    context.duration = some (exact 120) ∧ (∀ c ∈ cs, c.KeepsAll) ∧
      ∃ plan, (planner.plan (some context) (limitCommands context.duration cs)).result = .ok plan ∧
        (planner.plan (some context) (limitCommands context.duration cs)).planner.state.duration = some (exact 180) ∧
        ∃ op ∈ plan.operations, op.invocation.videoFilter = some "setpts=0.75*PTS" ∧
          op.invocation.audioFilter = some "atempo=1.333333" := by
  intro planner context front back cs
  have hcs : ∀ c ∈ cs, c.KeepsAll := by simp [cs, front, back, Command.KeepsAll, Command.kind?]
  have hcaptions : ShortCaptions cs := by simp [cs, front, back, ShortCaptions]
  obtain ⟨hplanned, hmakes⟩ := speed_in_step planner context rfl cs hcs
  obtain ⟨plan, hplan⟩ := hplanned.2 hcaptions
  obtain ⟨hduration, hspeeds⟩ := hmakes plan hplan
  have hfactors : exact 120 * exact (cs.map Command.stretch).prod = exact 180 := by decide +kernel
  have hpicture : "setpts=" ++ Number.sixPlaces (exact (stretch "speed_up" (exact (1 / 2)))) ++ "*PTS" =
      "setpts=0.75*PTS" := by decide +kernel
  have hsound : "atempo=" ++ Number.sixPlaces (exact (1 / stretch "speed_up" (exact (1 / 2)))) = "atempo=1.333333" := by
    decide +kernel
  obtain ⟨earlier, op, later, -, hoperations, hkeeps⟩ := hspeeds front _ _ _ back rfl (Or.inr rfl)
  refine ⟨rfl, hcs, plan, hplan, hduration.trans (congrArg some hfactors), op, ?_, ?_, ?_⟩
  · rw [hoperations]
    exact List.mem_append_right _ List.mem_cons_self
  · rw [hkeeps.picture, hpicture]
  · rw [hkeeps.sound, if_pos rfl, hsound]

end EditPlan
