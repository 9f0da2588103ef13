import EditPlan.Proofs.Plan.Chain

/-!
Commands that take no time. What a command makes depends on the state through the duration and the sound alone; the count of
files only names its output. So a command that leaves the duration as it is can be taken out of a list, and every other
operation stays as it is, but for the files between which it stands.

Main statements:
- `withoutFiles_build`: in states that match, a command makes the same operation but for its files, or has the same fault;
- `Makes.retained`: a chain from which neutral commands are taken out is a chain of the other operations;
- `plan_without_neutral`: the plan of a list from which neutral commands are taken out.
Witness:
- `plan_without_neutral_between`: neutral commands before, between and behind others.
-/

namespace EditPlan

open Number

variable {ν : Type} [Number ν] {setup : Setup ν} {s s' t : State ν} {file file' : String} {c : Command ν}
  {op : Operation ν} {ops : List (Operation ν)}

/-! ## What is kept of a list -/

/-- the items that are marked to be kept -/
def retained {α : Type} (marked : List (α × Bool)) : List α := (marked.filter Prod.snd).map Prod.fst

@[simp] theorem retained_cons {α : Type} (a : α) (keep : Bool) (marked : List (α × Bool)) :
    retained ((a, keep) :: marked) = if keep then a :: retained marked else retained marked := by
  cases keep <;> rfl

theorem filter_retained {α : Type} (P : α → Bool) (marked : List (α × Bool)) :
    (retained marked).filter P = retained (marked.filter fun m => P m.1) := by
  rw [retained, retained, List.filter_map, List.filter_filter, List.filter_filter]
  simp only [Bool.and_comm, Function.comp_def]

/-! ## Commands that take no time -/

/-- whether a command is of a kind that leaves the duration as it is, or an effect that does not change the speed -/
def Command.isNeutral : Command ν → Bool
  | .removeSilence .. => true
  | .addCaptions .. => true
  | .colorCorrection .. => true
  | .audio .. => true
  | .transition .. => true
  | .exportVideo .. => true
  | .thumbnail .. => true
  | .effect name _ _ => name != "slow_motion" && name != "speed_up"
  | _ => false

theorem Command.duration_advance_of_isNeutral (h : c.isNeutral = true) (s : State ν) :
    (c.advance s).duration = s.duration := by
  cases c with
  | effect name intensity params =>
    have hother : ¬(name = "slow_motion" ∨ name = "speed_up") := by simpa [isNeutral] using h
    have hfactor : speedFactor? name intensity = none := by simpa [← speedFactor?_isSome name intensity] using hother
    simp only [advance, durationAfter, hfactor]
  | trim | cut | unknown => exact absurd h Bool.false_ne_true
  | _ => rfl

/-! ## Two runs at the same duration -/

/-- states that differ in no more than the number of files -/
structure State.Matches (s t : State ν) : Prop where
  duration : t.duration = s.duration
  hasAudio : t.hasAudio = s.hasAudio

theorem State.Matches.advance (h : s.Matches t) (c : Command ν) : (c.advance s).Matches (c.advance t) := by
  refine ⟨?_, h.hasAudio⟩
  simp only [Command.advance]
  cases c <;> simp only [Command.durationAfter, h.duration, h.hasAudio]

/-- a neutral command may be missed without losing step -/
theorem State.Matches.advance_left (h : s.Matches t) (hc : c.isNeutral = true) : (c.advance s).Matches t :=
  ⟨h.duration.trans (Command.duration_advance_of_isNeutral hc s).symm, h.hasAudio⟩

def Operation.withoutFiles {ν : Type} (op : Operation ν) : Operation ν :=
  { op with invocation := { op.invocation with input := "", output := "" } }

section Matches

variable (h : s.Matches t)

include h

theorem fadeOutStart_of_matches (fade : ν) : fadeOutStart t fade = fadeOutStart s fade := by
  rw [fadeOutStart, fadeOutStart, h.duration]

theorem Build.audioFilter_of_matches (action : String) (params : AudioParams ν) :
    Build.audioFilter t action params = Build.audioFilter s action params := by
  simp only [Build.audioFilter, fadeOutStart_of_matches h]

theorem Build.effectParts_of_matches (name : String) (intensity : ν) :
    Build.effectParts t name intensity = Build.effectParts s name intensity := by
  simp only [Build.effectParts, h.hasAudio]

theorem Build.thumbnailTimes_of_matches (count : Int) (timestamps : Option (List ν)) :
    Build.thumbnailTimes t count timestamps = Build.thumbnailTimes s count timestamps := by
  simp only [Build.thumbnailTimes, h.duration]

theorem withoutFiles_build (c : Command ν) (file file' : String) :
    (c.build setup t file').map (Option.map Operation.withoutFiles) =
      (c.build setup s file).map (Option.map Operation.withoutFiles) := by
  cases c with
  | trim start stop =>
    simp only [Command.build, Build.trim]
    cases clock start with
    | error e => rfl
    | ok startText => cases clock stop <;> rfl
  | cut segments =>
    simp only [Command.build, Build.cut, Build.cutEstimate, h.duration, h.hasAudio]
    split_ifs <;> rfl
  | addCaptions style language =>
    simp only [Command.build, Build.addCaptions]
    cases Build.forceStyle style <;> rfl
  | audio action params =>
    simp only [Command.build, Build.audio, Build.audioFilter_of_matches h]
    cases Build.audioFilter s action params <;> rfl
  | transition style duration position =>
    simp only [Command.build, Build.transition, Build.transitionFilter, fadeOutStart_of_matches h]
    rfl
  | effect name intensity params =>
    simp only [Command.build, Build.effect, Build.effectParts_of_matches h]
    cases Build.effectParts s name intensity <;> rfl
  | thumbnail count style timestamps =>
    simp only [Command.build, Build.thumbnail, Build.thumbnailTimes_of_matches h]
    cases Build.thumbnailTimes s (max 1 count) timestamps with
    | error e => rfl
    | ok times =>
      simp only [bind, Except.bind]
      cases Build.framesText (max 1 count) times <;> rfl
  | _ => rfl

end Matches

/-- **Where the states match, a command makes the same operation** but for its files -/
theorem build_of_matches (h : s.Matches t) (hb : c.build setup s file = .ok (some op)) (file' : String) :
    ∃ op', c.build setup t file' = .ok (some op') ∧ op'.withoutFiles = op.withoutFiles := by
  have hsame : (c.build setup t file').map (Option.map Operation.withoutFiles) = .ok (some op.withoutFiles) := by
    rw [withoutFiles_build h c file file', hb]
    rfl
  obtain ⟨built, hbuilt, hmap⟩ := map_eq_ok.1 hsame
  obtain ⟨op', rfl, heq⟩ := Option.map_eq_some_iff.1 hmap
  exact ⟨op', hbuilt, heq⟩

/-! ## Taking commands out -/

/-- **A chain from which neutral commands are taken out** is a chain of the other operations, but for their files -/
theorem Makes.retained {marked : List (Command ν × Bool)}
    (h : Makes setup s file (marked.map Prod.fst) ops s' file')
    (hneutral : ∀ m ∈ marked, m.2 = false → m.1.isNeutral = true) (hmatch : s.Matches t) (input : String) :
    ∃ ops' t' output, Makes setup t input (retained marked) ops' t' output ∧ s'.Matches t' ∧
      ops'.map Operation.withoutFiles = (retained (ops.zip (marked.map Prod.snd))).map Operation.withoutFiles := by
  induction marked generalizing s t file input ops with
  | nil =>
    cases h
    exact ⟨[], t, input, .nil _ _, hmatch, rfl⟩
  | cons m marked ih =>
    obtain ⟨c, keep⟩ := m
    have hothers : ∀ m ∈ marked, m.2 = false → m.1.isNeutral = true :=
      fun m hm => hneutral m (List.mem_cons_of_mem _ hm)
    cases h with
    | cons hb hrest =>
      cases keep with
      | true =>
        obtain ⟨op', hbuild, hop⟩ := build_of_matches hmatch hb input
        obtain ⟨ops', t', output, hmakes, hlast, hops⟩ := ih hrest hothers (hmatch.advance c) op'.output
        exact ⟨op' :: ops', t', output, .cons hbuild hmakes, hlast, by simp [hop, hops]⟩
      | false =>
        -- the chain without the command goes on from where it stands
        have hskip := hmatch.advance_left (hneutral _ List.mem_cons_self rfl)
        obtain ⟨ops', t', output, hmakes, hlast, hops⟩ := ih hrest hothers hskip input
        exact ⟨ops', t', output, hmakes, hlast, by simpa using hops⟩

/-- **Neutral commands can be taken out of a list.** If a list has a plan, then so has what is left of it when any of its
neutral commands are taken out, wherever they stand. The plan has an operation for each understood command that is left, and
it is the one of the whole plan but for its files. The duration behind the plan is the same, and so is the sound. -/
theorem plan_without_neutral (planner : Planner ν) (context : Option (VideoContext ν)) (marked : List (Command ν × Bool))
    (plan : Plan ν) (hneutral : ∀ m ∈ marked, m.2 = false → m.1.isNeutral = true)
    (h : (planner.plan context (marked.map Prod.fst)).result = .ok plan) :
    let whole := planner.plan context (marked.map Prod.fst)
    let rest := planner.plan context (retained marked)
    let marks := (marked.filter fun m => m.1.isUnderstood).map Prod.snd
    ∃ left, rest.result = .ok left ∧ marks.length = plan.operations.length ∧
      left.operations.map Operation.withoutFiles =
        (retained (plan.operations.zip marks)).map Operation.withoutFiles ∧
      rest.planner.state.duration = whole.planner.state.duration ∧
      rest.planner.state.hasAudio = whole.planner.state.hasAudio := by
  intro whole rest marks
  have hwhole := makes_of_plan h
  rw [List.filter_map, Function.comp_def] at hwhole
  obtain ⟨ops, t, output, hmakes, hmatch, hops⟩ := hwhole.retained
    (fun m hm => hneutral m (List.mem_of_mem_filter hm)) ⟨rfl, rfl⟩ planner.setup.source
  rw [← filter_retained] at hmakes
  obtain ⟨hresult, rfl⟩ := plan_of_makes hmakes
  have hlength : marks.length = plan.operations.length := by
    rw [hwhole.length_eq, List.length_map, List.length_map]
  exact ⟨_, hresult, hlength, hops, hmatch.duration, hmatch.hasAudio⟩

/-- neutral commands before, between and behind others; the fade and the thumbnails keep their times, the files count anew -/
theorem plan_without_neutral_between :
    let planner := Planner.fresh (⟨"in.mp4", "/w", "ffmpeg", "captions.srt", zero⟩ : Setup Binary64)
    let context : Option (VideoContext Binary64) := some { duration := some (ofRat 10) }
    let marked : List (Command Binary64 × Bool) := [
      (.colorCorrection {} none, false), (.cut [⟨ofRat 4, ofRat 6⟩], true), (.unknown "pause" [], true),
      (.effect "sharpen" half [], false), (.effect "slow_motion" one [], true), (.transition "fade" one "end", true),
      (.exportVideo "mp4" "original" "original" "medium" (ofRat 30), false), (.thumbnail 3 "auto" none, true)]
    ∃ plan left, (planner.plan context (marked.map Prod.fst)).result = .ok plan ∧
      (planner.plan context (retained marked)).result = .ok left ∧
      left.operations.map Operation.withoutFiles = (retained (plan.operations.zip
        [false, true, false, true, true, false, true])).map Operation.withoutFiles ∧
      plan.operations.map Operation.output = ["/w/temp_1.mp4", "/w/temp_2.mp4", "/w/temp_3.mp4", "/w/temp_4.mp4",
        "/w/temp_5.mp4", "/w/output.mp4", "/w/thumbnail_%03d.jpg"] ∧
      left.operations.map Operation.output =
        ["/w/temp_1.mp4", "/w/temp_2.mp4", "/w/temp_3.mp4", "/w/thumbnail_%03d.jpg"] := by
  intro planner context marked
  have hneutral : ∀ m ∈ marked, m.2 = false → m.1.isNeutral = true := by decide
  have hplan : (planner.plan context (marked.map Prod.fst)).result = .ok _ := plan_eq_ok.2 ⟨by decide +kernel, rfl⟩
  have hleft : (planner.plan context (retained marked)).result = .ok _ := plan_eq_ok.2 ⟨by decide +kernel, rfl⟩
  obtain ⟨left, hresult, -, hops, -, -⟩ := plan_without_neutral planner context marked _ hneutral hplan
  obtain rfl := Except.ok.inj (hresult.symm.trans hleft)
  exact ⟨_, _, hplan, hleft, hops, by decide +kernel, by decide +kernel⟩

end EditPlan
