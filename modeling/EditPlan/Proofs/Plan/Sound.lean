import EditPlan.Proofs.Binary64.Characters
import EditPlan.Proofs.Filter.Pads
import EditPlan.Proofs.Plan.Chain

/-!
Where a plan reads sound. A cut and a change of speed read a sound stream exactly if the source is declared to have one;
the declaration stays as it is for the whole plan, although a gif has no sound. So the sound of a gif is asked for.

Main statements:
- `readsSound_of_build`, `dropsSound_of_build`: which operations read sound, and which drop it;
- `readsSound_where_it_is_iff`: sound is read only where it exists exactly if the source is declared silent, or no cut that
  keeps something and no change of speed is behind an export as gif.
Witnesses:
- `readsSound_where_it_is_before_gif`: sound is read, and dropped at the end;
- `readsSound_behind_gif`: a cut reads the sound of a gif.
-/

namespace EditPlan

open Number

/-! ## Reading and dropping sound -/

section Definitions

variable {ν : Type}

/-- whether the call of an operation reads a sound stream: a cut by its graph or its maps, a change of speed by a filter -/
def Operation.ReadsSound (op : Operation ν) : Prop :=
  match op.detail with
  | .cut _ => (∃ graph, op.invocation.filterGraph = some graph ∧ Filter.HasPad graph "0:a") ∨
      "[outa]" ∈ op.invocation.maps
  | .effect name _ => (name = "slow_motion" ∨ name = "speed_up") ∧ op.invocation.audioFilter.isSome = true
  | _ => False

/-- whether what an operation writes has no sound because its options say so -/
def Operation.DropsSound (op : Operation ν) : Prop := "-an" ∈ op.invocation.outputOptions

/-- sound is read only where it exists: the source has it, and no operation before has dropped it -/
def Plan.ReadsSoundWhereItIs (declared : Bool) (plan : Plan ν) : Prop :=
  (∀ op ∈ plan.operations, op.ReadsSound → declared = true) ∧
    plan.operations.Pairwise fun before op => op.ReadsSound → ¬ before.DropsSound

namespace Detail

/-- a cut that keeps something, or a change of speed -/
def takesSound : Detail ν → Bool
  | .cut kept => !kept.isEmpty
  | .effect name _ => name == "slow_motion" || name == "speed_up"
  | _ => false

def isGif : Detail ν → Bool
  | .exportVideo format _ _ _ _ => format == "gif"
  | _ => false

end Detail

end Definitions

/-! ## Options -/

variable {s : State Binary64} {name : String} {intensity : Binary64}

theorem Filter.mem_of_lookup {α : Type} {table : List (String × α)} {key : String} {value : α}
    (h : table.lookup key = some value) : (key, value) ∈ table := by
  obtain ⟨front, back, rfl, -⟩ := List.lookup_eq_some_iff.1 h
  exact List.mem_append_right _ List.mem_cons_self

theorem Filter.not_mem_qualityOptions {table : List (String × List String)} {option : String}
    (h : ∀ row ∈ table, option ∉ row.2) (quality : String) : option ∉ Filter.qualityOptions table quality := by
  unfold qualityOptions
  cases hquality : table.lookup quality with
  | some options => exact h _ (mem_of_lookup hquality)
  | none =>
    cases hmedium : table.lookup "medium" with
    | some options => exact h _ (mem_of_lookup hmedium)
    | none => exact List.not_mem_nil

theorem sixPlaces_ne_dropSound (x : Binary64) : sixPlaces x ≠ "-an" := Binary64.sixPlaces_ne_dropSound x

namespace Build

/-- of the formats only gif is written without sound -/
theorem dropSound_mem_exportOptions (format quality : String) :
    "-an" ∈ exportOptions format quality ↔ format = "gif" := by
  have hwebm : "-an" ∉ Filter.qualityOptions Filter.webmQualityPresets quality :=
    Filter.not_mem_qualityOptions (by decide) quality
  have hothers : "-an" ∉ Filter.qualityOptions Filter.qualityPresets quality :=
    Filter.not_mem_qualityOptions (by decide) quality
  unfold exportOptions
  split_ifs with hgif
  · simp [hgif]
  · simp [hgif, hwebm]
  · simp [hgif, hothers]

/-- an effect has a sound filter exactly if it changes the speed of a source that has sound; it never drops sound -/
theorem effectParts_sound {picture : String} {sound : Option String} {options : List String}
    (h : effectParts s name intensity = .ok (picture, sound, options)) :
    (sound.isSome = true ↔ s.hasAudio = true ∧ (speedFactor? name intensity).isSome = true) ∧ "-an" ∉ options := by
  unfold effectParts at h
  cases hspeed : speedFactor? name intensity with
  | some factor =>
    rw [hspeed] at h
    dsimp only at h
    split_ifs at h with hstall haudio
    · simp only [Except.ok.injEq, Prod.mk.injEq] at h
      obtain ⟨-, rfl, rfl⟩ := h
      simp [haudio]
    · simp only [Except.ok.injEq, Prod.mk.injEq] at h
      obtain ⟨-, rfl, rfl⟩ := h
      simp [haudio, copySound]
  | none =>
    rw [hspeed] at h
    obtain ⟨_, -, h⟩ := bind_eq_ok.1 h
    simp only [pure, Except.pure, Except.ok.injEq, Prod.mk.injEq] at h
    obtain ⟨-, rfl, rfl⟩ := h
    simp [copySound]

end Build

/-! ## Operations of a plan -/

variable {setup : Setup Binary64} {s' : State Binary64} {input file file' : String} {c : Command Binary64}
  {op : Operation Binary64} {cs : List (Command Binary64)} {ops : List (Operation Binary64)}

/-- a cut reads sound exactly if the source has sound and something is kept -/
theorem Build.readsSound_cut (setup : Setup Binary64) (s : State Binary64) (input : String)
    (segments : List (Segment Binary64)) : (Build.cut setup s input segments).ReadsSound ↔
      s.hasAudio = true ∧ (Footage.kept segments s.duration).isEmpty = false := by
  set kept := Footage.kept segments s.duration with hkept
  cases hempty : kept.isEmpty with
  | true => simp [Build.cut, ← hkept, hempty, Operation.ReadsSound, Build.numbered]
  | false =>
    have hne : kept ≠ [] := by simpa using hempty
    have hpads := Filter.padsAre_graphText (Filter.isPlain_cutChains Filter.avoids_sixPlaces s.hasAudio kept)
    have hgraph := hpads.hasPad_iff "0:a" (by decide)
    rw [Filter.sound_mem_cutPads] at hgraph
    have hmaps : "[outa]" ∈ (Filter.cutOutputs s.hasAudio).map Filter.pad ↔ s.hasAudio = true := by
      cases s.hasAudio <;> decide
    simp [Build.cut, ← hkept, hempty, Operation.ReadsSound, hgraph, hmaps, hne]

theorem readsSound_of_kind (hcut : op.kind ≠ .cut) (heffect : op.kind ≠ .effect) :
    ¬ op.ReadsSound ∧ op.detail.takesSound = false := by
  unfold Operation.kind at hcut heffect
  unfold Operation.ReadsSound
  cases hdetail : op.detail with
  | cut kept => exact absurd (by rw [hdetail]; rfl) hcut
  | effect name intensity => exact absurd (by rw [hdetail]; rfl) heffect
  | _ => exact ⟨not_false, rfl⟩

/-- **Which operations read sound**: a cut that keeps something and a change of speed, if the source has sound -/
theorem readsSound_of_build (h : c.build setup s input = .ok (some op)) :
    op.ReadsSound ↔ s.hasAudio = true ∧ op.detail.takesSound = true := by
  have hkind := kind_of_build h
  cases c with
  | cut segments =>
    rw [← Option.some.inj (Except.ok.inj h), Build.readsSound_cut]
    simp [Build.cut, Detail.takesSound]
  | effect name intensity params =>
    obtain ⟨hdetail, picture, sound, options, hparts, hcall⟩ := Build.effect_ok h
    obtain ⟨hsound, -⟩ := Build.effectParts_sound hparts
    rw [Operation.ReadsSound, hdetail, hcall]
    dsimp only
    rw [hsound, speedFactor?_isSome]
    simp [Detail.takesSound]
  | unknown tag extras => exact absurd hkind (by simp [Command.kind?])
  | _ =>
    simp only [Command.kind?, Option.some.injEq] at hkind
    have hcut : op.kind ≠ .cut := by rw [← hkind]; decide
    have heffect : op.kind ≠ .effect := by rw [← hkind]; decide
    obtain ⟨hreads, htakes⟩ := readsSound_of_kind hcut heffect
    simp [hreads, htakes]

theorem isGif_of_kind (h : op.kind ≠ .exportVideo) : op.detail.isGif = false := by
  unfold Operation.kind at h
  cases hdetail : op.detail with
  | exportVideo format resolution aspectRatio quality fps => exact absurd (by rw [hdetail]; rfl) h
  | _ => rfl

theorem dropSound_not_mem_options (h : c.build setup s input = .ok (some op)) (hkind : op.kind ≠ .exportVideo) :
    "-an" ∉ op.invocation.outputOptions := by
  have hcommand := kind_of_build h
  cases c with
  | trim start stop =>
    rw [(Build.trim_ok h).2]
    simp [(sixPlaces_ne_dropSound _).symm]
  | cut segments =>
    rw [← Option.some.inj (Except.ok.inj h)]
    simp only [Build.cut]
    split_ifs
    · simp
    · simp [Build.numbered]
  | addCaptions style language =>
    obtain ⟨look, -, -, hcall⟩ := Build.addCaptions_ok h
    rw [hcall]
    simp [copySound]
  | audio action params =>
    obtain ⟨filter, -, hcall⟩ := Build.audio_ok h
    rw [hcall]
    simp [copyPicture]
  | effect name intensity params =>
    obtain ⟨-, picture, sound, options, hparts, hcall⟩ := Build.effect_ok h
    rw [hcall]
    exact (Build.effectParts_sound hparts).2
  | thumbnail count style timestamps =>
    obtain ⟨times, -, hcall⟩ := Build.thumbnail_ok h
    rw [hcall]
    have hframes := (Binary64.wholeText_ne_dropSound (Build.thumbnailFrames (max 1 count) times)).symm
    simp only [List.mem_cons, List.not_mem_nil, or_false, not_or]
    exact ⟨by decide, by decide, by decide, hframes⟩
  | exportVideo format resolution aspectRatio quality fps => exact absurd (Option.some.inj hcommand).symm hkind
  | unknown tag extras => exact absurd hcommand (by simp [Command.kind?])
  | _ =>
    rw [← Option.some.inj (Except.ok.inj h)]
    simp [Build.removeSilence, Build.colorCorrection, Build.transition, copySound, copyPicture]

/-- **Which operations drop sound**: exports as gif -/
theorem dropsSound_of_build (h : c.build setup s input = .ok (some op)) : op.DropsSound ↔ op.detail.isGif = true := by
  unfold Operation.DropsSound
  by_cases hkind : op.kind = .exportVideo
  · cases c with
    | exportVideo format resolution aspectRatio quality fps =>
      rw [← Option.some.inj (Except.ok.inj h)]
      have hrate := (sixPlaces_ne_dropSound (Build.exportRate fps)).symm
      simp [Build.exportVideo, Detail.isGif, Build.dropSound_mem_exportOptions, hrate]
    | _ => exact absurd (kind_of_build h) (by simp [hkind, Command.kind?])
  · exact iff_of_false (dropSound_not_mem_options h hkind) (by simp [isGif_of_kind hkind])

/-- each operation of a chain reads sound by the declaration at the start, whatever the operations before it have dropped -/
theorem Makes.sound (h : Makes setup s file cs ops s' file') (hop : op ∈ ops) :
    (op.ReadsSound ↔ s.hasAudio = true ∧ op.detail.takesSound = true) ∧
      (op.DropsSound ↔ op.detail.isGif = true) := by
  obtain ⟨i, hi⟩ := List.mem_iff_getElem?.1 hop
  obtain ⟨c, t, input, -, haudio, hb⟩ := h.built hi
  rw [← haudio]
  exact ⟨readsSound_of_build hb, dropsSound_of_build hb⟩

/-- **Where sound is read.** For every list of commands: an operation reads sound exactly if the source is declared to have
it and the operation is a cut that keeps something or a change of speed, and it drops sound exactly if it is an export as
gif. So sound is read only where it exists exactly if the source is declared silent, or no such cut and no change of speed
is behind such an export. -/
theorem readsSound_where_it_is_iff (planner : Planner Binary64) (context : Option (VideoContext Binary64))
    (cs : List (Command Binary64)) (plan : Plan Binary64) (h : (planner.plan context cs).result = .ok plan) :
    let declared := (context.map (·.hasAudio)).getD true
    (∀ op ∈ plan.operations, (op.ReadsSound ↔ declared = true ∧ op.detail.takesSound = true) ∧
      (op.DropsSound ↔ op.detail.isGif = true)) ∧
    (plan.ReadsSoundWhereItIs declared ↔ (declared = true → plan.operations.Pairwise fun before op =>
      before.detail.isGif = true → op.detail.takesSound = false)) := by
  intro declared
  have hsound : ∀ op ∈ plan.operations, (op.ReadsSound ↔ declared = true ∧ op.detail.takesSound = true) ∧
      (op.DropsSound ↔ op.detail.isGif = true) := fun op hop => (makes_of_plan h).sound hop
  refine ⟨hsound, ?_⟩
  have hdeclared : ∀ op ∈ plan.operations, op.ReadsSound → declared = true :=
    fun op hop hreads => ((hsound op hop).1.1 hreads).1
  have hpairs : (plan.operations.Pairwise fun before op => op.ReadsSound → ¬ before.DropsSound) ↔
      plan.operations.Pairwise fun before op => declared = true → before.detail.isGif = true →
        op.detail.takesSound = false := by
    refine List.Pairwise.iff_of_mem fun {before op} hbefore hop => ?_
    rw [(hsound op hop).1, (hsound before hbefore).2, ← Bool.not_eq_true]
    tauto
  rw [Plan.ReadsSoundWhereItIs, and_iff_right hdeclared, hpairs]
  cases declared with
  | false => exact iff_of_true (List.pairwise_of_forall fun _ _ h => absurd h Bool.false_ne_true) (by simp)
  | true => simp

/-- a cut, an export as gif, and a colour correction of the gif -/
theorem readsSound_where_it_is_before_gif :
    let planner := Planner.fresh (⟨"in.mp4", "/w", "ffmpeg", "captions.srt", zero⟩ : Setup Binary64)
    let cs : List (Command Binary64) := [.cut [⟨one, ofRat 2⟩],
      .exportVideo "gif" "original" "original" "medium" (ofRat 30), .colorCorrection {} none]
    ∃ plan, (planner.plan none cs).result = .ok plan ∧ (∃ op ∈ plan.operations, op.ReadsSound) ∧
      plan.ReadsSoundWhereItIs true := by
  intro planner cs
  have hsound := readsSound_where_it_is_iff planner none cs _ rfl
  refine ⟨_, rfl, ⟨_, List.mem_cons_self, ?_⟩, hsound.2.2 fun _ => by decide +kernel⟩
  exact (hsound.1 _ List.mem_cons_self).1.2 ⟨rfl, by decide +kernel⟩

/-- **A cut of a gif** reads the sound that the gif does not have -/
theorem readsSound_behind_gif :
    let planner := Planner.fresh (⟨"in.mp4", "/w", "ffmpeg", "captions.srt", zero⟩ : Setup Binary64)
    let cs : List (Command Binary64) := [.exportVideo "gif" "original" "original" "medium" (ofRat 30),
      .cut [⟨one, ofRat 2⟩]]
    ∃ plan, (planner.plan none cs).result = .ok plan ∧
      plan.operations.map (fun op => op.invocation.arguments) = [
        ["ffmpeg", "-y", "-i", "in.mp4", "-r", "30", "-an", "/w/output.gif"],
        ["ffmpeg", "-y", "-i", "/w/output.gif", "-filter_complex",
          "[0:v]trim=start=0:end=1,setpts=PTS-STARTPTS[v0]; [0:a]atrim=start=0:end=1,asetpts=PTS-STARTPTS[a0]; " ++
          "[0:v]trim=start=2,setpts=PTS-STARTPTS[v1]; [0:a]atrim=start=2,asetpts=PTS-STARTPTS[a1]; " ++
          "[v0][a0][v1][a1]concat=n=2:v=1:a=1[outv][outa]", "-map", "[outv]", "-map", "[outa]", "/w/temp_1.mp4"]] ∧
      ¬ plan.ReadsSoundWhereItIs true := by
  intro planner cs
  refine ⟨_, rfl, by decide +kernel, ?_⟩
  rintro ⟨-, hpairs⟩
  have hchain := makes_of_plan (show (planner.plan none cs).result = .ok _ from rfl)
  obtain ⟨hbehind, -⟩ := List.pairwise_cons.1 hpairs
  have hreads := (hchain.sound (List.mem_cons_of_mem _ List.mem_cons_self)).1.2 ⟨rfl, by decide +kernel⟩
  have hdrops := (hchain.sound List.mem_cons_self).2.2 (by decide +kernel)
  exact hbehind _ List.mem_cons_self hreads hdrops

end EditPlan
