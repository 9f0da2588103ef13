import EditPlan.Proofs.Plan.Sound

/-!
The streams of a call. A stream that a call copies goes into the new file as it is, so no filter can be put on it; and a
graph takes the place of the filters of single streams, since what it writes has to be mapped. ffmpeg refuses a call that
breaks one of these rules, but only once it runs.

Main statements:
- `Invocation.isCoherent_of_filters`: what is asked of a call that has no graph;
- `effectParts_streams`: an effect copies the sound unless it filters it;
- `isCoherent_of_build`: every call of every command keeps the rules, in every state.
Witness: `isCoherent_of_build_cut`.
-/

namespace EditPlan

open Number

/-! ## Copied and filtered streams -/

namespace Invocation

/-- whether an option of a call stands with the value right behind it -/
def HasOption (call : Invocation) (flag value : String) : Prop := [flag, value] <:+: call.outputOptions

/-- whether a call copies the picture, alone or with all streams -/
def CopiesPicture (call : Invocation) : Prop := call.HasOption "-c" "copy" ∨ call.HasOption "-c:v" "copy"

/-- whether a call copies the sound, alone or with all streams -/
def CopiesSound (call : Invocation) : Prop := call.HasOption "-c" "copy" ∨ call.HasOption "-c:a" "copy"

/-- whether a call filters the picture, by a filter of its own or by its graph -/
def FiltersPicture (call : Invocation) : Prop := call.videoFilter.isSome = true ∨ call.filterGraph.isSome = true

/-- whether a call filters the sound, by a filter of its own or in what it maps -/
def FiltersSound (call : Invocation) : Prop := call.audioFilter.isSome = true ∨ "[outa]" ∈ call.maps

def filters (call : Invocation) : List String :=
  call.filterGraph.toList ++ call.videoFilter.toList ++ call.audioFilter.toList

/-- rules for the streams of one call -/
structure IsCoherent (call : Invocation) : Prop where
  /-- a graph stands alone -/
  graph : call.filterGraph.isSome = true → call.videoFilter = none ∧ call.audioFilter = none
  picture : call.FiltersPicture → ¬ call.CopiesPicture
  sound : call.FiltersSound → ¬ call.CopiesSound
  /-- only a graph writes what can be mapped, and what it writes has to be -/
  maps : call.maps ≠ [] ↔ call.filterGraph.isSome = true
  /-- the argument vector leaves out empty texts, so there are none -/
  written : ∀ text ∈ call.filters, text ≠ ""

variable {call : Invocation} {flag value a b : String} {rest : List String}

/-- without a graph, only the options have to leave the filtered streams alone -/
theorem isCoherent_of_filters (hgraph : call.filterGraph = none) (hmaps : call.maps = [])
    (hpicture : ∀ text, call.videoFilter = some text → text ≠ "" ∧ ¬ call.CopiesPicture)
    (hsound : ∀ text, call.audioFilter = some text → text ≠ "" ∧ ¬ call.CopiesSound) : call.IsCoherent where
  graph h := by simp [hgraph] at h
  picture h := by
    rw [FiltersPicture, hgraph, Option.isSome_none, or_iff_left Bool.false_ne_true] at h
    obtain ⟨text, htext⟩ := Option.isSome_iff_exists.1 h
    exact (hpicture text htext).2
  sound h := by
    rw [FiltersSound, hmaps, or_iff_left List.not_mem_nil] at h
    obtain ⟨text, htext⟩ := Option.isSome_iff_exists.1 h
    exact (hsound text htext).2
  maps := by simp [hgraph, hmaps]
  written text h := by
    rw [filters, hgraph, Option.toList_none, List.nil_append, List.mem_append, Option.mem_toList, Option.mem_toList] at h
    exact h.elim (fun hvideo => (hpicture text hvideo).1) fun haudio => (hsound text haudio).1

/-- an option does not stand in a row that another one leads, if its value does not stand behind that one's -/
theorem not_hasOption_of_front (hoptions : call.outputOptions = a :: b :: rest) (hflag : flag ≠ a)
    (hvalue : value ∉ rest) : ¬ call.HasOption flag value := by
  rw [HasOption, hoptions, List.infix_cons_iff, List.infix_cons_iff]
  rintro (hfirst | hsecond | hinside)
  · exact hflag (List.cons_prefix_cons.1 hfirst).1
  · exact hvalue ((List.cons_prefix_cons.1 hsecond).2.subset List.mem_cons_self)
  · exact hvalue (hinside.subset (List.mem_cons_of_mem _ List.mem_cons_self))

theorem not_copiesPicture_copySound (hoptions : call.outputOptions = copySound) : ¬ call.CopiesPicture := by
  rw [CopiesPicture, HasOption, HasOption, hoptions]
  decide

theorem not_copiesSound_copyPicture (hoptions : call.outputOptions = copyPicture) : ¬ call.CopiesSound := by
  rw [CopiesSound, HasOption, HasOption, hoptions]
  decide

theorem not_hasOption_nil (hoptions : call.outputOptions = []) : ¬ call.HasOption flag value := by
  rw [HasOption, hoptions]
  simp

end Invocation

/-! ## Calls that write the next numbered file -/

section Numbered

open Build Invocation

variable {ν : Type} {setup : Setup ν} {s : State ν} {input : String}

theorem isCoherent_picture {filter : String} (hfilter : filter ≠ "") :
    Invocation.IsCoherent { numbered setup s input with videoFilter := some filter, outputOptions := copySound } := by
  refine isCoherent_of_filters rfl rfl (fun text htext => ?_) fun text htext => absurd htext (by simp [numbered])
  obtain rfl := Option.some.inj htext
  exact ⟨hfilter, not_copiesPicture_copySound rfl⟩

theorem isCoherent_sound {filter : String} (hfilter : filter ≠ "") :
    Invocation.IsCoherent { numbered setup s input with audioFilter := some filter, outputOptions := copyPicture } := by
  refine isCoherent_of_filters rfl rfl (fun text htext => absurd htext (by simp [numbered])) fun text htext => ?_
  obtain rfl := Option.some.inj htext
  exact ⟨hfilter, not_copiesSound_copyPicture rfl⟩

theorem isCoherent_both {picture sound : String} (hpicture : picture ≠ "") (hsound : sound ≠ "") :
    Invocation.IsCoherent { numbered setup s input with
      videoFilter := some picture, audioFilter := some sound, outputOptions := [] } := by
  refine isCoherent_of_filters rfl rfl (fun text htext => ?_) fun text htext => ?_
  · obtain rfl := Option.some.inj htext
    exact ⟨hpicture, not_or.2 ⟨not_hasOption_nil rfl, not_hasOption_nil rfl⟩⟩
  · obtain rfl := Option.some.inj htext
    exact ⟨hsound, not_or.2 ⟨not_hasOption_nil rfl, not_hasOption_nil rfl⟩⟩

theorem isCoherent_unfiltered {options : List String} :
    Invocation.IsCoherent { numbered setup s input with outputOptions := options } :=
  isCoherent_of_filters rfl rfl (fun text htext => absurd htext (by simp [numbered]))
    fun text htext => absurd htext (by simp [numbered])

end Numbered

/-! ## Texts of filters -/

theorem intercalate_ne_empty {separator text : String} {texts : List String} (hmem : text ∈ texts) (hne : text ≠ "") :
    String.intercalate separator texts ≠ "" := by
  induction texts with
  | nil => exact absurd hmem List.not_mem_nil
  | cons first texts ih =>
    cases texts with
    | nil =>
      rw [List.mem_singleton.1 hmem] at hne
      rwa [String.intercalate_singleton]
    | cons second texts =>
      rw [String.intercalate_cons_cons, Ne, String.append_eq_empty_iff, String.append_eq_empty_iff]
      rintro ⟨⟨hfirst, -⟩, hothers⟩
      rcases List.mem_cons.1 hmem with rfl | hmem
      · exact hne hfirst
      · exact ih hmem hothers

theorem stagesOrNull_ne_empty {stages : List String} (h : ∀ stage ∈ stages, stage ≠ "") : stagesOrNull stages ≠ "" := by
  unfold stagesOrNull
  cases stages with
  | nil => decide
  | cons stage stages => exact intercalate_ne_empty List.mem_cons_self (h stage List.mem_cons_self)

namespace Build

open EditPlan.Filter Invocation

variable {ν : Type} [Number ν] {setup : Setup ν} {s : State ν} {input : String} {op : Operation ν}

theorem namedNumber_ne_empty {name stage : String} {x : Option ν} (h : stage ∈ namedNumber name x) : stage ≠ "" := by
  cases x with
  | none => exact absurd h List.not_mem_nil
  | some x =>
    rw [namedNumber, List.mem_singleton] at h
    simp [h]

theorem presetStages_ne_empty {name stage : String} (h : stage ∈ presetStages name) : stage ≠ "" := by
  have htable : ∀ row ∈ colorPresets, ∀ stage ∈ row.2, stage ≠ "" := by decide
  unfold presetStages at h
  cases hrow : colorPresets.lookup name with
  | none => simp [hrow] at h
  | some stages =>
    rw [hrow, Option.getD_some] at h
    exact htable _ (mem_of_lookup hrow) stage h

theorem colorStages_ne_empty {a : ColorAdjustments ν} {preset : Option String} {stage : String}
    (h : stage ∈ colorStages a preset) : stage ≠ "" := by
  rw [colorStages, List.mem_append, List.mem_append] at h
  rcases h with (hpreset | heq) | htemperature
  · cases hname : presetName? preset with
    | none => simp [hname] at hpreset
    | some name =>
      rw [hname, Option.map_some, Option.getD_some] at hpreset
      exact presetStages_ne_empty hpreset
  · unfold eqStage at heq
    dsimp only at heq
    split_ifs at heq
    · exact absurd heq List.not_mem_nil
    · simp [List.mem_singleton.1 heq]
  · exact namedNumber_ne_empty htemperature

theorem transitionFilter_ne_empty (style : String) (duration : ν) (position : String) :
    transitionFilter s style duration position ≠ "" := by
  unfold transitionFilter
  dsimp only
  split_ifs
  · exact stagesOrNull_ne_empty (by simp)
  · exact stagesOrNull_ne_empty (by simp)
  · exact stagesOrNull_ne_empty (by simp)
  · exact stagesOrNull_ne_empty (by simp)
  · simp
  · simp

theorem exportStages_ne_empty {resolution aspectRatio stage : String}
    (h : stage ∈ exportStages resolution aspectRatio) : stage ≠ "" := by
  unfold exportStages at h
  rw [List.mem_append] at h
  rcases h with h | h
  · split at h
    · simp [List.mem_singleton.1 h]
    · exact absurd h List.not_mem_nil
  · split at h
    · simp [List.mem_singleton.1 h]
    · exact absurd h List.not_mem_nil

theorem audioFilter_ne_empty {action filter description : String} {params : AudioParams ν}
    (h : audioFilter s action params = .ok (filter, description)) : filter ≠ "" := by
  unfold audioFilter at h
  split_ifs at h
  · simp [← (Prod.mk.inj (Except.ok.inj h)).1]
  · simp [← (Prod.mk.inj (Except.ok.inj h)).1]
  · obtain ⟨percent, -, h⟩ := bind_eq_ok.1 h
    simp [← (Prod.mk.inj (Except.ok.inj h)).1]
  · simp [← (Prod.mk.inj (Except.ok.inj h)).1]
  · simp [← (Prod.mk.inj (Except.ok.inj h)).1]
  · simp [← (Prod.mk.inj (Except.ok.inj h)).1]

theorem effectFilter_ne_empty {name picture : String} {intensity : ν}
    (h : effectFilter name intensity = .ok picture) : picture ≠ "" := by
  unfold effectFilter at h
  split_ifs at h
  · obtain ⟨radius, -, h⟩ := bind_eq_ok.1 h
    simp [← Except.ok.inj h]
  · simp [← Except.ok.inj h]
  · simp [← Except.ok.inj h]
  · obtain ⟨amount, -, h⟩ := bind_eq_ok.1 h
    simp [← Except.ok.inj h]
  · simp [← Except.ok.inj h]
  · simp [← Except.ok.inj h]
  · simp [← Except.ok.inj h]
  · simp [← Except.ok.inj h]

/-- **An effect copies the sound unless it filters it**: then there are no options at all -/
theorem effectParts_streams {name picture : String} {intensity : ν} {sound : Option String} {options : List String}
    (h : effectParts s name intensity = .ok (picture, sound, options)) :
    picture ≠ "" ∧ (sound = none ∧ options = copySound ∨ (∃ text, sound = some text ∧ text ≠ "") ∧ options = []) := by
  unfold effectParts at h
  cases hspeed : speedFactor? name intensity with
  | some factor =>
    rw [hspeed] at h
    dsimp only at h
    split_ifs at h
    · simp only [Except.ok.injEq, Prod.mk.injEq] at h
      obtain ⟨rfl, rfl, rfl⟩ := h
      exact ⟨by simp, Or.inr ⟨⟨_, rfl, by simp⟩, rfl⟩⟩
    · simp only [Except.ok.injEq, Prod.mk.injEq] at h
      obtain ⟨rfl, rfl, rfl⟩ := h
      exact ⟨by simp, Or.inl ⟨rfl, rfl⟩⟩
  | none =>
    rw [hspeed] at h
    obtain ⟨filter, hfilter, h⟩ := bind_eq_ok.1 h
    simp only [pure, Except.pure, Except.ok.injEq, Prod.mk.injEq] at h
    obtain ⟨rfl, rfl, rfl⟩ := h
    exact ⟨effectFilter_ne_empty hfilter, Or.inl ⟨rfl, rfl⟩⟩

theorem copy_not_mem_exportOptions (format quality : String) : "copy" ∉ exportOptions format quality := by
  have hwebm : "copy" ∉ qualityOptions webmQualityPresets quality := not_mem_qualityOptions (by decide) quality
  have hothers : "copy" ∉ qualityOptions qualityPresets quality := not_mem_qualityOptions (by decide) quality
  unfold exportOptions
  split_ifs
  · decide
  · simp [hwebm]
  · simp [hothers]

theorem thumbnailFilter_ne_empty (times : List ν) : thumbnailFilter times ≠ "" := by
  cases times <;> simp [thumbnailFilter]

/-! ## Calls of the builders -/

/-- a call with a graph, whose pads are mapped -/
theorem isCoherent_cut (segments : List (Segment ν)) : (cut setup s input segments).invocation.IsCoherent := by
  unfold cut
  dsimp only
  split_ifs
  · exact isCoherent_unfiltered
  · have hmaps : (cutOutputs s.hasAudio).map pad ≠ [] := by
      unfold cutOutputs
      split_ifs <;> simp
    have htext : graphText (cutChains s.hasAudio (Footage.kept segments s.duration)) ≠ "" := by
      refine intercalate_ne_empty (List.mem_map_of_mem (List.mem_append_right _ (List.mem_singleton_self _))) ?_
      simp [Chain.text, concatChain]
    exact {
      graph := fun _ => ⟨rfl, rfl⟩
      picture := fun _ => not_or.2 ⟨not_hasOption_nil rfl, not_hasOption_nil rfl⟩
      sound := fun _ => not_or.2 ⟨not_hasOption_nil rfl, not_hasOption_nil rfl⟩
      maps := iff_of_true hmaps rfl
      written := by simpa [filters, numbered] using htext }

theorem isCoherent_export (format resolution aspectRatio quality : String) (fps : ν) :
    (exportVideo setup input format resolution aspectRatio quality fps).invocation.IsCoherent := by
  have hcopy : ∀ flag, flag ≠ "-r" →
      ¬ (exportVideo setup input format resolution aspectRatio quality fps).invocation.HasOption flag "copy" :=
    fun flag hflag => not_hasOption_of_front rfl hflag (copy_not_mem_exportOptions format quality)
  refine isCoherent_of_filters rfl rfl (fun text htext => ⟨?_, not_or.2 ⟨hcopy _ (by decide), hcopy _ (by decide)⟩⟩)
    fun text htext => absurd htext (by simp [exportVideo])
  simp only [exportVideo] at htext
  split_ifs at htext with hstages
  obtain ⟨stage, hstage⟩ := List.exists_mem_of_ne_nil _ (mt List.isEmpty_iff.2 hstages)
  obtain rfl := Option.some.inj htext
  exact intercalate_ne_empty hstage (exportStages_ne_empty hstage)

theorem isCoherent_thumbnail {times : List ν} {file frames : String} :
    Invocation.IsCoherent {
      input := input
      output := file
      binary := setup.binary
      videoFilter := some (thumbnailFilter times)
      outputOptions := ["-vsync", "vfr", "-frames:v", frames] } := by
  refine isCoherent_of_filters rfl rfl (fun text htext => ?_) fun text htext => absurd htext (by simp)
  obtain rfl := Option.some.inj htext
  refine ⟨thumbnailFilter_ne_empty times, ?_⟩
  simp [CopiesPicture, HasOption, List.infix_cons_iff, List.cons_prefix_cons]

end Build

/-! ## Every call -/

open Build in
/-- **No call filters a stream that it copies.** Whatever the fields of a command hold and whatever the state is, the call
of its operation keeps the rules: a graph stands without filters of single streams and exactly where something is mapped,
and neither the picture nor the sound is filtered in a call that copies it. -/
theorem isCoherent_of_build {ν : Type} [Number ν] {setup : Setup ν} {s : State ν} {input : String} {c : Command ν}
    {op : Operation ν} (h : c.build setup s input = .ok (some op)) : op.invocation.IsCoherent := by
  cases c with
  | trim start stop =>
    rw [(trim_ok h).2]
    exact isCoherent_unfiltered
  | cut segments =>
    rw [← Option.some.inj (Except.ok.inj h)]
    exact isCoherent_cut segments
  | removeSilence threshold minDuration padding =>
    rw [← Option.some.inj (Except.ok.inj h)]
    exact isCoherent_sound (intercalate_ne_empty (List.mem_cons_of_mem _ List.mem_cons_self) (by decide))
  | addCaptions style language =>
    obtain ⟨look, -, -, hcall⟩ := addCaptions_ok h
    rw [hcall]
    exact isCoherent_picture (by simp)
  | colorCorrection adjustments preset =>
    rw [← Option.some.inj (Except.ok.inj h)]
    exact isCoherent_picture (stagesOrNull_ne_empty fun stage => colorStages_ne_empty)
  | audio action params =>
    obtain ⟨⟨filter, description⟩, hfilter, h⟩ := bind_eq_ok.1 (map_some_eq_ok.1 h)
    rw [← Except.ok.inj h]
    exact isCoherent_sound (audioFilter_ne_empty hfilter)
  | transition style duration position =>
    rw [← Option.some.inj (Except.ok.inj h)]
    exact isCoherent_picture (transitionFilter_ne_empty style duration position)
  | effect name intensity params =>
    obtain ⟨-, picture, sound, options, hparts, hcall⟩ := effect_ok h
    rw [hcall]
    obtain ⟨hpicture, ⟨rfl, rfl⟩ | ⟨⟨text, rfl, htext⟩, rfl⟩⟩ := effectParts_streams hparts
    · exact isCoherent_picture hpicture
    · exact isCoherent_both hpicture htext
  | exportVideo format resolution aspectRatio quality fps =>
    rw [← Option.some.inj (Except.ok.inj h)]
    exact isCoherent_export format resolution aspectRatio quality fps
  | thumbnail count style timestamps =>
    obtain ⟨times, -, hcall⟩ := thumbnail_ok h
    rw [hcall]
    exact isCoherent_thumbnail
  | unknown tag extras => exact absurd (Except.ok.inj h) (by simp)

/-- the front of a video with sound is cut away: both streams go through the graph, so both are mapped and none is copied -/
theorem isCoherent_of_build_cut :
    let setup : Setup Binary64 := ⟨"in.mp4", "/w", "ffmpeg", "captions.srt", zero⟩
    ∃ op, (Command.cut [⟨zero, (one : Binary64)⟩]).build setup ⟨0, none, true⟩ "in.mp4" = .ok (some op) ∧
      op.invocation.arguments = ["ffmpeg", "-y", "-i", "in.mp4", "-filter_complex",
        "[0:v]trim=start=1,setpts=PTS-STARTPTS[v0]; [0:a]atrim=start=1,asetpts=PTS-STARTPTS[a0]; " ++
        "[v0][a0]concat=n=1:v=1:a=1[outv][outa]", "-map", "[outv]", "-map", "[outa]", "/w/temp_1.mp4"] ∧
      op.invocation.FiltersPicture ∧ op.invocation.FiltersSound ∧ op.invocation.IsCoherent := by
  intro setup
  have hbuild : (Command.cut [⟨zero, (one : Binary64)⟩]).build setup ⟨0, none, true⟩ "in.mp4" =
    .ok (some (Build.cut setup ⟨0, none, true⟩ "in.mp4" [⟨zero, one⟩])) := rfl
  refine ⟨_, hbuild, by decide +kernel, Or.inr (by decide +kernel), Or.inr (by decide +kernel), ?_⟩
  exact isCoherent_of_build hbuild

end EditPlan
