import EditPlan.Proofs.Plan.Neutral

/-!
What the texts of a command do. Most of them are looked up in a table or told apart by a fixed set of words; a text outside
counts as the usual one, or as no word at all. So a command calls ffmpeg as the same command does in which every text is one
of a fixed vocabulary. Two texts go further: the look of captions goes into their filter, and the format of an export goes
into the name of its file.

Main statements:
- `invocation_recognised`, `advance_recognised`: a command and what is recognised of it make the same call in every state;
- `recognised_of_reworded`: replacing texts that are not recognised leaves what is recognised;
- `filters_gist`, `onlyWords_gist`: the filters of a command without captions are those of words of the vocabulary;
- `Makes.output_congr`: the files of a chain depend on the kinds of its commands and the formats of its exports alone;
- `calls_reworded`: all of this for plans.
Witness:
- `calls_reworded_all_kinds`: every kind of text replaced in one list.
-/

namespace EditPlan

open Number EditPlan.Filter

/-! ## Words -/

namespace Filter

def names {α : Type} (table : List (String × α)) : List String := table.map Prod.fst

/-- actions on the sound that are told apart -/
def audioActions : List String := ["normalize", "reduce_noise", "adjust_volume", "fade_in", "fade_out"]

/-- transitions that are told apart -/
def transitionStyles : List String := ["fade", "blur"]

/-- places of a fade that are told apart -/
def fadePositions : List String := ["start", "end", "all"]

/-- effects that are told apart -/
def effectNames : List String :=
  ["blur", "sharpen", "vignette", "film_grain", "slow_motion", "speed_up", "stabilize", "zoom_in", "zoom_out"]

/-- all words that are told apart, and those that stand for the others -/
def vocabulary : List String :=
  "" :: "original" :: names colorPresets ++ audioActions ++ transitionStyles ++ fadePositions ++ effectNames
    ++ names resolutions ++ names aspectRatios ++ names qualityPresets

/-- a text that is known; any other counts as the usual one -/
def recognise (known : List String) (usual text : String) : String := if text ∈ known then text else usual

/-- a text that stays, or is not known and becomes the usual one -/
def Settles (known : List String) (usual before after : String) : Prop := after = before ∨ before ∉ known ∧ after = usual

/-- a text that stays, or is not known and becomes another one that is not known -/
def Swaps (known : List String) (before after : String) : Prop := after = before ∨ before ∉ known ∧ after ∉ known

variable {known : List String} {usual before after text : String}

theorem recognise_of_mem (h : text ∈ known) : recognise known usual text = text := if_pos h

theorem recognise_of_not_mem (h : text ∉ known) : recognise known usual text = usual := if_neg h

theorem recognise_of_settles (h : Settles known usual before after) :
    recognise known usual after = recognise known usual before := by
  rcases h with rfl | ⟨hunknown, rfl⟩
  · rfl
  · rw [recognise_of_not_mem hunknown, recognise, ite_self]

theorem recognise_of_swaps (h : Swaps known before after) :
    recognise known usual after = recognise known usual before := by
  rcases h with rfl | ⟨hbefore, hafter⟩
  · rfl
  · rw [recognise_of_not_mem hbefore, recognise_of_not_mem hafter]

/-- where the usual text is not known, a known word is only recognised from itself -/
theorem recognise_eq_iff (husual : usual ∉ known) {word : String} (hword : word ∈ known) :
    recognise known usual text = word ↔ text = word := by
  by_cases h : text ∈ known
  · rw [recognise_of_mem h]
  · rw [recognise_of_not_mem h]
    refine iff_of_false ?_ ?_
    · rintro rfl
      exact husual hword
    · rintro rfl
      exact h hword

theorem recognise_mem {words : List String} (hknown : known ⊆ words) (husual : usual ∈ words) (text : String) :
    recognise known usual text ∈ words := by
  by_cases h : text ∈ known
  · rw [recognise_of_mem h]
    exact hknown h
  · rw [recognise_of_not_mem h]
    exact husual

theorem lookup_eq_none {α : Type} {table : List (String × α)} (h : text ∉ names table) : table.lookup text = none := by
  rw [List.lookup_eq_none_iff]
  intro entry hentry
  have hne : text ≠ entry.1 := fun heq => h (heq ▸ List.mem_map_of_mem hentry)
  simpa using hne

/-- **A look-up with a usual entry** finds the same for a text and for what is recognised of it -/
theorem lookup_recognise {α : Type} (table : List (String × α)) (usual text : String) :
    (table.lookup (recognise (names table) usual text)).or (table.lookup usual) =
      (table.lookup text).or (table.lookup usual) := by
  by_cases h : text ∈ names table
  · rw [recognise_of_mem h]
  · rw [recognise_of_not_mem h, lookup_eq_none h, Option.or_self, Option.none_or]

theorem lookup_recognise_of_none {α : Type} {table : List (String × α)} (husual : table.lookup usual = none)
    (text : String) : table.lookup (recognise (names table) usual text) = table.lookup text := by
  simpa [husual] using lookup_recognise table usual text

end Filter

/-! ## What is recognised of a command -/

variable {ν : Type} [Number ν] {setup : Setup ν} {s s' t t' : State ν} {file file' input output : String}
  {c d : Command ν} {cs ds : List (Command ν)} {op : Operation ν} {ops ops' : List (Operation ν)}

namespace Command

/-- a command of which only the texts are left that are recognised, and the look of captions and the format of an export -/
def recognised : Command ν → Command ν
  | .addCaptions style _ =>
    .addCaptions { style with position := recognise (names captionAlignments) "bottom" style.position } ""
  | .colorCorrection adjustments preset => .colorCorrection adjustments (preset.filter (· ∈ names colorPresets))
  | .audio action params => .audio (recognise audioActions "" action) { params with musicUrl := none }
  | .transition style duration position =>
    .transition (recognise transitionStyles "" style) duration (recognise fadePositions "" position)
  | .effect name intensity _ => .effect (recognise effectNames "" name) intensity []
  | .exportVideo format resolution aspectRatio quality fps =>
    .exportVideo format (recognise (names resolutions) "original" resolution)
      (recognise (names aspectRatios) "original" aspectRatio) (recognise (names qualityPresets) "medium" quality) fps
  | .thumbnail count _ timestamps => .thumbnail count "" timestamps
  | .unknown _ _ => .unknown "" []
  | c => c

/-- what is recognised of a command, without the format of an export -/
def gist (c : Command ν) : Command ν :=
  match c.recognised with
  | .exportVideo _ resolution aspectRatio quality fps => .exportVideo "" resolution aspectRatio quality fps
  | d => d

/-- a command whose texts are words of the vocabulary, and which holds nothing that is not looked at -/
def OnlyWords : Command ν → Prop
  | .trim .. => True
  | .cut .. => True
  | .removeSilence .. => True
  | .addCaptions .. => False
  | .colorCorrection _ preset => ∀ p ∈ preset, p ∈ vocabulary
  | .audio action params => action ∈ vocabulary ∧ params.musicUrl = none
  | .transition style _ position => style ∈ vocabulary ∧ position ∈ vocabulary
  | .effect name _ params => name ∈ vocabulary ∧ params = []
  | .exportVideo format resolution aspectRatio quality _ =>
    format ∈ vocabulary ∧ resolution ∈ vocabulary ∧ aspectRatio ∈ vocabulary ∧ quality ∈ vocabulary
  | .thumbnail _ style _ => style ∈ vocabulary
  | .unknown tag extras => tag ∈ vocabulary ∧ extras = []

/-- a command in which texts that are not recognised were replaced -/
inductive Reworded : Command ν → Command ν → Prop
  | same (c : Command ν) : Reworded c c
  | addCaptions {style : CaptionStyle} {position : String}
      (h : Settles (names captionAlignments) "bottom" style.position position) (before after : String) :
      Reworded (.addCaptions style before) (.addCaptions { style with position := position } after)
  | colorCorrection (adjustments : ColorAdjustments ν) {preset : String} (h : preset ∉ names colorPresets) :
      Reworded (.colorCorrection adjustments (some preset)) (.colorCorrection adjustments none)
  | audio {before after : String} (h : Swaps audioActions before after) (params : AudioParams ν) :
      Reworded (.audio before params) (.audio after params)
  | transition {before after here there : String} (hstyle : Swaps transitionStyles before after) (duration : ν)
      (hposition : Swaps fadePositions here there) :
      Reworded (.transition before duration here) (.transition after duration there)
  | effect {before after : String} (h : Swaps effectNames before after) (intensity : ν) (params : Object) :
      Reworded (.effect before intensity params) (.effect after intensity params)
  | exportVideo (format : String) {size size' ratio ratio' quality quality' : String}
      (hsize : Settles (names resolutions) "original" size size')
      (hratio : Settles (names aspectRatios) "original" ratio ratio')
      (hquality : Settles (names qualityPresets) "medium" quality quality') (fps : ν) :
      Reworded (.exportVideo format size ratio quality fps) (.exportVideo format size' ratio' quality' fps)
  | thumbnail (count : Int) (before after : String) (timestamps : Option (List ν)) :
      Reworded (.thumbnail count before timestamps) (.thumbnail count after timestamps)

omit [Number ν] in
/-- **Texts that are not recognised leave no trace**: when they are replaced, the same is recognised -/
theorem recognised_of_reworded (h : Reworded c d) : d.recognised = c.recognised := by
  cases h with
  | same => rfl
  | addCaptions h => simp only [recognised, recognise_of_settles h]
  | colorCorrection adjustments h => simp [recognised, Option.filter, h]
  | audio h => simp only [recognised, recognise_of_swaps h]
  | transition hstyle _ hposition => simp only [recognised, recognise_of_swaps hstyle, recognise_of_swaps hposition]
  | effect h => simp only [recognised, recognise_of_swaps h]
  | exportVideo format hsize hratio hquality =>
    simp only [recognised, recognise_of_settles hsize, recognise_of_settles hratio, recognise_of_settles hquality]
  | thumbnail => rfl

omit [Number ν] in
/-- what is recognised of a command without captions says nothing but words of the vocabulary -/
theorem onlyWords_gist (h : c.kind? ≠ some .addCaptions) : c.gist.OnlyWords := by
  have hempty : "" ∈ vocabulary := by decide
  have hmedium : "medium" ∈ vocabulary := by decide
  have horiginal : "original" ∈ vocabulary := by decide
  cases c with
  | addCaptions => exact absurd rfl h
  | colorCorrection adjustments preset =>
    intro p hp
    have hknown : p ∈ names colorPresets := by simpa using (Option.filter_eq_some_iff.1 hp).2
    exact (by decide : names colorPresets ⊆ vocabulary) hknown
  | audio action params => exact ⟨recognise_mem (by decide) hempty action, rfl⟩
  | transition style duration position =>
    exact ⟨recognise_mem (by decide) hempty style, recognise_mem (by decide) hempty position⟩
  | effect name intensity params => exact ⟨recognise_mem (by decide) hempty name, rfl⟩
  | exportVideo format resolution aspectRatio quality fps =>
    exact ⟨hempty, recognise_mem (by decide) horiginal resolution, recognise_mem (by decide) horiginal aspectRatio,
      recognise_mem (by decide) hmedium quality⟩
  | thumbnail => exact hempty
  | unknown => exact ⟨hempty, rfl⟩
  | _ => exact trivial

end Command

/-! ## Builders -/

namespace Filter

theorem presetStages_of_not_mem {preset : String} (h : preset ∉ names colorPresets) : presetStages preset = [] := by
  rw [presetStages, lookup_eq_none h, Option.getD_none]

theorem captionAlignment_recognise (position : String) :
    captionAlignment (recognise (names captionAlignments) "bottom" position) = captionAlignment position := by
  have hdefault : captionAlignments.lookup "bottom" = some defaultCaptionAlignment := by decide
  have hlookup := congrArg (Option.getD · defaultCaptionAlignment) (lookup_recognise captionAlignments "bottom" position)
  simpa only [captionAlignment, hdefault, Option.getD_or, Option.getD_some] using hlookup

theorem qualityOptions_recognise (table : List (String × List String)) (h : names table = names qualityPresets)
    (quality : String) :
    qualityOptions table (recognise (names qualityPresets) "medium" quality) = qualityOptions table quality := by
  rw [qualityOptions, qualityOptions, ← h, lookup_recognise]

end Filter

namespace Build

theorem colorStages_recognise (adjustments : ColorAdjustments ν) (preset : Option String) :
    colorStages adjustments (preset.filter (· ∈ names colorPresets)) = colorStages adjustments preset := by
  cases preset with
  | none => rfl
  | some p =>
    by_cases h : p ∈ names colorPresets
    · rw [Option.filter_some_pos (by simpa using h)]
    · have hstages : ((presetName? (some p)).map presetStages).getD [] = [] := by
        simp only [presetName?]
        split_ifs
        · rfl
        · exact presetStages_of_not_mem h
      rw [Option.filter_some_neg (by simpa using h), colorStages, colorStages, hstages]
      rfl

theorem audioFilter_recognise (s : State ν) (action : String) (params : AudioParams ν) :
    audioFilter s (recognise audioActions "" action) { params with musicUrl := none } = audioFilter s action params := by
  simp (disch := decide) only [audioFilter, recognise_eq_iff]

theorem transitionFilter_recognise (s : State ν) (style : String) (duration : ν) (position : String) :
    transitionFilter s (recognise transitionStyles "" style) duration (recognise fadePositions "" position) =
      transitionFilter s style duration position := by
  simp (disch := decide) only [transitionFilter, recognise_eq_iff]

theorem speedFactor?_recognise (name : String) (intensity : ν) :
    speedFactor? (recognise effectNames "" name) intensity = speedFactor? name intensity := by
  simp (disch := decide) only [speedFactor?, recognise_eq_iff]

theorem effectParts_recognise (s : State ν) (name : String) (intensity : ν) :
    effectParts s (recognise effectNames "" name) intensity = effectParts s name intensity := by
  simp (disch := decide) only [effectParts, effectFilter, speedFactor?_recognise, recognise_eq_iff]

theorem exportStages_recognise (resolution aspectRatio : String) :
    exportStages (recognise (names resolutions) "original" resolution)
      (recognise (names aspectRatios) "original" aspectRatio) = exportStages resolution aspectRatio := by
  rw [exportStages, exportStages, lookup_recognise_of_none (by decide), lookup_recognise_of_none (by decide)]

theorem exportOptions_recognise (format quality : String) :
    exportOptions format (recognise (names qualityPresets) "medium" quality) = exportOptions format quality := by
  have hwebm := qualityOptions_recognise webmQualityPresets rfl quality
  have hothers := qualityOptions_recognise qualityPresets rfl quality
  rw [exportOptions, exportOptions, hwebm, hothers]

end Build

/-! ## The same calls -/

/-- **What is recognised of a command makes the same call**, or has the same fault, in every state -/
theorem invocation_recognised (setup : Setup ν) (s : State ν) (file : String) (c : Command ν) :
    (c.recognised.build setup s file).map (Option.map Operation.invocation) =
      (c.build setup s file).map (Option.map Operation.invocation) := by
  cases c with
  | addCaptions style language =>
    simp only [Command.recognised, Command.build, Build.addCaptions, Build.forceStyle, captionAlignment_recognise]
    cases Numeral.text style.fontSize <;> rfl
  | colorCorrection adjustments preset =>
    simp only [Command.recognised, Command.build, Build.colorCorrection, Build.colorStages_recognise]
    rfl
  | audio action params =>
    simp only [Command.recognised, Command.build, Build.audio, Build.audioFilter_recognise]
    cases Build.audioFilter s action params <;> rfl
  | transition style duration position =>
    simp only [Command.recognised, Command.build, Build.transition, Build.transitionFilter_recognise]
    rfl
  | effect name intensity params =>
    simp only [Command.recognised, Command.build, Build.effect, Build.effectParts_recognise]
    cases Build.effectParts s name intensity <;> rfl
  | exportVideo format resolution aspectRatio quality fps =>
    simp only [Command.recognised, Command.build, Build.exportVideo, Build.exportStages_recognise,
      Build.exportOptions_recognise]
    rfl
  | thumbnail count style timestamps =>
    simp only [Command.recognised, Command.build, Build.thumbnail]
    cases Build.thumbnailTimes s (max 1 count) timestamps with
    | error e => rfl
    | ok times =>
      simp only [bind, Except.bind]
      cases Build.framesText (max 1 count) times <;> rfl
  | _ => rfl

theorem advance_recognised (s : State ν) (c : Command ν) : c.recognised.advance s = c.advance s := by
  cases c with
  | effect name intensity params =>
    simp only [Command.recognised, Command.advance, Command.durationAfter, Build.speedFactor?_recognise]
    rfl
  | _ => rfl

/-- filters of a call: the graph, and those of the picture and of the sound -/
def Operation.filters {ν : Type} (op : Operation ν) : Option String × Option String × Option String :=
  (op.invocation.filterGraph, op.invocation.videoFilter, op.invocation.audioFilter)

/-- outcomes that agree in what `f` shows agree in what it shows further -/
theorem map_option_congr {ε α β γ : Type} {x y : Except ε (Option α)} {f : α → β} (g : β → γ)
    (h : x.map (Option.map f) = y.map (Option.map f)) :
    x.map (Option.map fun a => g (f a)) = y.map (Option.map fun a => g (f a)) := by
  have hfurther := congrArg (Except.map (Option.map g)) h
  rcases x with e | (_ | a) <;> rcases y with e' | (_ | b) <;> exact hfurther

/-- **The gist of a command has the same filters**, whatever the files are -/
theorem filters_gist (setup : Setup ν) (s : State ν) (file input : String) (c : Command ν) :
    (c.gist.build setup s file).map (Option.map Operation.filters) =
      (c.build setup s input).map (Option.map Operation.filters) := by
  have hfiles : (c.build setup s file).map (Option.map Operation.filters) =
      (c.build setup s input).map (Option.map Operation.filters) :=
    map_option_congr (f := Operation.withoutFiles) Operation.filters (withoutFiles_build ⟨rfl, rfl⟩ c input file)
  have htexts : (c.recognised.build setup s file).map (Option.map Operation.filters) =
      (c.build setup s file).map (Option.map Operation.filters) :=
    map_option_congr (fun call : Invocation => (call.filterGraph, call.videoFilter, call.audioFilter))
      (invocation_recognised setup s file c)
  rw [← hfiles, ← htexts]
  cases c <;> rfl

theorem advance_gist (s : State ν) (c : Command ν) : c.gist.advance s = c.advance s := by
  rw [← advance_recognised s c]
  cases c <;> rfl

/-! ## Two runs that look the same -/

section View

variable {β : Type} {view : Operation ν → β} {near : String → String → Prop} {p q : Progress ν}

/-- two outcomes that look the same: the same fault, or operations of one view whose files are near to each other -/
inductive SameBuild (view : Operation ν → β) (near : String → String → Prop) :
    Except Fault (Option (Operation ν)) → Except Fault (Option (Operation ν)) → Prop
  | fault (e : Fault) : SameBuild view near (.error e) (.error e)
  | none : SameBuild view near (.ok none) (.ok none)
  | some {a b : Operation ν} (hview : view a = view b) (hfile : near a.output b.output) :
      SameBuild view near (.ok (some a)) (.ok (some b))

omit [Number ν] in
theorem sameBuild_of_map {x y : Except Fault (Option (Operation ν))}
    (hnear : ∀ a b, view a = view b → near a.output b.output) (h : x.map (Option.map view) = y.map (Option.map view)) :
    SameBuild view near x y := by
  rcases x with e | (_ | a) <;> rcases y with e' | (_ | b) <;> simp [Except.map] at h
  · exact h ▸ .fault e
  · exact .none
  · exact .some h (hnear a b h)

namespace Progress

/-- two runs that look the same -/
structure SameView (view : Operation ν → β) (near : String → String → Prop) (p q : Progress ν) : Prop where
  state : p.state = q.state
  current : near p.current q.current
  seen : p.operations.map view = q.operations.map view
  fault : p.fault = q.fault

/-- two commands that look the same wherever they are planned -/
structure SameSteps (setup : Setup ν) (view : Operation ν → β) (near : String → String → Prop) (c d : Command ν) :
    Prop where
  advance : ∀ s : State ν, c.advance s = d.advance s
  build : ∀ (s : State ν) (file input : String), near file input →
    SameBuild view near (c.build setup s file) (d.build setup s input)

theorem SameView.step (h : SameView view near p q) (hsteps : SameSteps setup view near c d) :
    SameView view near (step setup p c) (step setup q d) := by
  cases hq : q.fault with
  | some e =>
    rw [step_stopped (by rw [h.fault, hq]; rfl), step_stopped (by rw [hq]; rfl)]
    exact h
  | none =>
    have hp : p.fault = none := h.fault.trans hq
    have hstate : c.advance p.state = d.advance q.state := by rw [h.state, hsteps.advance]
    have hbuild := hsteps.build p.state p.current q.current h.current
    generalize hx : c.build setup p.state p.current = x at hbuild
    generalize hy : d.build setup p.state q.current = y at hbuild
    rw [h.state] at hy
    cases hbuild with
    | fault e =>
      rw [step_error hp hx, step_error hq hy]
      exact ⟨hstate, h.current, h.seen, rfl⟩
    | none =>
      rw [step_none hp hx, step_none hq hy]
      exact ⟨hstate, h.current, h.seen, h.fault⟩
    | some hview hfile =>
      rw [step_some hp hx, step_some hq hy]
      exact ⟨hstate, hfile, by simp [h.seen, hview], h.fault⟩

/-- **Lists whose commands look the same** have runs that look the same -/
theorem SameView.run (h : SameView view near p q) (hcs : List.Forall₂ (SameSteps setup view near) cs ds) :
    SameView view near (run setup p cs) (run setup q ds) := by
  induction hcs generalizing p q with
  | nil => exact h
  | cons hsteps _ ih => exact ih (h.step hsteps)

omit [Number ν] in
theorem SameView.result_eq (h : SameView view near p q) :
    p.result.map (fun plan => plan.operations.map view) = q.result.map fun plan => plan.operations.map view := by
  rw [result, result, h.fault]
  cases q.fault with
  | some e => rfl
  | none => exact congrArg Except.ok h.seen

end Progress

/-- **A list and one whose commands look the same** have plans that look the same -/
theorem plan_map_congr {f : Command ν → Command ν} (planner : Planner ν) (context : Option (VideoContext ν))
    (hsource : near planner.setup.source planner.setup.source)
    (hf : ∀ c, Progress.SameSteps planner.setup view near (f c) c) (cs : List (Command ν)) :
    (planner.plan context (cs.map f)).result.map (fun plan => plan.operations.map view) =
      (planner.plan context cs).result.map fun plan => plan.operations.map view := by
  have hsteps : List.Forall₂ (Progress.SameSteps planner.setup view near) (cs.map f) cs :=
    List.forall₂_map_left_iff.2 (List.forall₂_same.2 fun c _ => hf c)
  have hstart : Progress.SameView view near (Progress.start planner.setup.source context)
      (Progress.start planner.setup.source context) := ⟨rfl, hsource, rfl, rfl⟩
  exact (hstart.run hsteps).result_eq

end View

/-! ## Files -/

namespace Command

def format? : Command ν → Option String
  | .exportVideo format _ _ _ _ => some format
  | _ => none

/-- what the file of a command depends on: its kind, and the format of an export -/
def fileKey (c : Command ν) : Option Kind × Option String := (c.kind?, c.format?)

omit [Number ν] in
theorem fixedName?_eq (c : Command ν) : c.fixedName? =
    if c.kind? = some .thumbnail then some .thumbnails else c.format?.map .result := by
  cases c <;> rfl

omit [Number ν] in
theorem numbersItsFile_eq (c : Command ν) :
    c.numbersItsFile = (c.kind?.isSome && c.kind? != some .exportVideo && c.kind? != some .thumbnail) := by
  cases c <;> rfl

/-- commands of one key, planned with one count of files, write files of one name and count on alike -/
theorem fileName_congr (hkey : c.fileKey = d.fileKey) (hcounter : s.counter = t.counter) :
    c.fileName s = d.fileName t ∧ (c.advance s).counter = (d.advance t).counter := by
  obtain ⟨hkind, hformat⟩ := Prod.mk.inj hkey
  rw [fileName, fileName, advance, advance, fixedName?_eq, fixedName?_eq, numbersItsFile_eq, numbersItsFile_eq, hkind,
    hformat, hcounter]
  exact ⟨rfl, rfl⟩

end Command

/-- **The files of a chain** depend on the keys of its commands alone -/
theorem Makes.output_congr (h : Makes setup s file cs ops s' file') (h' : Makes setup t input ds ops' t' output)
    (hkeys : cs.map Command.fileKey = ds.map Command.fileKey) (hcounter : s.counter = t.counter) :
    ops.map Operation.output = ops'.map Operation.output := by
  induction h generalizing ds ops' t input with
  | nil =>
    obtain rfl := List.map_eq_nil_iff.1 hkeys.symm
    cases h'
    rfl
  | cons hb _ ih =>
    cases h' with
    | nil => exact absurd hkeys (by simp)
    | cons hb' hrest =>
      obtain ⟨hkey, hkeys⟩ := List.cons.inj hkeys
      obtain ⟨hname, hnext⟩ := Command.fileName_congr hkey hcounter
      rw [List.map_cons, List.map_cons, (call_of_build hb).2.2, (call_of_build hb').2.2, hname, ih hrest hkeys hnext]

/-! ## Plans -/

def Plan.calls {ν : Type} (p : Plan ν) : List (List String) := p.operations.map fun op => op.invocation.arguments

omit [Number ν] in
theorem calls_of_invocations {x y : Except Fault (Plan ν)}
    (h : x.map (fun plan => plan.operations.map Operation.invocation) =
      y.map fun plan => plan.operations.map Operation.invocation) : x.map Plan.calls = y.map Plan.calls := by
  have hcalls : Plan.calls = fun plan : Plan ν => (plan.operations.map Operation.invocation).map Invocation.arguments := by
    funext plan
    rw [List.map_map]
    rfl
  rw [hcalls]
  have hfurther := congrArg (Except.map (List.map Invocation.arguments)) h
  rcases x with e | p <;> rcases y with e' | q <;> exact hfurther

/-- **Texts act through recognition alone.** Take two lists of commands that are the same but for texts that are not
recognised: both are planned to the same calls, or both have the same fault. The plan of a list has the same filters as
that of the gists of its commands, and the gist of a command without captions says nothing but words of the vocabulary. And
whatever lists have the same kinds of commands and the same formats of exports, in whatever contexts: their plans write the
same files. -/
theorem calls_reworded (planner : Planner ν) (context : Option (VideoContext ν)) (cs ds : List (Command ν))
    (h : List.Forall₂ Command.Reworded cs ds) :
    (planner.plan context ds).result.map Plan.calls = (planner.plan context cs).result.map Plan.calls ∧
    (planner.plan context (cs.map Command.gist)).result.map (fun plan => plan.operations.map Operation.filters) =
      (planner.plan context cs).result.map (fun plan => plan.operations.map Operation.filters) ∧
    (∀ c ∈ cs, c.kind? ≠ some .addCaptions → c.gist.OnlyWords) ∧
    ∀ (es : List (Command ν)) (other : Option (VideoContext ν)) (plan plan' : Plan ν),
      es.map Command.fileKey = cs.map Command.fileKey → (planner.plan context cs).result = .ok plan →
        (planner.plan other es).result = .ok plan' →
          plan'.operations.map Operation.output = plan.operations.map Operation.output := by
  have hcalls : ∀ bs : List (Command ν), (planner.plan context (bs.map Command.recognised)).result.map Plan.calls =
      (planner.plan context bs).result.map Plan.calls := by
    intro bs
    have hsteps : ∀ c : Command ν, Progress.SameSteps planner.setup Operation.invocation (· = ·) c.recognised c := by
      intro c
      refine ⟨fun s => advance_recognised s c, ?_⟩
      rintro s file _ rfl
      exact sameBuild_of_map (fun a b h => congrArg Invocation.output h) (invocation_recognised planner.setup s file c)
    exact calls_of_invocations (plan_map_congr planner context rfl hsteps bs)
  have hrecognised : ds.map Command.recognised = cs.map Command.recognised := by
    induction h with
    | nil => rfl
    | cons hc _ ih => rw [List.map_cons, List.map_cons, Command.recognised_of_reworded hc, ih]
  refine ⟨?_, ?_, fun c _ hc => Command.onlyWords_gist hc, ?_⟩
  · rw [← hcalls ds, hrecognised, hcalls cs]
  · have hsteps : ∀ c : Command ν, Progress.SameSteps planner.setup Operation.filters (fun _ _ => True) c.gist c := by
      intro c
      refine ⟨fun s => advance_gist s c, fun s file input _ => ?_⟩
      exact sameBuild_of_map (fun _ _ _ => trivial) (filters_gist planner.setup s file input c)
    exact plan_map_congr planner context trivial hsteps cs
  · intro es other plan plan' hkeys hplan hplan'
    refine (makes_of_plan hplan').output_congr (makes_of_plan hplan) ?_ rfl
    have hunderstood : ∀ bs : List (Command ν), (bs.filter Command.isUnderstood).map Command.fileKey =
        (bs.map Command.fileKey).filter fun key => key.1.isSome := by
      intro bs
      rw [List.filter_map]
      rfl
    rw [hunderstood, hunderstood, hkeys]

/-- texts of every kind replaced, which make the same calls; and other words and numbers, which write the same files -/
theorem calls_reworded_all_kinds :
    let planner := Planner.fresh (⟨"in.mp4", "/w", "ffmpeg", "captions.srt", zero⟩ : Setup Binary64)
    let context : Option (VideoContext Binary64) := some { duration := some (ofRat 10) }
    let cs : List (Command Binary64) := [
      .colorCorrection {} (some "sepia"), .addCaptions { position := "middle" } "en", .audio "hum" {},
      .transition "fade" one "middle", .effect "mirror" half [], .exportVideo "avi" "8k" "3:2" "best" (ofRat 30),
      .transition "wipe" one "end", .thumbnail 2 "auto" none]
    let ds : List (Command Binary64) := [
      .colorCorrection {} none, .addCaptions {} "es", .audio "buzz" {}, .transition "fade" one "left",
      .effect "" half [], .exportVideo "avi" "original" "original" "medium" (ofRat 30), .transition "slide" one "end",
      .thumbnail 2 "grid" none]
    let es : List (Command Binary64) := [
      .colorCorrection {} (some "noir"), .addCaptions { fontFamily := "Inter" } "", .audio "fade_out" {},
      .transition "blur" half "all", .effect "slow_motion" one [], .exportVideo "avi" "4k" "1:1" "high" one,
      .transition "fade" one "start", .thumbnail 5 "" (some [one])]
    List.Forall₂ Command.Reworded cs ds ∧ ∃ plan other another, (planner.plan context cs).result = .ok plan ∧
      (planner.plan context ds).result = .ok other ∧ (planner.plan none es).result = .ok another ∧
      other.calls = plan.calls ∧ another.operations.map Operation.output = plan.operations.map Operation.output ∧
      plan.calls[5]? = some ["ffmpeg", "-y", "-i", "/w/temp_5.mp4", "-r", "30", "-crf", "23", "-preset", "medium",
        "-c:a", "aac", "/w/output.avi"] := by
  intro planner context cs ds es
  have hreworded : List.Forall₂ Command.Reworded cs ds := by
    refine .cons (.colorCorrection _ (by decide)) (.cons (.addCaptions (Or.inr ⟨by decide, rfl⟩) _ _)
      (.cons (.audio (Or.inr (by decide)) _) (.cons (.transition (Or.inl rfl) _ (Or.inr (by decide)))
      (.cons (.effect (Or.inr (by decide)) _ _) (.cons (.exportVideo _ (Or.inr ⟨by decide, rfl⟩)
      (Or.inr ⟨by decide, rfl⟩) (Or.inr ⟨by decide, rfl⟩) _) (.cons (.transition (Or.inr (by decide)) _ (Or.inl rfl))
      (.cons (.thumbnail _ _ _ _) .nil)))))))
  have hplan : (planner.plan context cs).result = .ok _ := plan_eq_ok.2 ⟨by decide +kernel, rfl⟩
  have hothers : (planner.plan none es).result = .ok _ := plan_eq_ok.2 ⟨by decide +kernel, rfl⟩
  obtain ⟨hcalls, -, -, hfiles⟩ := calls_reworded planner context cs ds hreworded
  rw [hplan] at hcalls
  obtain ⟨other, hother, hsame⟩ := map_eq_ok.1 hcalls
  exact ⟨hreworded, _, other, _, hplan, hother, hothers, hsame, hfiles es none _ _ rfl hplan hothers, by decide +kernel⟩

end EditPlan
