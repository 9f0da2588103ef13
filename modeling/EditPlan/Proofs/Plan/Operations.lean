import Mathlib.Tactic
import EditPlan.Plan.Build
import EditPlan.Command.Basic
import EditPlan.Number.Exact

/-!
When a builder gives an operation, and what the operation is made of. Five builders can fail; their failures and their
successes are peeled apart once here, and other modules only use what is said of the command, of the operation and of its
call.

Main statements:
- `Command.build_ok`: a command whose numeric steps all have an answer is planned;
- `Command.faultOf?_build`: the one fault of a command that is definite but for the size of its captions;
- `kind_of_build`: an operation has the kind of its command;
- `detail_trim`, `detail_cut`, `detail_effect`: what it remembers of the commands that move time.
-/

namespace EditPlan

open Number EditPlan.Filter

/-! ## Steps that may fail -/

theorem bind_eq_ok {ε α β : Type} {x : Except ε α} {f : α → Except ε β} {r : β} :
    (x >>= f) = .ok r ↔ ∃ a, x = .ok a ∧ f a = .ok r := by
  cases x <;> simp [bind, Except.bind]

theorem map_eq_ok {ε α β : Type} {x : Except ε α} {f : α → β} {r : β} :
    x.map f = .ok r ↔ ∃ a, x = .ok a ∧ f a = r := by
  cases x <;> simp [Except.map]

theorem map_some_eq_ok {ε α : Type} {x : Except ε α} {r : α} : x.map some = .ok (some r) ↔ x = .ok r := by
  cases x <;> simp [Except.map]

theorem map_some_ne_none {ε α : Type} {x : Except ε α} : x.map some ≠ .ok none := by
  cases x <;> simp [Except.map]

/-- what went wrong in an outcome, if anything did -/
def faultOf? {α : Type} : Except Fault α → Option Fault
  | .error e => some e
  | .ok _ => none

theorem faultOf?_eq_none {α : Type} {x : Except Fault α} : faultOf? x = none ↔ ∃ r, x = .ok r := by
  cases x <;> simp [faultOf?]

/-! ## Successful builders -/

variable {ν : Type} [Number ν] {setup : Setup ν} {s : State ν} {input : String} {op : Operation ν}

theorem speedFactor?_isSome (name : String) (intensity : ν) :
    (speedFactor? name intensity).isSome = true ↔ name = "slow_motion" ∨ name = "speed_up" := by
  unfold speedFactor?
  split_ifs with hslow hfast
  · simp [hslow]
  · simp [hfast]
  · simp [hslow, hfast]

namespace Build

theorem trim_ok {start stop : ν} (h : (Command.trim start stop).build setup s input = .ok (some op)) :
    op.detail = .trim start (stop - start) ∧ op.invocation = { numbered setup s input with
      outputOptions := ["-ss", sixPlaces start, "-t", sixPlaces (stop - start), "-c", "copy"] } := by
  obtain ⟨_, -, h⟩ := bind_eq_ok.1 (map_some_eq_ok.1 h)
  obtain ⟨_, -, h⟩ := bind_eq_ok.1 h
  rw [← Except.ok.inj h]
  exact ⟨rfl, rfl⟩

theorem audio_ok {action : String} {params : AudioParams ν}
    (h : (Command.audio action params).build setup s input = .ok (some op)) :
    ∃ filter, op.detail = .audio action filter ∧ op.invocation = { numbered setup s input with
      audioFilter := some filter, outputOptions := copyPicture } := by
  obtain ⟨⟨filter, _⟩, -, h⟩ := bind_eq_ok.1 (map_some_eq_ok.1 h)
  rw [← Except.ok.inj h]
  exact ⟨filter, rfl, rfl⟩

theorem forceStyle_of_isShort {style : CaptionStyle} (h : Numeral.IsShort style.fontSize) :
    ∃ look, forceStyle style = .ok look := ⟨_, bind_eq_ok.2 ⟨_, Numeral.text_of_isShort h, rfl⟩⟩

theorem forceStyle_of_not_isShort {style : CaptionStyle} (h : ¬ Numeral.IsShort style.fontSize) :
    forceStyle style = .error .tooManyDigits := by
  rw [forceStyle, Numeral.text_of_not_isShort h]
  rfl

theorem addCaptions_ok {style : CaptionStyle} {language : String}
    (h : (Command.addCaptions style language).build setup s input = .ok (some op)) :
    ∃ look, forceStyle style = .ok look ∧ op.detail = .addCaptions (setup.file setup.captionsFile) look ∧
      op.invocation = { numbered setup s input with
        videoFilter := some ("subtitles=" ++ escapeValue (setup.file setup.captionsFile) ++ ":force_style=" ++
          escapeValue look)
        outputOptions := copySound } := by
  obtain ⟨look, hlook, h⟩ := bind_eq_ok.1 (map_some_eq_ok.1 h)
  rw [← Except.ok.inj h]
  exact ⟨look, hlook, rfl, rfl⟩

theorem addCaptions_isShort_iff {style : CaptionStyle} {language : String} :
    (∃ op, (Command.addCaptions style language).build setup s input = .ok (some op)) ↔
      Numeral.IsShort style.fontSize := by
  constructor
  · rintro ⟨op, h⟩
    obtain ⟨look, hlook, -⟩ := addCaptions_ok h
    by_contra hlong
    rw [forceStyle_of_not_isShort hlong] at hlook
    exact absurd hlook (by simp)
  · intro h
    obtain ⟨look, hlook⟩ := forceStyle_of_isShort h
    exact ⟨_, map_some_eq_ok.2 (bind_eq_ok.2 ⟨look, hlook, rfl⟩)⟩

theorem effect_ok {name : String} {intensity : ν} {params : Object}
    (h : (Command.effect name intensity params).build setup s input = .ok (some op)) :
    op.detail = .effect name intensity ∧ ∃ picture sound options,
      effectParts s name intensity = .ok (picture, sound, options) ∧ op.invocation = { numbered setup s input with
        videoFilter := some picture, audioFilter := sound, outputOptions := options } := by
  obtain ⟨⟨picture, sound, options⟩, hparts, h⟩ := bind_eq_ok.1 (map_some_eq_ok.1 h)
  rw [← Except.ok.inj h]
  exact ⟨rfl, picture, sound, options, hparts, rfl⟩

omit [Number ν] in
theorem framesText_ok {count : Int} {times : List ν} {text : String} (h : framesText count times = .ok text) :
    text = toString (thumbnailFrames count times) := by
  unfold framesText at h
  unfold thumbnailFrames
  split_ifs at h ⊢
  · unfold Numeral.text at h
    split_ifs at h
    exact (Except.ok.inj h).symm
  · exact (Except.ok.inj h).symm

theorem thumbnail_ok {count : Int} {style : String} {timestamps : Option (List ν)}
    (h : (Command.thumbnail count style timestamps).build setup s input = .ok (some op)) :
    ∃ times, op.detail = .thumbnail (thumbnailFrames (max 1 count) times) style times ∧ op.invocation = {
      input := input
      output := setup.file "thumbnail_%03d.jpg"
      binary := setup.binary
      videoFilter := some (thumbnailFilter times)
      outputOptions := ["-vsync", "vfr", "-frames:v", toString (thumbnailFrames (max 1 count) times)] } := by
  obtain ⟨times, -, h⟩ := bind_eq_ok.1 (map_some_eq_ok.1 h)
  obtain ⟨frames, hframes, h⟩ := bind_eq_ok.1 h
  rw [← Except.ok.inj h, framesText_ok hframes]
  exact ⟨times, rfl, rfl⟩

theorem thumbnail_of_times (setup : Setup ν) (input style : String) {count : Int} {timestamps : Option (List ν)}
    {times : List ν} (h : thumbnailTimes s (max 1 count) timestamps = .ok times) (hknown : times ≠ []) :
    ∃ op, (Command.thumbnail count style timestamps).build setup s input = .ok (some op) ∧
      op.detail = .thumbnail (thumbnailFrames (max 1 count) times) style times ∧
      op.invocation.videoFilter = some (thumbnailFilter times) ∧
      op.invocation.outputOptions = ["-vsync", "vfr", "-frames:v", toString (thumbnailFrames (max 1 count) times)] := by
  have hsome : ¬ times.isEmpty = true := by rwa [List.isEmpty_iff]
  have hframes : framesText (max 1 count) times = .ok (toString (thumbnailFrames (max 1 count) times)) := by
    rw [framesText, thumbnailFrames, if_neg hsome, if_neg hsome]
    rfl
  exact ⟨_, map_some_eq_ok.2 (bind_eq_ok.2 ⟨times, h, bind_eq_ok.2 ⟨_, hframes, rfl⟩⟩), rfl, rfl, rfl⟩

theorem thumbnailTimes_ne_nil {count : Int} (hcount : 0 < count) {timestamps : Option (List ν)} {times : List ν}
    (h : thumbnailTimes s count timestamps = .ok times) (hknown : s.duration ≠ none) : times ≠ [] := by
  unfold thumbnailTimes at h
  split at h
  · rw [← Except.ok.inj h]
    exact List.cons_ne_nil _ _
  · cases hduration : s.duration with
    | none => exact absurd hduration hknown
    | some d =>
      rw [hduration] at h
      obtain ⟨gaps, -, h⟩ := bind_eq_ok.1 h
      rw [← Except.ok.inj h]
      simpa using hcount

omit [Number ν] in
/-- the number of frames is written if it has few digits or the times are known -/
theorem framesText_exists {count : Int} {times : List ν} (h : times = [] → Numeral.IsShort count) :
    ∃ text, framesText count times = .ok text := by
  unfold framesText
  split_ifs with hempty
  · exact ⟨_, Numeral.text_of_isShort (h (List.isEmpty_iff.1 hempty))⟩
  · exact ⟨_, rfl⟩

theorem not_stalls_of_parts {name : String} {intensity factor : ν} {parts : String × Option String × List String}
    (hfactor : speedFactor? name intensity = some factor) (h : effectParts s name intensity = .ok parts) :
    stallsOn s.hasAudio factor = false := by
  by_contra hstall
  rw [Bool.not_eq_false] at hstall
  simp [effectParts, hfactor, hstall] at h

end Build

/-! ## Numeric steps with an answer -/

namespace Build

variable (setup s input)

theorem audioFilter_ok (action : String) {params : AudioParams ν}
    (h : ∃ percent, nearestInt (params.volume.getD one * ofRat 100) = .ok percent) :
    ∃ filter, audioFilter s action params = .ok filter := by
  obtain ⟨percent, hpercent⟩ := h
  unfold audioFilter
  split_ifs
  · exact ⟨_, rfl⟩
  · exact ⟨_, rfl⟩
  · exact ⟨_, bind_eq_ok.2 ⟨percent, hpercent, rfl⟩⟩
  · exact ⟨_, rfl⟩
  · exact ⟨_, rfl⟩
  · exact ⟨_, rfl⟩

theorem effectFilter_ok (name : String) {intensity : ν} (hradius : ∃ k, nearestInt (intensity * ofRat 10) = .ok k)
    (hgrain : ∃ k, nearestInt (intensity * ofRat 50) = .ok k) : ∃ picture, effectFilter name intensity = .ok picture := by
  obtain ⟨radius, hradius⟩ := hradius
  obtain ⟨grain, hgrain⟩ := hgrain
  unfold effectFilter
  split_ifs
  · exact ⟨_, bind_eq_ok.2 ⟨radius, hradius, rfl⟩⟩
  · exact ⟨_, rfl⟩
  · exact ⟨_, rfl⟩
  · exact ⟨_, bind_eq_ok.2 ⟨grain, hgrain, rfl⟩⟩
  · exact ⟨_, rfl⟩
  · exact ⟨_, rfl⟩
  · exact ⟨_, rfl⟩
  · exact ⟨_, rfl⟩

theorem effectParts_ok (name : String) {intensity : ν}
    (hfactor : ∀ factor, speedFactor? name intensity = some factor → isZero factor = false)
    (hpicture : ∃ picture, effectFilter name intensity = .ok picture) :
    ∃ parts, effectParts s name intensity = .ok parts := by
  unfold effectParts
  cases hspeed : speedFactor? name intensity with
  | some factor =>
    have hstall : stallsOn s.hasAudio factor = false := by rw [stallsOn, hfactor factor hspeed, Bool.and_false]
    simp only [hstall, Bool.false_eq_true, if_false]
    split_ifs <;> exact ⟨_, rfl⟩
  | none =>
    obtain ⟨picture, hpicture⟩ := hpicture
    exact ⟨_, bind_eq_ok.2 ⟨picture, hpicture, rfl⟩⟩

theorem thumbnailTimes_ok {count : Int} (timestamps : Option (List ν)) (h : ∃ gaps : ν, ofInt? (count + 1) = .ok gaps) :
    ∃ times, thumbnailTimes s count timestamps = .ok times := by
  obtain ⟨gaps, hgaps⟩ := h
  unfold thumbnailTimes
  split
  · exact ⟨_, rfl⟩
  · split
    · exact ⟨_, bind_eq_ok.2 ⟨gaps, hgaps, rfl⟩⟩
    · exact ⟨_, rfl⟩

end Build

namespace Command

/-- a command whose numeric steps all have an answer in a state; only five kinds have steps that may have none -/
def Definite (s : State ν) : Command ν → Prop
  | .trim start stop => (∃ text, clock start = .ok text) ∧ ∃ text, clock stop = .ok text
  | .addCaptions style _ => Numeral.IsShort style.fontSize
  | .audio _ params => ∃ percent, nearestInt (params.volume.getD one * ofRat 100) = .ok percent
  | .effect name intensity _ =>
    (∀ factor, speedFactor? name intensity = some factor → isZero factor = false) ∧
      (∃ radius, nearestInt (intensity * ofRat 10) = .ok radius) ∧ ∃ grain, nearestInt (intensity * ofRat 50) = .ok grain
  | .thumbnail count _ _ =>
    (∃ gaps : ν, ofInt? (max 1 count + 1) = .ok gaps) ∧ (s.duration = none → Numeral.IsShort (max 1 count))
  | _ => True

/-- **A command whose numeric steps all have an answer is planned** -/
theorem build_ok {c : Command ν} {s : State ν} (h : c.Definite s) (setup : Setup ν) (input : String) :
    ∃ r, c.build setup s input = .ok r := by
  cases c with
  | trim start stop =>
    obtain ⟨⟨startText, hstart⟩, stopText, hstop⟩ := h
    exact ⟨_, map_eq_ok.2 ⟨_, bind_eq_ok.2 ⟨startText, hstart, bind_eq_ok.2 ⟨stopText, hstop, rfl⟩⟩, rfl⟩⟩
  | addCaptions style language =>
    obtain ⟨look, hlook⟩ := Build.forceStyle_of_isShort h
    exact ⟨_, map_eq_ok.2 ⟨_, bind_eq_ok.2 ⟨look, hlook, rfl⟩, rfl⟩⟩
  | audio action params =>
    obtain ⟨filter, hfilter⟩ := Build.audioFilter_ok s action h
    exact ⟨_, map_eq_ok.2 ⟨_, bind_eq_ok.2 ⟨filter, hfilter, rfl⟩, rfl⟩⟩
  | effect name intensity params =>
    obtain ⟨hfactor, hradius, hgrain⟩ := h
    obtain ⟨parts, hparts⟩ := Build.effectParts_ok s name hfactor (Build.effectFilter_ok name hradius hgrain)
    exact ⟨_, map_eq_ok.2 ⟨_, bind_eq_ok.2 ⟨parts, hparts, rfl⟩, rfl⟩⟩
  | thumbnail count style timestamps =>
    obtain ⟨hgaps, hshort⟩ := h
    obtain ⟨times, htimes⟩ := Build.thumbnailTimes_ok s timestamps hgaps
    have hcount : 0 < max 1 count := by omega
    have hunknown : times = [] → Numeral.IsShort (max 1 count) := by
      intro hnil
      by_contra hlong
      exact Build.thumbnailTimes_ne_nil hcount htimes (fun hnone => hlong (hshort hnone)) hnil
    obtain ⟨frames, hframes⟩ := Build.framesText_exists hunknown
    exact ⟨_, map_eq_ok.2 ⟨_, bind_eq_ok.2 ⟨times, htimes, bind_eq_ok.2 ⟨frames, hframes, rfl⟩⟩, rfl⟩⟩
  | _ => exact ⟨_, rfl⟩

/-- the fault of captions whose size has too many digits -/
def captionFault? : Command ν → Option Fault
  | .addCaptions style _ => if Numeral.IsShort style.fontSize then none else some .tooManyDigits
  | _ => none

omit [Number ν] in
theorem captionFault?_eq_none {c : Command ν} :
    c.captionFault? = none ↔ ∀ style language, c = .addCaptions style language → Numeral.IsShort style.fontSize := by
  cases c with
  | addCaptions style language => simp [captionFault?]
  | _ => simp [captionFault?]

omit [Number ν] in
theorem captionFault?_eq_some {c : Command ν} {e : Fault} (h : c.captionFault? = some e) : e = .tooManyDigits := by
  cases c with
  | addCaptions style language =>
    rw [captionFault?] at h
    split_ifs at h
    exact (Option.some.inj h).symm
  | _ => exact absurd h (by simp [captionFault?])

/-- **The fault of a command** all of whose numeric steps have an answer unless it is captions with too many digits -/
theorem faultOf?_build {c : Command ν} {s : State ν} (h : c.captionFault? = none → c.Definite s) (setup : Setup ν)
    (input : String) : faultOf? (c.build setup s input) = c.captionFault? := by
  cases hfault : c.captionFault? with
  | none =>
    obtain ⟨r, hr⟩ := build_ok (h hfault) setup input
    rw [hr]
    rfl
  | some e =>
    cases c with
    | addCaptions style language =>
      rw [captionFault?] at hfault
      split_ifs at hfault with hshort
      rw [build, Build.addCaptions, Build.forceStyle_of_not_isShort hshort]
      exact hfault
    | _ => exact absurd hfault (by simp [captionFault?])

end Command

/-- the sizes of all captions among commands can be written -/
def ShortCaptions (cs : List (Command ν)) : Prop :=
  ∀ style language, Command.addCaptions style language ∈ cs → Numeral.IsShort style.fontSize

omit [Number ν] in
theorem shortCaptions_iff {cs : List (Command ν)} : ShortCaptions cs ↔ cs.findSome? Command.captionFault? = none := by
  rw [List.findSome?_eq_none_iff]
  constructor
  · intro h c hc
    exact Command.captionFault?_eq_none.2 fun style language heq => h style language (heq ▸ hc)
  · intro h style language hc
    exact Command.captionFault?_eq_none.1 (h _ hc) style language rfl

theorem shortCaptions_limit (duration : Option ν) {cs : List (Command ν)} :
    ShortCaptions (limitCommands duration cs) ↔ ShortCaptions cs := by
  rw [shortCaptions_iff, shortCaptions_iff, limitCommands, List.findSome?_map]
  have hsame : Command.captionFault? ∘ Command.limit duration = Command.captionFault? (ν := ν) := by
    funext c
    cases c <;> rfl
  rw [hsame]

/-! ## Commands and their operations -/

theorem detail_trim {start stop : ν} (h : (Command.trim start stop).build setup s input = .ok (some op)) :
    op.detail = .trim start (stop - start) := (Build.trim_ok h).1

theorem detail_cut {segments : List (Segment ν)} (h : (Command.cut segments).build setup s input = .ok (some op)) :
    op.detail = .cut (Footage.kept segments s.duration) := by
  rw [← Option.some.inj (Except.ok.inj h)]
  rfl

theorem detail_effect {name : String} {intensity : ν} {params : Object}
    (h : (Command.effect name intensity params).build setup s input = .ok (some op)) :
    op.detail = .effect name intensity ∧
      ∀ factor, speedFactor? name intensity = some factor → stallsOn s.hasAudio factor = false := by
  obtain ⟨hdetail, _, _, _, hparts, -⟩ := Build.effect_ok h
  exact ⟨hdetail, fun factor hfactor => Build.not_stalls_of_parts hfactor hparts⟩

theorem kind_of_build {c : Command ν} (h : c.build setup s input = .ok (some op)) : c.kind? = some op.kind := by
  cases c with
  | trim start stop => rw [Operation.kind, detail_trim h]; rfl
  | cut segments => rw [Operation.kind, detail_cut h]; rfl
  | effect name intensity params => rw [Operation.kind, (detail_effect h).1]; rfl
  | addCaptions style language =>
    obtain ⟨look, -, hdetail, -⟩ := Build.addCaptions_ok h
    rw [Operation.kind, hdetail]
    rfl
  | audio action params =>
    obtain ⟨filter, hdetail, -⟩ := Build.audio_ok h
    rw [Operation.kind, hdetail]
    rfl
  | thumbnail count style timestamps =>
    obtain ⟨times, hdetail, -⟩ := Build.thumbnail_ok h
    rw [Operation.kind, hdetail]
    rfl
  | unknown tag extras => exact absurd (Except.ok.inj h) (by simp)
  | _ => rw [← Option.some.inj (Except.ok.inj h)]; rfl

theorem kind?_of_build_none {c : Command ν} (h : c.build setup s input = .ok none) : c.kind? = none := by
  cases c with
  | unknown tag extras => rfl
  | trim start stop => exact absurd h map_some_ne_none
  | addCaptions style language => exact absurd h map_some_ne_none
  | audio action params => exact absurd h map_some_ne_none
  | effect name intensity params => exact absurd h map_some_ne_none
  | thumbnail count style timestamps => exact absurd h map_some_ne_none
  | _ => exact absurd (Except.ok.inj h) (by simp)

end EditPlan
