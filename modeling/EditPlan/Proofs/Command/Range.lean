import EditPlan.Proofs.Number.Line

/-!
What bringing commands into range does to each of their numbers, and to nothing else. A number lies in a range if it is
not below its lower end and not above its upper one; a NaN lies in no range that has an end. A number that lies in its
range stays, another becomes an end of the range, and no command changes its kind or loses a field.

A zero that was negative may lose its sign where zero is an end of the range; as numbers the two zeros are one.

Main statements:
- `Range.confines_atLeast`, `Range.confines_atMost`, `Range.confines_clamp`: what a bound makes of a number;
- `Command.limited_limit`: what becomes of one command;
- `limitCommands_limited`: lists, with every kind and every other field kept.
Witness:
- `limitCommands_limited_mixed`: infinities and NaN in every clamped kind, between two other commands.
-/

namespace EditPlan

open Number

/-! ## Doubles in order -/

namespace Binary64

/-- doubles compare as numbers: a NaN is neither below nor above any -/
instance : LE Binary64 := ⟨fun x y => x ≠ .nan ∧ y ≠ .nan ∧ ¬ y < x⟩

/-- one number, in one form or as zeros of two signs -/
def SameNumber (x y : Binary64) : Prop := x = y ∨ x.isZero = true ∧ y.isZero = true

variable {x y : Binary64}

theorem ne_nan_of_lt_left (h : x < y) : x ≠ .nan := (isComparable_iff x).1 (OnLine.comparable_left h)

theorem ne_nan_of_lt_right (h : x < y) : y ≠ .nan := (isComparable_iff y).1 (OnLine.comparable_right h)

theorem le_of_lt (h : x < y) : x ≤ y := ⟨ne_nan_of_lt_left h, ne_nan_of_lt_right h, asymm_of (· < ·) h⟩

theorem le_refl (h : x ≠ .nan) : x ≤ x := ⟨h, h, irrefl_of (· < ·) x⟩

/-- **Numbers of which neither is less are one number** -/
theorem sameNumber_of_not_lt (hx : x ≠ .nan) (hy : y ≠ .nan) (hxy : ¬ x < y) (hyx : ¬ y < x) : x.SameNumber y := by
  cases x with
  | nan => exact absurd rfl hx
  | infinite s =>
    cases y with
    | nan => exact absurd rfl hy
    | infinite t =>
      have hsign : ∀ s t : Bool, ¬ (s && !t) = true → ¬ (t && !s) = true → s = t := by decide
      exact .inl (congrArg infinite (hsign s t hxy hyx))
    | finite t v hv =>
      cases s with
      | false => exact absurd rfl hyx
      | true => exact absurd rfl hxy
  | finite s u hu =>
    cases y with
    | nan => exact absurd rfl hy
    | infinite t =>
      cases t with
      | false => exact absurd rfl hxy
      | true => exact absurd rfl hyx
    | finite t v hv =>
      have hle : ¬ signed s u < signed t v := fun h => hxy (decide_eq_true h)
      have hge : ¬ signed t v < signed s u := fun h => hyx (decide_eq_true h)
      have hsteps : u = v ∧ (s = t ∨ u = 0) := by
        cases s <;> cases t <;> simp only [signed, if_true, Bool.false_eq_true, if_false] at hle hge <;> simp <;> omega
      obtain ⟨rfl, rfl | rfl⟩ := hsteps
      · exact .inl rfl
      · exact .inr ⟨rfl, rfl⟩

end Binary64

/-! ## Ranges -/

/-- where a number may lie; an end that is absent bounds nothing -/
structure Range where
  low : Option Binary64
  high : Option Binary64

namespace Range

def start : Range := ⟨some zero, none⟩

/-- the range of end times, in a video of which the duration may be known -/
def stop (duration : Option Binary64) : Range := ⟨none, duration⟩

def level : Range := ⟨some (ofRat (-1)), some one⟩

def share : Range := ⟨some zero, some one⟩

def volume : Range := ⟨some zero, some (ofRat 2)⟩

/-- whether a number lies in a range -/
structure Holds (r : Range) (x : Binary64) : Prop where
  low : ∀ a ∈ r.low, a ≤ x
  high : ∀ b ∈ r.high, x ≤ b

/-- what becomes of a number that is brought into a range: it stays if it lies there, and becomes the end that it is past
if it does not; a NaN becomes the upper end, or else the lower one -/
structure Confines (r : Range) (x y : Binary64) : Prop where
  holds : r.Holds y
  kept : r.Holds x → y.SameNumber x
  raised : ∀ a ∈ r.low, x < a → y = a
  lowered : ∀ b ∈ r.high, b < x → y = b
  replaced : x = .nan → y = (r.high.or r.low).getD .nan

variable {x low high : Binary64}

open Binary64

/-- without ends every number stays -/
theorem confines_unbounded (x : Binary64) : Confines ⟨none, none⟩ x x :=
  ⟨⟨by simp, by simp⟩, fun _ => .inl rfl, by simp, by simp, by simp⟩

theorem confines_of_holds {r : Range} (h : r.Holds x) (hx : x ≠ .nan) : r.Confines x x where
  holds := h
  kept _ := .inl rfl
  raised a ha hlt := absurd hlt (h.low a ha).2.2
  lowered b hb hlt := absurd hlt (h.high b hb).2.2
  replaced hnan := absurd hnan hx

/-- **What a lower bound makes of a number** -/
theorem confines_atLeast (hlow : low ≠ .nan) (x : Binary64) : Confines ⟨some low, none⟩ x (atLeast low x) := by
  unfold atLeast
  split_ifs with h
  · have hholds : Holds ⟨some low, none⟩ x := ⟨by simpa using le_of_lt h, by simp⟩
    exact confines_of_holds hholds (ne_nan_of_lt_right h)
  · refine ⟨⟨by simpa using Binary64.le_refl hlow, by simp⟩, ?_, by simp, by simp, by simp⟩
    intro hx
    obtain ⟨-, hnan, hnot⟩ := hx.low low rfl
    exact sameNumber_of_not_lt hlow hnan h hnot

/-- **What an upper bound makes of a number** -/
theorem confines_atMost (hhigh : high ≠ .nan) (x : Binary64) : Confines ⟨none, some high⟩ x (atMost high x) := by
  unfold atMost
  split_ifs with h
  · have hholds : Holds ⟨none, some high⟩ x := ⟨by simp, by simpa using le_of_lt h⟩
    exact confines_of_holds hholds (ne_nan_of_lt_left h)
  · refine ⟨⟨by simp, by simpa using Binary64.le_refl hhigh⟩, ?_, by simp, by simp, by simp⟩
    intro hx
    obtain ⟨hnan, -, hnot⟩ := hx.high high rfl
    exact sameNumber_of_not_lt hhigh hnan hnot h

/-- **What two bounds make of a number** -/
theorem confines_clamp (h : low < high) (x : Binary64) : Confines ⟨some low, some high⟩ x (clamp x low high) := by
  have hlow := ne_nan_of_lt_left h
  have hhigh := ne_nan_of_lt_right h
  unfold clamp
  by_cases hx : x < high
  · rw [atMost, if_pos hx, atLeast]
    split_ifs with hin
    · have hholds : Holds ⟨some low, some high⟩ x := ⟨by simpa using le_of_lt hin, by simpa using le_of_lt hx⟩
      exact confines_of_holds hholds (ne_nan_of_lt_left hx)
    · constructor
      · exact ⟨by simpa using Binary64.le_refl hlow, by simpa using le_of_lt h⟩
      · intro hheld
        exact sameNumber_of_not_lt hlow (ne_nan_of_lt_left hx) hin (hheld.low low rfl).2.2
      · simp
      · simpa using fun hlt => absurd hlt (asymm_of (· < ·) hx)
      · exact fun hnan => absurd hnan (ne_nan_of_lt_left hx)
  · rw [atMost, if_neg hx, atLeast, if_pos h]
    constructor
    · exact ⟨by simpa using le_of_lt h, by simpa using Binary64.le_refl hhigh⟩
    · intro hheld
      obtain ⟨hnan, -, hnot⟩ := hheld.high high rfl
      exact sameNumber_of_not_lt hhigh hnan hnot hx
    · simpa using fun hlt => absurd (trans_of (· < ·) hlt h) hx
    · simp
    · simp

/-! ### The ranges of a command -/

theorem confines_limitStart (x : Binary64) : start.Confines x (limitStart x) :=
  confines_atLeast (ne_nan_of_lt_left (y := one) (by decide +kernel)) x

theorem confines_limitEnd {duration : Option Binary64} (hd : ∀ d ∈ duration, d ≠ .nan) (x : Binary64) :
    (stop duration).Confines x (limitEnd duration x) := by
  cases duration with
  | none => exact confines_unbounded x
  | some d => exact confines_atMost (hd d rfl) x

theorem confines_limitLevel (x : Binary64) : level.Confines x (limitLevel x) := confines_clamp (by decide +kernel) x

theorem confines_limitShare (x : Binary64) : share.Confines x (limitShare x) := confines_clamp (by decide +kernel) x

theorem confines_limitVolume (x : Binary64) : volume.Confines x (limitVolume x) := confines_clamp (by decide +kernel) x

end Range

/-! ## Commands -/

/-- a segment whose start and end are brought into range -/
structure Segment.Limited (duration : Option Binary64) (s t : Segment Binary64) : Prop where
  start : Range.start.Confines s.start t.start
  stop : (Range.stop duration).Confines s.stop t.stop

/-- colour adjustments that are brought into range; none appears or goes -/
structure ColorAdjustments.Limited (a b : ColorAdjustments Binary64) : Prop where
  brightness : Option.Rel Range.level.Confines a.brightness b.brightness
  contrast : Option.Rel Range.level.Confines a.contrast b.contrast
  saturation : Option.Rel Range.level.Confines a.saturation b.saturation
  temperature : Option.Rel Range.level.Confines a.temperature b.temperature
  tint : Option.Rel Range.level.Confines a.tint b.tint
  exposure : Option.Rel Range.level.Confines a.exposure b.exposure

/-- settings of an audio command of which three are brought into range; none appears or goes -/
structure AudioParams.Limited (p q : AudioParams Binary64) : Prop where
  volume : Option.Rel Range.volume.Confines p.volume q.volume
  musicVolume : Option.Rel Range.share.Confines p.musicVolume q.musicVolume
  noiseReduction : Option.Rel Range.share.Confines p.noiseReduction q.noiseReduction
  musicUrl : q.musicUrl = p.musicUrl
  fadeDuration : q.fadeDuration = p.fadeDuration

namespace Command

def rangedKinds : List Kind := [.trim, .cut, .colorCorrection, .audio, .effect]

/-- what becomes of a command that is brought into range: it keeps its kind and all fields but the numbers with a range -/
inductive Limited (duration : Option Binary64) : Command Binary64 → Command Binary64 → Prop
  | trim {start stop start' stop' : Binary64} (hstart : Range.start.Confines start start')
      (hstop : (Range.stop duration).Confines stop stop') : Limited duration (.trim start stop) (.trim start' stop')
  | cut {segments segments' : List (Segment Binary64)} (h : List.Forall₂ (Segment.Limited duration) segments segments') :
      Limited duration (.cut segments) (.cut segments')
  | colorCorrection {a a' : ColorAdjustments Binary64} {preset : Option String} (h : a.Limited a') :
      Limited duration (.colorCorrection a preset) (.colorCorrection a' preset)
  | audio {action : String} {params params' : AudioParams Binary64} (h : params.Limited params') :
      Limited duration (.audio action params) (.audio action params')
  | effect {name : String} {intensity intensity' : Binary64} {params : Object}
      (h : Range.share.Confines intensity intensity') :
      Limited duration (.effect name intensity params) (.effect name intensity' params)
  | other {c : Command Binary64} (h : ∀ k ∈ c.kind?, k ∉ rangedKinds) : Limited duration c c

end Command

theorem rel_map {α : Type} {R : α → α → Prop} {f : α → α} (h : ∀ x, R x (f x)) (a : Option α) : Option.Rel R a (a.map f) := by
  cases a with
  | none => exact .none
  | some x => exact .some (h x)

theorem Segment.limited_limit {duration : Option Binary64} (hd : ∀ d ∈ duration, d ≠ .nan) (s : Segment Binary64) :
    s.Limited duration (s.limit duration) := by
  constructor
  · simp only [Segment.limit]
    exact Range.confines_limitStart s.start
  · simp only [Segment.limit]
    exact Range.confines_limitEnd hd s.stop

theorem ColorAdjustments.limited_limit (a : ColorAdjustments Binary64) : a.Limited a.limit where
  brightness := rel_map Range.confines_limitLevel _
  contrast := rel_map Range.confines_limitLevel _
  saturation := rel_map Range.confines_limitLevel _
  temperature := rel_map Range.confines_limitLevel _
  tint := rel_map Range.confines_limitLevel _
  exposure := rel_map Range.confines_limitLevel _

theorem AudioParams.limited_limit (p : AudioParams Binary64) : p.Limited p.limit where
  volume := rel_map Range.confines_limitVolume _
  musicVolume := rel_map Range.confines_limitShare _
  noiseReduction := rel_map Range.confines_limitShare _
  musicUrl := rfl
  fadeDuration := rfl

namespace Command

variable {duration : Option Binary64}

/-- **What becomes of a command** -/
theorem limited_limit (hd : ∀ d ∈ duration, d ≠ .nan) (c : Command Binary64) : Limited duration c (c.limit duration) := by
  cases c with
  | trim start stop => exact .trim (Range.confines_limitStart start) (Range.confines_limitEnd hd stop)
  | cut segments =>
    refine .cut ?_
    rw [List.forall₂_map_right_iff]
    exact List.forall₂_same.2 fun s _ => s.limited_limit hd
  | colorCorrection a preset => exact .colorCorrection a.limited_limit
  | audio action params => exact .audio params.limited_limit
  | effect name intensity params => exact .effect (Range.confines_limitShare intensity)
  | _ => exact .other (by simp [kind?, rangedKinds])

theorem Limited.tag_eq {c d : Command Binary64} (h : Limited duration c d) : d.tag = c.tag ∧ d.kind? = c.kind? := by
  cases h <;> exact ⟨rfl, rfl⟩

end Command

/-- **What bringing commands into range does, and what it does not.** Under a duration that is unknown or any number but NaN,
every command stays in its place with its tag and its kind. Its levels, shares, volumes, starts and ends lie in their
ranges, whatever they were, and stay where they were if they lay there; absent ones stay absent, and the removals of a cut
stay in their number and order. All other fields stay, and so do all commands of other kinds. -/
theorem limitCommands_limited (duration : Option Binary64) (hd : ∀ d ∈ duration, d ≠ .nan) (cs : List (Command Binary64)) :
    (limitCommands duration cs).length = cs.length ∧
    (limitCommands duration cs).map Command.tag = cs.map Command.tag ∧
    (limitCommands duration cs).map Command.kind? = cs.map Command.kind? ∧
    List.Forall₂ (Command.Limited duration) cs (limitCommands duration cs) := by
  have hone : ∀ c, Command.Limited duration c (c.limit duration) := Command.limited_limit hd
  refine ⟨List.length_map _, ?_, ?_, ?_⟩
  · rw [limitCommands, List.map_map]
    exact List.map_congr_left fun c _ => (hone c).tag_eq.1
  · rw [limitCommands, List.map_map]
    exact List.map_congr_left fun c _ => (hone c).tag_eq.2
  · rw [limitCommands, List.forall₂_map_right_iff]
    exact List.forall₂_same.2 fun c _ => hone c

/-- a trim of which nothing is known, an effect that is not a number, and an audio command with one setting out of range and
one that is free, between two commands without ranges -/
theorem limitCommands_limited_mixed :
    let n : ℤ → Binary64 := fun k => ofRat k
    let cs : List (Command Binary64) := [.unknown "speed_ramp" [("curve", .null)], .trim .nan (.infinite false),
      .effect "blur" .nan [], .audio "fade_in" { volume := some (.infinite true), fadeDuration := some .nan },
      .transition "fade" (n 500) "end"]
    (∀ d ∈ some (n 100), d ≠ .nan) ∧
      List.Forall₂ (Command.Limited (some (n 100))) cs (limitCommands (some (n 100)) cs) ∧
      limitCommands (some (n 100)) cs = [.unknown "speed_ramp" [("curve", .null)], .trim (n 0) (n 100),
        .effect "blur" (n 1) [], .audio "fade_in" { volume := some (n 0), fadeDuration := some .nan },
        .transition "fade" (n 500) "end"] := by
  intro n cs
  have hd : ∀ d ∈ some (n 100), d ≠ .nan := by decide +kernel
  have hstart : limitStart .nan = n 0 := by decide +kernel
  have hstop : limitEnd (some (n 100)) (.infinite false) = n 100 := by decide +kernel
  have hshare : limitShare .nan = n 1 := by decide +kernel
  have hvolume : limitVolume (.infinite true) = n 0 := by decide +kernel
  refine ⟨hd, (limitCommands_limited (some (n 100)) hd cs).2.2.2, ?_⟩
  simp only [cs, limitCommands, List.map_cons, List.map_nil, Command.limit, AudioParams.limit, Option.map_some,
    Option.map_none, hstart, hstop, hshare, hvolume]

end EditPlan
