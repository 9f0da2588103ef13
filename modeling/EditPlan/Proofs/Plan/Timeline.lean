import EditPlan.Proofs.Number.Exact
import EditPlan.Proofs.Footage.Windows
import EditPlan.Proofs.Plan.Steps
import EditPlan.Proofs.Plan.Operations

/-!
The running duration against the length of the video, in exact arithmetic.

The length is told by the operations alone, each of which makes a video of some length out of a video of length `L`:
- a trim keeps what lies of its stretch before `L`;
- a cut keeps what lies of its windows between `0` and `L`;
- a change of speed multiplies `L`; all other operations keep it.
The running duration is what the planner remembers. It takes the times of a trim and of a window as they are, and those
were brought into the range of the source, not of the video as it is by then.

Main statements:
- `Command.durationAfter_eq_iff`: one command keeps duration and length together exactly if it fits into the video it meets;
- `duration_eq_length_iff`: both are the same after every prefix of a list exactly if every command fits; then nothing but
  a change of speed makes the video longer, as long as no removal of a cut ends before it starts.
Witnesses:
- `duration_eq_length_trim_cut`: a trim and a cut of what it leaves;
- `duration_outgrows_length`: without a fit they part, at a trim or a cut behind a trim and at a removal that lies before
  the beginning.
-/

namespace EditPlan

open Number

/-! ## Lengths -/

namespace Footage.Window

/-- length of what lies of a window in a video of length `length` -/
def lengthIn (length : Rat) (w : Window Rat) : Rat :=
  max 0 ((w.stop.map (min · length)).getD length - max w.start 0)

/-- a window that lies in a video of length `length` -/
def Within (length : Rat) (w : Window Rat) : Prop := 0 ≤ w.start ∧ ∀ e, w.stop = some e → e ≤ length

theorem span_pos {w : Window Rat} (h : w.Closed) : 0 < w.span := by
  obtain ⟨e, he, hlt⟩ := h
  simp only [span, he]
  exact sub_pos.2 hlt

theorem lengthIn_le_span (length : Rat) {w : Window Rat} (h : w.Closed) : w.lengthIn length ≤ w.span := by
  obtain ⟨e, he, hlt⟩ := h
  simp only [lengthIn, span, he, Option.map_some, Option.getD_some]
  refine max_le (sub_nonneg.2 hlt.le) (sub_le_sub (min_le_left _ _) (le_max_left _ _))

/-- all of a window lies in the video exactly if both its ends do -/
theorem lengthIn_eq_span_iff (length : Rat) {w : Window Rat} (h : w.Closed) :
    w.lengthIn length = w.span ↔ w.Within length := by
  obtain ⟨e, he, hlt⟩ := h
  have hwithin : w.Within length ↔ 0 ≤ w.start ∧ e ≤ length := by simp [Within, he]
  rw [hwithin]
  simp only [lengthIn, span, he, Option.map_some, Option.getD_some]
  constructor
  · intro heq
    have hpos : (0 : Rat) < e - w.start := sub_pos.2 hlt
    have hle : min e length - max w.start 0 = e - w.start := by
      rcases max_choice (0 : Rat) (min e length - max w.start 0) with h0 | h0
      · rw [h0] at heq; linarith
      · rw [h0] at heq; exact heq
    constructor
    · by_contra hneg
      have := max_eq_right (not_le.1 hneg).le
      have := min_le_left e length
      linarith
    · by_contra hbig
      have := min_eq_right (not_le.1 hbig).le
      have := le_max_left w.start 0
      linarith
  · rintro ⟨hstart, hstop⟩
    rw [min_eq_left hstop, max_eq_left hstart, max_eq_right (sub_pos.2 hlt).le]

end Footage.Window

/-- total length of what lies of windows in a video of length `length` -/
def Footage.lengthIn (length : Rat) (windows : List (Footage.Window Rat)) : Rat :=
  (windows.map (Footage.Window.lengthIn length)).sum

def Footage.span (windows : List (Footage.Window Rat)) : Rat := (windows.map Footage.Window.span).sum

theorem Footage.span_nonneg {windows : List (Footage.Window Rat)} (h : ∀ w ∈ windows, w.Closed) :
    0 ≤ Footage.span windows := by
  refine List.sum_nonneg fun x hx => ?_
  obtain ⟨w, hw, rfl⟩ := List.mem_map.1 hx
  exact (w.span_pos (h w hw)).le

theorem Footage.lengthIn_le_span (length : Rat) {windows : List (Footage.Window Rat)} (h : ∀ w ∈ windows, w.Closed) :
    Footage.lengthIn length windows ≤ Footage.span windows :=
  List.sum_le_sum fun w hw => w.lengthIn_le_span length (h w hw)

theorem Footage.lengthIn_eq_span_iff (length : Rat) {windows : List (Footage.Window Rat)} (h : ∀ w ∈ windows, w.Closed) :
    Footage.lengthIn length windows = Footage.span windows ↔ ∀ w ∈ windows, w.Within length := by
  induction windows with
  | nil => simp [Footage.lengthIn, Footage.span]
  | cons w rest ih =>
    have hrest : ∀ v ∈ rest, v.Closed := fun v hv => h v (List.mem_cons_of_mem w hv)
    have hw : w.Closed := h w List.mem_cons_self
    rw [List.forall_mem_cons, ← ih hrest, ← w.lengthIn_eq_span_iff length hw]
    simp only [Footage.lengthIn, Footage.span, List.map_cons, List.sum_cons]
    -- neither summand can make up for the other
    have h1 := w.lengthIn_le_span length hw
    have h2 := Footage.lengthIn_le_span length hrest
    simp only [Footage.lengthIn, Footage.span] at h2
    constructor
    · intro heq
      exact ⟨by linarith, by linarith⟩
    · rintro ⟨e1, e2⟩
      rw [e1, e2]

/-- length of what an operation makes of a video of length `length` -/
def Detail.lengthFrom (length : Rat) : Detail Rat → Rat
  | .trim start stretch => max 0 (min (start + stretch) length - min start length)
  | .cut kept => Footage.lengthIn length kept
  | .effect name intensity => ((speedFactor? name intensity).map (length * ·)).getD length
  | _ => length

/-- length of what operations make of a video of length `length`, one after the other -/
def videoLength (length : Rat) (ops : List (Operation Rat)) : Rat := ops.foldl (fun l op => op.detail.lengthFrom l) length

theorem videoLength_append (length : Rat) (ops : List (Operation Rat)) (op : Operation Rat) :
    videoLength length (ops ++ [op]) = op.detail.lengthFrom (videoLength length ops) := by
  simp [videoLength, List.foldl_append]

/-! ## One command -/

namespace Command

/-- a command that fits into a video of length `length`: a trim that keeps anything ends within it, and a cut keeps only
windows within it -/
def FitsIn (length : Rat) : Command Rat → Prop
  | .trim start stop => stop ≤ start ∨ stop ≤ length
  | .cut segments => ∀ w ∈ Footage.kept segments (some length), w.Within length
  | _ => True

theorem trimmed_eq_iff (length start stop : Rat) :
    trimmed start stop = max 0 (min (start + (stop - start)) length - min start length) ↔
      stop ≤ start ∨ stop ≤ length := by
  rw [trimmed, Exact.atLeast_eq_max, Exact.zero_eq, add_sub_cancel]
  rcases le_or_gt stop start with hempty | hlt
  · -- nothing is kept, in the video or beyond it
    have hmin : min stop length ≤ min start length := min_le_min_right length hempty
    rw [max_eq_left (sub_nonpos.2 hempty), max_eq_left (sub_nonpos.2 hmin)]
    exact iff_of_true rfl (Or.inl hempty)
  · have hmin : min start length ≤ min stop length := min_le_min_right length hlt.le
    rw [max_eq_right (sub_nonneg.2 hlt.le), max_eq_right (sub_nonneg.2 hmin)]
    constructor
    · intro heq
      by_contra hnot
      obtain ⟨-, hbeyond⟩ := not_or.1 hnot
      rw [min_eq_right (not_le.1 hbeyond).le] at heq
      rcases min_choice start length with h | h
      · rw [h] at heq; linarith
      · rw [h] at heq; linarith
    · rintro (hle | hle)
      · exact absurd hle (not_le.2 hlt)
      · rw [min_eq_left hle, min_eq_left (hlt.le.trans hle)]

theorem cutDuration_eq (segments : List (Segment Rat)) (length : Rat) :
    cutDuration segments (some length) = some (Footage.span (Footage.kept segments (some length))) := by
  rw [cutDuration_of_known, Exact.sum_eq]
  rfl

theorem lengthFrom_of_still {op : Operation Rat} (htrim : op.kind ≠ .trim) (hcut : op.kind ≠ .cut)
    (heffect : op.kind ≠ .effect) (length : Rat) : op.detail.lengthFrom length = length := by
  unfold Operation.kind at htrim hcut heffect
  cases hdetail : op.detail with
  | trim => rw [hdetail] at htrim; exact absurd rfl htrim
  | cut => rw [hdetail] at hcut; exact absurd rfl hcut
  | effect => rw [hdetail] at heffect; exact absurd rfl heffect
  | _ => rfl

/-- **One command.** Where the duration is the length, the command keeps them together exactly if it fits. -/
theorem durationAfter_eq_iff {setup : Setup Rat} {s : State Rat} {input : String} {c : Command Rat}
    {op : Operation Rat} {length : Rat} (hs : s.duration = some length)
    (hb : c.build setup s input = .ok (some op)) :
    c.durationAfter s = some (op.detail.lengthFrom length) ↔ c.FitsIn length := by
  have hkind := kind_of_build hb
  cases c with
  | trim start stop =>
    rw [detail_trim hb, durationAfter, Option.some_inj]
    exact trimmed_eq_iff length start stop
  | cut segments =>
    rw [detail_cut hb, durationAfter, hs, cutDuration_eq, Option.some_inj]
    rw [eq_comm]
    exact Footage.lengthIn_eq_span_iff length fun w hw => Footage.kept_closed hw
  | effect name intensity params =>
    obtain ⟨hdetail, hmoves⟩ := detail_effect hb
    rw [hdetail, durationAfter, Detail.lengthFrom]
    refine iff_of_true ?_ trivial
    cases hfactor : speedFactor? name intensity with
    | none => exact hs
    | some factor =>
      simp only [hmoves factor hfactor, hs]
      rfl
  | unknown tag extras => exact absurd hkind (by simp [kind?])
  | _ =>
    refine iff_of_true ?_ trivial
    have hother := Option.some.inj hkind
    rw [lengthFrom_of_still (by simp [← hother]) (by simp [← hother]) (by simp [← hother])]
    exact hs

end Command

/-! ## Nothing gets longer -/

namespace Footage

theorem span_append (xs ys : List (Window Rat)) : span (xs ++ ys) = span xs + span ys := by simp [span]

theorem span_singleton (start stop : Rat) : span [⟨start, some stop⟩] = stop - start := by simp [span, Window.span]

/-- windows of removals in order that do not end before they start: each lies between the starts of two removals, so
together they are no longer than the stretch from the least start on -/
theorem span_between_le {row : List (Segment Rat)} (hsorted : Sorted row) (hord : ∀ s ∈ row, s.start ≤ s.stop)
    {low cursor length : Rat} (hcursor : low ≤ cursor) (hlow : ∀ s ∈ row, low ≤ s.start)
    (hfit : ∀ w ∈ (between cursor row).1, w.Within length) :
    span ((between cursor row).1 ++ ending (between cursor row).2 (some length)) ≤ max 0 (length - low) := by
  induction row generalizing low cursor with
  | nil =>
    simp only [between, List.nil_append]
    by_cases hlt : cursor < length
    · rw [ending_of_lt hlt, span_singleton]
      exact le_max_of_le_right (sub_le_sub_left hcursor length)
    · rw [ending_of_not_lt hlt]
      exact le_max_left _ _
  | cons s rest ih =>
    obtain ⟨hfirst, hrest⟩ := List.pairwise_cons.1 hsorted
    rw [between_cons] at hfit ⊢
    have hlater : span ((between s.stop rest).1 ++ ending (between s.stop rest).2 (some length)) ≤
        max 0 (length - s.start) :=
      ih hrest (fun t ht => hord t (List.mem_cons_of_mem s ht)) (hord s List.mem_cons_self)
        (fun t ht => not_lt.1 (hfirst t ht)) (fun w hw => hfit w (List.mem_append_right _ hw))
    have hs : low ≤ s.start := hlow s List.mem_cons_self
    have hlast : (between cursor (s :: rest)).2 = (between s.stop rest).2 := rfl
    rw [hlast, List.append_assoc, span_append]
    split_ifs at hfit ⊢ with hlt
    · -- the window up to this removal lies in the video, so the rest has what is left of it
      have hin : s.start ≤ length :=
        (hfit ⟨cursor, some s.start⟩ (List.mem_append_left _ (List.mem_singleton_self _))).2 _ rfl
      rw [max_eq_right (sub_nonneg.2 hin)] at hlater
      rw [span_singleton]
      refine le_max_of_le_right ?_
      linarith
    · have hnone : span ([] : List (Window Rat)) = 0 := rfl
      rw [hnone, zero_add]
      exact hlater.trans (max_le_max_left 0 (sub_le_sub_left hs length))

/-- what stays of removals that fit and do not end before they start is no longer than the video -/
theorem span_kept_le {segments : List (Segment Rat)} (hord : ∀ s ∈ segments, s.start ≤ s.stop)
    (hlow : ∀ s ∈ segments, 0 ≤ s.start) {length : Rat}
    (hfit : ∀ w ∈ kept segments (some length), w.Within length) :
    span (kept segments (some length)) ≤ max 0 length := by
  have hmem : ∀ s ∈ inOrder segments, s ∈ segments := fun s hs => (inOrder_perm segments).subset hs
  have hsorted : Sorted (inOrder segments) := Exact.inOrder_sorted segments
  have hbetween : ∀ w ∈ (between zero (inOrder segments)).1, w.Within length := fun w hw =>
    hfit w (List.mem_append_left _ hw)
  have hspan := span_between_le hsorted (fun s hs => hord s (hmem s hs)) le_rfl (fun s hs => hlow s (hmem s hs)) hbetween
  rwa [sub_zero] at hspan

end Footage

/-- a cut of which no removal ends before it starts; any other command -/
def Command.Ordered : Command Rat → Prop
  | .cut segments => ∀ s ∈ segments, s.start ≤ s.stop
  | _ => True

/-! ## Commands in range -/

namespace Command

theorem speedFactor_mem {name : String} {x factor : Rat} (h : speedFactor? name (limitShare x) = some factor) :
    1 / 2 ≤ factor ∧ factor ≤ 2 := by
  have h0 := Exact.limitShare_nonneg x
  have h1 := Exact.limitShare_le_one x
  unfold speedFactor? at h
  split_ifs at h with hslow hfast
  · have hf : 1 + limitShare x = factor := Option.some.inj h
    exact ⟨by linarith, by linarith⟩
  · have hf : 1 - limitShare x * (1 / 2) = factor := Option.some.inj h
    exact ⟨by linarith, by linarith⟩

/-- with exact numbers every step of a command in range has an answer behind a known duration, unless it is captions of a
size with too many digits: no factor is zero -/
theorem definite_limit (bound : Option Rat) {c : Command Rat} (hcaption : (c.limit bound).captionFault? = none)
    {s : State Rat} (hknown : s.duration ≠ none) : (c.limit bound).Definite s := by
  cases c with
  | trim start stop => exact ⟨⟨_, rfl⟩, ⟨_, rfl⟩⟩
  | addCaptions style language => exact captionFault?_eq_none.1 hcaption style language rfl
  | audio action params => exact ⟨_, rfl⟩
  | effect name intensity params =>
    refine ⟨fun factor hfactor => ?_, ⟨_, rfl⟩, ⟨_, rfl⟩⟩
    have hpos := (speedFactor_mem hfactor).1
    have hne : factor ≠ 0 := by linarith
    exact beq_false_of_ne hne
  | thumbnail count style timestamps => exact ⟨⟨_, rfl⟩, fun hnone => absurd hnone hknown⟩
  | _ => exact trivial

/-- captions fit into every video, also those that cannot be planned -/
theorem fitsIn_of_captionFault {c : Command Rat} {e : Fault} (h : c.captionFault? = some e) (length : Rat) :
    c.FitsIn length := by
  cases c with
  | addCaptions style language => exact trivial
  | _ => exact absurd h (by simp [captionFault?])

theorem durationAfter_nonneg (bound : Option Rat) (c : Command Rat) {s : State Rat} {length : Rat}
    (hs : s.duration = some length) (hlength : 0 ≤ length) :
    ∃ later, (c.limit bound).durationAfter s = some later ∧ 0 ≤ later := by
  cases c with
  | trim start stop =>
    refine ⟨_, rfl, ?_⟩
    rw [trimmed, Exact.atLeast_eq_max, Exact.zero_eq]
    exact le_max_left _ _
  | cut segments =>
    rw [limit, durationAfter, hs, cutDuration_eq]
    exact ⟨_, rfl, Footage.span_nonneg fun w hw => Footage.kept_closed hw⟩
  | effect name intensity params =>
    rw [limit, durationAfter]
    cases hfactor : speedFactor? name (limitShare intensity) with
    | none => exact ⟨length, hs, hlength⟩
    | some factor =>
      simp only [hs]
      split_ifs
      · exact ⟨length, rfl, hlength⟩
      · have hpos := (speedFactor_mem hfactor).1
        exact ⟨length * factor, rfl, mul_nonneg hlength (by linarith)⟩
  | _ => exact ⟨length, hs, hlength⟩

/-- **No command but a change of speed makes a video longer**, if it fits and its removals do not end before they start -/
theorem durationAfter_le (bound : Option Rat) {c : Command Rat} {s : State Rat} {length later : Rat}
    (hs : s.duration = some length) (hlength : 0 ≤ length) (hkind : c.kind? ≠ some .effect)
    (hfit : (c.limit bound).FitsIn length) (hord : (c.limit bound).Ordered)
    (hlater : (c.limit bound).durationAfter s = some later) : later ≤ length := by
  cases c with
  | trim start stop =>
    have hstart : 0 ≤ limitStart start := by
      rw [limitStart, Exact.atLeast_eq_max, Exact.zero_eq]
      exact le_max_left _ _
    rw [limit, durationAfter, trimmed, Exact.atLeast_eq_max, Exact.zero_eq] at hlater
    rw [← Option.some.inj hlater]
    refine max_le hlength ?_
    rcases hfit with h | h <;> linarith
  | cut segments =>
    rw [limit, durationAfter, hs, cutDuration_eq] at hlater
    rw [← Option.some.inj hlater]
    have hlow : ∀ t ∈ segments.map (Segment.limit bound), 0 ≤ t.start := by
      intro t ht
      obtain ⟨t', -, rfl⟩ := List.mem_map.1 ht
      rw [Segment.limit, limitStart, Exact.atLeast_eq_max, Exact.zero_eq]
      exact le_max_left _ _
    exact (Footage.span_kept_le hord hlow hfit).trans (max_le hlength le_rfl)
  | effect name intensity params => exact absurd rfl hkind
  | _ =>
    rw [limit, durationAfter, hs] at hlater
    · exact (Option.some.inj hlater).ge
    all_goals simp

end Command

/-! ## Runs -/

namespace Progress

variable {setup : Setup Rat} {p : Progress Rat} {c : Command Rat} {d : Rat}

/-- a command that is planned keeps duration and length together exactly if it fits -/
theorem step_inStep_iff (h : p.fault = none) (hp : p.state.duration = some (videoLength d p.operations))
    (hb : ∃ r, c.build setup p.state p.current = .ok r) :
    (step setup p c).state.duration = some (videoLength d (step setup p c).operations) ↔
      c.FitsIn (videoLength d p.operations) := by
  obtain ⟨_ | op, hb⟩ := hb
  · rw [step_none h hb]
    have hunknown := kind?_of_build_none hb
    cases c with
    | unknown tag extras => exact iff_of_true hp trivial
    | _ => exact absurd hunknown (by simp [Command.kind?])
  · rw [step_some h hb]
    simp only [videoLength_append]
    exact Command.durationAfter_eq_iff hp hb

end Progress

/-! ## Prefixes of a list -/

section Prefixes

variable (planner : Planner Rat) (context : VideoContext Rat) (cs : List (Command Rat))

/-- the run of the first `n` commands, brought in range before -/
def runFirst (n : ℕ) : Progress Rat :=
  Progress.run planner.setup (Progress.start planner.setup.source (some context))
    ((limitCommands context.duration cs).take n)

variable {planner context cs}

/-- a command of a list in range was some command before -/
theorem exists_limit {n : ℕ} {c : Command Rat} (h : (limitCommands context.duration cs)[n]? = some c) :
    ∃ c' : Command Rat, c = c'.limit context.duration ∧ c'.kind? = c.kind? := by
  rw [limitCommands, List.getElem?_map] at h
  obtain ⟨c', -, rfl⟩ := Option.map_eq_some_iff.1 h
  exact ⟨c', rfl, by cases c' <;> rfl⟩

theorem runFirst_succ {n : ℕ} {c : Command Rat} (h : (limitCommands context.duration cs)[n]? = some c) :
    runFirst planner context cs (n + 1) = Progress.step planner.setup (runFirst planner context cs n) c :=
  Progress.run_take_succ h

theorem runFirst_succ_of_none {n : ℕ} (h : (limitCommands context.duration cs)[n]? = none) :
    runFirst planner context cs (n + 1) = runFirst planner context cs n := Progress.run_take_of_none h

/-- a state with a known duration that is not negative -/
def State.IsTimed (s : State Rat) : Prop := ∃ length, s.duration = some length ∧ 0 ≤ length

/-- every command in range keeps the duration known and not negative -/
theorem isTimed_advance {n : ℕ} : ∀ c ∈ (limitCommands context.duration cs).take n, ∀ s : State Rat,
    s.IsTimed → (c.advance s).IsTimed := by
  rintro c hc s ⟨length, hlength, h0⟩
  obtain ⟨c', -, rfl⟩ := List.mem_map.1 (List.mem_of_mem_take hc)
  exact Command.durationAfter_nonneg context.duration c' hlength h0

/-- **So does a run**, also one that stops -/
theorem runFirst_isTimed (planner : Planner Rat) (cs : List (Command Rat)) {d : Rat} (hd : context.duration = some d)
    (hpos : 0 < d) (n : ℕ) : (runFirst planner context cs n).state.IsTimed :=
  Progress.inv_run isTimed_advance ⟨d, hd, hpos.le⟩

/-- with exact numbers only captions of a size with too many digits are not planned -/
theorem faultOf?_limit_exact (bound : Option Rat) (c : Command Rat) (setup : Setup Rat) {s : State Rat} (hs : s.IsTimed)
    (input : String) : faultOf? ((c.limit bound).build setup s input) = (c.limit bound).captionFault? := by
  obtain ⟨length, hlength, -⟩ := hs
  have hknown : s.duration ≠ none := by
    rw [hlength]
    exact Option.some_ne_none length
  exact Command.faultOf?_build (fun hcaption => Command.definite_limit bound hcaption hknown) setup input

theorem runFirst_fault (planner : Planner Rat) (cs : List (Command Rat)) {d : Rat} (hd : context.duration = some d)
    (hpos : 0 < d) (n : ℕ) : (runFirst planner context cs n).fault = none ↔
      ShortCaptions ((limitCommands context.duration cs).take n) := by
  rw [shortCaptions_iff, runFirst, Progress.fault_run _ isTimed_advance ?_ rfl ⟨d, hd, hpos.le⟩]
  intro c hc s input hs
  obtain ⟨c', -, rfl⟩ := List.mem_map.1 (List.mem_of_mem_take hc)
  exact faultOf?_limit_exact context.duration c' planner.setup hs input

theorem runFirst_fault_of_succ {n : ℕ} (h : (runFirst planner context cs (n + 1)).fault = none) :
    (runFirst planner context cs n).fault = none := by
  cases hc : (limitCommands context.duration cs)[n]? with
  | none => rwa [runFirst_succ_of_none hc] at h
  | some c =>
    cases hfault : (runFirst planner context cs n).fault with
    | none => rfl
    | some e =>
      rw [runFirst_succ hc, Progress.step_stopped (by rw [hfault]; rfl), hfault] at h
      exact absurd h (by simp)

/-- the run of a prefix, one command further: duration and length stay together exactly if the command fits -/
theorem runFirst_inStep_iff {d : Rat} {n : ℕ} {c : Command Rat} (hc : (limitCommands context.duration cs)[n]? = some c)
    (hgoes : (runFirst planner context cs (n + 1)).fault = none)
    (hn : (runFirst planner context cs n).state.duration =
      some (videoLength d (runFirst planner context cs n).operations)) :
    (runFirst planner context cs (n + 1)).state.duration =
        some (videoLength d (runFirst planner context cs (n + 1)).operations) ↔
      c.FitsIn (videoLength d (runFirst planner context cs n).operations) := by
  have hfault := runFirst_fault_of_succ hgoes
  rw [runFirst_succ hc] at hgoes ⊢
  rw [Progress.fault_step hfault] at hgoes
  exact Progress.step_inStep_iff hfault hn (faultOf?_eq_none.1 hgoes)

end Prefixes

/-- **When the duration is the length.** For a source of known duration and any commands in range: a prefix is planned
unless the size of some captions has too many digits, and leaves a known duration. After every prefix that is planned it is
the length of the video that the operations make, exactly if each command fits into the video it meets; and a command that
fits makes no video longer, unless it changes the speed or is a cut with a removal that ends before it starts. -/
theorem duration_eq_length_iff (planner : Planner Rat) (context : VideoContext Rat) (d : Rat)
    (hd : context.duration = some d) (hpos : 0 < d) (cs : List (Command Rat)) :
    let vs := limitCommands context.duration cs
    let after n := planner.plan (some context) (vs.take n)
    (∀ n, ((∃ plan, (after n).result = .ok plan) ↔ ShortCaptions (vs.take n)) ∧
      ∃ length, (after n).planner.state.duration = some length ∧ 0 ≤ length) ∧
    ((∀ n plan, (after n).result = .ok plan →
        (after n).planner.state.duration = some (videoLength d plan.operations)) ↔
      ∀ n plan c length, (after n).result = .ok plan → vs[n]? = some c →
        (after n).planner.state.duration = some length → c.FitsIn length) ∧
    ∀ n c length later, vs[n]? = some c → c.kind? ≠ some .effect → c.FitsIn length → c.Ordered →
      (after n).planner.state.duration = some length → (after (n + 1)).planner.state.duration = some later →
        later ≤ length := by
  intro vs after
  have hstate : ∀ n, (after n).planner.state = (runFirst planner context cs n).state := fun n => rfl
  have htimed := runFirst_isTimed planner cs hd hpos
  have hplan : ∀ n, (runFirst planner context cs n).fault = none → (after n).result =
      .ok ⟨(runFirst planner context cs n).operations, (runFirst planner context cs n).current⟩ :=
    fun n hfault => plan_eq_ok.2 ⟨hfault, rfl⟩
  have hfault : ∀ {n plan}, (after n).result = .ok plan → (runFirst planner context cs n).fault = none :=
    fun hresult => (plan_eq_ok.1 hresult).1
  refine ⟨fun n => ⟨?_, htimed n⟩, ⟨?_, ?_⟩, ?_⟩
  · rw [← runFirst_fault planner cs hd hpos n]
    exact ⟨fun ⟨plan, hresult⟩ => hfault hresult, fun hnone => ⟨_, hplan n hnone⟩⟩
  · intro h n plan c length hresult hc hlength
    have hn := h n _ (hplan n (hfault hresult))
    rw [hlength] at hn
    rw [Option.some.inj hn]
    cases hgoes : (runFirst planner context cs (n + 1)).fault with
    | none =>
      -- both are equal before the command and after it, so it fits
      exact (runFirst_inStep_iff hc hgoes (hlength.trans hn)).1 (h (n + 1) _ (hplan (n + 1) hgoes))
    | some e =>
      obtain ⟨c', rfl, -⟩ := exists_limit hc
      rw [runFirst_succ hc, Progress.fault_step (hfault hresult), faultOf?_limit_exact _ _ _ (htimed n)] at hgoes
      exact Command.fitsIn_of_captionFault hgoes _
  · intro h n plan hresult
    have hgoes := hfault hresult
    rw [← Except.ok.inj ((hplan n hgoes).symm.trans hresult), hstate n]
    clear hresult
    induction n with
    | zero => exact hd
    | succ n ih =>
      have hbefore := runFirst_fault_of_succ hgoes
      have hequal := ih hbefore
      cases hc : vs[n]? with
      | none => rwa [runFirst_succ_of_none hc]
      | some c => exact (runFirst_inStep_iff hc hgoes hequal).2 (h n _ c _ (hplan n hbefore) hc hequal)
  · intro n c length later hc hkind hfit hord hlength hlater
    obtain ⟨c', rfl, hkind'⟩ := exists_limit hc
    obtain ⟨length', hlength', h0⟩ := htimed n
    rw [hstate] at hlength hlater
    rw [hlength] at hlength'
    rw [← Option.some.inj hlength'] at h0
    cases hstop : (runFirst planner context cs n).fault with
    | some e =>
      rw [runFirst_succ hc, Progress.step_stopped (by rw [hstop]; rfl), hlength] at hlater
      exact (Option.some.inj hlater).ge
    | none =>
      rw [runFirst_succ hc, Progress.state_step hstop] at hlater
      exact Command.durationAfter_le context.duration hlength h0 (hkind' ▸ hkind) hfit hord hlater

/-- a trim and a cut of what it leaves fit, so the duration is the length throughout -/
theorem duration_eq_length_trim_cut :
    let planner := Planner.fresh (⟨"in.mp4", "/w", "ffmpeg", "captions.srt", -30⟩ : Setup Rat)
    let context : VideoContext Rat := { duration := some 100 }
    let vs := limitCommands context.duration [.trim 10 40, .cut [⟨5, 20⟩]]
    (0 : Rat) < 100 ∧ ∀ n plan, (planner.plan (some context) (vs.take n)).result = .ok plan →
      (planner.plan (some context) (vs.take n)).planner.state.duration = some (videoLength 100 plan.operations) := by
  intro planner context vs
  refine ⟨by norm_num, (duration_eq_length_iff planner context 100 rfl (by norm_num) [.trim 10 40, .cut [⟨5, 20⟩]]).2.1.2
    fun n _ c length _ hc hlength => ?_⟩
  rcases n with _ | _ | n
  · rw [← Option.some.inj hc]
    have hsource : length = 100 := (Option.some.inj hlength).symm
    rw [hsource]
    exact Or.inr (by decide +kernel)
  · rw [← Option.some.inj hc]
    have htrimmed : (planner.plan (some context) (vs.take 1)).planner.state.duration = some 30 := by decide +kernel
    rw [Option.some.inj (hlength.symm.trans htrimmed)]
    have hkept : Footage.kept [Segment.limit (some 100) ⟨5, 20⟩] (some 30) =
        [⟨0, some 5⟩, (⟨20, some 30⟩ : Footage.Window Rat)] := by decide +kernel
    simp only [Command.limit, Command.FitsIn, List.map_cons, List.map_nil, context]
    rw [hkept]
    norm_num [Footage.Window.Within]
  · exact absurd hc (by simp [limitCommands])

/-- **Without a fit the duration outgrows the video**: a trim behind a trim leaves nothing of a video that is then said to
be 50 seconds long; a cut behind a trim is said to leave 50 seconds of 10; and a removal that lies before the beginning is
said to add a second. -/
theorem duration_outgrows_length :
    let planner := Planner.fresh (⟨"in.mp4", "/w", "ffmpeg", "captions.srt", -30⟩ : Setup Rat)
    let after := fun cs => planner.plan (some { duration := some 100 }) (limitCommands (some 100) cs)
    let both := fun cs => ((after cs).planner.state.duration,
      (after cs).result.toOption.map fun plan => videoLength 100 plan.operations)
    both [.trim 0 10, .trim 50 100] = (some 50, some 0) ∧ both [.trim 0 10, .cut [⟨50, 60⟩]] = (some 50, some 10) ∧
      both [.cut [⟨-5, -1⟩]] = (some 101, some 100) := by
  decide +kernel

end EditPlan
