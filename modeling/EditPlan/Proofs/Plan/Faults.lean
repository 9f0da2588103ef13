import EditPlan.Proofs.Binary64.Sign
import EditPlan.Proofs.Command.Limit
import EditPlan.Proofs.Command.Short
import EditPlan.Proofs.Plan.Operations
import EditPlan.Proofs.Plan.Steps

/-!
What stops a plan in doubles. Commands in range come with levels between finite bounds, so every number that is rounded
for a description is small, no change of speed has the factor zero, and gaps between thumbnails can be counted. Only the
times of a trim are open on one side, and minutes and seconds of an infinite time or a NaN do not exist; and only the size
of captions is a whole number of any length, which has a text up to 4300 digits.

Main statements:
- `zero_lt_speedFactor`: the factor of a change of speed in range;
- `Command.definite_limit_double`: of a command in range all numeric steps have an answer, unless it is an endless trim or
  captions of a size with too many digits;
- `fault_limit`: a plan of commands in range stops with the fault of the first of those;
- `plan_stops_iff`: so it fails exactly if there is one, and only a trim can be one if the commands were read from a document
  without such whole numbers;
- `hasEndlessTrim_limit_iff`: under a finite duration those trims start at positive or end at negative infinity.
Witness and counterexample:
- `plan_stops_endless_trim`: a trim from positive infinity;
- `plan_stops_long_caption`: captions with too many digits, and no trim.
-/

namespace EditPlan

open Number

/-! ## Levels in use -/

namespace Binary64

theorem bounded_mul_half {share : Binary64} (h : UpTo (1 * unitsPerOne) share) : Bounded (twoPow 1073) (share * half) := by
  rw [number_half]
  refine h.bounded.mul (.finite false _ _ le_rfl) (representable_twoPow (by decide)) ?_
  rw [Nat.one_mul]

theorem UpTo.zero_le {v : ℕ} {x : Binary64} (h : UpTo v x) : (Number.zero : Binary64) ≤ x := by
  cases h with
  | finite u hu _ => exact zero_le_finite (signed_false_nonneg u)

theorem upTo_one : UpTo (1 * unitsPerOne) (one : Binary64) := by
  rw [number_one]
  exact .finite _ _ le_rfl

theorem not_isZero_one : (one : Binary64).isZero = false := by
  rw [number_one, isZero, Nat.one_mul]
  exact beq_false_of_ne (twoPow_pos _).ne'

theorem lt_one_of_bounded {part : Binary64} (h : Bounded (twoPow 1073) part) : part < Number.one := by
  have hpos := twoPow_pos 1073
  have hunit := unitsPerOne_eq
  rw [number_one]
  cases h with
  | finite s u hu hle =>
    refine decide_eq_true ?_
    cases s <;> simp only [signed, Bool.false_eq_true, if_true, if_false] <;> omega

/-- **The factor of a change of speed in range** is finite and above zero: it is one and a share, or one less half a share -/
theorem zero_lt_speedFactor {name : String} {x factor : Binary64}
    (h : speedFactor? name (limitShare x) = some factor) : Number.zero < factor ∧ factor.isFinite = true := by
  have hshare := upTo_limitShare x
  have hrange : Representable (2 * unitsPerOne) := representable_whole (by decide)
  unfold speedFactor? at h
  split_ifs at h
  · have htwo : 1 * unitsPerOne + 1 * unitsPerOne ≤ 2 * unitsPerOne := by omega
    have hsum : ¬ (one + limitShare x).isZero = true := fun hzero =>
      absurd ((isZero_add_iff upTo_one.zero_le hshare.zero_le).1 hzero).1 (by rw [not_isZero_one]; exact Bool.false_ne_true)
    rw [← Option.some.inj h]
    exact ⟨zero_lt_of_not_isZero (zero_le_add upTo_one.zero_le hshare.zero_le) (Bool.eq_false_of_not_eq_true hsum),
      (upTo_one.bounded.add hshare.bounded hrange htwo).isFinite⟩
  · have hpart := bounded_mul_half hshare
    have hhalf : 1 * unitsPerOne + twoPow 1073 ≤ 2 * unitsPerOne := by
      have hunit := unitsPerOne_eq
      omega
    rw [← Option.some.inj h]
    exact ⟨zero_lt_sub_of_lt (lt_one_of_bounded hpart) upTo_one.bounded.isFinite hpart.isFinite,
      (upTo_one.bounded.sub hpart hrange hhalf).isFinite⟩

theorem isZero_speedFactor {name : String} {x factor : Binary64}
    (h : speedFactor? name (limitShare x) = some factor) : Number.isZero factor = false :=
  not_isZero_of_pos (zero_lt_speedFactor h).1

/-- a level of at most two times a small whole number is rounded -/
theorem nearestInt_level {v n : ℕ} {x : Binary64} (hx : Bounded (v * unitsPerOne) x) (hn : n ≤ twoPow 53)
    (hproduct : v * n ≤ twoPow 53) : ∃ k, Number.nearestInt (x * Number.ofRat (n : ℚ)) = .ok k := by
  have hfactor : Bounded (n * unitsPerOne) (Number.ofRat (n : ℚ)) := by
    rw [number_whole hn]
    exact .finite false _ _ le_rfl
  have hbounded : Bounded (v * n * unitsPerOne) (x * Number.ofRat (n : ℚ)) :=
    hx.mul hfactor (representable_whole hproduct) (Nat.le_of_eq (by ring))
  exact nearestInt_ok hbounded.isFinite

theorem ofInt?_gaps {count : ℤ} (h : count < 2 ^ 1023) : ∃ gaps, ofInt? (max 1 count + 1) = .ok gaps := by
  have hcast : ∀ k, (2 : ℤ) ^ k = (twoPow k : ℕ) := fun k => (Nat.cast_pow 2 k).symm
  have hsmall : 2 ≤ twoPow 1023 := twoPow_le (m := 1) (by decide)
  rw [hcast] at h
  exact ofInt?_ok (by omega)

end Binary64

/-! ## One command -/

namespace Command

open Binary64

/-- a trim with a time that is not finite -/
def isEndless : Command Binary64 → Bool
  | .trim start stop => !(start.isFinite && stop.isFinite)
  | _ => false

theorem isEndless_trim (start stop : Binary64) :
    (Command.trim start stop).isEndless = true ↔ ¬(start.isFinite = true ∧ stop.isFinite = true) := by
  rw [isEndless, Bool.not_eq_true', ← Bool.not_eq_true, Bool.and_eq_true]

theorem volume_limit (params : AudioParams Binary64) :
    Bounded (2 * unitsPerOne) (params.limit.volume.getD one) := by
  show Bounded _ ((params.volume.map limitVolume).getD one)
  cases params.volume with
  | none =>
    have hle : 1 * unitsPerOne ≤ 2 * unitsPerOne := Nat.mul_le_mul_right unitsPerOne one_le_two
    rw [Option.map_none, Option.getD_none, number_one]
    exact .finite false _ _ hle
  | some volume =>
    rw [Option.map_some, Option.getD_some]
    exact (upTo_limitVolume volume).bounded

theorem isShort_count {count : ℤ} (h : count < 2 ^ 1023) : Numeral.IsShort (max 1 count) := by
  have hpow : (2 : ℕ) ^ 1023 ≤ 10 ^ 1023 := pow_le_pow_left₀ (by decide) (by decide) 1023
  refine Numeral.isShort_of_lt (k := 1023) (by decide) (lt_of_lt_of_le ?_ hpow)
  have hone : (1 : ℤ) < 2 ^ 1023 := one_lt_pow₀ (by decide) (by decide)
  have hmax : max 1 count < 2 ^ 1023 := max_lt hone h
  have hpos : 0 ≤ max 1 count := le_max_of_le_left Int.one_nonneg
  rw [← Nat.cast_lt (α := ℤ), Int.natAbs_of_nonneg hpos, Nat.cast_pow]
  exact hmax

/-- what stops a command in range: an endless trim, or captions of a size with too many digits -/
def stopFault? (c : Command Binary64) : Option Fault :=
  if c.isEndless then some .nanToInteger else c.captionFault?

/-- **Of a command in range every numeric step has an answer**, unless it is an endless trim or captions of a size with too
many digits -/
theorem definite_limit_double (duration : Option Binary64) {c : Command Binary64}
    (hcount : ∀ count style times, c = .thumbnail count style times → count < 2 ^ 1023)
    (hend : (c.limit duration).isEndless = false) (hcaption : (c.limit duration).captionFault? = none)
    (s : State Binary64) : (c.limit duration).Definite s := by
  cases c with
  | trim start stop =>
    rw [limit, isEndless, Bool.not_eq_false'] at hend
    obtain ⟨hstart, hstop⟩ := Bool.and_eq_true_iff.1 hend
    exact ⟨clock_isFinite hstart, clock_isFinite hstop⟩
  | addCaptions style language => exact captionFault?_eq_none.1 hcaption style language rfl
  | audio action params => exact nearestInt_level (n := 100) (volume_limit params) (by decide) (by decide)
  | effect name intensity params =>
    have hshare := (upTo_limitShare intensity).bounded
    refine ⟨fun factor hfactor => isZero_speedFactor hfactor, ?_, ?_⟩
    · exact nearestInt_level (n := 10) hshare (by decide) (by decide)
    · exact nearestInt_level (n := 50) hshare (by decide) (by decide)
  | thumbnail count style timestamps =>
    have hsmall := hcount count style timestamps rfl
    exact ⟨ofInt?_gaps hsmall, fun _ => isShort_count hsmall⟩
  | _ => exact trivial

/-- an endless trim fails in every state: the text of one of its times does not exist -/
theorem build_endless {c : Command Binary64} (h : c.isEndless = true) (setup : Setup Binary64) (s : State Binary64)
    (input : String) : c.build setup s input = .error .nanToInteger := by
  cases c with
  | trim start stop =>
    have htrim : Build.trim setup s input start stop = .error .nanToInteger := by
      cases hstart : start.isFinite with
      | false =>
        have hclock : Number.clock start = .error .nanToInteger := clock_not_isFinite hstart
        rw [Build.trim, hclock]
        rfl
      | true =>
        have hstop : stop.isFinite = false := by
          rw [isEndless, hstart, Bool.true_and, Bool.not_eq_true'] at h
          exact h
        obtain ⟨text, htext⟩ := clock_isFinite hstart
        have hclock : Number.clock start = .ok text := htext
        have hclock' : Number.clock stop = .error .nanToInteger := clock_not_isFinite hstop
        rw [Build.trim, hclock, hclock']
        rfl
    rw [build, htrim]
    rfl
  | _ => exact absurd h Bool.false_ne_true

end Command

/-! ## Plans -/

section Plans

variable {b : Brief Binary64}

/-- the thumbnails of a brief can be counted in doubles -/
def Brief.CountsThumbnails (b : Brief Binary64) : Prop :=
  ∀ count style times, Command.thumbnail count style times ∈ b.commands → count < 2 ^ 1023

theorem Command.faultOf?_limit (duration : Option Binary64) {c : Command Binary64}
    (hcount : ∀ count style times, c = .thumbnail count style times → count < 2 ^ 1023) (setup : Setup Binary64)
    (s : State Binary64) (input : String) :
    faultOf? ((c.limit duration).build setup s input) = (c.limit duration).stopFault? := by
  unfold stopFault?
  cases hend : (c.limit duration).isEndless with
  | true =>
    rw [build_endless hend]
    rfl
  | false => exact faultOf?_build (fun hcaption => definite_limit_double duration hcount hend hcaption s) setup input

/-- **A plan of commands in range** is stopped by the first endless trim or captions with too many digits, if there is
one -/
theorem fault_limit (planner : Planner Binary64) (hcount : b.CountsThumbnails) :
    (planner.progress b.context b.limit.commands).fault = b.limit.commands.findSome? Command.stopFault? := by
  refine Progress.fault_run (fun _ => True) (fun _ _ _ _ => trivial) ?_ rfl trivial
  intro c hc s input _
  obtain ⟨c', hc', rfl⟩ := List.mem_map.1 hc
  refine Command.faultOf?_limit b.duration ?_ planner.setup s input
  intro count style times heq
  exact hcount count style times (heq ▸ hc')

/-- a trim among commands with a time that is not finite -/
def HasEndlessTrim (cs : List (Command Binary64)) : Prop :=
  ∃ start stop, Command.trim start stop ∈ cs ∧ ¬(start.isFinite = true ∧ stop.isFinite = true)

theorem exists_isEndless_iff {cs : List (Command Binary64)} :
    HasEndlessTrim cs ↔ ∃ c ∈ cs, c.isEndless = true := by
  constructor
  · rintro ⟨start, stop, hc, hend⟩
    exact ⟨_, hc, (Command.isEndless_trim start stop).2 hend⟩
  · rintro ⟨c, hc, hend⟩
    cases c with
    | trim start stop => exact ⟨start, stop, hc, (Command.isEndless_trim start stop).1 hend⟩
    | _ => exact absurd hend Bool.false_ne_true

/-- a fault among commands is that of an endless trim or of captions with too many digits -/
theorem stopFault_cases {cs : List (Command Binary64)} {e : Fault} (h : cs.findSome? Command.stopFault? = some e) :
    e = .nanToInteger ∧ HasEndlessTrim cs ∨ e = .tooManyDigits ∧ ¬ ShortCaptions cs := by
  obtain ⟨c, hc, hfault⟩ := List.exists_of_findSome?_eq_some h
  unfold Command.stopFault? at hfault
  split_ifs at hfault with hend
  · exact Or.inl ⟨(Option.some.inj hfault).symm, exists_isEndless_iff.2 ⟨c, hc, hend⟩⟩
  · refine Or.inr ⟨Command.captionFault?_eq_some hfault, ?_⟩
    intro hshort
    rw [shortCaptions_iff, List.findSome?_eq_none_iff] at hshort
    rw [hshort c hc] at hfault
    exact absurd hfault (by simp)

theorem stopFault_eq_none {cs : List (Command Binary64)} :
    cs.findSome? Command.stopFault? = none ↔ ¬ HasEndlessTrim cs ∧ ShortCaptions cs := by
  rw [exists_isEndless_iff, shortCaptions_iff, List.findSome?_eq_none_iff, List.findSome?_eq_none_iff]
  push Not
  rw [← forall₂_and]
  refine forall₂_congr fun c _ => ?_
  unfold Command.stopFault?
  cases hend : c.isEndless with
  | true => simp
  | false => simp

/-- no captions of a list that was read from a document within the bound have too many digits -/
theorem shortCaptions_of_read {j : Json} (hj : j.isShort = true) {cs : List (Command Binary64)}
    (h : readCommands j = .ok cs) : ShortCaptions cs := by
  obtain ⟨items, rfl, hitems⟩ := readCommands_eq_ok.1 h
  intro style language hc
  obtain ⟨x, hx, -, hread⟩ := Wire.exists_of_forall₂ hitems hc
  exact Command.isShort_caption_of_read (Json.allItems_iff.1 hj x hx) hread

/-- **When a plan fails.** Commands in range have a plan unless one of them is a trim with a time that is not finite, or
captions of a size with too many digits to be written. The fault is then the NaN that the minutes of such a time are, or
the digits of such a size. No other command stops a plan, whatever its numbers and texts; and a document without whole
numbers of so many digits holds no such captions. -/
theorem plan_stops_iff (planner : Planner Binary64) (b : Brief Binary64) (hcount : b.CountsThumbnails) :
    let outcome := planner.plan b.context b.limit.commands
    ((∃ e, outcome.result = .error e) ↔ HasEndlessTrim b.limit.commands ∨ ¬ ShortCaptions b.limit.commands) ∧
      (∀ e, outcome.result = .error e → e = .nanToInteger ∧ HasEndlessTrim b.limit.commands ∨
        e = .tooManyDigits ∧ ¬ ShortCaptions b.limit.commands) ∧
      (¬ HasEndlessTrim b.limit.commands → ShortCaptions b.limit.commands → ∃ plan, outcome.result = .ok plan) ∧
      ∀ j, j.isShort = true → readCommands j = .ok b.commands →
        ((∃ e, outcome.result = .error e) ↔ HasEndlessTrim b.limit.commands) := by
  intro outcome
  have hfault := fault_limit planner hcount
  have herror : (∃ e, outcome.result = .error e) ↔
      HasEndlessTrim b.limit.commands ∨ ¬ ShortCaptions b.limit.commands := by
    have hnone : ¬ b.limit.commands.findSome? Command.stopFault? = none ↔ _ := stopFault_eq_none.not
    rw [not_and_or, not_not] at hnone
    rw [← hnone, ← hfault, ← ne_eq, Option.ne_none_iff_exists']
    exact exists_congr fun e => plan_eq_error
  refine ⟨herror, ?_, ?_, ?_⟩
  · intro e he
    rw [plan_eq_error, hfault] at he
    exact stopFault_cases he
  · intro htrims hcaptions
    rw [stopFault_eq_none.2 ⟨htrims, hcaptions⟩] at hfault
    exact ⟨_, plan_eq_ok.2 ⟨hfault, rfl⟩⟩
  · intro j hj hread
    rw [herror]
    exact or_iff_left (not_not.2 ((shortCaptions_limit _).2 (shortCaptions_of_read hj hread)))

/-- a trim from positive infinity, behind thumbnails -/
theorem plan_stops_endless_trim :
    let planner := Planner.fresh (⟨"in.mp4", "/w", "ffmpeg", "captions.srt", zero⟩ : Setup Binary64)
    let b : Brief Binary64 := ⟨[.thumbnail 3 "auto" none, .trim (.infinite false) one], some { duration := some one }⟩
    b.CountsThumbnails ∧ ∃ e, (planner.plan b.context b.limit.commands).result = .error e := by
  intro planner b
  have hcount : b.CountsThumbnails := by
    intro count style times h
    rcases List.mem_cons.1 h with heq | h
    · rw [(Command.thumbnail.inj heq).1]
      exact lt_of_lt_of_le (b := 2 ^ 2) (by decide) (pow_le_pow_right₀ one_le_two (by decide))
    · exact absurd h (by simp)
  have htrim : HasEndlessTrim b.limit.commands := by
    refine ⟨limitStart (.infinite false), limitEnd (some one) one, List.mem_cons_of_mem _ List.mem_cons_self, ?_⟩
    rintro ⟨hstart, -⟩
    exact (Binary64.isFinite_limitStart (.infinite false)).1 hstart rfl
  exact ⟨hcount, (plan_stops_iff planner b hcount).1.2 (Or.inl htrim)⟩

/-- **Without any trim** a plan is stopped by captions of a size that is a one and 4300 zeros -/
theorem plan_stops_long_caption :
    let planner := Planner.fresh (⟨"in.mp4", "/w", "ffmpeg", "captions.srt", zero⟩ : Setup Binary64)
    let b : Brief Binary64 := ⟨[.addCaptions { fontSize := (10 ^ Numeral.mostDigits : ℕ) } "en"], none⟩
    b.CountsThumbnails ∧ ¬ HasEndlessTrim b.limit.commands ∧
      (planner.plan b.context b.limit.commands).result = .error .tooManyDigits := by
  intro planner b
  have hlong : ∀ style : CaptionStyle, ¬ Numeral.IsShort style.fontSize →
      let b : Brief Binary64 := ⟨[.addCaptions style "en"], none⟩
      b.CountsThumbnails ∧ ¬ HasEndlessTrim b.limit.commands ∧
        (planner.plan b.context b.limit.commands).result = .error .tooManyDigits := by
    intro style hstyle b
    have hcount : b.CountsThumbnails := by
      intro count look times h
      exact absurd (List.mem_singleton.1 h) (by simp)
    refine ⟨hcount, ?_, ?_⟩
    · rintro ⟨start, stop, h, -⟩
      exact absurd (List.mem_singleton.1 h) (by simp [Command.limit])
    · rw [plan_eq_error, fault_limit planner hcount]
      show List.findSome? Command.stopFault? [Command.addCaptions style "en"] = _
      simp [Command.stopFault?, Command.isEndless, Command.captionFault?, hstyle]
  exact hlong _ Numeral.not_isShort_ten_pow

theorem trim_mem_limit {start stop : Binary64} : Command.trim start stop ∈ b.limit.commands ↔
    ∃ start' stop', Command.trim start' stop' ∈ b.commands ∧ limitStart start' = start ∧
      limitEnd b.duration stop' = stop := by
  constructor
  · intro h
    obtain ⟨c, hc, heq⟩ := List.mem_map.1 h
    cases c with
    | trim start' stop' =>
      obtain ⟨hstart, hstop⟩ := Command.trim.inj heq
      exact ⟨start', stop', hc, hstart, hstop⟩
    | _ => exact absurd heq (by simp [Command.limit])
  · rintro ⟨start', stop', hc, rfl, rfl⟩
    exact List.mem_map.2 ⟨.trim start' stop', hc, rfl⟩

/-- **Under a finite duration** the trims that stop a plan are those from positive or to negative infinity -/
theorem hasEndlessTrim_limit_iff {d : Binary64} (hd : b.duration = some d) (hfinite : d.isFinite = true) :
    HasEndlessTrim b.limit.commands ↔
      ∃ start stop, Command.trim start stop ∈ b.commands ∧ (start = .infinite false ∨ stop = .infinite true) := by
  have htimes : ∀ start stop : Binary64,
      ¬((limitStart start).isFinite = true ∧ (limitEnd b.duration stop).isFinite = true) ↔
        start = .infinite false ∨ stop = .infinite true := by
    intro start stop
    rw [hd, Binary64.isFinite_limitStart, Binary64.isFinite_limitEnd hfinite, not_and_or, not_not, not_not]
  constructor
  · rintro ⟨_, _, hlimited, hend⟩
    obtain ⟨start, stop, hc, rfl, rfl⟩ := trim_mem_limit.1 hlimited
    exact ⟨start, stop, hc, (htimes start stop).1 hend⟩
  · rintro ⟨start, stop, hc, hend⟩
    exact ⟨_, _, trim_mem_limit.2 ⟨start, stop, hc, rfl, rfl⟩, (htimes start stop).2 hend⟩

end Plans

end EditPlan
