import EditPlan.Proofs.Command.Short
import EditPlan.Proofs.Command.Limit
import EditPlan.Prompt.Reading

/-!
Reading a prompt is all or nothing. Only the message to the model can stop it, and that needs no more than a duration
with minutes and seconds and a frame size that can be written. What a reply means is its whole result with the numbers in
range, or the fallback.

Main statements:
- `VideoContext.pos_of_read`: a duration that was read is positive, so it is finite or positive infinity;
- `read_of_told`, `read_of_cannotBeTold`: the two things that stand in the way;
- `Interpretation.confidence_upTo`, `Interpretation.forall_command_of_read`: what holds of every result that is read;
- `read_ne_ok_of_bad_item`: one bad item spoils a list of commands;
- `read_all_or_nothing`: all of this for one prompt.
Witness and counterexample:
- `read_all_or_nothing_nan_confidence`: a result with a confidence and an end time that are no numbers;
- `read_stopped_by_long_side`: a frame with a side of too many digits, and no duration.
-/

namespace EditPlan

open Wire

/-! ## Durations of contexts -/

theorem Binary64.isFinite_or_of_pos {d : Binary64} (h : Number.zero < d) : d.isFinite = true ∨ d = .infinite false := by
  rw [Binary64.number_zero] at h
  cases d with
  | nan => exact absurd h (Binary64.lt_nan _)
  | infinite s =>
    cases s with
    | false => exact Or.inr rfl
    | true => exact absurd h Bool.false_ne_true
  | finite s u hu => exact Or.inl rfl

theorem pos_of_positiveNumber {j : Json} {x : Binary64} (h : positiveNumber j = .accepted x) : Number.zero < x := by
  unfold positiveNumber at h
  split at h
  · split_ifs at h with hpos
    · rw [← Checked.accepted.inj h]
      exact hpos
    · exact absurd h (by simp [Checked.refuse])
  · exact absurd h (by simp)

namespace VideoContext

variable {cause : Cause} {o : Object} {j : Json} {c : VideoContext Binary64} {d : Binary64}

theorem pos_of_ofObject (h : ofObject cause o = .accepted c) (hd : c.duration = some d) : Number.zero < d := by
  obtain ⟨_, _, hfields, -, hresolution⟩ := Checked.and_eq_accepted.1 h
  obtain ⟨_, _, hfields, -, hsound⟩ := Checked.and_eq_accepted.1 hfields
  obtain ⟨duration, hduration, hmade⟩ := Checked.map_eq_accepted.1 hfields
  have hsame : c.duration = duration := by rw [← hresolution, ← hsound, ← hmade]
  rw [hsame] at hd
  rcases optional_eq_accepted.1 hduration with ⟨-, hnone⟩ | ⟨k, v, -, hread⟩
  · rw [hd] at hnone
    exact absurd hnone (by simp)
  · rcases nullable_eq_accepted.1 hread with ⟨-, hnone⟩ | ⟨-, x, hx, hsome⟩
    · rw [hd] at hnone
      exact absurd hnone (by simp)
    · rw [hd] at hsome
      rw [Option.some.inj hsome]
      exact pos_of_positiveNumber hx

/-- **The duration of a context that was read is positive** -/
theorem pos_of_read (h : read j = .accepted c) (hd : c.duration = some d) : Number.zero < d := by
  obtain ⟨o, -, ho⟩ := record_eq_accepted.1 h
  exact pos_of_ofObject ho hd

theorem pos_of_readAttributes (h : readAttributes j = .accepted c) (hd : c.duration = some d) : Number.zero < d := by
  obtain ⟨o, -, ho⟩ := record_eq_accepted.1 h
  exact pos_of_ofObject ho hd

end VideoContext

namespace Prompt

variable {context : Option (VideoContext Binary64)} {prompt : String} {reply : Reply} {d : Binary64} {j : Json}
  {r : Interpretation}

/-! ## The message -/

/-- what keeps a context from being told to a model: an infinite duration, or a frame with a side of too many digits -/
def CannotBeTold (context : Option (VideoContext Binary64)) : Prop :=
  (∃ negative, context.bind (·.duration) = some (.infinite negative)) ∨
    ∃ r, context.bind (·.resolution) = some r ∧ ¬ r.IsShort

theorem resolutionText_of_isShort {frame : Option Resolution} (h : ∀ r, frame = some r → r.IsShort) :
    ∃ text, resolutionText frame = .ok text := by
  cases frame with
  | none => exact ⟨_, rfl⟩
  | some r =>
    obtain ⟨hwidth, hheight⟩ := h r rfl
    rw [resolutionText, Numeral.text_of_isShort hwidth, Numeral.text_of_isShort hheight]
    exact ⟨_, rfl⟩

theorem resolutionText_of_not_isShort {r : Resolution} (h : ¬ r.IsShort) :
    resolutionText (some r) = .error .tooManyDigits := by
  rw [resolutionText]
  by_cases hwidth : Numeral.IsShort r.width
  · rw [Numeral.text_of_isShort hwidth, Numeral.text_of_not_isShort fun hheight => h ⟨hwidth, hheight⟩]
    rfl
  · rw [Numeral.text_of_not_isShort hwidth]
    rfl

/-- a known duration is positive, as it is in every context that was read -/
def IsPositive (context : Option (VideoContext Binary64)) : Prop :=
  ∀ d, context.bind (·.duration) = some d → Number.zero < d

theorem durationTexts_of_told (hpos : IsPositive context) (h : ¬ CannotBeTold context) :
    ∃ texts, durationTexts (context.bind (·.duration)) = .ok texts := by
  cases hd : context.bind (·.duration) with
  | none => exact ⟨_, rfl⟩
  | some d =>
    rcases Binary64.isFinite_or_of_pos (hpos d hd) with hfinite | rfl
    · obtain ⟨clock, hclock⟩ := Binary64.clock_isFinite hfinite
      exact ⟨(d.text, clock), by rw [durationTexts, hclock]; rfl⟩
    · exact absurd (Or.inl ⟨false, hd⟩) h

/-- **A context that can be told** lets a prompt be read -/
theorem read_of_told (prompt : String) (reply : Reply) (hpos : IsPositive context) (h : ¬ CannotBeTold context) :
    ∃ reading, Prompt.read prompt context reply = .ok reading ∧
      reading.result = reply.meaning (context.bind (·.duration)) := by
  have hcontext : ∃ text, contextText context = .ok text := by
    obtain ⟨texts, htexts⟩ := durationTexts_of_told hpos h
    have hframe : ∀ r, context.bind (·.resolution) = some r → r.IsShort := by
      intro r hr
      by_contra hlong
      exact h (Or.inr ⟨r, hr, hlong⟩)
    obtain ⟨resolution, hresolution⟩ := resolutionText_of_isShort hframe
    cases context with
    | none => exact ⟨_, rfl⟩
    | some c =>
      have hduration : durationTexts c.duration = .ok texts := htexts
      have hsize : resolutionText c.resolution = .ok resolution := hresolution
      rw [contextText, hduration, hsize]
      exact ⟨_, rfl⟩
  obtain ⟨text, htext⟩ := hcontext
  rw [Prompt.read, htext]
  exact ⟨_, rfl, rfl⟩

/-- **Any other context does not**: an infinite duration has no minutes, and a side with too many digits no text -/
theorem read_of_cannotBeTold (prompt : String) (reply : Reply) (h : CannotBeTold context) :
    ∃ fault, Prompt.read prompt context reply = .error fault := by
  have hcontext : ∃ fault, contextText context = .error fault := by
    rcases h with ⟨negative, hd⟩ | ⟨r, hr, hlong⟩
    · obtain ⟨c, rfl, hc⟩ := Option.bind_eq_some_iff.1 hd
      rw [contextText, hc, durationTexts, Binary64.clock_not_isFinite rfl]
      exact ⟨_, rfl⟩
    · obtain ⟨c, rfl, hc⟩ := Option.bind_eq_some_iff.1 hr
      rw [contextText, hc, resolutionText_of_not_isShort hlong]
      cases durationTexts c.duration <;> exact ⟨_, rfl⟩
  obtain ⟨fault, hfault⟩ := hcontext
  rw [Prompt.read, hfault]
  exact ⟨fault, rfl⟩

/-- a context out of a document without too long whole numbers cannot be told only for its duration -/
theorem cannotBeTold_of_read (hj : j.isShort = true) {c : VideoContext Binary64} (h : VideoContext.read j = .accepted c) :
    CannotBeTold (some c) ↔ ∃ negative, c.duration = some (.infinite negative) := by
  obtain ⟨o, rfl, ho⟩ := record_eq_accepted.1 h
  refine or_iff_left ?_
  rintro ⟨r, hr, hlong⟩
  exact hlong (VideoContext.isShort_of_ofObject hj c ho r hr)

/-! ## Results -/

namespace Interpretation

theorem ofObject_of_read (h : Interpretation.read j = .ok r) :
    (j.get? "commands").bind firstCompoundTag? = none ∧ ∃ o, j = .obj o ∧ ofObject o = .accepted r := by
  unfold Interpretation.read at h
  split at h
  · exact absurd h (by simp)
  · next htag =>
    split at h
    · next hrecord =>
      rw [← Except.ok.inj h]
      exact ⟨htag, record_eq_accepted.1 hrecord⟩
    · exact absurd h (by simp)

theorem fields_of_ofObject {o : Object} (h : ofObject o = .accepted r) :
    optional o Field.commands [] readPlainCommands = .accepted r.commands ∧
      optional o Field.confidence Number.zero confidenceOf = .accepted r.confidence := by
  obtain ⟨_, _, hfields, -, hwarnings⟩ := Checked.and_eq_accepted.1 h
  obtain ⟨_, confidence, hfields, hconfidence, hthird⟩ := Checked.and_eq_accepted.1 hfields
  obtain ⟨_, _, hfields, -, hsecond⟩ := Checked.and_eq_accepted.1 hfields
  obtain ⟨commands, hcommands, hfirst⟩ := Checked.map_eq_accepted.1 hfields
  rw [← hwarnings, ← hthird, ← hsecond, ← hfirst]
  exact ⟨hcommands, hconfidence⟩

/-- **The confidence of a result is from zero to one**, whatever number was written -/
theorem confidence_upTo (h : Interpretation.read j = .ok r) :
    Binary64.UpTo (1 * Binary64.unitsPerOne) r.confidence := by
  obtain ⟨-, o, -, ho⟩ := ofObject_of_read h
  rcases optional_eq_accepted.1 (fields_of_ofObject ho).2 with ⟨-, hdefault⟩ | ⟨k, v, -, hread⟩
  · rw [← hdefault, Binary64.number_zero]
    exact .finite 0 _ (Nat.zero_le _)
  · obtain ⟨x, -, hx⟩ := Checked.map_eq_accepted.1 hread
    rw [← hx]
    exact Binary64.upTo_limitShare x

/-- **Every item of a list of commands that is read is a command**, and none has a tag that is a list or an object -/
theorem forall_command_of_read (h : Interpretation.read j = .ok r) {items : List Json}
    (hitems : j.get? "commands" = some (.arr items)) :
    (∀ x ∈ items, compoundTag? x = none) ∧ List.Forall₂ (fun x c => Command.read x = .accepted c) items r.commands := by
  obtain ⟨htag, o, rfl, ho⟩ := ofObject_of_read h
  rw [hitems] at htag
  refine ⟨List.findSome?_eq_none_iff.1 htag, ?_⟩
  have hfind : find? o Field.commands = some ("commands", .arr items) := by
    have hget : Object.get? o Field.commands.wire = some (.arr items) := hitems
    rw [find?, hget]
    rfl
  rcases optional_eq_accepted.1 (fields_of_ofObject ho).1 with ⟨hnone, -⟩ | ⟨k, v, hsome, hread⟩
  · rw [hfind] at hnone
    exact absurd hnone (by simp)
  · rw [hfind] at hsome
    obtain ⟨items', hv, hall⟩ := list_eq_accepted.1 hread
    obtain ⟨-, rfl⟩ := Prod.mk.inj (Option.some.inj hsome)
    rw [Json.arr.inj hv]
    exact hall

theorem exists_read_of_mem (h : Interpretation.read j = .ok r) {c : Command Binary64} (hc : c ∈ r.commands) :
    ∃ x, Command.read x = .accepted c := by
  obtain ⟨-, o, -, ho⟩ := ofObject_of_read h
  rcases optional_eq_accepted.1 (fields_of_ofObject ho).1 with ⟨-, hnil⟩ | ⟨k, v, -, hread⟩
  · rw [← hnil] at hc
    exact absurd hc List.not_mem_nil
  · obtain ⟨items, -, hall⟩ := list_eq_accepted.1 hread
    obtain ⟨x, -, hx⟩ := exists_of_forall₂ hall hc
    exact ⟨x, hx⟩

end Interpretation

/-! ## What a reply means -/

theorem meaning_of_read (h : Interpretation.read j = .ok r) (duration : Option Binary64) :
    (Reply.structured j).meaning duration = r.limit duration := by
  rw [Reply.meaning, Reply.interpretation?, h]
  rfl

/-- **A reply without a well-formed result means the fallback** -/
theorem meaning_of_no_result (h : ∀ j r, reply = .structured j → Interpretation.read j ≠ .ok r)
    (duration : Option Binary64) : reply.meaning duration = .fallback := by
  cases reply with
  | structured j =>
    cases hread : Interpretation.read j with
    | ok r => exact absurd hread (h j r rfl)
    | error e =>
      rw [Reply.meaning, Reply.interpretation?, hread]
      rfl
  | _ => rfl

theorem meaning_cases (reply : Reply) (duration : Option Binary64) :
    (∃ j r, reply = .structured j ∧ Interpretation.read j = .ok r ∧ reply.meaning duration = r.limit duration) ∨
      reply.meaning duration = .fallback := by
  by_cases h : ∃ j r, reply = .structured j ∧ Interpretation.read j = .ok r
  · obtain ⟨j, r, rfl, hread⟩ := h
    exact Or.inl ⟨j, r, rfl, hread, meaning_of_read hread duration⟩
  · right
    apply meaning_of_no_result
    intro j r hreply hread
    exact h ⟨j, r, hreply, hread⟩

theorem exists_of_mem_meaning {duration : Option Binary64} {c : Command Binary64}
    (hc : c ∈ (reply.meaning duration).commands) : ∃ j r b, reply = .structured j ∧ Interpretation.read j = .ok r ∧
      b ∈ r.commands ∧ b.limit duration = c := by
  rcases meaning_cases reply duration with ⟨j, r, hreply, hread, hmeaning⟩ | hmeaning
  · rw [hmeaning] at hc
    obtain ⟨b, hb, hlimit⟩ := List.mem_map.1 hc
    exact ⟨j, r, b, hreply, hread, hb, hlimit⟩
  · rw [hmeaning] at hc
    exact absurd hc List.not_mem_nil

theorem confidence_meaning (reply : Reply) (duration : Option Binary64) :
    ∃ q, (reply.meaning duration).confidence.toRat? = some q ∧ 0 ≤ q ∧ q ≤ 1 := by
  rcases meaning_cases reply duration with ⟨j, r, -, hread, hmeaning⟩ | hmeaning
  · rw [hmeaning]
    have hshare := Interpretation.confidence_upTo hread
    exact hshare.toRat
  · rw [hmeaning]
    have hzero : Binary64.UpTo (1 * Binary64.unitsPerOne) Binary64.zero := .finite 0 _ (Nat.zero_le _)
    rw [← Binary64.number_zero] at hzero
    exact hzero.toRat

/-- **One bad item spoils the list**: a reply in which one is no command has no well-formed result -/
theorem read_ne_ok_of_bad_item {items : List Json} {x : Json} (hitems : j.get? "commands" = some (.arr items))
    (hx : x ∈ items) (hbad : (compoundTag? x).isSome = true ∨ (Command.read x).value? = none) (r : Interpretation) :
    Interpretation.read j ≠ .ok r := by
  intro hr
  obtain ⟨htags, hcommands⟩ := Interpretation.forall_command_of_read hr hitems
  rcases hbad with hcompound | hrefused
  · rw [htags x hx] at hcompound
    exact absurd hcompound (by simp)
  · obtain ⟨i, hi, hxi⟩ := List.getElem_of_mem hx
    have hc := hcommands.get hi (hcommands.length_eq ▸ hi)
    rw [List.get_eq_getElem, hxi] at hc
    rw [hc] at hrefused
    exact absurd hrefused (by simp [Checked.value?])

/-- **Reading a prompt is all or nothing.** With a context as it can be read, exactly an infinite duration or a frame with
a side of too many digits stands in the way, and only the duration if the context comes from a document without such whole
numbers. Otherwise there is a result, with a confidence from zero to one. If the reply holds a well-formed result, it is
that one, of which only the commands are changed: their numbers are brought into range. In every other case it is the
fallback, which has no commands and no confidence: one item anywhere in the list that is no command, or whose tag is a list
or an object, is enough. -/
theorem read_all_or_nothing (prompt : String) (context : Option (VideoContext Binary64)) (reply : Reply)
    (hcontext : ∀ c, context = some c → ∃ j, VideoContext.read j = .accepted c) :
    let duration := context.bind (·.duration)
    ((∃ fault, Prompt.read prompt context reply = .error fault) ↔
      (∃ negative, duration = some (.infinite negative)) ∨ ∃ r, context.bind (·.resolution) = some r ∧ ¬ r.IsShort) ∧
    (∀ j c, j.isShort = true → VideoContext.read j = .accepted c → context = some c →
      ((∃ fault, Prompt.read prompt context reply = .error fault) ↔ ∃ negative, duration = some (.infinite negative))) ∧
    ((∀ negative, duration ≠ some (.infinite negative)) → (∀ r, context.bind (·.resolution) = some r → r.IsShort) →
      ∃ reading, Prompt.read prompt context reply = .ok reading ∧
      (∃ q, reading.result.confidence.toRat? = some q ∧ 0 ≤ q ∧ q ≤ 1) ∧
      (∀ j r, reply = .structured j → Interpretation.read j = .ok r →
        reading.result = { r with commands := limitCommands duration r.commands }) ∧
      ((∀ j r, reply = .structured j → Interpretation.read j ≠ .ok r) →
        reading.result = Interpretation.fallback ∧ reading.result.commands = [] ∧
          reading.result.confidence = Binary64.zero) ∧
      (∀ j items x, reply = .structured j → j.get? "commands" = some (.arr items) → x ∈ items →
        (compoundTag? x).isSome = true ∨ (Command.read x).value? = none →
        reading.result = Interpretation.fallback)) := by
  intro duration
  have hpos : IsPositive context := by
    intro d hd
    obtain ⟨c, hc, hcd⟩ := Option.bind_eq_some_iff.1 hd
    obtain ⟨j, hj⟩ := hcontext c hc
    exact VideoContext.pos_of_read hj hcd
  have hstops : (∃ fault, Prompt.read prompt context reply = .error fault) ↔ CannotBeTold context := by
    refine ⟨?_, read_of_cannotBeTold prompt reply⟩
    rintro ⟨fault, hfault⟩
    by_contra htold
    obtain ⟨reading, hread, -⟩ := read_of_told prompt reply hpos htold
    rw [hread] at hfault
    exact absurd hfault (by simp)
  refine ⟨hstops, ?_, ?_⟩
  · rintro j c hj hread rfl
    exact hstops.trans (cannotBeTold_of_read hj hread)
  · intro hfinite hsides
    have htold : ¬ CannotBeTold context := by
      rintro (⟨negative, hd⟩ | ⟨r, hr, hlong⟩)
      · exact hfinite negative hd
      · exact hlong (hsides r hr)
    obtain ⟨reading, hread, hresult⟩ := read_of_told prompt reply hpos htold
    have hfallback : (∀ j r, reply = .structured j → Interpretation.read j ≠ .ok r) →
        reading.result = Interpretation.fallback := by
      intro hnone
      rw [hresult]
      exact meaning_of_no_result hnone _
    refine ⟨reading, hread, ?_, ?_, ?_, ?_⟩
    · rw [hresult]
      exact confidence_meaning reply _
    · rintro j r rfl hj
      rw [hresult]
      exact meaning_of_read hj _
    · intro hnone
      rw [hfallback hnone]
      exact ⟨rfl, rfl, Binary64.number_zero⟩
    · intro j items x hreply hitems hx hbad
      apply hfallback
      intro j' r hreply' hr
      rw [hreply, Reply.structured.injEq] at hreply'
      rw [← hreply'] at hr
      exact read_ne_ok_of_bad_item hitems hx hbad r hr

/-- a confidence and an end that are no numbers -/
theorem read_all_or_nothing_nan_confidence :
    let context : VideoContext Binary64 := { duration := some Number.one }
    let reply : Reply := .structured (.obj [("commands", .arr [.obj [("type", .str "trim"), ("startTime", .bool false),
      ("endTime", .real .nan)]]), ("confidence", .real .nan)])
    VideoContext.read (.obj [("duration", .bool true)]) = .accepted context ∧
    ∃ reading start stop, Prompt.read "keep the first second" (some context) reply = .ok reading ∧
      reading.result.commands = [.trim start stop] ∧ start = Number.zero ∧ stop = Number.one ∧
      reading.result.confidence = Number.one := by
  intro context reply
  have hcontext : VideoContext.read (.obj [("duration", .bool true)]) = .accepted context :=
    Checked.value?_eq_some.1 (by decide +kernel)
  refine ⟨hcontext, ?_⟩
  have hfinite : ∀ negative, (some context).bind (·.duration) ≠ some (.infinite negative) := by
    intro negative
    simp [context, Binary64.number_one]
  have hsides : ∀ r, (some context).bind (·.resolution) = some r → r.IsShort := by
    intro r hr
    exact absurd hr (by simp [context])
  have hadmitted : ∀ c, some context = some c → ∃ j, VideoContext.read j = .accepted c := by
    intro c hc
    rw [← Option.some.inj hc]
    exact ⟨_, hcontext⟩
  obtain ⟨reading, hread, -, hresult, -⟩ :=
    (read_all_or_nothing "keep the first second" (some context) reply hadmitted).2.2 hfinite hsides
  have htaken := hresult _ _ rfl rfl
  have hcommands : reading.result.commands =
      [.trim (limitStart (.ofInt 0)) (limitEnd (some Number.one) .nan)] := by
    rw [htaken]
    rfl
  have hconfidence : reading.result.confidence = limitShare .nan := by rw [htaken]
  exact ⟨reading, _, _, hread, hcommands, by decide +kernel, by decide +kernel, hconfidence.trans (by decide +kernel)⟩

/-- **Without a duration** a prompt is stopped by a frame that is a one and 4300 zeros wide -/
theorem read_stopped_by_long_side :
    let context : VideoContext Binary64 := { resolution := some ⟨(10 ^ Numeral.mostDigits : ℕ), 1⟩ }
    (∃ j, VideoContext.read j = .accepted context) ∧ context.duration = none ∧
      ∃ fault, Prompt.read "make it loud" (some context) .plain = .error fault := by
  have hlong : ∀ n : ℕ, 0 < n → ¬ Numeral.IsShort n →
      let context : VideoContext Binary64 := { resolution := some ⟨n, 1⟩ }
      (∃ j, VideoContext.read j = .accepted context) ∧ context.duration = none ∧
        ∃ fault, Prompt.read "make it loud" (some context) .plain = .error fault := by
    intro n hpos hn context
    refine ⟨⟨.obj [("resolution", .obj [("width", .int n), ("height", .int 1)])], ?_⟩, rfl, ?_⟩
    · have hwidth : positiveInteger (.int n) = .accepted n := if_pos (Int.natCast_pos.2 hpos)
      have hframe : Resolution.ofObject [("width", .int n), ("height", .int 1)] = .accepted ⟨n, 1⟩ :=
        Checked.both_accepted (required_eq_accepted.2 ⟨_, _, rfl, hwidth⟩) (required_eq_accepted.2 ⟨_, _, rfl, rfl⟩)
      exact Checked.and_accepted rfl (optional_eq_accepted.2 (Or.inr ⟨_, _, rfl, Checked.map_accepted hframe⟩))
    · exact read_of_cannotBeTold _ _ (Or.inr ⟨_, rfl, fun h => hn h.1⟩)
  exact hlong _ (by positivity) Numeral.not_isShort_ten_pow

end Prompt

end EditPlan
