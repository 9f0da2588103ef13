import EditPlan.Proofs.Command.Document
import EditPlan.Proofs.Command.Limit
import EditPlan.Proofs.Service.Decision

/-!
The lines of an answer, made again from the answer alone. The commands that an answer shows are read, brought into range and
planned once more, and give the same lines. What is lost on the way is what no plan looks at: an answer has no numbers that
are not finite, which the settings of an effect may hold, and so may a command that is not understood.

Main statements:
- `Command.build_bare`, `run_bare`: what a plan looks at in a command;
- `Command.isFinite_write`, `Command.read_shown`: a command in an answer reads as the same, up to that;
- `process_reproducible`: the lines of an answer are those of its commands.
Witness:
- `process_reproducible_effect`: settings of an effect that are lost, and a line that is not.
-/

namespace EditPlan

open Wire Checked

/-! ## What a plan looks at -/

namespace Command

variable {ν : Type} [Number ν]

/-- a command without what no plan looks at -/
def bare : Command ν → Command ν
  | .effect name intensity _ => .effect name intensity []
  | .unknown tag _ => .unknown tag []
  | c => c

theorem build_bare (setup : Setup ν) (s : State ν) (input : String) (c : Command ν) :
    c.bare.build setup s input = c.build setup s input := by
  cases c <;> rfl

theorem advance_bare (s : State ν) (c : Command ν) : c.bare.advance s = c.advance s := by
  cases c <;> rfl

omit [Number ν] in
theorem eventsOf_bare (c : Command ν) : Progress.eventsOf c.bare = Progress.eventsOf c := by
  cases c <;> rfl

theorem bare_limit (duration : Option ν) (c : Command ν) : (c.limit duration).bare = c.bare.limit duration := by
  cases c <;> rfl

end Command

section Plans

variable {ν : Type} [Number ν] {cs ds : List (Command ν)}

theorem Progress.step_bare (setup : Setup ν) (p : Progress ν) (c : Command ν) : step setup p c.bare = step setup p c := by
  simp only [step, Command.build_bare, Command.advance_bare, Command.eventsOf_bare]

theorem Progress.run_bare (setup : Setup ν) (p : Progress ν) (cs : List (Command ν)) :
    run setup p (cs.map Command.bare) = run setup p cs := by
  induction cs generalizing p with
  | nil => rfl
  | cons c cs ih => rw [List.map_cons, run_cons, run_cons, step_bare, ih]

/-- **Commands that look the same to plans have the same plan** -/
theorem result_congr (planner : Planner ν) (context : Option (VideoContext ν))
    (h : cs.map Command.bare = ds.map Command.bare) :
    (planner.plan context cs).result = (planner.plan context ds).result := by
  rw [result_plan, result_plan, Planner.progress, ← Progress.run_bare, h, Progress.run_bare]
  rfl

end Plans

/-! ## Commands in answers -/

namespace Json

theorem isFinite_obj {o : Object} : (Json.obj o).isFinite = true ↔ ∀ m ∈ o, m.2.isFinite = true := by
  rw [isFinite, all, allMembers_iff]
  simp

theorem isFinite_arr {items : List Json} : (Json.arr items).isFinite = true ↔ ∀ j ∈ items, j.isFinite = true := by
  rw [isFinite, all, allItems_iff]

theorem isFinite_orNull {α : Type} {write : α → Json} {a : Option α} (h : ∀ x ∈ a.toList, (write x).isFinite = true) :
    (orNull write a).isFinite = true := by
  cases a with
  | none => rfl
  | some x => exact h x (List.mem_singleton.2 rfl)

theorem isFinite_record {style : Style} {fields : List (FieldName × Json)} (h : ∀ f ∈ fields, f.2.isFinite = true) :
    (Json.obj (style.record fields)).isFinite = true := by
  rw [isFinite_obj]
  induction fields with
  | nil =>
    rw [record_nil]
    exact List.forall_mem_nil _
  | cons f fields ih =>
    rw [List.forall_mem_cons] at h
    rw [record_cons]
    split_ifs
    · exact ih h.2
    · rw [List.forall_mem_cons]
      exact ⟨h.1, ih h.2⟩

end Json

namespace Command

variable {c : Command Binary64} {style : Style} {k : Kind}

theorem isFinite_segment {s : Segment Binary64} (hstart : s.start.isFinite = true) (hstop : s.stop.isFinite = true) :
    (s.write style).isFinite = true := by
  apply Json.isFinite_record
  rw [List.forall_mem_cons, List.forall_mem_singleton]
  exact ⟨hstart, hstop⟩

theorem isFinite_captionStyle (look : CaptionStyle) : (look.write style).isFinite = true := by
  apply Json.isFinite_record
  simp only [List.forall_mem_cons]
  exact ⟨rfl, rfl, rfl, rfl, rfl, rfl, List.forall_mem_nil _⟩

theorem isFinite_colorAdjustments {a : ColorAdjustments Binary64} (h : ∀ x ∈ a.numbers, x.isFinite = true) :
    (a.write style).isFinite = true := by
  simp only [ColorAdjustments.numbers, List.forall_mem_append] at h
  obtain ⟨⟨⟨⟨⟨hbrightness, hcontrast⟩, hsaturation⟩, htemperature⟩, htint⟩, hexposure⟩ := h
  apply Json.isFinite_record
  simp only [List.forall_mem_cons]
  exact ⟨Json.isFinite_orNull hbrightness, Json.isFinite_orNull hcontrast, Json.isFinite_orNull hsaturation,
    Json.isFinite_orNull htemperature, Json.isFinite_orNull htint, Json.isFinite_orNull hexposure,
    List.forall_mem_nil _⟩

theorem isFinite_audioParams {p : AudioParams Binary64} (h : ∀ x ∈ p.numbers, x.isFinite = true) :
    (p.write style).isFinite = true := by
  simp only [AudioParams.numbers, List.forall_mem_append] at h
  obtain ⟨⟨⟨hvolume, hmusic⟩, hfade⟩, hnoise⟩ := h
  apply Json.isFinite_record
  simp only [List.forall_mem_cons]
  exact ⟨Json.isFinite_orNull hvolume, Json.isFinite_orNull fun _ _ => rfl, Json.isFinite_orNull hmusic,
    Json.isFinite_orNull hfade, Json.isFinite_orNull hnoise, List.forall_mem_nil _⟩

/-- **A command with finite numbers is a finite document**, unless it has settings that are free -/
theorem isFinite_write (hk : c.kind? = some k) (heffect : k ≠ .effect) (h : ∀ x ∈ c.numbers, x.isFinite = true) :
    (c.write style).isFinite = true := by
  rw [write_of_kind style hk]
  apply Json.isFinite_record
  rw [List.forall_mem_cons]
  refine ⟨rfl, ?_⟩
  cases c with
  | trim start stop =>
    simp only [numbers, fields, List.forall_mem_cons] at h ⊢
    exact ⟨h.1, h.2.1, List.forall_mem_nil _⟩
  | cut segments =>
    simp only [numbers, fields, List.forall_mem_flatMap, List.forall_mem_cons] at h ⊢
    refine ⟨?_, List.forall_mem_nil _⟩
    rw [Json.isFinite_arr, List.forall_mem_map]
    intro s hs
    exact isFinite_segment (h s hs).1 (h s hs).2.1
  | removeSilence threshold minDuration padding =>
    simp only [numbers, fields, List.forall_mem_append, List.forall_mem_cons] at h ⊢
    exact ⟨Json.isFinite_orNull h.1, h.2.1, h.2.2.1, List.forall_mem_nil _⟩
  | addCaptions look language =>
    simp only [fields, List.forall_mem_cons]
    exact ⟨isFinite_captionStyle look, rfl, List.forall_mem_nil _⟩
  | colorCorrection adjustments preset =>
    simp only [fields, List.forall_mem_cons]
    exact ⟨isFinite_colorAdjustments h, Json.isFinite_orNull fun _ _ => rfl, List.forall_mem_nil _⟩
  | audio action params =>
    simp only [fields, List.forall_mem_cons]
    exact ⟨rfl, isFinite_audioParams h, List.forall_mem_nil _⟩
  | transition name duration position =>
    simp only [numbers, fields, List.forall_mem_cons] at h ⊢
    exact ⟨rfl, h.1, rfl, List.forall_mem_nil _⟩
  | effect name intensity params => exact absurd (Option.some.inj hk).symm heffect
  | exportVideo format resolution aspectRatio quality fps =>
    simp only [numbers, fields, List.forall_mem_cons] at h ⊢
    exact ⟨rfl, rfl, rfl, rfl, h.1, List.forall_mem_nil _⟩
  | thumbnail count look timestamps =>
    simp only [numbers, fields, List.forall_mem_cons] at h ⊢
    refine ⟨rfl, rfl, ?_, List.forall_mem_nil _⟩
    apply Json.isFinite_orNull
    intro ts hts
    rw [Json.isFinite_arr, List.forall_mem_map]
    intro x hx
    rw [Option.mem_toList] at hts
    rw [hts] at h
    exact h x hx
  | unknown tag extras => exact absurd hk (by simp [kind?])

theorem eq_unknown_of_limit {ν : Type} [Number ν] {duration : Option ν} {b : Command ν} {tag : String} {extras : Object}
    (h : b.limit duration = .unknown tag extras) : b = .unknown tag extras := by
  cases b with
  | unknown tag' extras' => exact h
  | _ => exact absurd h (by simp [limit])

/-- what an answer shows of a command is read again, with all that a plan looks at -/
def IsShown (j : Json) (c d : Command Binary64) : Prop :=
  (compoundTag? j = none ∧ Command.read j = .accepted d) ∧ d.bare = c.bare

theorem isShown_write (hk : c.kind? = some k) : IsShown (c.write .brief) c c :=
  ⟨⟨compoundTag?_write .brief c, read_write .brief hk⟩, rfl⟩

/-- **A command in an answer reads as the same**, up to what no plan looks at -/
theorem read_shown (h : ∀ x ∈ c.numbers, x.isFinite = true)
    (hunknown : ∀ tag extras, c = .unknown tag extras → IsUnknown tag extras) :
    ∃ d, IsShown (Service.Answer.finiteOnly (c.write .brief)) c d := by
  cases c with
  | unknown tag extras =>
    -- null members were left out; a number that is not finite becomes null and stays
    have hextras := hunknown tag extras rfl
    have hnames : IsUnknown tag (Service.Answer.finiteMembers (Style.brief.keep extras)) := by
      refine ⟨hextras.tag, ?_⟩
      intro m hm
      rw [Service.Answer.finiteMembers_eq] at hm
      obtain ⟨n, hn, rfl⟩ := List.mem_map.1 hm
      exact hextras.names n (List.mem_filter.1 hn).1
    exact ⟨_, ⟨compoundTag?_of_str get?_cons_self, read_unknown hnames⟩, rfl⟩
  | effect name intensity params =>
    have hintensity : intensity.isFinite = true := h intensity (List.mem_singleton.2 rfl)
    have hwrite : ∀ settings, write .brief (.effect name intensity settings) = .obj [("type", .str "effect"),
        ("effectName", .str name), ("intensity", .real intensity), ("params", .obj settings)] := fun _ => rfl
    have hsettled : Service.Answer.finiteOnly (write .brief (.effect name intensity params)) =
        write .brief (.effect name intensity (Service.Answer.finiteMembers params)) := by
      rw [hwrite, hwrite]
      simp only [Service.Answer.finiteOnly, Service.Answer.finiteMembers, hintensity, if_true]
    rw [hsettled]
    exact ⟨_, (isShown_write rfl).1, rfl⟩
  | _ =>
    rw [Service.Answer.finiteOnly_of_isFinite _ (isFinite_write rfl (by decide) h)]
    exact ⟨_, isShown_write rfl⟩

end Command

theorem readCommands_shown {cs : List (Command Binary64)} (h : ∀ c ∈ cs, ∀ x ∈ c.numbers, x.isFinite = true)
    (hunknown : ∀ tag extras, .unknown tag extras ∈ cs → Command.IsUnknown tag extras) :
    ∃ again, readCommands (Service.Answer.finiteOnly (writeCommands .brief cs)) = .ok again ∧
      again.map Command.bare = cs.map Command.bare := by
  have hitems : ∃ again, List.Forall₂ (fun j d => compoundTag? j = none ∧ Command.read j = .accepted d)
      ((cs.map (Command.write .brief)).map Service.Answer.finiteOnly) again ∧
      again.map Command.bare = cs.map Command.bare := by
    induction cs with
    | nil => exact ⟨[], List.Forall₂.nil, rfl⟩
    | cons c cs ih =>
      rw [List.forall_mem_cons] at h
      obtain ⟨again, hagain, hbare⟩ := ih h.2 fun tag extras hmem => hunknown tag extras (List.mem_cons_of_mem c hmem)
      obtain ⟨d, hd, hsame⟩ := Command.read_shown h.1 fun tag extras hc => hunknown tag extras (hc ▸ List.mem_cons_self)
      refine ⟨d :: again, List.Forall₂.cons hd hagain, ?_⟩
      rw [List.map_cons, List.map_cons, hsame, hbare]
  obtain ⟨again, hagain, hbare⟩ := hitems
  refine ⟨again, ?_, hbare⟩
  rw [writeCommands, Service.Answer.finiteOnly, Service.Answer.finiteItems_eq]
  exact readCommands_eq_ok.2 ⟨_, rfl, hagain⟩

namespace Service

variable {settings : Settings} {reply : Prompt.Reply} {request : EditRequest} {j : Json}

/-- commands in range have the plan of the commands that look the same and are brought into range -/
theorem planned_congr (settings : Settings) (context : Option (VideoContext Binary64)) (duration : Option Binary64)
    {cs ds : List (Command Binary64)} (hlimit : ∀ c ∈ cs, c.limit duration = c)
    (h : ds.map Command.bare = cs.map Command.bare) :
    planned settings context (limitCommands duration ds) = planned settings context cs := by
  apply result_congr
  calc (limitCommands duration ds).map Command.bare
      = (ds.map Command.bare).map (Command.limit duration) := by
        simp only [limitCommands, List.map_map, Function.comp_def, Command.bare_limit]
    _ = (cs.map (Command.limit duration)).map Command.bare := by
        rw [h]
        simp only [List.map_map, Function.comp_def, Command.bare_limit]
    _ = cs.map Command.bare := by rw [List.map_congr_left hlimit, List.map_id']

section Meanings

variable {c : VideoContext Binary64} {command : Command Binary64}

/-- **The commands of a meaning are in range already** -/
theorem limit_of_mem_meaning {duration : Option Binary64} (hmem : command ∈ (reply.meaning duration).commands) :
    command.limit duration = command := by
  obtain ⟨_, _, b, -, -, -, rfl⟩ := Prompt.exists_of_mem_meaning hmem
  exact Command.limit_limit duration b

theorem isFinite_of_mem_meaning {duration : Option Binary64} (hduration : ∀ d, duration = some d → d.isFinite = true)
    (hfinite : ∀ d result, reply = .structured d → Prompt.Interpretation.read d = .ok result →
      ∀ b ∈ result.commands, ∀ x ∈ b.numbers, x.isFinite = true)
    (hmem : command ∈ (reply.meaning duration).commands) : ∀ x ∈ command.numbers, x.isFinite = true := by
  obtain ⟨d, result, b, hreply, hread, hb, rfl⟩ := Prompt.exists_of_mem_meaning hmem
  exact Command.isFinite_limit hduration (hfinite d result hreply hread b hb)

theorem isUnknown_of_mem_meaning {duration : Option Binary64} {tag : String} {extras : Object}
    (hmem : .unknown tag extras ∈ (reply.meaning duration).commands) : Command.IsUnknown tag extras := by
  obtain ⟨d, result, b, -, hread, hb, hlimit⟩ := Prompt.exists_of_mem_meaning hmem
  obtain ⟨x, hx⟩ := Prompt.Interpretation.exists_read_of_mem hread hb
  rw [Command.eq_unknown_of_limit hlimit] at hx
  exact Command.isUnknown_of_read hx

/-- a request that no number stands in the way of has a finite duration, or none -/
theorem isFinite_of_not_isStopped (hread : EditRequest.read j = .accepted request) (hcontext : request.context = some c)
    (hgoes : ¬ request.IsStopped settings reply) {d : Binary64} (hd : c.duration = some d) : d.isFinite = true := by
  have hduration : request.context.bind (·.duration) = some d := by
    rw [hcontext]
    exact hd
  rcases Binary64.isFinite_or_of_pos (isPositive_of_read hread d hduration) with hwell | rfl
  · exact hwell
  · exact absurd ⟨c, hcontext, Or.inl (Or.inl ⟨false, hd⟩)⟩ hgoes

end Meanings

/-- **The lines of an answer are those of its commands.** A request has a context, and the numbers of the commands in the
model's reply are finite. If the answer is 200, the commands that it shows can be read; brought into range again with the
duration of the context and planned under the settings, they have a plan, and its lines are those that the answer shows. -/
theorem process_reproducible (settings : Settings) (reply : Prompt.Reply) (r : Request) (hmethod : r.method = "POST")
    (hpath : r.path = "/api/process") (j : Json) (request : EditRequest) (c : VideoContext Binary64)
    (hbody : r.body = .document j) (hread : EditRequest.read j = .accepted request) (hcontext : request.context = some c)
    (hfinite : ∀ d result, reply = .structured d → Prompt.Interpretation.read d = .ok result →
      ∀ command ∈ result.commands, ∀ x ∈ command.numbers, x.isFinite = true)
    (response : Response) (events : List Journal.Event)
    (hreact : react settings reply r = .answered response events) (hstatus : response.status = 200) :
    ∃ result written again plan, response.body.get? "result" = some result ∧
      result.get? "commands" = some written ∧ readCommands written = .ok again ∧
      planned settings (some c) (limitCommands c.duration again) = .ok plan ∧
      result.get? "ffmpegCommands" = some (.arr (plan.commands.map .str)) := by
  have hmade := react_process settings reply hmethod hpath
  rw [hreact, hbody, Reaction.answered.injEq] at hmade
  obtain ⟨rfl, -⟩ := hmade
  obtain ⟨hgoes, lines, ⟨-, hlines⟩, hdocument⟩ := done_of_status hread hstatus
  obtain ⟨⟨plan, hplan, hsame⟩, -⟩ := hlines c hcontext
  obtain ⟨-, hcommands, hshown⟩ := get?_done (request.meaning reply) lines
  obtain ⟨result, hresult, hwritten⟩ := Option.bind_eq_some_iff.1 hcommands
  rw [hresult, Option.bind_some, hsame] at hshown
  have hmeaning : request.meaning reply = reply.meaning c.duration := by
    rw [EditRequest.meaning, hcontext]
    rfl
  rw [hmeaning] at hplan hwritten
  -- the commands that are shown: their numbers are finite, and those that are not understood have a tag of their own
  have hnumbers : ∀ command ∈ (reply.meaning c.duration).commands, ∀ x ∈ command.numbers, x.isFinite = true := by
    intro command hmem
    exact isFinite_of_mem_meaning (fun _ hd => isFinite_of_not_isStopped hread hcontext hgoes hd) hfinite hmem
  have hunknown : ∀ tag extras, .unknown tag extras ∈ (reply.meaning c.duration).commands →
      Command.IsUnknown tag extras := by
    intro tag extras hmem
    exact isUnknown_of_mem_meaning hmem
  obtain ⟨again, hagain, hbare⟩ := readCommands_shown hnumbers hunknown
  refine ⟨result, _, again, plan, ?_, hwritten, hagain, ?_, hshown⟩
  · rw [hdocument]
    exact hresult
  · rw [planned_congr settings (some c) c.duration (fun _ hmem => limit_of_mem_meaning hmem) hbare]
    exact hplan

/-- an effect whose settings hold a number that is not finite, which the answer shows as null -/
theorem process_reproducible_effect :
    let body : Json := .obj [("prompt", .str "soften it"), ("videoContext", .obj [("duration", .bool true)])]
    let reply : Prompt.Reply := .structured (.obj [("commands", .arr [.obj [("type", .str "effect"),
      ("effectName", .str "vignette"), ("intensity", .bool true), ("params", .obj [("at", .real .nan)])]])])
    let r : Request := ⟨"POST", "http", "testserver", "/api/process", [], [], .document body⟩
    ∃ response events, react {} reply r = .answered response events ∧ response.status = 200 ∧
      ∃ result written again plan, response.body.get? "result" = some result ∧
        result.get? "commands" = some written ∧ readCommands written = .ok again ∧
        planned {} (some { duration := some (.ofInt 1) }) (limitCommands (some (.ofInt 1)) again) = .ok plan ∧
        result.get? "ffmpegCommands" = some (.arr (plan.commands.map .str)) := by
  intro body reply r
  let context : VideoContext Binary64 := { duration := some (.ofInt 1) }
  let request : EditRequest := ⟨some "soften it", some context⟩
  have hread : EditRequest.read body = .accepted request := Checked.value?_eq_some.1 (by decide +kernel)
  have hfinite : ∀ d result, reply = .structured d → Prompt.Interpretation.read d = .ok result →
      ∀ command ∈ result.commands, ∀ x ∈ command.numbers, x.isFinite = true := by
    intro d result hreply hresult command hcommand
    rw [← Prompt.Reply.structured.inj hreply] at hresult
    have hmade := Except.ok.inj hresult
    rw [← hmade] at hcommand
    rw [List.mem_singleton.1 hcommand]
    decide +kernel
  have hstatus : ((answer {} reply (.document body)).1.response {} r).status = 200 := by decide +kernel
  have hreact := react_process {} reply (r := r) rfl rfl
  exact ⟨_, _, hreact, hstatus,
    process_reproducible {} reply r rfl rfl body request context rfl hread rfl hfinite _ _ hreact hstatus⟩

end Service

end EditPlan
