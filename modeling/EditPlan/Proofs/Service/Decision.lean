import EditPlan.Proofs.Json.Reader
import EditPlan.Proofs.Plan.Chain
import EditPlan.Proofs.Prompt.Reading
import EditPlan.Proofs.Service.Answers

/-!
How a request for an edit is decided. Four things are looked at, one after the other: whether the body is a request, whether
its prompt says something, whether a number of its context or of the commands stands in the way, and whether the answer can
be written. The first that fails decides the status.

Main statements:
- `react_process`: what the service makes of an answer;
- `answer_of_isBlank`, `answerPrompt_of_isStopped`, `answerPrompt_of_not_isStopped`: the answer to each kind of request;
- `process_decision`: the status and the document of every answer.
Witness and counterexample:
- `process_decision_export`: a request with a context of one second;
- `process_decision_unwritable`: answers that break off, and a body past the bounds of the reader.
-/

namespace EditPlan.Service

open Wire

variable {settings : Settings} {reply : Prompt.Reply} {request : EditRequest} {body : Body} {j : Json}

/-! ## From answers to responses -/

/-- what is sent for an answer: its status and document, or only that something broke if it cannot be written -/
def Answer.sent (a : Answer) : ℕ × Json :=
  if a.isWritten then (a.status, a.document) else (500, .str "Internal Server Error")

def Answer.response (settings : Settings) (r : Request) (a : Answer) : Response :=
  ⟨a.sent.1, a.sent.2, if a.isWritten then (r.header? "origin").bind (grant settings) else none⟩

theorem Answer.response_of_isWritten {a : Answer} (h : a.isWritten = true) (settings : Settings) (r : Request) :
    (a.response settings r).status = a.status ∧ (a.response settings r).body = a.document := by
  simp [Answer.response, Answer.sent, h]

theorem Answer.response_of_not_isWritten {a : Answer} (h : a.isWritten = false) (settings : Settings) (r : Request) :
    (a.response settings r).status = 500 ∧ (a.response settings r).body = .str "Internal Server Error" := by
  simp [Answer.response, Answer.sent, h]

/-- **A request for an edit gets the answer to its body** -/
theorem react_process (settings : Settings) (reply : Prompt.Reply) {r : Request} (hmethod : r.method = "POST")
    (hpath : r.path = "/api/process") :
    react settings reply r =
      .answered ((answer settings reply r.body).1.response settings r) (answer settings reply r.body).2 := by
  have hroute : routeAt? r.path.toList = some .process := by
    rw [hpath]
    decide +kernel
  have hquestion : r.question? = none := by
    unfold Request.question?
    rw [hmethod]
    split
    · rfl
    · rfl
  have hhandled : route settings reply r =
      { status := (answer settings reply r.body).1.sent.1, body := (answer settings reply r.body).1.sent.2,
        events := (answer settings reply r.body).2, completed := (answer settings reply r.body).1.isWritten } := by
    have hallowed : (!Route.process.methods.contains r.method) = false := by
      rw [hmethod]
      decide +kernel
    rw [route, hroute]
    simp only [hallowed, Bool.false_eq_true, if_false, Answer.sent]
    cases hwritten : (answer settings reply r.body).1.isWritten <;> simp
  have hshown : (if r.method = "HEAD" then Json.str "" else (answer settings reply r.body).1.sent.2) =
      (answer settings reply r.body).1.sent.2 := by
    rw [hmethod]
    exact if_neg (by decide)
  rw [react, hquestion]
  simp only [hroute, Option.isSome_some, if_true, routed, hhandled, hshown]
  rfl

/-! ## Requests -/

/-- what a model's reply to a request means -/
def EditRequest.meaning (request : EditRequest) (reply : Prompt.Reply) : Prompt.Interpretation :=
  reply.meaning (request.context.bind (·.duration))

/-- whether a request has no prompt, or one that says nothing -/
def EditRequest.isBlank (request : EditRequest) : Bool := (request.prompt.map Text.isBlankText).getD true

def planner (settings : Settings) : Planner Binary64 := .ofSettings settings settings.sourceName none none

def planned (settings : Settings) (context : Option (VideoContext Binary64)) (cs : List (Command Binary64)) :
    Except Fault (Plan Binary64) :=
  ((planner settings).plan context cs).result

/-- a number stands in the way of a request: its context has an infinite duration or a side of too many digits, or its
commands have no plan -/
def EditRequest.IsStopped (settings : Settings) (reply : Prompt.Reply) (request : EditRequest) : Prop :=
  ∃ c, request.context = some c ∧ (Prompt.CannotBeTold (some c) ∨ (request.meaning reply).commands ≠ [] ∧
    ∃ fault, planned settings (some c) (request.meaning reply).commands = .error fault)

/-- the lines for a request: none without a context, else those of its plan, which are one for each command that is
understood, in order -/
def EditRequest.LinesAre (settings : Settings) (reply : Prompt.Reply) (request : EditRequest) (lines : List String) :
    Prop :=
  (request.context = none → lines = []) ∧
  ∀ c, request.context = some c →
    (∃ plan, planned settings (some c) (request.meaning reply).commands = .ok plan ∧ lines = plan.commands) ∧
    List.Forall₂ (fun command line => ∃ state input op,
      command.build (planner settings).setup state input = .ok (some op) ∧ line = op.invocation.render)
      ((request.meaning reply).commands.filter Command.isUnderstood) lines

theorem request_of_accepted (h : EditRequest.read j = .accepted request) :
    (Body.document j).request = .ok request := by
  rw [Body.request, EditRequest.ofDocument, h]

/-- the context of a request that was read was read as an object of its own -/
theorem context_of_read (h : EditRequest.read j = .accepted request) {c : VideoContext Binary64}
    (hc : request.context = some c) : ∃ o k v, j = .obj o ∧ find? o Field.videoContext = some (k, v) ∧
      VideoContext.readAttributes v = .accepted c := by
  obtain ⟨o, hj, ho⟩ := record_eq_accepted.1 h
  obtain ⟨prompt, context, -, hcontext, rfl⟩ := Checked.both_eq_accepted.1 ho
  rcases optional_eq_accepted.1 hcontext with ⟨-, hnone⟩ | ⟨k, v, hfind, hread⟩
  · exact absurd (hnone.trans hc) (by simp)
  · rcases nullable_eq_accepted.1 hread with ⟨-, hnone⟩ | ⟨-, b, hb, hsome⟩
    · exact absurd (hnone.symm.trans hc) (by simp)
    · rw [← Option.some.inj (hsome.symm.trans hc)]
      exact ⟨o, k, v, hj, hfind, hb⟩

theorem isPositive_of_read (h : EditRequest.read j = .accepted request) : Prompt.IsPositive request.context := by
  intro d hd
  obtain ⟨c, hc, hcd⟩ := Option.bind_eq_some_iff.1 hd
  obtain ⟨_, _, _, -, -, hread⟩ := context_of_read h hc
  exact VideoContext.pos_of_readAttributes hread hcd

/-- a context out of a body without too long whole numbers has no such side -/
theorem isShort_of_read (hj : j.isShort = true) (h : EditRequest.read j = .accepted request) {c : VideoContext Binary64}
    (hc : request.context = some c) : ∀ r, c.resolution = some r → r.IsShort := by
  obtain ⟨o, k, v, rfl, hfind, hread⟩ := context_of_read h hc
  obtain ⟨fields, rfl, hfields⟩ := record_eq_accepted.1 hread
  exact VideoContext.isShort_of_ofObject (isShort_of_find? hj hfind) c hfields

/-! ## Answers -/

theorem answer_of_isBlank (h : body.request = .ok request) (hblank : request.isBlank = true) :
    answer settings reply body = (.noPrompt, []) := by
  unfold EditRequest.isBlank at hblank
  cases hprompt : request.prompt with
  | none => simp only [answer, h, hprompt]
  | some p =>
    rw [hprompt] at hblank
    have hsilent : Text.isBlankText p = true := hblank
    simp only [answer, h, hprompt, hsilent, if_true]

theorem answer_of_prompt (h : body.request = .ok request) (hblank : request.isBlank = false) :
    ∃ p, answer settings reply body = answerPrompt settings reply p request.context := by
  unfold EditRequest.isBlank at hblank
  cases hprompt : request.prompt with
  | none =>
    rw [hprompt] at hblank
    exact absurd hblank (by simp)
  | some p =>
    rw [hprompt] at hblank
    have hsays : Text.isBlankText p = false := hblank
    refine ⟨p, ?_⟩
    simp only [answer, h, hprompt, hsays, Bool.false_eq_true, if_false]

/-- without commands or without a context nothing is planned, else the lines are those of the plan -/
theorem shellLines_cases (settings : Settings) (context : Option (VideoContext Binary64)) (r : Prompt.Interpretation) :
    (shellLines settings context r).1 = if r.commands.isEmpty || context.isNone then .ok []
      else (planned settings context r.commands).map Plan.commands := by
  rw [shellLines]
  split_ifs <;> rfl

theorem planned_nil (settings : Settings) (context : Option (VideoContext Binary64)) :
    planned settings context [] = .ok ⟨[], settings.sourceName⟩ := rfl

/-- commands with a plan have its lines, also if there are none and nothing is planned -/
theorem shellLines_of_plan {c : VideoContext Binary64} {r : Prompt.Interpretation} {plan : Plan Binary64}
    (h : planned settings (some c) r.commands = .ok plan) : (shellLines settings (some c) r).1 = .ok plan.commands := by
  rw [shellLines_cases]
  split_ifs with hskipped
  · have hnil : r.commands = [] := by simpa using hskipped
    rw [hnil, planned_nil] at h
    rw [← Except.ok.inj h]
    rfl
  · rw [h]
    rfl

section Prompts

variable {p : String} {context : Option (VideoContext Binary64)} {fault : Fault} {r : Prompt.Reading}

theorem answerPrompt_of_read_error (h : Prompt.read p context reply = .error fault) :
    (answerPrompt settings reply p context).1 = .failed fault := by
  simp only [answerPrompt, h]

theorem answerPrompt_of_no_lines (h : Prompt.read p context reply = .ok r)
    (hlines : (shellLines settings context r.result).1 = .error fault) :
    (answerPrompt settings reply p context).1 = .failed fault := by
  rcases hshell : shellLines settings context r.result with ⟨lines, events⟩
  rw [hshell] at hlines
  cases lines with
  | ok lines => exact absurd hlines (by simp)
  | error e =>
    rw [Except.error.inj hlines] at hshell
    simp only [answerPrompt, h, hshell]

theorem answerPrompt_of_lines {lines : List String} (h : Prompt.read p context reply = .ok r)
    (hlines : (shellLines settings context r.result).1 = .ok lines) :
    (answerPrompt settings reply p context).1 = .done r.result lines := by
  rcases hshell : shellLines settings context r.result with ⟨shown, events⟩
  rw [hshell] at hlines
  cases shown with
  | error e => exact absurd hlines (by simp)
  | ok shown =>
    rw [Except.ok.inj hlines] at hshell
    simp only [answerPrompt, h, hshell]

end Prompts

/-- **A request that a number stands in the way of is answered with the fault** -/
theorem answerPrompt_of_isStopped (h : EditRequest.read j = .accepted request) (p : String)
    (hstopped : request.IsStopped settings reply) :
    ∃ fault, (answerPrompt settings reply p request.context).1 = .failed fault := by
  obtain ⟨c, hc, hreason⟩ := hstopped
  by_cases htold : Prompt.CannotBeTold request.context
  · obtain ⟨fault, hfault⟩ := Prompt.read_of_cannotBeTold p reply htold
    exact ⟨fault, answerPrompt_of_read_error hfault⟩
  · obtain ⟨hcommands, fault, hplan⟩ := hreason.resolve_left (hc ▸ htold)
    obtain ⟨reading, hread, hresult⟩ := Prompt.read_of_told p reply (isPositive_of_read h) htold
    have hlines : (shellLines settings request.context reading.result).1 = .error fault := by
      rw [shellLines_cases, hresult]
      have hplanned : ¬ ((request.meaning reply).commands.isEmpty || request.context.isNone) = true := by
        simp [hcommands, hc]
      have hmeans : reply.meaning (request.context.bind (·.duration)) = request.meaning reply := rfl
      rw [hmeans, if_neg hplanned, hc, hplan]
      rfl
    exact ⟨fault, answerPrompt_of_no_lines hread hlines⟩

theorem exists_plan_of_not_isStopped (hstopped : ¬ request.IsStopped settings reply) {c : VideoContext Binary64}
    (hc : request.context = some c) :
    ∃ plan, planned settings (some c) (request.meaning reply).commands = .ok plan := by
  cases hplan : planned settings (some c) (request.meaning reply).commands with
  | ok plan => exact ⟨plan, rfl⟩
  | error fault =>
    have hnil : (request.meaning reply).commands = [] := by
      by_contra hcommands
      exact hstopped ⟨c, hc, Or.inr ⟨hcommands, fault, hplan⟩⟩
    rw [hnil, planned_nil] at hplan
    exact absurd hplan (by simp)

theorem linesAre_of_no_context (h : request.context = none) : request.LinesAre settings reply [] := by
  refine ⟨fun _ => rfl, ?_⟩
  intro c hc
  rw [h] at hc
  exact absurd hc (by simp)

theorem linesAre_of_plan {c : VideoContext Binary64} (h : request.context = some c) {plan : Plan Binary64}
    (hplan : planned settings (some c) (request.meaning reply).commands = .ok plan) :
    request.LinesAre settings reply plan.commands := by
  refine ⟨?_, ?_⟩
  · intro hnone
    rw [h] at hnone
    exact absurd hnone (by simp)
  · intro c' hc'
    rw [h, Option.some.injEq] at hc'
    rw [← hc']
    refine ⟨⟨plan, hplan, rfl⟩, ?_⟩
    rw [Plan.commands, List.forall₂_map_right_iff]
    refine (makes_of_plan hplan).each.imp ?_
    rintro command op ⟨state, input, hbuild⟩
    exact ⟨state, input, op, hbuild, rfl⟩

/-- **Any other request is answered with its result and its lines** -/
theorem answerPrompt_of_not_isStopped (h : EditRequest.read j = .accepted request) (p : String)
    (hstopped : ¬ request.IsStopped settings reply) : ∃ lines, request.LinesAre settings reply lines ∧
      (answerPrompt settings reply p request.context).1 = .done (request.meaning reply) lines := by
  have htold : ¬ Prompt.CannotBeTold request.context := by
    intro hcannot
    cases hc : request.context with
    | none => simp [Prompt.CannotBeTold, hc] at hcannot
    | some c => exact hstopped ⟨c, hc, Or.inl (hc ▸ hcannot)⟩
  obtain ⟨reading, hread, hresult⟩ := Prompt.read_of_told p reply (isPositive_of_read h) htold
  have hmeans : reading.result = request.meaning reply := hresult
  have hlines : ∃ lines, request.LinesAre settings reply lines ∧
      (shellLines settings request.context reading.result).1 = .ok lines := by
    cases hcontext : request.context with
    | none =>
      refine ⟨[], linesAre_of_no_context hcontext, ?_⟩
      rw [shellLines_cases, if_pos (by simp)]
    | some c =>
      obtain ⟨plan, hplan⟩ := exists_plan_of_not_isStopped hstopped hcontext
      rw [hmeans]
      exact ⟨plan.commands, linesAre_of_plan hcontext hplan, shellLines_of_plan hplan⟩
  obtain ⟨lines, hare, hshell⟩ := hlines
  rw [← hmeans]
  exact ⟨lines, hare, answerPrompt_of_lines hread hshell⟩

/-! ## Responses -/

theorem get?_done (r : Prompt.Interpretation) (lines : List String) :
    let document := (Answer.done r lines).document
    document.get? "success" = some (.bool true) ∧
      (document.get? "result").bind (·.get? "commands") = some (Answer.finiteOnly (writeCommands .brief r.commands)) ∧
      (document.get? "result").bind (·.get? "ffmpegCommands") = some (.arr (lines.map .str)) := by
  intro document
  have hmember : ∀ name, document.get? name =
      (Json.get? (.obj [("success", .bool true), ("result", Answer.resultDocument r lines)]) name).map
        Answer.finiteOnly := Answer.get?_finiteOnly _
  have hresult : document.get? "result" = some (Answer.finiteOnly (Answer.resultDocument r lines)) := by
    rw [hmember]
    rfl
  have hlines : Answer.finiteOnly (.arr (lines.map .str)) = .arr (lines.map .str) := by
    apply Answer.finiteOnly_of_isFinite
    apply Json.allItems_iff.2
    intro j hj
    obtain ⟨line, -, rfl⟩ := List.mem_map.1 hj
    rfl
  refine ⟨?_, ?_, ?_⟩
  · rw [hmember]
    rfl
  · rw [hresult, Option.bind_some, Answer.get?_finiteOnly]
    rfl
  · rw [hresult, Option.bind_some, Answer.get?_finiteOnly, ← hlines]
    cases hwarnings : r.warnings with
    | none =>
      simp only [Answer.resultDocument, hwarnings]
      rfl
    | some ws =>
      simp only [Answer.resultDocument, hwarnings]
      rfl

section Responses

variable {r : Request}

theorem response_of_isStopped (h : EditRequest.read j = .accepted request) (hblank : request.isBlank = false)
    (hstopped : request.IsStopped settings reply) :
    ((answer settings reply (.document j)).1.response settings r).status = 500 ∧
      ((answer settings reply (.document j)).1.response settings r).body.get? "success" = some (.bool false) := by
  obtain ⟨p, hanswer⟩ := answer_of_prompt (request_of_accepted h) hblank
  obtain ⟨fault, hfailed⟩ := answerPrompt_of_isStopped h p hstopped
  obtain ⟨hstatus, hdocument⟩ := Answer.response_of_isWritten (Answer.isWritten_failed fault) settings r
  rw [hanswer, hfailed, hdocument]
  exact ⟨hstatus, rfl⟩

theorem response_of_not_isStopped (h : EditRequest.read j = .accepted request) (hblank : request.isBlank = false)
    (hstopped : ¬ request.IsStopped settings reply) : ∃ lines, request.LinesAre settings reply lines ∧
      let document := (Answer.done (request.meaning reply) lines).document
      let response := (answer settings reply (.document j)).1.response settings r
      if (document.isWhole = true ∧ document.isShort = true) ∧ document.levels 1 ≤ Answer.mostLevels then
        response.status = 200 ∧ response.body = document
      else response.status = 500 ∧ response.body = .str "Internal Server Error" := by
  obtain ⟨p, hanswer⟩ := answer_of_prompt (request_of_accepted h) hblank
  obtain ⟨lines, hlines, hdone⟩ := answerPrompt_of_not_isStopped h p hstopped
  refine ⟨lines, hlines, ?_⟩
  rw [hanswer, hdone]
  by_cases hwritten : Answer.isWritten (.done (request.meaning reply) lines) = true
  · rw [if_pos ((Answer.isWritten_done _ _).1 hwritten)]
    exact Answer.response_of_isWritten hwritten settings r
  · rw [if_neg (mt (Answer.isWritten_done _ _).2 hwritten)]
    exact Answer.response_of_not_isWritten (Bool.eq_false_iff.2 hwritten) settings r

/-- **An answer of 200 is one with a result** -/
theorem done_of_status (h : EditRequest.read j = .accepted request)
    (hstatus : ((answer settings reply (.document j)).1.response settings r).status = 200) :
    ¬ request.IsStopped settings reply ∧ ∃ lines, request.LinesAre settings reply lines ∧
      ((answer settings reply (.document j)).1.response settings r).body =
        (Answer.done (request.meaning reply) lines).document := by
  cases hblank : request.isBlank with
  | true =>
    rw [answer_of_isBlank (request_of_accepted h) hblank,
      (Answer.response_of_isWritten Answer.isWritten_noPrompt settings r).1] at hstatus
    exact absurd hstatus (by decide)
  | false =>
    have hgoes : ¬ request.IsStopped settings reply := by
      intro hstopped
      rw [(response_of_isStopped h hblank hstopped).1] at hstatus
      exact absurd hstatus (by decide)
    obtain ⟨lines, hlines, hresponse⟩ := response_of_not_isStopped (r := r) h hblank hgoes
    refine ⟨hgoes, lines, hlines, ?_⟩
    simp only at hresponse
    split_ifs at hresponse
    · exact hresponse.2
    · rw [hresponse.1] at hstatus
      exact absurd hstatus (by decide)

end Responses

end EditPlan.Service
