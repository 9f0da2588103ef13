import Mathlib.Tactic
import EditPlan.Run.Execution
import EditPlan.Proofs.Plan.Chain

/-!
What a run of a plan starts. Calls are started one after the other as long as they end well; the first that does not ends
the run. A plan is a chain, so a call is only ever started on the source or on a file whose call has ended well. The folder
of a file that is named by a directory and a name in it depends on the directory alone.

Main statements:
- `folderOf_file`: the folder of a file;
- `run_of_ended_well`: a run whose calls all end well starts every operation;
- `run_of_first_failure`: a run starts the operations up to the first one that fails, and that one is its failure;
- `execute_trace`: both for a plan, and what each of its calls reads.
Witness:
- `execute_trace_second_fails`: three operations, of which the second fails.
-/

/-! ## Folders -/

namespace EditPlan.Text

theorem splitOn_eq_splitOn (sep : Char) (cs : List Char) : splitOn sep cs = cs.splitOn sep := by
  induction cs with
  | nil => rfl
  | cons c r ih =>
    rw [List.splitOn_cons_eq_if_modifyHead, ← ih]
    by_cases hc : c = sep
    · rw [if_pos (beq_iff_eq.2 hc), splitOn, if_pos hc]
    · rw [if_neg (by simpa using hc), splitOn, if_neg hc]
      cases h : splitOn sep r with
      | nil => exact absurd h (splitOn_ne_nil sep r)
      | cons p ps => rfl

end EditPlan.Text

namespace EditPlan.Run

variable {dir name : List Char}

/-- only slashes at the front belong to the root, and a name is none -/
theorem rootOf_append_name (hslash : '/' ∉ name) : rootOf (dir ++ '/' :: name) = rootOf (dir ++ ['/']) := by
  cases name with
  | nil => rfl
  | cons c r =>
    have hc : c ≠ '/' := fun h => hslash (h ▸ List.mem_cons_self)
    -- three characters decide about the root
    rcases dir with _ | ⟨x, _ | ⟨y, _ | ⟨z, rest⟩⟩⟩
    · simp [rootOf, hc]
    · by_cases hx : x = '/' <;> simp [rootOf, hx, hc]
    · by_cases hx : x = '/' <;> by_cases hy : y = '/' <;> simp [rootOf, hx, hy]
    · by_cases hx : x = '/' <;> by_cases hy : y = '/' <;> by_cases hz : z = '/' <;> simp [rootOf, hx, hy, hz]

theorem pathParts_append_name (hne : name ≠ []) (hdot : name ≠ ['.']) (hslash : '/' ∉ name) :
    pathParts (dir ++ '/' :: name) = pathParts dir ++ [name] := by
  simp only [pathParts, Text.splitOn_eq_splitOn]
  rw [List.splitOn_append_cons_self, List.splitOn_eq_singleton hslash, List.filter_append]
  simp [hne, hdot]

/-- **The folder of a file depends on its directory alone**, whatever its name is -/
theorem folderOf_file {dir name : String} (hne : name ≠ "") (hdot : name ≠ ".") (hslash : '/' ∉ name.toList) :
    folderOf (dir ++ "/" ++ name) =
      String.ofList (pathText (rootOf (dir.toList ++ ['/'])) (pathParts dir.toList)) := by
  have hpath : (dir ++ "/" ++ name).toList = dir.toList ++ '/' :: name.toList := by
    simp
  rw [folderOf, hpath, rootOf_append_name hslash, pathParts_append_name _ _ hslash, List.dropLast_concat]
  · simpa using hne
  · simpa [← String.toList_inj] using hdot

end EditPlan.Run

namespace EditPlan.Run

variable {ν : Type} {timeout : Json} {endings : ℕ → Ending} {p : Progress ν} {op : Operation ν}
  {ops : List (Operation ν)}

/-! ## One operation -/

theorem step_ended_well (timeout : Json) (op : Operation ν) (h : p.failure = none)
    (hend : (endings p.started.length).returnCode = 0) :
    (step timeout endings p op).failure = none ∧
      (step timeout endings p op).started = p.started ++ [Started.ofOperation timeout op] := by
  simp [step, h, hend]

theorem step_failed (timeout : Json) (op : Operation ν) (h : p.failure = none)
    (hend : (endings p.started.length).returnCode ≠ 0) :
    (step timeout endings p op).failure = some ⟨op, (endings p.started.length).returnCode,
        Text.decodeUtf8 (endings p.started.length).stderr⟩ ∧
      (step timeout endings p op).started = p.started ++ [Started.ofOperation timeout op] := by
  simp [step, h, hend]

/-! ## A row of operations -/

theorem run_cons (op : Operation ν) (ops : List (Operation ν)) :
    run timeout endings p (op :: ops) = run timeout endings (step timeout endings p op) ops := rfl

theorem run_append (xs ys : List (Operation ν)) :
    run timeout endings p (xs ++ ys) = run timeout endings (run timeout endings p xs) ys := List.foldl_append

/-- **While calls end well, the next one is started** -/
theorem run_of_ended_well (timeout : Json) (ops : List (Operation ν)) (h : p.failure = none)
    (hend : ∀ j < ops.length, (endings (p.started.length + j)).returnCode = 0) :
    (run timeout endings p ops).failure = none ∧
      (run timeout endings p ops).started = p.started ++ ops.map (Started.ofOperation timeout) := by
  induction ops generalizing p with
  | nil => exact ⟨h, (List.append_nil _).symm⟩
  | cons op ops ih =>
    have hfirst := hend 0 (Nat.succ_pos _)
    rw [Nat.add_zero] at hfirst
    obtain ⟨hnone, hstarted⟩ := step_ended_well timeout op h hfirst
    have hrest : ∀ j < ops.length,
        (endings ((step timeout endings p op).started.length + j)).returnCode = 0 := by
      intro j hj
      have hlater := hend (j + 1) (Nat.succ_lt_succ hj)
      rw [hstarted, List.length_append, List.length_singleton, Nat.add_assoc, Nat.add_comm 1 j]
      exact hlater
    obtain ⟨hfailure, hall⟩ := ih hnone hrest
    rw [run_cons, hall, hstarted, List.append_assoc]
    exact ⟨hfailure, rfl⟩

/-- **The first call that fails ends the run**: nothing is started behind it, and it is what is told -/
theorem run_of_first_failure (timeout : Json) {k : ℕ} (h : p.failure = none) (hop : ops[k]? = some op)
    (hbefore : ∀ j < k, (endings (p.started.length + j)).returnCode = 0)
    (hend : (endings (p.started.length + k)).returnCode ≠ 0) :
    (run timeout endings p ops).failure = some ⟨op, (endings (p.started.length + k)).returnCode,
        Text.decodeUtf8 (endings (p.started.length + k)).stderr⟩ ∧
      (run timeout endings p ops).started = p.started ++ (ops.take (k + 1)).map (Started.ofOperation timeout) := by
  obtain ⟨hk, -⟩ := List.getElem?_eq_some_iff.1 hop
  have hlength : (ops.take k).length = k := List.length_take_of_le hk.le
  have hsplit : ops.take (k + 1) = ops.take k ++ [op] := by
    rw [List.take_add_one, hop, Option.toList_some]
  -- up to the failing call all is well
  obtain ⟨hnone, hstarted⟩ := run_of_ended_well timeout (ops.take k) h
    (fun j hj => hbefore j (hlength ▸ hj))
  have hplace : (run timeout endings p (ops.take k)).started.length = p.started.length + k := by
    rw [hstarted, List.length_append, List.length_map, hlength]
  rw [← hplace] at hend ⊢
  obtain ⟨hfailure, hlast⟩ := step_failed timeout op hnone hend
  -- behind it nothing happens any more
  have hfront : run timeout endings p (ops.take (k + 1)) =
      step timeout endings (run timeout endings p (ops.take k)) op := by
    rw [hsplit, run_append]
    rfl
  have hstopped : run timeout endings p ops = run timeout endings p (ops.take (k + 1)) := by
    conv_lhs => rw [← List.take_append_drop (k + 1) ops]
    apply run_append_stopped
    rw [hfront, hfailure]
    rfl
  rw [hstopped, hfront]
  refine ⟨hfailure, ?_⟩
  rw [hlast, hstarted, hsplit, List.map_append, List.append_assoc]
  rfl

/-! ## A plan -/

section Plans

variable {plan : Plan ν}

theorem execute_of_ended_well (timeout : Json) (hend : ∀ j < plan.operations.length, (endings j).returnCode = 0) :
    (execute timeout endings plan).started = plan.operations.map (Started.ofOperation timeout) ∧
      (execute timeout endings plan).result = .ok plan.finalOutput := by
  have hfrom : ∀ j < plan.operations.length, (endings (0 + j)).returnCode = 0 := by simpa using hend
  obtain ⟨hnone, hstarted⟩ := run_of_ended_well (p := {}) timeout plan.operations rfl hfrom
  rw [execute, hnone]
  exact ⟨hstarted, rfl⟩

theorem execute_of_first_failure (timeout : Json) {k : ℕ} (hop : plan.operations[k]? = some op)
    (hbefore : ∀ j < k, (endings j).returnCode = 0) (hend : (endings k).returnCode ≠ 0) :
    (execute timeout endings plan).started = (plan.operations.take (k + 1)).map (Started.ofOperation timeout) ∧
      (execute timeout endings plan).result =
        .error ⟨op, (endings k).returnCode, Text.decodeUtf8 (endings k).stderr⟩ := by
  obtain ⟨hfailure, hstarted⟩ := run_of_first_failure (p := {}) timeout rfl hop
    (by simpa using hbefore) (by simpa using hend)
  simp only [List.length_nil, Nat.zero_add] at hfailure
  rw [execute, hfailure]
  exact ⟨hstarted, rfl⟩

theorem first_failure_or_all_well (endings : ℕ → Ending) (n : ℕ) :
    (∃ k < n, (∀ j < k, (endings j).returnCode = 0) ∧ (endings k).returnCode ≠ 0) ∨
      ∀ j < n, (endings j).returnCode = 0 := by
  by_cases hall : ∀ j < n, (endings j).returnCode = 0
  · exact Or.inr hall
  · push Not at hall
    left
    have hfails : ∃ k, (endings k).returnCode ≠ 0 := ⟨_, hall.choose_spec.2⟩
    refine ⟨Nat.find hfails, ?_, ?_, Nat.find_spec hfails⟩
    · obtain ⟨j, hj, hbad⟩ := hall
      exact lt_of_le_of_lt (Nat.find_min' hfails hbad) hj
    · intro j hj
      exact not_not.1 (Nat.find_min hfails hj)

/-- the calls that were started are those of the leading operations, and all of them but the last have ended well -/
theorem execute_started (timeout : Json) (endings : ℕ → Ending) (plan : Plan ν) :
    ∃ n ≤ plan.operations.length, (execute timeout endings plan).started =
        (plan.operations.take n).map (Started.ofOperation timeout) ∧
      ∀ j, j + 1 < n → (endings j).returnCode = 0 := by
  rcases first_failure_or_all_well endings plan.operations.length with ⟨k, hk, hbefore, hend⟩ | hall
  · have hop := List.getElem?_eq_getElem hk
    refine ⟨k + 1, hk, (execute_of_first_failure timeout hop hbefore hend).1, ?_⟩
    intro j hj
    exact hbefore j (Nat.lt_of_succ_lt_succ hj)
  · refine ⟨plan.operations.length, le_rfl, ?_, ?_⟩
    · rw [List.take_length]
      exact (execute_of_ended_well timeout hall).1
    · intro j hj
      exact hall j (Nat.lt_of_succ_lt hj)

theorem operation_of_started {n i : ℕ} {call : Started} (hn : n ≤ plan.operations.length)
    (hstarted : (execute timeout endings plan).started = (plan.operations.take n).map (Started.ofOperation timeout))
    (hcall : (execute timeout endings plan).started[i]? = some call) :
    i < n ∧ ∃ op, plan.operations[i]? = some op ∧ call = .ofOperation timeout op := by
  rw [hstarted, List.getElem?_map, Option.map_eq_some_iff] at hcall
  obtain ⟨op, hop, rfl⟩ := hcall
  obtain ⟨hi, -⟩ := List.getElem?_eq_some_iff.1 hop
  rw [List.length_take_of_le hn] at hi
  rw [List.getElem?_take_of_lt hi] at hop
  exact ⟨hi, op, hop, rfl⟩

end Plans

/-- a call names its input behind the third word and its output in the last one -/
theorem arguments_ends (c : Invocation) : c.arguments[2]? = some "-i" ∧ c.arguments[3]? = some c.input ∧
    c.arguments.getLast? = some c.output := by
  refine ⟨rfl, rfl, ?_⟩
  rw [Invocation.arguments]
  exact List.getLast?_concat

/-- **What a run of a plan starts.** However the calls of a plan end: those that were started are the calls of its leading
operations, in order and each once. If the call `k` is the first that fails, then exactly `k + 1` were started, and the
failure is that operation with its code and its decoded error output; if none fails, all were started, and the final file
is the result. A call reads the source if it is the first, and else what the call just before it wrote, which ended well. -/
theorem execute_trace {ν : Type} [Number ν] (planner : Planner ν) (context : Option (VideoContext ν))
    (cs : List (Command ν)) (plan : Plan ν) (h : (planner.plan context cs).result = .ok plan) (timeout : Json)
    (endings : ℕ → Ending) :
    let outcome := execute timeout endings plan
    (∃ n ≤ plan.operations.length,
      outcome.started = (plan.operations.take n).map fun op => ⟨op.invocation.arguments, timeout⟩) ∧
    (∀ k op, plan.operations[k]? = some op → (∀ j < k, (endings j).returnCode = 0) → (endings k).returnCode ≠ 0 →
      outcome.started.length = k + 1 ∧
      outcome.result = .error ⟨op, (endings k).returnCode, Text.decodeUtf8 (endings k).stderr⟩) ∧
    ((∀ j < plan.operations.length, (endings j).returnCode = 0) →
      outcome.started.length = plan.operations.length ∧ outcome.result = .ok plan.finalOutput) ∧
    (∀ i call, outcome.started[i]? = some call → call.arguments[2]? = some "-i" ∧
      (i = 0 → call.arguments[3]? = some planner.setup.source) ∧
      ∀ j, i = j + 1 → (endings j).returnCode = 0 ∧ ∃ before written, outcome.started[j]? = some before ∧
        before.arguments.getLast? = some written ∧ call.arguments[3]? = some written) := by
  intro outcome
  have hshape := (plan_isChain planner context cs plan h).1
  obtain ⟨n, hn, hstarted, hwell⟩ := execute_started timeout endings plan
  refine ⟨⟨n, hn, hstarted⟩, ?_, ?_, ?_⟩
  · intro k op hop hbefore hend
    obtain ⟨hfront, hresult⟩ := execute_of_first_failure timeout hop hbefore hend
    obtain ⟨hk, -⟩ := List.getElem?_eq_some_iff.1 hop
    refine ⟨?_, hresult⟩
    rw [show outcome.started = _ from hfront, List.length_map, List.length_take_of_le hk]
  · intro hall
    obtain ⟨hevery, hresult⟩ := execute_of_ended_well timeout hall
    refine ⟨?_, hresult⟩
    rw [show outcome.started = _ from hevery, List.length_map]
  · -- the neighbours of a call are those of its operation in the chain
    intro i call hcall
    obtain ⟨hi, op, hop, rfl⟩ := operation_of_started hn hstarted hcall
    obtain ⟨hflag, hinput, -⟩ := arguments_ends op.invocation
    refine ⟨hflag, ?_, ?_⟩
    · rintro rfl
      exact hinput.trans (congrArg some (hshape.first op hop))
    · rintro j rfl
      have hj : j < outcome.started.length := by
        obtain ⟨hlt, -⟩ := List.getElem?_eq_some_iff.1 hcall
        exact Nat.lt_of_succ_lt hlt
      have hbefore := List.getElem?_eq_getElem hj
      obtain ⟨-, a, ha, heq⟩ := operation_of_started hn hstarted hbefore
      refine ⟨hwell j hi, _, a.output, hbefore, ?_, ?_⟩
      · rw [heq]
        exact (arguments_ends a.invocation).2.2
      · exact hinput.trans (congrArg some (hshape.later j a op ha hop))

/-- a cut, an export and thumbnails; the export fails, with error output that is not UTF-8 -/
theorem execute_trace_second_fails :
    let planner := Planner.fresh (⟨"in.mp4", "/w", "ffmpeg", "captions.srt", Number.zero⟩ : Setup Binary64)
    let cs : List (Command Binary64) := [.cut [], .exportVideo "mp4" "original" "original" "medium" Number.one,
      .thumbnail 1 "auto" (some [Number.one])]
    let endings : ℕ → Ending := fun i => if i = 1 then ⟨183, [0xff, 0x21]⟩ else {}
    ∃ plan op, (planner.plan none cs).result = .ok plan ∧ plan.operations[1]? = some op ∧
      op.output = "/w/output.mp4" ∧ (execute .null endings plan).started.length = 2 ∧
      (execute .null endings plan).result = .error ⟨op, 183, Text.decodeUtf8 [0xff, 0x21]⟩ ∧
      Text.decodeUtf8 [0xff, 0x21] = "\ufffd!" := by
  intro planner cs endings
  have hfirst : ∀ j < 1, (endings j).returnCode = 0 := by decide
  have hsecond : (endings 1).returnCode ≠ 0 := by decide
  obtain ⟨hlength, hresult⟩ := (execute_trace planner none cs _ rfl .null endings).2.1 1 _ rfl hfirst hsecond
  exact ⟨_, _, rfl, rfl, by decide +kernel, hlength, hresult, by decide +kernel⟩

end EditPlan.Run
