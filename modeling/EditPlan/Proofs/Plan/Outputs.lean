import Mathlib.Data.List.DropRight
import EditPlan.Proofs.Plan.Chain
import EditPlan.Proofs.Run.Execution
import EditPlan.Run.Execution

/-!
Where a plan writes. Numbered files are new each time, but the result of an export and thumbnails have fixed names: of two
neighbours with one fixed name the second writes over the file that it reads. All names stand in the working directory,
and only the format of an export can bring a slash into one.

Main statements:
- `overwrites_input_iff`: an operation writes the file that it reads exactly if its command and the one before it are
  exports of one format, or thumbnails both;
- `output_in_workDir`: every file that is written is the working directory with a name, which has a slash exactly if it
  is the result of an export whose format has one; without such formats all files lie in the folder that a run makes.
Witnesses:
- `overwrites_input_twice_exported`: two exports of one format, the second of which reads what it writes;
- `output_below_workDir`: an export whose format has a slash, written into a folder that no run makes.
-/

namespace EditPlan

open Number

variable {ν : Type} [Number ν] {setup : Setup ν} {s s' : State ν} {file file' : String} {c d : Command ν}
  {cs : List (Command ν)} {op : Operation ν} {ops : List (Operation ν)} {i : ℕ}

/-! ## Names of neighbours -/

namespace Command

/-- two commands that write under one fixed name: exports of one format, or thumbnails both -/
def SharesName (c d : Command ν) : Prop := ∃ name, c.fixedName? = some name ∧ d.fixedName? = some name

omit [Number ν] in
theorem fixedName?_ne_numbered (c : Command ν) (n : ℕ) : c.fixedName? ≠ some (.numbered n) := by
  cases c <;> simp [fixedName?]

/-- an understood command without a fixed name takes a number -/
theorem counter_advance (h : c.isUnderstood = true) (hname : c.fixedName? = none) (s : State ν) :
    (c.advance s).counter = s.counter + 1 := by
  cases c with
  | unknown tag extras => exact absurd h (by simp [isUnderstood, kind?])
  | exportVideo => exact absurd hname (by simp [fixedName?])
  | thumbnail => exact absurd hname (by simp [fixedName?])
  | _ => rfl

/-- **The next command writes the same file** exactly if both have one fixed name: numbers never repeat -/
theorem fileName_advance_iff (h : c.isUnderstood = true) (d : Command ν) (s : State ν) :
    c.fileName s = d.fileName (c.advance s) ↔ c.SharesName d := by
  rw [fileName, fileName, SharesName]
  cases hc : c.fixedName? with
  | none =>
    rw [Option.getD_none]
    refine iff_of_false (fun heq => ?_) (by simp)
    cases hd : d.fixedName? with
    | none =>
      rw [hd, Option.getD_none, counter_advance h hc] at heq
      exact absurd (FileName.numbered.inj heq) (by omega)
    | some name =>
      rw [hd, Option.getD_some] at heq
      exact fixedName?_ne_numbered d _ (hd.trans (congrArg some heq.symm))
  | some name =>
    rw [Option.getD_some]
    cases hd : d.fixedName? with
    | none =>
      rw [Option.getD_none]
      refine iff_of_false (fun heq => ?_) (by simp)
      exact fixedName?_ne_numbered c _ (hc.trans (congrArg some heq))
    | some name' => simp [eq_comm]

end Command

/-! ## Writing over the input -/

/-- **An operation of a chain writes the file that it reads** exactly if it and the one before it have one fixed name -/
theorem Makes.overwrites_iff (h : Makes setup s file cs ops s' file') (hfile : ∀ name, file ≠ setup.file name)
    (hop : ops[i]? = some op) :
    op.input = op.output ↔ ∃ j c d, i = j + 1 ∧ cs[j]? = some c ∧ cs[j + 1]? = some d ∧ c.SharesName d := by
  cases i with
  | zero =>
    -- the source is not in the working directory
    obtain ⟨c, -, hb⟩ := h.first hop
    obtain ⟨-, hinput, houtput⟩ := call_of_build hb
    rw [hinput, houtput]
    exact iff_of_false (hfile _) (by simp)
  | succ j =>
    obtain ⟨hlt, -⟩ := List.getElem?_eq_some_iff.1 hop
    have hbefore : ops[j]? = some ops[j] := List.getElem?_eq_getElem (Nat.lt_of_succ_lt hlt)
    obtain ⟨c, d, t, input, hc, hd, hba, hbb⟩ := h.adjacent hbefore hop
    obtain ⟨-, hinput, houtput⟩ := call_of_build hbb
    rw [hinput, houtput, (call_of_build hba).2.2, (Setup.file_injective setup).eq_iff,
      FileName.text_injective.eq_iff, Command.fileName_advance_iff (Command.isUnderstood_of_build hba)]
    constructor
    · intro hshares
      exact ⟨j, c, d, rfl, hc, hd, hshares⟩
    · rintro ⟨j', c', d', hj, hc', hd', hshares⟩
      obtain rfl : j = j' := Nat.succ.inj hj
      rw [hc] at hc'
      rw [hd] at hd'
      rw [Option.some.inj hc', Option.some.inj hd']
      exact hshares

/-- **When an operation writes over its input.** For every list of commands and a source outside the working directory:
an operation of the plan writes the file that it reads exactly if its command and the understood command before it are
exports of one format or thumbnails both. So no operation does exactly if no two such commands are neighbours. -/
theorem overwrites_input_iff (planner : Planner ν) (context : Option (VideoContext ν)) (cs : List (Command ν))
    (plan : Plan ν) (hsource : ∀ name, planner.setup.source ≠ planner.setup.workDir ++ "/" ++ name)
    (h : (planner.plan context cs).result = .ok plan) :
    let understood := cs.filter Command.isUnderstood
    (∀ i op, plan.operations[i]? = some op → (op.input = op.output ↔
      ∃ j c d, i = j + 1 ∧ understood[j]? = some c ∧ understood[j + 1]? = some d ∧ c.SharesName d)) ∧
    ((∀ op ∈ plan.operations, op.input ≠ op.output) ↔ understood.IsChain fun c d => ¬ c.SharesName d) := by
  intro understood
  have hmakes := makes_of_plan h
  have hat : ∀ i op, plan.operations[i]? = some op → (op.input = op.output ↔
      ∃ j c d, i = j + 1 ∧ understood[j]? = some c ∧ understood[j + 1]? = some d ∧ c.SharesName d) :=
    fun i op hop => hmakes.overwrites_iff hsource hop
  refine ⟨hat, ?_⟩
  rw [List.isChain_iff_getElem]
  constructor
  · intro hnone j hj hshares
    have hlt : j + 1 < plan.operations.length := hmakes.length_eq ▸ hj
    have hop := List.getElem?_eq_getElem hlt
    refine hnone _ (List.getElem_mem hlt) ((hat _ _ hop).2 ⟨j, _, _, rfl, ?_, ?_, hshares⟩)
    · exact List.getElem?_eq_getElem _
    · exact List.getElem?_eq_getElem _
  · intro hchain op hop heq
    obtain ⟨i, hi⟩ := List.mem_iff_getElem?.1 hop
    obtain ⟨j, c, d, -, hc, hd, hshares⟩ := (hat i op hi).1 heq
    obtain ⟨hj, rfl⟩ := List.getElem?_eq_some_iff.1 hc
    obtain ⟨hj', rfl⟩ := List.getElem?_eq_some_iff.1 hd
    exact hchain j hj' hshares

/-- a webm and an mp4 of it, a trim of that and thumbnails: no operation writes over its input -/
theorem overwrites_input_other_formats :
    let planner := Planner.fresh (⟨"in.mp4", "/w", "ffmpeg", "captions.srt", zero⟩ : Setup Binary64)
    let cs : List (Command Binary64) := [.exportVideo "webm" "original" "original" "medium" one,
      .exportVideo "mp4" "original" "original" "medium" one, .cut [], .thumbnail 1 "auto" (some [one])]
    (∀ name, planner.setup.source ≠ planner.setup.workDir ++ "/" ++ name) ∧
      ∃ plan, (planner.plan none cs).result = .ok plan ∧ ∀ op ∈ plan.operations, op.input ≠ op.output := by
  intro planner cs
  have hsource : ∀ name, planner.setup.source ≠ planner.setup.workDir ++ "/" ++ name := by
    intro name h
    exact absurd (congrArg (fun path => path.toList.head?) h) (by simp [planner, Planner.fresh])
  refine ⟨hsource, _, rfl, (overwrites_input_iff planner none cs _ hsource rfl).2.2 ?_⟩
  have hall : cs.filter Command.isUnderstood = cs := rfl
  rw [hall]
  simp [cs, Command.SharesName, Command.fixedName?]

/-- **Two exports of one format**: the second reads the file that it writes -/
theorem overwrites_input_twice_exported :
    let planner := Planner.fresh (⟨"in.mp4", "/w", "ffmpeg", "captions.srt", zero⟩ : Setup Binary64)
    let mp4 : Command Binary64 := .exportVideo "mp4" "original" "original" "medium" one
    (∀ name, planner.setup.source ≠ planner.setup.workDir ++ "/" ++ name) ∧
      ∃ plan, (planner.plan none [mp4, mp4]).result = .ok plan ∧
        plan.operations.map (fun op => (op.input, op.output)) =
          [("in.mp4", "/w/output.mp4"), ("/w/output.mp4", "/w/output.mp4")] ∧
        ¬ ∀ op ∈ plan.operations, op.input ≠ op.output := by
  intro planner mp4
  refine ⟨fun name h => ?_, _, rfl, by decide +kernel, by decide +kernel⟩
  exact absurd (congrArg (fun path => path.toList.head?) h) (by simp [planner, Planner.fresh])

/-! ## The working directory -/

namespace Planner

theorem dropSlashes_spec (path : String) : (dropSlashes path).toList.getLast? ≠ some '/' ∧
    ∃ n, path.toList = (dropSlashes path).toList ++ List.replicate n '/' := by
  have hdrop : (dropSlashes path).toList = path.toList.rdropWhile (· == '/') := String.toList_ofList
  rw [hdrop]
  constructor
  · intro hlast
    have hne : path.toList.rdropWhile (· == '/') ≠ [] := by
      rintro hnil
      rw [hnil] at hlast
      exact absurd hlast (by simp)
    rw [List.getLast?_eq_some_getLast hne] at hlast
    exact List.rdropWhile_last_not _ _ hne (beq_iff_eq.2 (Option.some.inj hlast))
  · have hslashes : ∀ c ∈ path.toList.rtakeWhile (· == '/'), c = '/' := by
      intro c hc
      have heq := List.mem_rtakeWhile_imp hc
      exact beq_iff_eq.1 heq
    refine ⟨(path.toList.rtakeWhile (· == '/')).length, ?_⟩
    rw [← List.eq_replicate_of_mem hslashes, List.rdropWhile_append_rtakeWhile]

end Planner

/-- an export whose format has a slash -/
def Command.FormatHasSlash : Command ν → Prop
  | .exportVideo format _ _ _ _ => '/' ∈ format.toList
  | _ => False

omit [Number ν] in
theorem Command.slash_mem_fileName (c : Command ν) (s : State ν) :
    '/' ∈ (c.fileName s).text.toList ↔ c.FormatHasSlash := by
  rw [FileName.slash_mem_text]
  cases c <;> simp [fileName, fixedName?, FormatHasSlash]

/-- **Every file of a chain stands in the working directory** under a name that has a slash only if a format has one -/
theorem Makes.output_name (h : Makes setup s file cs ops s' file') (hop : ops[i]? = some op) :
    ∃ c name, cs[i]? = some c ∧ op.output = setup.file name ∧ 1 < name.toList.length ∧
      ('/' ∈ name.toList ↔ c.FormatHasSlash) := by
  obtain ⟨c, t, input, hc, -, hb⟩ := h.built hop
  exact ⟨c, (c.fileName t).text, hc, (call_of_build hb).2.2, FileName.one_lt_length_text _, c.slash_mem_fileName t⟩

theorem Makes.folderOf_output (h : Makes setup s file cs ops s' file') (hcs : ∀ c ∈ cs, ¬ c.FormatHasSlash)
    (hop : op ∈ ops) : Run.folderOf op.output = String.ofList
      (Run.pathText (Run.rootOf (setup.workDir.toList ++ ['/'])) (Run.pathParts setup.workDir.toList)) := by
  obtain ⟨i, hi⟩ := List.mem_iff_getElem?.1 hop
  obtain ⟨c, name, hc, houtput, hlong, hslash⟩ := h.output_name hi
  have hno : '/' ∉ name.toList := fun hmem => hcs c (List.mem_of_getElem? hc) (hslash.1 hmem)
  rw [houtput]
  refine Run.folderOf_file ?_ ?_ hno
  · rintro rfl
    exact absurd hlong (by decide)
  · rintro rfl
    exact absurd hlong (by decide)

omit [Number ν] in
/-- however a run ends, it has made the folder of the first file and no other -/
theorem folders_execute (timeout : Json) (endings : ℕ → Run.Ending) (plan : Plan ν) :
    (Run.execute timeout endings plan).folders =
      ((plan.operations.map Operation.output).head?.map Run.folderOf).toList := by
  have hmade : (Run.execute timeout endings plan).folders = Run.foldersFor plan.operations := by
    unfold Run.execute
    dsimp only
    split <;> rfl
  rw [hmade, Run.foldersFor, List.head?_map, Option.map_map]
  rfl

omit [Number ν] in
theorem folderOf_mem_execute {plan : Plan ν} {folder : String}
    (hfolder : ∀ op ∈ plan.operations, Run.folderOf op.output = folder) (timeout : Json)
    (endings : ℕ → Run.Ending) (hop : op ∈ plan.operations) :
    Run.folderOf op.output ∈ (Run.execute timeout endings plan).folders := by
  rw [folders_execute, hfolder op hop]
  cases hops : plan.operations with
  | nil => rw [hops] at hop; exact absurd hop List.not_mem_nil
  | cons first rest => simp [hfolder first (by simp [hops])]

/-- **Where a plan writes.** Under any settings and for every list of commands: the working directory is the one asked
for, without slashes at its end; each file that is written is this directory, a slash and a name that is not empty; the
name has a slash exactly if the command is an export whose format has one. If no format has, the folder of every file is
the one that a run of the plan makes. -/
theorem output_in_workDir (settings : Settings) (source : String) (workDir binary : Option String)
    (context : Option (VideoContext Binary64)) (cs : List (Command Binary64)) (plan : Plan Binary64)
    (h : ((Planner.ofSettings settings source workDir binary).plan context cs).result = .ok plan) :
    let asked := Planner.orUsual settings.workDir workDir
    let dir := Planner.dropSlashes asked
    let understood := cs.filter Command.isUnderstood
    (dir.toList.getLast? ≠ some '/' ∧ ∃ n, asked.toList = dir.toList ++ List.replicate n '/') ∧
    (∀ (i : ℕ) (op : Operation Binary64), plan.operations[i]? = some op → ∃ (c : Command Binary64) (name : String),
      understood[i]? = some c ∧ op.output = dir ++ "/" ++ name ∧ name ≠ "" ∧
      ('/' ∈ name.toList ↔ c.FormatHasSlash)) ∧
    ((∀ c ∈ cs, ¬ c.FormatHasSlash) → ∀ (timeout : Json) (endings : ℕ → Run.Ending), ∀ op ∈ plan.operations,
      Run.folderOf op.output ∈ (Run.execute timeout endings plan).folders) := by
  intro asked dir understood
  have hmakes := makes_of_plan h
  refine ⟨Planner.dropSlashes_spec asked, ?_, ?_⟩
  · intro i op hop
    obtain ⟨c, name, hc, houtput, hlong, hslash⟩ := hmakes.output_name hop
    refine ⟨c, name, hc, houtput, ?_, hslash⟩
    rintro rfl
    exact absurd hlong (by decide)
  · intro hformats timeout endings op hop
    have hunderstood : ∀ c ∈ understood, ¬ c.FormatHasSlash := fun c hc => hformats c (List.mem_of_mem_filter hc)
    exact folderOf_mem_execute (fun a ha => hmakes.folderOf_output hunderstood ha) timeout endings hop

/-- a directory with slashes at its end, and a format that is not known -/
theorem output_in_workDir_unknown_format :
    let planner : Planner Binary64 := Planner.ofSettings {} "in.mp4" (some "/w//") none
    let cs : List (Command Binary64) := [.cut [], .exportVideo "avi" "original" "original" "medium" one]
    ∃ plan, (planner.plan none cs).result = .ok plan ∧
      plan.operations.map Operation.output = ["/w/temp_1.mp4", "/w/output.avi"] ∧
      (∀ c ∈ cs, ¬ c.FormatHasSlash) ∧ ∀ (timeout : Json) (endings : ℕ → Run.Ending), ∀ op ∈ plan.operations,
        Run.folderOf op.output ∈ (Run.execute timeout endings plan).folders := by
  intro planner cs
  have hformats : ∀ c ∈ cs, ¬ c.FormatHasSlash := by simp [cs, Command.FormatHasSlash]
  exact ⟨_, rfl, by decide +kernel, hformats,
    (output_in_workDir {} "in.mp4" (some "/w//") none none cs _ rfl).2.2 hformats⟩

/-- **A format with a slash** leads out of the directory: the second file is not a name in it, and its folder is not made -/
theorem output_below_workDir :
    let planner : Planner Binary64 := Planner.ofSettings {} "in.mp4" (some "/w") none
    let cs : List (Command Binary64) := [.cut [], .exportVideo "a/b" "original" "original" "medium" one]
    ∃ plan, (planner.plan none cs).result = .ok plan ∧
      plan.operations.map Operation.output = ["/w/temp_1.mp4", "/w/output.a/b"] ∧
      (¬ ∀ op ∈ plan.operations, ∃ name, op.output = "/w" ++ "/" ++ name ∧ name ≠ "" ∧ '/' ∉ name.toList) ∧
      Run.folderOf "/w/output.a/b" = "/w/output.a" ∧
      ∀ (timeout : Json) (endings : ℕ → Run.Ending), (Run.execute timeout endings plan).folders = ["/w"] := by
  intro planner cs
  have hoperations : ∃ plan, (planner.plan none cs).result = .ok plan ∧
      plan.operations.map Operation.output = ["/w/temp_1.mp4", "/w/output.a/b"] := ⟨_, rfl, by decide +kernel⟩
  obtain ⟨plan, hplan, houtputs⟩ := hoperations
  refine ⟨plan, hplan, houtputs, ?_, by decide +kernel, ?_⟩
  · intro hnames
    have hmem : "/w/output.a/b" ∈ plan.operations.map Operation.output := by simp [houtputs]
    obtain ⟨op, hop, houtput⟩ := List.mem_map.1 hmem
    obtain ⟨name, hname, -, hslash⟩ := hnames op hop
    have hsame : planner.setup.file "output.a/b" = planner.setup.file name := houtput.symm.trans hname
    rw [← Setup.file_injective _ hsame] at hslash
    exact hslash (by decide)
  · intro timeout endings
    rw [folders_execute, houtputs]
    decide +kernel

end EditPlan
