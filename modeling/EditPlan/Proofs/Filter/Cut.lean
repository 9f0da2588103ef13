import Mathlib.Tactic
import EditPlan.Binary64.Text
import EditPlan.Proofs.Binary64.Characters
import EditPlan.Proofs.Filter.Reader
import EditPlan.Plan.Build

/-!
The graph of a cut. A chain for the picture of each window, and one for its sound if there is sound, writes a pad of its
own; the last chain reads these pads, each once, and joins the windows. What is written between separators holds none
itself, so the chains and their filters are read back from the text. What a call maps to the file it writes is what the
graph writes.

Main statements:
- `avoids_sixPlaces`: a number in a filter argument holds no separator;
- `isReadable_cutChains`: the chains of a cut can be read back;
- `stages_trim`: the filters of a chain that trims, with the bounds of its window;
- `nodup_windowPads`: the pads of the windows differ;
- `isCutGraph_cutChains`: how the chains of a cut are put together;
- `arguments_cut`: the argument vector of a cut that keeps something;
- `cut_isCutGraph`: the graph of every cut is well formed.
Witness: `cut_isCutGraph_open_window`.
-/

namespace EditPlan.Filter

open Number

/-! ## Texts between separators -/

/-- characters that separate the pieces of a graph, of a chain, of a filter and of an option -/
def separators : List Char := ['[', ']', ';', ',', ':', '=']

theorem avoids_of_isNumeral {text : String} (h : Decimal.IsNumeral text.toList) : Avoids separators text := by
  intro c hc hmark
  have hall : separators.all (fun d => !Decimal.isNumeralChar d) = true := by decide
  have hnone := List.all_eq_true.1 hall c hmark
  rw [h c hc] at hnone
  exact absurd hnone (by decide)

theorem avoids_toString (n : ℕ) : Avoids separators (toString n) := by
  refine avoids_of_isNumeral ?_
  rw [Nat.toString_eq_repr, Nat.toList_repr]
  exact Decimal.isNumeral_toDigits n

/-- **A number in a filter argument holds no separator** -/
theorem avoids_sixPlaces (x : Binary64) : Avoids separators (sixPlaces x) := by
  rcases Binary64.sixPlaces_cases x with h | h
  · have htexts : ∀ text ∈ ["nan", "inf", "-inf"], Avoids separators text := by decide
    exact htexts _ h
  · exact avoids_of_isNumeral h

theorem avoids_videoPad (i : ℕ) : Avoids separators (videoPad i) := Avoids.append (by decide) (avoids_toString i)

theorem avoids_audioPad (i : ℕ) : Avoids separators (audioPad i) := Avoids.append (by decide) (avoids_toString i)

variable {ν : Type} [Number ν] {w : Footage.Window ν}

theorem avoids_windowPads {withAudio : Bool} {i : ℕ} {name : String} (h : name ∈ windowPads withAudio i) :
    Avoids separators name := by
  cases withAudio with
  | false =>
    rw [List.mem_singleton.1 h]
    exact avoids_videoPad i
  | true =>
    rcases List.mem_pair.1 h with rfl | rfl
    · exact avoids_videoPad i
    · exact avoids_audioPad i

/-! ## Chains that trim -/

/-- options that bound a window; an open window has no end -/
def windowBounds (w : Footage.Window ν) : List (List String) :=
  ["start", sixPlaces w.start] :: (w.stop.map fun e => ["end", sixPlaces e]).toList

/-- filters that cut a window out and let it begin at zero -/
def trimStages (trim shift : String) (w : Footage.Window ν) : List Stage :=
  [⟨trim, windowBounds w⟩, ⟨shift, [["PTS-STARTPTS"]]⟩]

/-- a chain that cuts a window out of a stream, and writes it to a pad -/
structure Chain.Cuts (c : Chain) (stream pad : String) (stages : List Stage) : Prop where
  inputs : c.inputs = [stream]
  outputs : c.outputs = [pad]
  stages : c.stages = stages

theorem toList_windowOptions (w : Footage.Window ν) :
    (windowOptions w).toList = [':'].intercalate ((windowBounds w).map Stage.optionText) := by
  cases hstop : w.stop <;> simp [windowOptions, windowBounds, Stage.optionText, hstop]

section Trim

variable {stream pad trim shift front back : String} (hnumbers : ∀ x : ν, Avoids separators (sixPlaces x))
include hnumbers

theorem isReadable_trimStages (htrim : Avoids separators trim) (hshift : Avoids separators shift) :
    ∀ s ∈ trimStages trim shift w, s.IsReadable := by
  have hwords : ∀ o ∈ windowBounds w, o ≠ [] ∧ ∀ word ∈ o, Avoids [',', ':', '='] word := by
    have hkeys : ∀ key ∈ ["start", "end"], Avoids [',', ':', '='] key := by decide
    have hnumber : ∀ x : ν, Avoids [',', ':', '='] (sixPlaces x) := fun x => (hnumbers x).mono (by simp [separators])
    cases hstop : w.stop <;> simp_all [windowBounds]
  intro s hs
  rcases List.mem_pair.1 hs with rfl | rfl
  · exact ⟨htrim.mono (by simp [separators]), List.cons_ne_nil _ _, hwords⟩
  · have hshifted : ∀ o ∈ [["PTS-STARTPTS"]], o ≠ [] ∧ ∀ word ∈ o, Avoids [',', ':', '='] word := by decide
    exact ⟨hshift.mono (by simp [separators]), List.cons_ne_nil _ _, hshifted⟩

/-- **The filters of a chain that trims** are read back with the bounds of its window -/
theorem stages_trim (htrim : Avoids separators trim) (hshift : Avoids separators shift)
    (hfront : front.toList = trim.toList ++ ['=']) (hback : back.toList = ',' :: shift.toList ++ "=PTS-STARTPTS".toList) :
    Chain.stages ⟨[stream], front ++ windowOptions w ++ back, [pad]⟩ = trimStages trim shift w := by
  refine Chain.stages_of_text (List.cons_ne_nil _ _) (isReadable_trimStages hnumbers htrim hshift) ?_
  rw [String.toList_append, String.toList_append, hfront, hback, toList_windowOptions]
  simp [trimStages, Stage.text, Stage.optionText]

theorem avoids_windowOptions : Avoids ['[', ']', ';'] (windowOptions w) := by
  have hnumber : ∀ x : ν, Avoids ['[', ']', ';'] (sixPlaces x) := fun x => (hnumbers x).mono (by simp [separators])
  unfold windowOptions
  cases w.stop with
  | none => exact (Avoids.append (by decide) (hnumber _)).append (show Avoids _ "" by decide)
  | some e => exact (Avoids.append (by decide) (hnumber _)).append (Avoids.append (by decide) (hnumber _))

theorem isReadable_trimChain (hstream : Avoids ['[', ']', ';'] stream) (hpad : Avoids separators pad)
    (hfront : Avoids ['[', ']', ';'] front) (hback : Avoids ['[', ']', ';'] back) (hne : front ≠ "") :
    Chain.IsReadable ⟨[stream], front ++ windowOptions w ++ back, [pad]⟩ := by
  refine ⟨?_, ?_, (hfront.append (avoids_windowOptions hnumbers)).append hback, ?_⟩
  · simpa using hstream
  · simpa using hpad.mono (by simp [separators])
  · simp [hne]

end Trim

/-! ## The chains of the windows -/

section Windows

variable (hnumbers : ∀ x : ν, Avoids separators (sixPlaces x))
include hnumbers

theorem isReadable_videoChain (i : ℕ) (w : Footage.Window ν) : (videoChain i w).IsReadable :=
  isReadable_trimChain hnumbers (by decide) (avoids_videoPad i) (by decide) (by decide) (by decide)

theorem isReadable_audioChain (i : ℕ) (w : Footage.Window ν) : (audioChain i w).IsReadable :=
  isReadable_trimChain hnumbers (by decide) (avoids_audioPad i) (by decide) (by decide) (by decide)

theorem cuts_videoChain (i : ℕ) (w : Footage.Window ν) :
    (videoChain i w).Cuts "0:v" (videoPad i) (trimStages "trim" "setpts" w) :=
  ⟨rfl, rfl, stages_trim hnumbers (by decide) (by decide) (by decide) (by decide)⟩

theorem cuts_audioChain (i : ℕ) (w : Footage.Window ν) :
    (audioChain i w).Cuts "0:a" (audioPad i) (trimStages "atrim" "asetpts" w) :=
  ⟨rfl, rfl, stages_trim hnumbers (by decide) (by decide) (by decide) (by decide)⟩

theorem isReadable_windowsChains (withAudio : Bool) (i : ℕ) (windows : List (Footage.Window ν)) :
    ∀ c ∈ windowsChains withAudio i windows, c.IsReadable := by
  induction windows generalizing i with
  | nil => exact fun c hc => absurd hc List.not_mem_nil
  | cons w rest ih =>
    intro c hc
    rcases List.mem_append.1 hc with hc | hc
    · cases withAudio with
      | false =>
        rw [List.mem_singleton.1 hc]
        exact isReadable_videoChain hnumbers i w
      | true =>
        rcases List.mem_pair.1 hc with rfl | rfl
        · exact isReadable_videoChain hnumbers i w
        · exact isReadable_audioChain hnumbers i w
    · exact ih (i + 1) c hc

end Windows

/-- the chains that read one stream of the source, and no pad besides -/
def reading (stream : String) (chains : List Chain) : List Chain := chains.filter fun c => c.inputs = [stream]

theorem reading_picture (withAudio : Bool) (i : ℕ) (windows : List (Footage.Window ν)) :
    reading "0:v" (windowsChains withAudio i windows) = (windows.zipIdx i).map fun (w, j) => videoChain j w := by
  induction windows generalizing i with
  | nil => rfl
  | cons w rest ih =>
    rw [List.zipIdx_cons, List.map_cons, ← ih]
    cases withAudio <;> simp [reading, windowsChains, windowChains, videoChain, audioChain]

/-- the chains of sound are those of the windows, in order; there are none if the cut is made without sound -/
theorem reading_sound (withAudio : Bool) (i : ℕ) (windows : List (Footage.Window ν)) :
    reading "0:a" (windowsChains withAudio i windows) =
      if withAudio then (windows.zipIdx i).map fun (w, j) => audioChain j w else [] := by
  induction windows generalizing i with
  | nil => cases withAudio <;> rfl
  | cons w rest ih =>
    have hrest := ih (i + 1)
    rw [List.zipIdx_cons, List.map_cons]
    cases withAudio <;> simp_all [reading, windowsChains, windowChains, videoChain, audioChain]

theorem length_windowsChains (withAudio : Bool) (i : ℕ) (windows : List (Footage.Window ν)) :
    (windowsChains withAudio i windows).length = if withAudio then 2 * windows.length else windows.length := by
  induction windows generalizing i with
  | nil => cases withAudio <;> rfl
  | cons w rest ih =>
    cases withAudio <;> simp [windowsChains, windowChains, ih]
    omega

theorem inputs_windowsChains (withAudio : Bool) (i : ℕ) (windows : List (Footage.Window ν)) :
    ∀ name ∈ (windowsChains withAudio i windows).flatMap Chain.inputs, name = "0:v" ∨ name = "0:a" := by
  induction windows generalizing i with
  | nil => simp [windowsChains]
  | cons w rest ih =>
    intro name hname
    rw [windowsChains, List.flatMap_append, List.mem_append] at hname
    rcases hname with hname | hname
    · cases withAudio with
      | false => exact .inl (by simpa [windowChains, videoChain] using hname)
      | true => simpa [windowChains, videoChain, audioChain] using hname
    · exact ih (i + 1) name hname

theorem outputs_windowsChains (withAudio : Bool) (i : ℕ) (windows : List (Footage.Window ν)) :
    (windowsChains withAudio i windows).flatMap Chain.outputs =
      (List.range' i windows.length).flatMap (windowPads withAudio) := by
  induction windows generalizing i with
  | nil => rfl
  | cons w rest ih =>
    rw [windowsChains, List.flatMap_append, ih, List.length_cons, List.range'_succ, List.flatMap_cons]
    cases withAudio <;> rfl

/-! ## The pads of the windows -/

/-- a name that ends in a number tells the number -/
theorem append_toString_injective (front : String) : Function.Injective fun i : ℕ => front ++ toString i := by
  intro i j h
  have hlists := congrArg String.toList h
  simp only [String.toList_append, Nat.toString_eq_repr, Nat.toList_repr] at hlists
  exact Decimal.toDigits_injective (List.append_cancel_left hlists)

theorem head?_of_mem_windowPads {withAudio : Bool} {i : ℕ} {name : String} (h : name ∈ windowPads withAudio i) :
    name.toList.head? = some 'v' ∧ name = videoPad i ∨ name.toList.head? = some 'a' ∧ name = audioPad i := by
  cases withAudio with
  | false =>
    obtain rfl := List.mem_singleton.1 h
    exact .inl ⟨by simp [videoPad], rfl⟩
  | true =>
    rcases List.mem_pair.1 h with rfl | rfl
    · exact .inl ⟨by simp [videoPad], rfl⟩
    · exact .inr ⟨by simp [audioPad], rfl⟩

theorem eq_of_mem_windowPads {withAudio : Bool} {i j : ℕ} {name : String} (hi : name ∈ windowPads withAudio i)
    (hj : name ∈ windowPads withAudio j) : i = j := by
  rcases head?_of_mem_windowPads hi with ⟨hv, hi⟩ | ⟨ha, hi⟩ <;>
    rcases head?_of_mem_windowPads hj with ⟨hv', hj⟩ | ⟨ha', hj⟩
  · exact append_toString_injective "v" (hi.symm.trans hj)
  · exact absurd (hv.symm.trans ha') (by decide)
  · exact absurd (ha.symm.trans hv') (by decide)
  · exact append_toString_injective "a" (hi.symm.trans hj)

/-- **No two pads of the windows are the same** -/
theorem nodup_windowPads (withAudio : Bool) (n : ℕ) : ((List.range n).flatMap (windowPads withAudio)).Nodup := by
  have hapart : (List.range n).Pairwise (Function.onFun List.Disjoint (windowPads withAudio)) :=
    List.nodup_range.imp fun hne name hi hj => hne (eq_of_mem_windowPads hi hj)
  refine List.nodup_flatMap.2 ⟨fun i _ => ?_, hapart⟩
  cases withAudio with
  | false => exact List.nodup_singleton _
  | true =>
    have hne : videoPad i ≠ audioPad i := fun h =>
      absurd (congrArg (fun name => name.toList.head?) h) (by simp [videoPad, audioPad])
    simpa [windowPads] using hne

theorem not_mem_ends_of_mem_windowPads {withAudio : Bool} {i : ℕ} {name : String} (h : name ∈ windowPads withAudio i) :
    name ∉ ["0:v", "0:a", "outv", "outa"] := by
  have hends : ∀ name ∈ ["0:v", "0:a", "outv", "outa"], name.toList.head? ∈ [some '0', some 'o'] := by decide
  intro hmem
  rcases head?_of_mem_windowPads h with ⟨hv, -⟩ | ⟨ha, -⟩
  · exact absurd (hv ▸ hends name hmem) (by decide)
  · exact absurd (ha ▸ hends name hmem) (by decide)

/-! ## The whole graph -/

theorem stages_concatChain (withAudio : Bool) (n : ℕ) : (concatChain withAudio n).stages =
    [⟨"concat", [["n", toString n], ["v", "1"], ["a", if withAudio then "1" else "0"]]⟩] := by
  have hwords : ∀ o ∈ [["n", toString n], ["v", "1"], ["a", if withAudio then "1" else "0"]],
      o ≠ [] ∧ ∀ word ∈ o, Avoids [',', ':', '='] word := by
    have hkeys : ∀ key ∈ ["n", "v", "a", "1"], Avoids [',', ':', '='] key := by decide
    have hflag : Avoids [',', ':', '='] (if withAudio then "1" else "0") := by cases withAudio <;> decide
    have hcount : Avoids [',', ':', '='] (toString n) := (avoids_toString n).mono (by simp [separators])
    generalize toString n = count at hcount ⊢
    simp_all
  have hname : Avoids [',', '='] "concat" := by decide
  refine Chain.stages_of_text (List.cons_ne_nil _ _) (fun s hs => ?_) ?_
  · rw [List.mem_singleton.1 hs]
    exact ⟨hname, List.cons_ne_nil _ _, hwords⟩
  · simp [concatChain, Stage.text, Stage.optionText]

theorem isReadable_concatChain (withAudio : Bool) (n : ℕ) : (concatChain withAudio n).IsReadable := by
  refine ⟨fun name hname => ?_, ?_, ?_, ?_⟩
  · obtain ⟨i, -, hi⟩ := List.mem_flatMap.1 hname
    exact (avoids_windowPads hi).mono (by simp [separators])
  · have houtputs : ∀ withAudio, ∀ name ∈ cutOutputs withAudio, Avoids ['[', ']', ';'] name := by decide
    exact houtputs withAudio
  · have hflag : Avoids ['[', ']', ';'] (if withAudio then "1" else "0") := by cases withAudio <;> decide
    have hcount : Avoids ['[', ']', ';'] (toString n) := (avoids_toString n).mono (by simp [separators])
    exact ((Avoids.append (by decide) hcount).append (by decide)).append hflag
  · simp [concatChain]

theorem isReadable_cutChains (hnumbers : ∀ x : ν, Avoids separators (sixPlaces x)) (withAudio : Bool)
    (windows : List (Footage.Window ν)) : ∀ c ∈ cutChains withAudio windows, c.IsReadable := by
  intro c hc
  rcases List.mem_append.1 hc with hc | hc
  · exact isReadable_windowsChains hnumbers withAudio 0 windows c hc
  · rw [List.mem_singleton.1 hc]
    exact isReadable_concatChain withAudio windows.length

/-- how the graph of a cut is put together from chains that trim and a chain that joins -/
structure IsCutGraph (withAudio : Bool) (windows : List (Footage.Window ν)) (trims : List Chain) (join : Chain) :
    Prop where
  /-- a chain of picture for each window, one of sound if there is sound, and no other -/
  length_trims : trims.length = if withAudio then 2 * windows.length else windows.length
  length_picture : (reading "0:v" trims).length = windows.length
  length_sound : (reading "0:a" trims).length = if withAudio then windows.length else 0
  /-- a window's chains of picture and of sound have its bounds -/
  picture : ∀ i w, windows[i]? = some w →
    ∃ c : Chain, (reading "0:v" trims)[i]? = some c ∧ c.Cuts "0:v" (videoPad i) (trimStages "trim" "setpts" w)
  sound : withAudio = true → ∀ i w, windows[i]? = some w →
    ∃ c : Chain, (reading "0:a" trims)[i]? = some c ∧ c.Cuts "0:a" (audioPad i) (trimStages "atrim" "asetpts" w)
  /-- windows are joined in order, sound right after the picture -/
  joined : join.inputs = (List.range windows.length).flatMap fun i =>
    if withAudio then [videoPad i, audioPad i] else [videoPad i]
  /-- in the whole graph each of these pads is written once and read once -/
  written : ∀ name ∈ join.inputs, ((trims ++ [join]).flatMap Chain.outputs).count name = 1
  read : ∀ name ∈ join.inputs, ((trims ++ [join]).flatMap Chain.inputs).count name = 1
  concat : join.stages =
    [⟨"concat", [["n", toString windows.length], ["v", "1"], ["a", if withAudio then "1" else "0"]]⟩]

theorem count_outputs {withAudio : Bool} {windows : List (Footage.Window ν)} {name : String}
    (h : name ∈ (concatChain withAudio windows.length).inputs) :
    ((cutChains withAudio windows).flatMap Chain.outputs).count name = 1 := by
  obtain ⟨i, -, hi⟩ := List.mem_flatMap.1 h
  have hends : name ∉ cutOutputs withAudio := fun hmem =>
    not_mem_ends_of_mem_windowPads hi (by cases withAudio <;> simp [cutOutputs] at hmem ⊢ <;> tauto)
  rw [cutChains, List.flatMap_append, outputs_windowsChains, ← List.range_eq_range', List.count_append,
    List.count_eq_one_of_mem (nodup_windowPads withAudio windows.length) h, List.flatMap_singleton]
  exact congrArg (1 + ·) (List.count_eq_zero_of_not_mem hends)

theorem count_inputs {withAudio : Bool} {windows : List (Footage.Window ν)} {name : String}
    (h : name ∈ (concatChain withAudio windows.length).inputs) :
    ((cutChains withAudio windows).flatMap Chain.inputs).count name = 1 := by
  obtain ⟨i, -, hi⟩ := List.mem_flatMap.1 h
  have hsource : name ∉ (windowsChains withAudio 0 windows).flatMap Chain.inputs := fun hmem =>
    not_mem_ends_of_mem_windowPads hi (by rcases inputs_windowsChains _ _ _ name hmem with rfl | rfl <;> decide)
  rw [cutChains, List.flatMap_append, List.count_append, List.count_eq_zero_of_not_mem hsource, List.flatMap_singleton,
    Nat.zero_add]
  exact List.count_eq_one_of_mem (nodup_windowPads withAudio windows.length) h

theorem isCutGraph_cutChains (hnumbers : ∀ x : ν, Avoids separators (sixPlaces x)) (withAudio : Bool)
    (windows : List (Footage.Window ν)) :
    IsCutGraph withAudio windows (windowsChains withAudio 0 windows) (concatChain withAudio windows.length) where
  length_trims := length_windowsChains withAudio 0 windows
  length_picture := by simp [reading_picture]
  length_sound := by cases withAudio <;> simp [reading_sound]
  picture := fun i w hw => ⟨videoChain i w, by simp [reading_picture, hw], cuts_videoChain hnumbers i w⟩
  sound := fun haudio i w hw => ⟨audioChain i w, by simp [reading_sound, haudio, hw], cuts_audioChain hnumbers i w⟩
  joined := rfl
  written := fun _ h => count_outputs h
  read := fun _ h => count_inputs h
  concat := stages_concatChain withAudio windows.length

end EditPlan.Filter

/-! ## The call of a cut -/

namespace EditPlan

open Number EditPlan.Filter

theorem readGraph?_cutChains (withAudio : Bool) (windows : List (Footage.Window Binary64)) :
    readGraph? (graphText (cutChains withAudio windows)) = some (cutChains withAudio windows) :=
  readGraph?_graphText (isReadable_cutChains avoids_sixPlaces withAudio windows) (by simp [cutChains])

/-- a cut that keeps a window is called with its graph, and with the pads that the graph writes -/
theorem arguments_cut (setup : Setup Binary64) (s : State Binary64) (input : String) (segments : List (Segment Binary64))
    (hne : Footage.kept segments s.duration ≠ []) :
    (Build.cut setup s input segments).invocation.arguments =
      [setup.binary, "-y", "-i", input, "-filter_complex",
          graphText (cutChains s.hasAudio (Footage.kept segments s.duration))] ++
        (cutOutputs s.hasAudio).flatMap (fun name => ["-map", pad name]) ++
          [(Build.cut setup s input segments).invocation.output] := by
  -- the option for a graph is left out if its text is empty
  have htext : (graphText (cutChains s.hasAudio (Footage.kept segments s.duration))).isEmpty = false := by
    rw [String.isEmpty_eq_false_iff]
    intro hempty
    have hread := readGraph?_cutChains s.hasAudio (Footage.kept segments s.duration)
    rw [hempty] at hread
    have hnone : readGraph? "" = none := by decide
    exact Option.some_ne_none _ (hread.symm.trans hnone)
  simp [Build.cut, hne, Invocation.arguments, Invocation.valueOption, Build.numbered, htext, List.flatMap_map]

/-- **The graph of a cut is well formed**, whatever windows are kept: its text is read back as chains that trim, a chain
of picture for each window and one of sound if there is sound, and a chain that joins their pads. Every cut that keeps
these windows is called with this graph, and its `-map` arguments are the pads that the last chain writes. -/
theorem cut_isCutGraph (withAudio : Bool) {windows : List (Footage.Window Binary64)} (hne : windows ≠ []) :
    ∃ trims join, readGraph? (graphText (cutChains withAudio windows)) = some (trims ++ [join]) ∧
      IsCutGraph withAudio windows trims join ∧
      ∀ (setup : Setup Binary64) (s : State Binary64) (input : String) (segments : List (Segment Binary64)),
        s.hasAudio = withAudio → Footage.kept segments s.duration = windows →
        ∃ op, (Command.cut segments).build setup s input = .ok (some op) ∧ op.detail = .cut windows ∧
          op.invocation.arguments =
            [setup.binary, "-y", "-i", input, "-filter_complex", graphText (cutChains withAudio windows)] ++
              join.outputs.flatMap (fun name => ["-map", pad name]) ++ [op.invocation.output] := by
  refine ⟨_, _, readGraph?_cutChains withAudio windows, isCutGraph_cutChains avoids_sixPlaces withAudio windows, ?_⟩
  rintro setup s input segments rfl rfl
  exact ⟨Build.cut setup s input segments, rfl, rfl, arguments_cut setup s input segments hne⟩

/-- the stretch from 10 to 20 is cut out of a video with sound and without a known duration: the second window is open -/
theorem cut_isCutGraph_open_window :
    let sec : Int → Binary64 := fun n => ofRat n
    let windows : List (Footage.Window Binary64) := [⟨sec 0, some (sec 10)⟩, ⟨sec 20, none⟩]
    Footage.kept [⟨sec 10, sec 20⟩] none = windows ∧ windows ≠ [] ∧
      graphText (cutChains true windows) =
        "[0:v]trim=start=0:end=10,setpts=PTS-STARTPTS[v0]; [0:a]atrim=start=0:end=10,asetpts=PTS-STARTPTS[a0]; " ++
        "[0:v]trim=start=20,setpts=PTS-STARTPTS[v1]; [0:a]atrim=start=20,asetpts=PTS-STARTPTS[a1]; " ++
        "[v0][a0][v1][a1]concat=n=2:v=1:a=1[outv][outa]" ∧
      ∃ trims join, readGraph? (graphText (cutChains true windows)) = some (trims ++ [join]) ∧
        IsCutGraph true windows trims join := by
  intro sec windows
  have hne : windows ≠ [] := List.cons_ne_nil _ _
  obtain ⟨trims, join, hread, hgraph, -⟩ := cut_isCutGraph true hne
  exact ⟨by decide +kernel, hne, by decide +kernel, trims, join, hread, hgraph⟩

end EditPlan
