import Mathlib.Tactic
import EditPlan.Filter.Graph

/-!
Reading the text of a filter graph back into chains, and the filters of a chain back into their names and options.

A graph is cut where a semicolon and a space stand. In a chain the reader is a machine over characters: names in brackets
are pads, the rest is filters; the pads in front are read by the chain and those behind are written. Filters are parted by
commas, a name from its options by the first equals sign, options by colons, and a key from its value by an equals sign.

Main statements:
- `readGraph?_graphText`: a graph whose names and filters hold no separator is read back as its chains;
- `Chain.stages_of_text`: a chain of filters whose words hold no separator is read back as their names and options.
-/

namespace EditPlan.Filter

/-! ## The reader -/

/-- texts of the chains of a graph: its parts between semicolons that a space follows -/
def chainTexts : List Char → List (List Char)
  | ';' :: ' ' :: r => [] :: chainTexts r
  | c :: r => (chainTexts r).modifyHead (c :: ·)
  | [] => [[]]

inductive Part where
  | pad (name : String)
  | filters (text : String)
  deriving DecidableEq, Repr

/-- name of a pad; filters have none -/
def Part.name? : Part → Option String
  | .pad name => some name
  | .filters _ => none

/-- a reader of a chain: the parts before, the characters since, and whether they stand in brackets -/
structure ChainReader where
  parts : List Part
  held : List Char
  inside : Bool
  deriving DecidableEq, Repr

namespace ChainReader

def start : ChainReader := ⟨[], [], false⟩

/-- parts up to here, what was held outside brackets being filters -/
def flushed (r : ChainReader) : List Part :=
  if r.held.isEmpty then r.parts else r.parts ++ [.filters (String.ofList r.held)]

/-- one character; brackets do not stand in each other, and none stands alone -/
def step (r : ChainReader) (c : Char) : Option ChainReader :=
  if c = '[' then
    if r.inside then none else some ⟨r.flushed, [], true⟩
  else if c = ']' then
    if r.inside then some ⟨r.parts ++ [.pad (String.ofList r.held)], [], false⟩ else none
  else some { r with held := r.held ++ [c] }

def run (r : ChainReader) (cs : List Char) : Option ChainReader := cs.foldlM step r

/-- parts at the end of a chain; its last bracket has to be closed -/
def finish (r : ChainReader) : Option (List Part) := if r.inside then none else some r.flushed

theorem run_append (r : ChainReader) (xs ys : List Char) : r.run (xs ++ ys) = (r.run xs).bind (run · ys) :=
  List.foldlM_append

theorem run_cons (r : ChainReader) (c : Char) (cs : List Char) : r.run (c :: cs) = (r.step c).bind (run · cs) :=
  List.foldlM_cons

end ChainReader

/-- chain of parts: pads that are read, filters, pads that are written -/
def Chain.ofParts? : List Part → Option Chain
  | [] => none
  | .pad name :: rest => (ofParts? rest).map fun c => { c with inputs := name :: c.inputs }
  | .filters text :: rest => (rest.mapM Part.name?).map fun outputs => ⟨[], text, outputs⟩

def Chain.read? (text : List Char) : Option Chain :=
  ((ChainReader.start.run text).bind ChainReader.finish).bind Chain.ofParts?

def readGraph? (text : String) : Option (List Chain) := (chainTexts text.toList).mapM Chain.read?

/-- a filter: its name, and its options as keys and values -/
structure Stage where
  name : String
  options : List (List String)
  deriving DecidableEq, Repr

/-- options of a filter, each as its key and its value, or as a value alone -/
def readOptions (text : List Char) : List (List String) :=
  (text.splitOn ':').map fun o => (o.splitOn '=').map String.ofList

def readStage (text : List Char) : Stage :=
  ⟨String.ofList (text.takeWhile (· != '=')), readOptions ((text.dropWhile (· != '=')).drop 1)⟩

def Chain.stages (c : Chain) : List Stage := (c.filters.toList.splitOn ',').map readStage

/-! ## Texts without separators -/

/-- a text in which none of some characters stands -/
def Avoids (marks : List Char) (text : String) : Prop := ∀ c ∈ text.toList, c ∉ marks

instance (marks : List Char) (text : String) : Decidable (Avoids marks text) := List.decidableBAll _ text.toList

variable {marks : List Char} {a b : String}

theorem Avoids.append (ha : Avoids marks a) (hb : Avoids marks b) : Avoids marks (a ++ b) := by
  intro c hc
  rw [String.toList_append] at hc
  rcases List.mem_append.1 hc with hc | hc
  · exact ha c hc
  · exact hb c hc

theorem Avoids.mono {fewer : List Char} (h : Avoids marks a) (hsub : fewer ⊆ marks) : Avoids fewer a :=
  fun c hc hmark => h c hc (hsub hmark)

theorem Avoids.not_mem (h : Avoids marks a) {c : Char} (hc : c ∈ marks) : c ∉ a.toList := fun hmem => h c hmem hc

/-! ## Graphs are read back -/

theorem toList_pad (name : String) : (pad name).toList = '[' :: (name.toList ++ [']']) := by
  simp [pad]

theorem chainTexts_cons {c : Char} (hc : c ≠ ';') (r : List Char) :
    chainTexts (c :: r) = (chainTexts r).modifyHead (c :: ·) := by
  rw [chainTexts]
  exact fun _ h => absurd h hc

theorem chainTexts_of_not_mem {cs : List Char} (h : ';' ∉ cs) : chainTexts cs = [cs] := by
  induction cs with
  | nil => rfl
  | cons c cs ih =>
    obtain ⟨hc, hcs⟩ := not_or.1 (mt List.mem_cons.2 h)
    rw [chainTexts_cons (Ne.symm hc), ih hcs]
    rfl

theorem chainTexts_append {cs : List Char} (h : ';' ∉ cs) (r : List Char) :
    chainTexts (cs ++ ';' :: ' ' :: r) = cs :: chainTexts r := by
  induction cs with
  | nil => rfl
  | cons c cs ih =>
    obtain ⟨hc, hcs⟩ := not_or.1 (mt List.mem_cons.2 h)
    rw [List.cons_append, chainTexts_cons (Ne.symm hc), ih hcs]
    rfl

namespace ChainReader

/-- outside brackets and inside them, other characters are held -/
theorem run_plain {cs : List Char} (h : ∀ c ∈ cs, c ≠ '[' ∧ c ≠ ']') (r : ChainReader) :
    r.run cs = some { r with held := r.held ++ cs } := by
  induction cs generalizing r with
  | nil => simp [run]
  | cons c cs ih =>
    obtain ⟨hopen, hclose⟩ := h c List.mem_cons_self
    rw [run_cons, step, if_neg hopen, if_neg hclose, Option.bind_some, ih fun d hd => h d (List.mem_cons_of_mem c hd)]
    simp

/-- **A pad is one part**, behind what was held before it -/
theorem run_pad {name : String} (h : Avoids ['[', ']'] name) {r : ChainReader} (hr : r.inside = false) :
    r.run (pad name).toList = some ⟨r.flushed ++ [.pad name], [], false⟩ := by
  have hplain : ∀ c ∈ name.toList, c ≠ '[' ∧ c ≠ ']' := fun c hc => by simpa using h c hc
  have hopen : r.step '[' = some ⟨r.flushed, [], true⟩ := by simp [step, hr]
  rw [toList_pad, run_cons, hopen, Option.bind_some, run_append, run_plain hplain]
  simp [run, step]

theorem run_pads {names : List String} (h : ∀ name ∈ names, Avoids ['[', ']'] name) (parts : List Part) :
    (⟨parts, [], false⟩ : ChainReader).run (String.join (names.map pad)).toList =
      some ⟨parts ++ names.map .pad, [], false⟩ := by
  induction names generalizing parts with
  | nil => simp [run]
  | cons name names ih =>
    rw [List.map_cons, String.join_cons, String.toList_append, run_append, run_pad (h name List.mem_cons_self) rfl,
      Option.bind_some, ih fun n hn => h n (List.mem_cons_of_mem _ hn)]
    simp [flushed]

/-- what is held when pads follow becomes a part in front of them -/
theorem finish_pads {names : List String} (h : ∀ name ∈ names, Avoids ['[', ']'] name) {r : ChainReader}
    (hr : r.inside = false) :
    (r.run (String.join (names.map pad)).toList).bind finish = some (r.flushed ++ names.map .pad) := by
  cases names with
  | nil => simp [run, finish, hr]
  | cons name names =>
    rw [List.map_cons, String.join_cons, String.toList_append, run_append, run_pad (h name List.mem_cons_self) hr,
      Option.bind_some, run_pads fun n hn => h n (List.mem_cons_of_mem _ hn)]
    simp [finish, flushed]

end ChainReader

namespace Chain

/-- a chain whose names and filters hold no separator of graphs, and which has filters -/
structure IsReadable (c : Chain) : Prop where
  inputs : ∀ name ∈ c.inputs, Avoids ['[', ']', ';'] name
  outputs : ∀ name ∈ c.outputs, Avoids ['[', ']', ';'] name
  filters : Avoids ['[', ']', ';'] c.filters
  nonempty : c.filters ≠ ""

theorem mapM_name?_pads (names : List String) : (names.map Part.pad).mapM Part.name? = some names := by
  induction names with
  | nil => rfl
  | cons name names ih => simp [ih, Part.name?]

theorem ofParts?_parts (c : Chain) :
    ofParts? (c.inputs.map .pad ++ .filters c.filters :: c.outputs.map .pad) = some c := by
  obtain ⟨inputs, filters, outputs⟩ := c
  induction inputs with
  | nil =>
    rw [List.map_nil, List.nil_append, ofParts?, mapM_name?_pads]
    rfl
  | cons name inputs ih =>
    simp only [List.map_cons, List.cons_append, ofParts?] at ih ⊢
    rw [ih]
    rfl

/-- **A chain is read back** -/
theorem read?_text {c : Chain} (h : c.IsReadable) : read? c.text.toList = some c := by
  have hbrackets : ∀ {name : String}, Avoids ['[', ']', ';'] name → Avoids ['[', ']'] name :=
    fun hname => hname.mono (by simp)
  have hplain : ∀ d ∈ c.filters.toList, d ≠ '[' ∧ d ≠ ']' := fun d hd => by
    simpa using hbrackets h.filters d hd
  have hheld : c.filters.toList.isEmpty = false := by simpa using h.nonempty
  have htext : c.text.toList = (String.join (c.inputs.map pad)).toList ++
      (c.filters.toList ++ (String.join (c.outputs.map pad)).toList) := by simp [text]
  rw [read?, htext, ChainReader.run_append, ChainReader.start, ChainReader.run_pads fun n hn => hbrackets (h.inputs n hn),
    Option.bind_some, ChainReader.run_append, ChainReader.run_plain hplain, Option.bind_some,
    ChainReader.finish_pads (fun n hn => hbrackets (h.outputs n hn)) rfl]
  simpa [ChainReader.flushed, hheld] using ofParts?_parts c

/-- no semicolon stands in the text of a chain, since none stands in its pieces -/
theorem semicolon_not_mem_text {c : Chain} (h : c.IsReadable) : ';' ∉ c.text.toList := by
  have hmark : ';' ∈ ['[', ']', ';'] := by decide
  have hpads : ∀ names : List String, (∀ name ∈ names, Avoids ['[', ']', ';'] name) →
      ∀ name ∈ names, ';' ∉ (pad name).toList := by
    intro names hnames name hname hmem
    exact (hnames name hname).not_mem hmark (by simpa [toList_pad] using hmem)
  simpa [text, not_or] using ⟨hpads _ h.inputs, h.filters.not_mem hmark, hpads _ h.outputs⟩

end Chain

theorem chainTexts_graphText {chains : List Chain} (h : ∀ c ∈ chains, c.IsReadable) (hne : chains ≠ []) :
    chainTexts (graphText chains).toList = chains.map fun c => c.text.toList := by
  unfold graphText
  induction chains with
  | nil => exact absurd rfl hne
  | cons c chains ih =>
    have hfirst : ';' ∉ c.text.toList := Chain.semicolon_not_mem_text (h c List.mem_cons_self)
    cases chains with
    | nil => simpa using chainTexts_of_not_mem hfirst
    | cons d chains =>
      have hrest := ih (fun e he => h e (List.mem_cons_of_mem c he)) (List.cons_ne_nil d chains)
      rw [List.map_cons] at hrest
      rw [List.map_cons, List.map_cons, String.intercalate_cons_cons, String.toList_append, String.toList_append,
        List.append_assoc, List.map_cons, ← hrest]
      exact chainTexts_append hfirst _

/-- **A graph is read back** as the chains it was written from -/
theorem readGraph?_graphText {chains : List Chain} (h : ∀ c ∈ chains, c.IsReadable) (hne : chains ≠ []) :
    readGraph? (graphText chains) = some chains := by
  rw [readGraph?, chainTexts_graphText h hne]
  clear hne
  induction chains with
  | nil => rfl
  | cons c chains ih =>
    have hrest := ih fun d hd => h d (List.mem_cons_of_mem c hd)
    simp [Chain.read?_text (h c List.mem_cons_self), hrest]

/-! ## Filters are read back -/

namespace Stage

/-- text of an option: its words with equals signs between them -/
def optionText (words : List String) : List Char := ['='].intercalate (words.map String.toList)

def text (s : Stage) : List Char := s.name.toList ++ '=' :: [':'].intercalate (s.options.map optionText)

/-- a filter with options, none of them empty, whose words hold no separator -/
structure IsReadable (s : Stage) : Prop where
  name : Avoids [',', '='] s.name
  options : s.options ≠ []
  words : ∀ o ∈ s.options, o ≠ [] ∧ ∀ word ∈ o, Avoids [',', ':', '='] word

end Stage

/-- a character that stands in no row and is not put between them does not stand in the whole -/
theorem not_mem_intercalate {x sep : Char} (hsep : x ≠ sep) {rows : List (List Char)} (h : ∀ row ∈ rows, x ∉ row) :
    x ∉ [sep].intercalate rows := by
  induction rows with
  | nil => simp
  | cons row rows ih =>
    have hrow : x ∉ row := h row List.mem_cons_self
    cases rows with
    | nil => simpa using hrow
    | cons next rows =>
      rw [List.intercalate_cons_cons, List.mem_append, List.mem_append, List.mem_singleton]
      exact not_or.2 ⟨not_or.2 ⟨hrow, hsep⟩, ih fun r hr => h r (List.mem_cons_of_mem row hr)⟩

namespace Stage

theorem not_mem_optionText {x : Char} (hx : x ∈ [',', ':']) {words : List String}
    (h : ∀ word ∈ words, Avoids [',', ':', '='] word) : x ∉ optionText words := by
  have hmark : x ∈ [',', ':', '='] := by simp at hx ⊢; tauto
  refine not_mem_intercalate (by rintro rfl; exact absurd hx (by decide)) fun row hrow => ?_
  obtain ⟨word, hword, rfl⟩ := List.mem_map.1 hrow
  exact (h word hword).not_mem hmark

theorem words_optionText {words : List String} (hne : words ≠ []) (h : ∀ word ∈ words, Avoids [',', ':', '='] word) :
    ((optionText words).splitOn '=').map String.ofList = words := by
  have hequals : ∀ row ∈ words.map String.toList, '=' ∉ row := by
    intro row hrow
    obtain ⟨word, hword, rfl⟩ := List.mem_map.1 hrow
    exact (h word hword).not_mem (by decide)
  rw [optionText, List.splitOn_intercalate '=' hequals (by simpa using hne), List.map_map]
  exact List.map_id'' (fun word => String.ofList_toList) words

theorem readOptions_text {options : List (List String)} (hne : options ≠ [])
    (h : ∀ o ∈ options, o ≠ [] ∧ ∀ word ∈ o, Avoids [',', ':', '='] word) :
    readOptions ([':'].intercalate (options.map optionText)) = options := by
  have hcolons : ∀ row ∈ options.map optionText, ':' ∉ row := by
    intro row hrow
    obtain ⟨o, ho, rfl⟩ := List.mem_map.1 hrow
    exact not_mem_optionText (by decide) (h o ho).2
  rw [readOptions, List.splitOn_intercalate ':' hcolons (by simpa using hne), List.map_map]
  exact (List.map_congr_left fun o ho => words_optionText (h o ho).1 (h o ho).2).trans (List.map_id options)

/-- **A filter is read back** as its name and options -/
theorem readStage_text {s : Stage} (h : s.IsReadable) : readStage s.text = s := by
  have hname : ∀ c ∈ s.name.toList, (c != '=') = true := by
    intro c hc
    rw [bne_iff_ne]
    rintro rfl
    exact h.name.not_mem (by decide) hc
  rw [readStage, text, List.takeWhile_append_of_pos hname, List.dropWhile_append_of_pos hname]
  simp [readOptions_text h.options h.words]

theorem comma_not_mem_text {s : Stage} (h : s.IsReadable) : ',' ∉ s.text := by
  have hoptions : ',' ∉ [':'].intercalate (s.options.map optionText) := by
    refine not_mem_intercalate (by decide) fun row hrow => ?_
    obtain ⟨o, ho, rfl⟩ := List.mem_map.1 hrow
    exact not_mem_optionText (by decide) (h.words o ho).2
  rw [text, List.mem_append, List.mem_cons, not_or, not_or]
  exact ⟨h.name.not_mem (by decide), by decide, hoptions⟩

end Stage

/-- **The filters of a chain are read back** -/
theorem Chain.stages_of_text {c : Chain} {stages : List Stage} (hne : stages ≠ []) (h : ∀ s ∈ stages, s.IsReadable)
    (htext : c.filters.toList = [','].intercalate (stages.map Stage.text)) : c.stages = stages := by
  have hcommas : ∀ row ∈ stages.map Stage.text, ',' ∉ row := by
    intro row hrow
    obtain ⟨s, hs, rfl⟩ := List.mem_map.1 hrow
    exact Stage.comma_not_mem_text (h s hs)
  rw [Chain.stages, htext, List.splitOn_intercalate ',' hcommas (by simpa using hne), List.map_map]
  exact (List.map_congr_left fun s hs => Stage.readStage_text (h s hs)).trans (List.map_id stages)

end EditPlan.Filter
