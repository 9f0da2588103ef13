import EditPlan.Proofs.Plan.Operations

/-!
The two passes that a filter argument goes through, and what escaping is worth: both passes together give back what was
escaped, so the colon and the equals sign of the caption filter are the only ones with a meaning.

A pass takes characters from the left. A backslash goes and the next character stands for itself; of the other characters
those of the pass are special. The first pass splits a graph, so no special character may be left in one argument; the
second splits an argument at its special colons, and a special quote would swallow what follows.

Main statements:
- `glyphs_backslash_append`: under every pass whose special characters were escaped, a value stands for itself and what
  follows it is read on its own;
- `unescape_escapeValue`: both passes undo `escapeValue`;
- `unescape_addCaptions`: the caption filter is read back as the captions file and the style, for every text in them.
Witness:
- `unescape_addCaptions_quote`: a font and a directory with characters that mean something to a pass.
-/

namespace EditPlan.Filter

/-! ## A pass -/

/-- a character as a pass sees it -/
inductive Glyph where
  /-- stands for itself -/
  | plain (c : Char)
  /-- has a meaning for the pass -/
  | special (c : Char)
  deriving DecidableEq, Repr

/-- the character that a glyph stands for, if it stands for itself -/
def Glyph.plain? : Glyph → Option Char
  | .plain c => some c
  | .special _ => none

/-- text as a pass sees it, of which the characters `marks` are special -/
def glyphs (marks : List Char) : List Char → List Glyph
  | [] => []
  | '\\' :: c :: r => .plain c :: glyphs marks r
  | c :: r => (if marks.contains c then .special c else .plain c) :: glyphs marks r

/-- special characters of the pass over a graph -/
def graphMarks : List Char := "'[],;".toList

/-- special characters of the pass over the options of a filter -/
def optionMarks : List Char := "':".toList

/-- text of glyphs that all stand for themselves -/
def plainText (gs : List Glyph) : Option String := (gs.mapM Glyph.plain?).map String.ofList

/-- an argument after the pass over its graph; none if it has a special character there -/
def unescapeGraph (s : String) : Option String := plainText (glyphs graphMarks s.toList)

/-- options of an argument: its parts between special colons; none if a special quote is left in one of them -/
def unescapeOptions (s : String) : Option (List String) :=
  ((glyphs optionMarks s.toList).splitOn (.special ':')).mapM plainText

/-! ## What a pass makes of escaped text -/

theorem glyphs_escaped (marks : List Char) (c : Char) (r : List Char) :
    glyphs marks ('\\' :: c :: r) = .plain c :: glyphs marks r := rfl

theorem glyphs_unescaped (marks : List Char) {c : Char} (hc : c ≠ '\\') (r : List Char) :
    glyphs marks (c :: r) = (if marks.contains c then .special c else .plain c) :: glyphs marks r := by
  rw [glyphs]
  exact fun _ _ h => absurd h hc

/-- text without backslashes and special characters stands for itself -/
theorem glyphs_plain_append {marks cs : List Char} (h : ∀ c ∈ cs, c ≠ '\\' ∧ c ∉ marks) (r : List Char) :
    glyphs marks (cs ++ r) = cs.map .plain ++ glyphs marks r := by
  induction cs with
  | nil => rfl
  | cons c cs ih =>
    obtain ⟨hb, hm⟩ := h c List.mem_cons_self
    rw [List.cons_append, glyphs_unescaped marks hb, ih fun d hd => h d (List.mem_cons_of_mem c hd)]
    simp [hm]

/-- **Escaped text stands for itself**, and what follows is read on its own -/
theorem glyphs_backslash_append {special marks : List Char} (hb : '\\' ∈ special) (hm : marks ⊆ special)
    (cs r : List Char) : glyphs marks (backslash special cs ++ r) = cs.map .plain ++ glyphs marks r := by
  induction cs with
  | nil => rfl
  | cons c cs ih =>
    rw [backslash, List.flatMap_cons, List.append_assoc, ← backslash]
    by_cases hc : c ∈ special
    · rw [if_pos (by simpa using hc), List.cons_append, List.cons_append, List.nil_append, glyphs_escaped, ih]
      rfl
    · have hne : c ≠ '\\' := fun h => hc (h ▸ hb)
      have hnm : c ∉ marks := fun h => hc (hm h)
      rw [if_neg (by simpa using hc), List.cons_append, List.nil_append, glyphs_unescaped marks hne, ih]
      simp [hnm]

theorem plainText_map (cs : List Char) : plainText (cs.map .plain) = some (String.ofList cs) := by
  have h : (cs.map Glyph.plain).mapM Glyph.plain? = some cs := by
    induction cs with
    | nil => rfl
    | cons c cs ih => simp [ih, Glyph.plain?]
  rw [plainText, h, Option.map_some]

theorem special_not_mem_map (c : Char) (cs : List Char) : Glyph.special c ∉ cs.map Glyph.plain := by
  simp only [List.mem_map, reduceCtorEq, and_false, exists_false, not_false_eq_true]

/-! ## Both passes -/

/-- the first pass leaves a value as it is escaped for its options -/
theorem glyphs_escapeList_append (cs r : List Char) :
    glyphs graphMarks (escapeList cs ++ r) = (backslash optionSpecial cs).map .plain ++ glyphs graphMarks r :=
  glyphs_backslash_append (by decide) (by decide) _ _

theorem glyphs_options_append (cs r : List Char) :
    glyphs optionMarks (backslash optionSpecial cs ++ r) = cs.map .plain ++ glyphs optionMarks r :=
  glyphs_backslash_append (by decide) (by decide) _ _

theorem unescapeGraph_escapeValue (s : String) :
    unescapeGraph (escapeValue s) = some (String.ofList (backslash optionSpecial s.toList)) := by
  have h := glyphs_escapeList_append s.toList []
  simp only [List.append_nil, glyphs] at h
  rw [unescapeGraph, escapeValue, String.toList_ofList, h, plainText_map]

/-- **Both passes undo escaping**: a value alone is one option and that is the value -/
theorem unescape_escapeValue (s : String) : (unescapeGraph (escapeValue s)).bind unescapeOptions = some [s] := by
  have h := glyphs_options_append s.toList []
  simp only [List.append_nil, glyphs] at h
  rw [unescapeGraph_escapeValue, Option.bind_some, unescapeOptions, String.toList_ofList, h,
    List.splitOn_eq_singleton (special_not_mem_map _ _)]
  simp [plainText_map]

/-! ## The caption filter -/

variable {ν : Type} [Number ν]

/-- characters that no pass takes for anything but themselves -/
def PlainName (name : String) : Prop := ∀ c ∈ name.toList, c ≠ '\\' ∧ c ∉ graphMarks ∧ c ∉ optionMarks

instance (name : String) : Decidable (PlainName name) := List.decidableBAll _ name.toList

/-- two values as one argument, the second under a name: the first pass leaves the colon, the second splits there -/
theorem unescape_namedArgument {name : String} (hname : PlainName name) (first second : String) :
    (unescapeGraph (escapeValue first ++ ":" ++ name ++ escapeValue second)).bind unescapeOptions =
      some [first, name ++ second] := by
  have hlast := glyphs_escapeList_append second.toList []
  have hvalue := glyphs_options_append second.toList []
  simp only [List.append_nil, glyphs] at hlast hvalue
  have hcolon : ":".toList = [':'] := rfl
  have hplain : ∀ c ∈ [':'], c ≠ '\\' ∧ c ∉ graphMarks := by
    intro c hc
    rw [List.mem_singleton.1 hc]
    decide
  have hfirst : unescapeGraph (escapeValue first ++ ":" ++ name ++ escapeValue second) =
      some (String.ofList (backslash optionSpecial first.toList ++
        ([':'] ++ (name.toList ++ backslash optionSpecial second.toList)))) := by
    rw [unescapeGraph, ← plainText_map]
    simp only [String.toList_append, escapeValue, String.toList_ofList, List.append_assoc, hcolon]
    rw [glyphs_escapeList_append, glyphs_plain_append hplain,
      glyphs_plain_append fun c hc => ⟨(hname c hc).1, (hname c hc).2.1⟩, hlast]
    simp only [List.map_append]
  have hsecond : glyphs optionMarks (backslash optionSpecial first.toList ++
      ([':'] ++ (name.toList ++ backslash optionSpecial second.toList))) =
      first.toList.map .plain ++ .special ':' :: (name.toList ++ second.toList).map .plain := by
    rw [glyphs_options_append, List.cons_append, List.nil_append, glyphs_unescaped _ (by decide),
      glyphs_plain_append fun c hc => ⟨(hname c hc).1, (hname c hc).2.2⟩, hvalue, List.map_append]
    rfl
  rw [hfirst, Option.bind_some, unescapeOptions, String.toList_ofList, hsecond,
    List.splitOn_append_cons_self_of_not_mem (special_not_mem_map _ _),
    List.splitOn_eq_singleton (special_not_mem_map _ _)]
  simp [plainText_map, ← String.toList_append]

/-- **The caption filter survives both passes.** Captions are planned exactly if their size can be written. Whatever the
working directory, the name of the captions file, the font and the colours then hold, the first pass meets nothing special
behind `subtitles=`, and the second finds two options, the captions file and the style under its name. Both passes undo
escaping on every text. -/
theorem unescape_addCaptions :
    (∀ (setup : Setup ν) (s : State ν) (input language : String) (style : CaptionStyle),
      let built := (Command.addCaptions style language).build setup s input
      ((∃ op, built = .ok (some op)) ↔ Numeral.IsShort style.fontSize) ∧
      ∀ op, built = .ok (some op) → ∃ file look argument read,
        op.detail = .addCaptions file look ∧
        file = setup.workDir ++ "/" ++ setup.captionsFile ∧ Build.forceStyle style = .ok look ∧
        op.invocation.videoFilter = some ("subtitles=" ++ argument) ∧
        unescapeGraph argument = some read ∧ unescapeOptions read = some [file, "force_style=" ++ look]) ∧
    ∀ value, (unescapeGraph (escapeValue value)).bind unescapeOptions = some [value] := by
  refine ⟨fun setup s input language style => ⟨Build.addCaptions_isShort_iff, ?_⟩, unescape_escapeValue⟩
  intro op hop
  obtain ⟨look, hlook, hdetail, hcall⟩ := Build.addCaptions_ok hop
  have hname : PlainName "force_style=" := by decide
  obtain ⟨read, hgraph, hoptions⟩ :=
    Option.bind_eq_some_iff.1 (unescape_namedArgument hname (setup.file setup.captionsFile) look)
  refine ⟨_, look, _, read, hdetail, rfl, hlook, ?_, hgraph, hoptions⟩
  rw [hcall]
  simp [String.append_assoc]

/-- a font with a quote and a directory with a colon -/
theorem unescape_addCaptions_quote :
    let setup : Setup ℚ := ⟨"in.mp4", "/w:1", "ffmpeg", "captions.srt", -40⟩
    let style : CaptionStyle := { fontFamily := "O'Neil, \\bold" }
    ∃ op look argument read,
      (Command.addCaptions style "en").build setup ⟨0, none, true⟩ "in.mp4" = .ok (some op) ∧
      Build.forceStyle style = .ok look ∧ op.invocation.videoFilter = some ("subtitles=" ++ argument) ∧
      unescapeGraph argument = some read ∧
      unescapeOptions read = some ["/w:1/captions.srt", "force_style=" ++ look] := by
  intro setup style
  have hshort : Numeral.IsShort style.fontSize := by decide
  obtain ⟨hbuilt, hread⟩ := unescape_addCaptions.1 setup ⟨0, none, true⟩ "in.mp4" "en" style
  obtain ⟨op, hop⟩ := hbuilt.2 hshort
  obtain ⟨file, look, argument, read, -, hfile, hlook, hfilter, hgraph, hoptions⟩ := hread op hop
  rw [hfile] at hoptions
  exact ⟨op, look, argument, read, hop, hlook, hfilter, hgraph, hoptions⟩

end EditPlan.Filter
