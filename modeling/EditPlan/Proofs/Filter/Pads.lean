import EditPlan.Proofs.Filter.Cut

/-!
The pads that stand in the text of a filter graph. They are those that its chains read and write, as long as neither
names nor filters have brackets of their own: then a bracket that opens in one piece of the text closes in the same piece,
and no pad is put together from two of them.

Main statements:
- `PadsAre.append`, `padsAre_graphText`: the pads of a text, piece by piece, and those of a graph;
- `sound_mem_cutPads`: the graph of a cut reads sound exactly if the cut is made with sound and keeps something.
-/

namespace EditPlan.Filter

open Number

/-! ## Brackets -/

def IsPlain (text : String) : Prop := '[' ∉ text.toList ∧ ']' ∉ text.toList

instance (text : String) : Decidable (IsPlain text) := inferInstanceAs (Decidable (_ ∧ _))

theorem Avoids.isPlain {text : String} (h : Avoids ['[', ']', ';'] text) : IsPlain text :=
  ⟨h.not_mem (by decide), h.not_mem (by decide)⟩

/-- each bracket that opens in the row is closed in it -/
def Closes (row : List Char) : Prop := ∀ rest, '[' :: rest <:+ row → ']' ∈ rest

theorem Closes.append {a b : List Char} (ha : Closes a) (hb : Closes b) : Closes (a ++ b) := by
  rintro rest ⟨front, h⟩
  rcases List.append_eq_append_iff.1 h with ⟨middle, hfront, hmiddle⟩ | ⟨middle, hfront, hmiddle⟩
  · cases middle with
    | nil => exact hb rest ⟨[], by simpa using hmiddle⟩
    | cons c middle =>
      -- the bracket opens in the first part, and so it closes there
      obtain ⟨rfl, rfl⟩ := List.cons.inj hmiddle
      exact List.mem_append_left _ (ha middle ⟨front, hfront.symm⟩)
  · exact hb rest ⟨middle, hmiddle.symm⟩

/-! ## The pads of a text -/

/-- whether a pad stands in a text -/
def HasPad (text name : String) : Prop := (pad name).toList <:+: text.toList

/-- the pads in a text are those of the names, and none of them begins in it and ends elsewhere -/
structure PadsAre (text : String) (names : List String) : Prop where
  closes : Closes text.toList
  hasPad_iff : ∀ name, IsPlain name → (HasPad text name ↔ name ∈ names)

/-- **The pads of two texts** in a row: none is put together from both -/
theorem PadsAre.append {a b : String} {as bs : List String} (ha : PadsAre a as) (hb : PadsAre b bs) :
    PadsAre (a ++ b) (as ++ bs) := by
  refine ⟨by simpa using ha.closes.append hb.closes, fun name hname => ?_⟩
  rw [List.mem_append, ← ha.hasPad_iff name hname, ← hb.hasPad_iff name hname]
  simp only [HasPad, String.toList_append]
  constructor
  · intro h
    rcases List.infix_append_iff_ne_nil.1 h with h | h | ⟨front, back, hfront, hback, hpad, hends, -⟩
    · exact .inl h
    · exact .inr h
    · -- the front part would open a bracket in the first text and leave it open
      exfalso
      cases front with
      | nil => exact hfront rfl
      | cons c front =>
        rw [toList_pad, List.cons_append, List.cons.injEq] at hpad
        obtain ⟨rfl, hpad⟩ := hpad
        have hclosed : ']' ∈ front := ha.closes front hends
        have hname' : front ++ back.dropLast = name.toList := by
          rw [← List.dropLast_append_of_ne_nil hback, ← hpad, List.dropLast_concat]
        exact hname.2 (hname' ▸ List.mem_append_left _ hclosed)
  · rintro (h | h)
    · exact h.trans (List.prefix_append _ _).isInfix
    · exact h.trans (List.suffix_append _ _).isInfix

theorem IsPlain.padsAre {text : String} (h : IsPlain text) : PadsAre text [] := by
  constructor
  · intro rest hrest
    exact absurd (hrest.mem List.mem_cons_self) h.1
  · intro name _
    refine iff_of_false (fun hpad => h.1 (hpad.mem ?_)) List.not_mem_nil
    rw [toList_pad]
    exact List.mem_cons_self

theorem padsAre_pad {name : String} (h : IsPlain name) : PadsAre (pad name) [name] := by
  -- behind its first character a pad opens no bracket
  have hopen : '[' ∉ name.toList ++ [']'] := by simpa using h.1
  constructor
  · intro rest hrest
    rw [toList_pad] at hrest
    rcases List.suffix_cons_iff.1 hrest with hall | hlater
    · rw [(List.cons.inj hall).2]
      simp
    · exact absurd (hlater.mem List.mem_cons_self) hopen
  · intro other hother
    rw [HasPad, toList_pad, toList_pad, List.mem_singleton]
    constructor
    · intro hpad
      rcases List.infix_cons_iff.1 hpad with hall | hlater
      · obtain ⟨-, hprefix⟩ := List.cons_prefix_cons.1 hall
        rcases List.prefix_concat_iff.1 hprefix with hname | hinside
        · exact String.toList_injective (List.append_cancel_right hname)
        · exact absurd (hinside.mem (by simp)) h.2
      · exact absurd (hlater.mem List.mem_cons_self) hopen
    · rintro rfl
      exact List.infix_rfl

theorem padsAre_join {names : List String} (h : ∀ name ∈ names, IsPlain name) :
    PadsAre (String.join (names.map pad)) names := by
  induction names with
  | nil => exact IsPlain.padsAre (by decide)
  | cons name names ih =>
    rw [List.map_cons, String.join_cons]
    exact (padsAre_pad (h name List.mem_cons_self)).append (ih fun n hn => h n (List.mem_cons_of_mem _ hn))

/-! ## The pads of a graph -/

namespace Chain

/-- pads that a chain reads or writes -/
def pads (c : Chain) : List String := c.inputs ++ c.outputs

/-- a chain whose names and filters have no brackets -/
structure IsPlain (c : Chain) : Prop where
  pads : ∀ name ∈ c.pads, Filter.IsPlain name
  filters : Filter.IsPlain c.filters

theorem padsAre_text {c : Chain} (h : c.IsPlain) : PadsAre c.text c.pads := by
  have hinputs := padsAre_join fun name hname => h.pads name (List.mem_append_left _ hname)
  have houtputs := padsAre_join fun name hname => h.pads name (List.mem_append_right _ hname)
  have hall := (hinputs.append h.filters.padsAre).append houtputs
  rw [List.append_nil] at hall
  exact hall

end Chain

/-- **The pads of a graph** are those that its chains read or write -/
theorem padsAre_graphText {chains : List Chain} (h : ∀ c ∈ chains, c.IsPlain) :
    PadsAre (graphText chains) (chains.flatMap Chain.pads) := by
  have hseparator : IsPlain "; " := by decide
  unfold graphText
  induction chains with
  | nil => exact IsPlain.padsAre (by decide)
  | cons c chains ih =>
    have hfirst := Chain.padsAre_text (h c List.mem_cons_self)
    have hrest := ih fun d hd => h d (List.mem_cons_of_mem _ hd)
    cases chains with
    | nil => simpa using hfirst
    | cons d chains =>
      rw [List.map_cons, List.map_cons, String.intercalate_cons_cons, List.flatMap_cons]
      have hall := (hfirst.append hseparator.padsAre).append hrest
      rw [List.append_nil] at hall
      exact hall

theorem Chain.IsReadable.isPlain {c : Chain} (h : c.IsReadable) : c.IsPlain := by
  refine ⟨fun name hname => ?_, h.filters.isPlain⟩
  rcases List.mem_append.1 hname with hname | hname
  · exact (h.inputs name hname).isPlain
  · exact (h.outputs name hname).isPlain

/-! ## The graph of a cut -/

variable {ν : Type} [Number ν]

theorem isPlain_cutChains (hnumbers : ∀ x : ν, Avoids separators (sixPlaces x)) (withAudio : Bool)
    (windows : List (Footage.Window ν)) : ∀ c ∈ cutChains withAudio windows, c.IsPlain :=
  fun c hc => (isReadable_cutChains hnumbers withAudio windows c hc).isPlain

theorem sound_not_mem_concatPads (withAudio : Bool) (n : ℕ) : "0:a" ∉ (concatChain withAudio n).pads := by
  intro h
  rcases List.mem_append.1 h with hinput | houtput
  · obtain ⟨i, -, hi⟩ := List.mem_flatMap.1 hinput
    exact not_mem_ends_of_mem_windowPads hi (by decide)
  · have hout : ∀ withAudio, "0:a" ∉ cutOutputs withAudio := by decide
    exact hout withAudio houtput

/-- the chains of windows read sound exactly if they are made with sound and there is a window -/
theorem sound_mem_windowsPads (withAudio : Bool) (i : ℕ) (windows : List (Footage.Window ν)) :
    "0:a" ∈ (windowsChains withAudio i windows).flatMap Chain.pads ↔ withAudio = true ∧ windows ≠ [] := by
  induction windows generalizing i with
  | nil => simp [windowsChains]
  | cons w rest ih =>
    have hvideo : videoPad i ≠ "0:a" := by
      intro h
      have hpad : "0:a" ∈ windowPads false i := List.mem_singleton.2 h.symm
      exact not_mem_ends_of_mem_windowPads hpad (by decide)
    cases withAudio with
    | false => simp [windowsChains, windowChains, videoChain, Chain.pads, ih, hvideo.symm]
    | true => simp [windowsChains, windowChains, audioChain, Chain.pads]

/-- **The graph of a cut reads sound** exactly if it is made with sound and keeps a window -/
theorem sound_mem_cutPads (withAudio : Bool) (windows : List (Footage.Window ν)) :
    "0:a" ∈ (cutChains withAudio windows).flatMap Chain.pads ↔ withAudio = true ∧ windows ≠ [] := by
  rw [cutChains, List.flatMap_append, List.mem_append, sound_mem_windowsPads, List.flatMap_singleton]
  simp [sound_not_mem_concatPads]

end EditPlan.Filter
