import EditPlan.Filter.Graph
import EditPlan.Text.Quoted
import EditPlan.Proofs.Binary64.Literal
import EditPlan.Proofs.Filter.Reader

/-!
Reading the text of an expression back into its tree. The reader is a machine over characters: a stack of calls that are
open, the terms and factors read so far in the innermost one, and the characters of a word. A parenthesis opens a call of
the word before it, or a group if there is none; products bind closer than sums, and both group from the left. A plus sign
that a number may have in front or behind the mark of its exponent belongs to the number.

Main statements:
- `run_text`: from every place where an operand may stand, the text of a tree is read as that tree;
- `Expr.read?_text`: trees that associate from the left, with literals for numbers, are read back.
-/

namespace EditPlan.Filter

/-! ## The reader -/

namespace Expr

/-- what a word stands for: the time of a frame or of the one before it, or a number -/
def word? (cs : List Char) : Option Expr :=
  if cs = "t".toList then some .time
  else if cs = "prev_t".toList then some .previous
  else (Numeral.plain? cs).map fun _ => .literal (String.ofList cs)

/-- a call of a function; without a name it is a group in parentheses -/
def call? (name : List Char) (arguments : List Expr) : Option Expr :=
  match String.ofList name, arguments with
  | "", [a] => some a
  | "gte", [a, b] => some (.gte a b)
  | "lt", [a, b] => some (.lt a b)
  | "isnan", [a] => some (.isnan a)
  | _, _ => none

end Expr

/-- what was read of a sum: the terms before the last, and the factors before the last of that -/
structure Level where
  sum : Option Expr
  product : Option Expr
  deriving DecidableEq, Repr

namespace Level

/-- a sum of which nothing was read -/
def empty : Level := ⟨none, none⟩

/-- the last term, with its last factor -/
def term (l : Level) (factor : Expr) : Expr := (l.product.map (.mul · factor)).getD factor

/-- the whole sum, with the last factor of its last term -/
def total (l : Level) (factor : Expr) : Expr := (l.sum.map (.add · (l.term factor))).getD (l.term factor)

end Level

/-- a call that is open: its name, its arguments so far, and what was read where it stands -/
structure OpenCall where
  name : List Char
  arguments : List Expr
  level : Level
  deriving DecidableEq, Repr

/-- a reader of expressions: the open calls, innermost first, what was read in the innermost one, and of the factor that
comes next either the characters of a word or the call that was closed -/
structure ExprReader where
  calls : List OpenCall
  level : Level
  held : List Char
  closed : Option Expr
  deriving DecidableEq, Repr

namespace ExprReader

/-- a reader where an operand may stand -/
def fresh (calls : List OpenCall) (level : Level) : ExprReader := ⟨calls, level, [], none⟩

/-- the factor that was read last -/
def factor? (r : ExprReader) : Option Expr := r.closed.or (Expr.word? r.held)

/-- whether a sign would belong to the word: it stands in front, or behind the mark of an exponent -/
def takesSign (r : ExprReader) : Bool := r.closed.isNone && (r.held.isEmpty || r.held.getLast? == some 'e')

def step (r : ExprReader) (c : Char) : Option ExprReader :=
  if c = '(' then if r.closed.isSome then none else some (fresh (⟨r.held, [], r.level⟩ :: r.calls) .empty)
  else if c = ',' then
    match r.calls, r.factor? with
    | call :: calls, some e =>
      some (fresh ({ call with arguments := call.arguments ++ [r.level.total e] } :: calls) .empty)
    | _, _ => none
  else if c = ')' then
    match r.calls, r.factor? with
    | call :: calls, some e =>
      (Expr.call? call.name (call.arguments ++ [r.level.total e])).map fun f => ⟨calls, call.level, [], some f⟩
    | _, _ => none
  else if c = '*' then r.factor?.map fun e => fresh r.calls ⟨r.level.sum, some (r.level.term e)⟩
  else if c = '+' ∧ r.takesSign = false then r.factor?.map fun e => fresh r.calls ⟨some (r.level.total e), none⟩
  else if r.closed.isSome then none
  else some { r with held := r.held ++ [c] }

def run (r : ExprReader) (cs : List Char) : Option ExprReader := cs.foldlM step r

/-- the expression at the end; all calls have to be closed -/
def finish (r : ExprReader) : Option Expr := if r.calls.isEmpty then r.factor?.map r.level.total else none

theorem run_append (r : ExprReader) (xs ys : List Char) : r.run (xs ++ ys) = (r.run xs).bind (run · ys) :=
  List.foldlM_append

theorem run_cons (r : ExprReader) (c : Char) (cs : List Char) : r.run (c :: cs) = (r.step c).bind (run · cs) :=
  List.foldlM_cons

theorem run_singleton (r : ExprReader) (c : Char) : r.run [c] = r.step c := by
  rw [run_cons]
  exact Option.bind_fun_some _

end ExprReader

def Expr.read? (text : List Char) : Option Expr := ((ExprReader.fresh [] .empty).run text).bind ExprReader.finish

/-- the expression of a `select` filter that stands in front of other filters; between quotes a comma parts no filters -/
def selected? (filter : String) : Option Expr :=
  match filter.toList.splitOn Text.singleQuote with
  | [front, expression, back] =>
    if front = "select=".toList ∧ back.head? = some ',' then Expr.read? expression else none
  | _ => none

/-! ## Steps -/

namespace ExprReader

variable {calls : List OpenCall} {level : Level} {call : OpenCall} {sum : Option Expr} {r : ExprReader} {a b e f : Expr}
  {ta tb cs name : List Char}

/-- a reader behind a factor -/
structure BehindFactor (r : ExprReader) (calls : List OpenCall) (level : Level) (e : Expr) : Prop where
  calls : r.calls = calls
  level : r.level = level
  factor : r.factor? = some e
  sign : r.takesSign = false

/-- a reader behind a term -/
structure BehindTerm (r : ExprReader) (calls : List OpenCall) (sum : Option Expr) (e : Expr) : Prop where
  calls : r.calls = calls
  sum : r.level.sum = sum
  term : r.factor?.map r.level.term = some e
  sign : r.takesSign = false

/-- a reader behind a sum -/
structure BehindTotal (r : ExprReader) (calls : List OpenCall) (e : Expr) : Prop where
  calls : r.calls = calls
  total : r.factor?.map r.level.total = some e
  sign : r.takesSign = false

theorem step_star (h : r.BehindTerm calls sum e) : r.step '*' = some (fresh calls ⟨sum, some e⟩) := by
  obtain ⟨f, hf, rfl⟩ := Option.map_eq_some_iff.1 h.term
  simp [step, hf, h.calls, h.sum]

theorem step_plus (h : r.BehindTotal calls e) : r.step '+' = some (fresh calls ⟨some e, none⟩) := by
  obtain ⟨f, hf, rfl⟩ := Option.map_eq_some_iff.1 h.total
  simp [step, hf, h.calls, h.sign]

theorem step_comma (h : r.BehindTotal (call :: calls) e) :
    r.step ',' = some (fresh ({ call with arguments := call.arguments ++ [e] } :: calls) .empty) := by
  obtain ⟨f, hf, rfl⟩ := Option.map_eq_some_iff.1 h.total
  simp [step, hf, h.calls]

theorem step_close (h : r.BehindTotal (call :: calls) e) (hcall : Expr.call? call.name (call.arguments ++ [e]) = some f) :
    ∃ r', r.step ')' = some r' ∧ r'.BehindFactor calls call.level f := by
  obtain ⟨g, hg, rfl⟩ := Option.map_eq_some_iff.1 h.total
  exact ⟨⟨calls, call.level, [], some f⟩, by simp [step, hg, h.calls, hcall], rfl, rfl, rfl, rfl⟩

/-- no character of a word has a meaning of its own -/
def IsPlain (cs : List Char) : Prop := ∀ c ∈ cs, c ∉ "(),*+".toList

instance (cs : List Char) : Decidable (IsPlain cs) := List.decidableBAll _ cs

theorem run_held (h : IsPlain cs) (held : List Char) :
    (⟨calls, level, held, none⟩ : ExprReader).run cs = some ⟨calls, level, held ++ cs, none⟩ := by
  induction cs generalizing held with
  | nil => simp [run]
  | cons c cs ih =>
    obtain ⟨hc, hcs⟩ := List.forall_mem_cons.1 h
    have hstep : (⟨calls, level, held, none⟩ : ExprReader).step c = some ⟨calls, level, held ++ [c], none⟩ := by
      simp only [String.reduceToList, List.mem_cons, List.not_mem_nil, or_false, not_or] at hc
      simp [step, hc]
    rw [run_cons, hstep, Option.bind_some, ih hcs]
    simp

/-! ## What is read of a text -/

/-- a text that is read as the factor `e`, wherever one may stand -/
def ReadsFactor (text : List Char) (e : Expr) : Prop :=
  ∀ calls level, ∃ r, (fresh calls level).run text = some r ∧ r.BehindFactor calls level e

def ReadsTerm (text : List Char) (e : Expr) : Prop :=
  ∀ calls sum, ∃ r, (fresh calls ⟨sum, none⟩).run text = some r ∧ r.BehindTerm calls sum e

def ReadsTotal (text : List Char) (e : Expr) : Prop :=
  ∀ calls, ∃ r, (fresh calls .empty).run text = some r ∧ r.BehindTotal calls e

theorem ReadsFactor.term (h : ReadsFactor cs e) : ReadsTerm cs e := by
  intro calls sum
  obtain ⟨r, hrun, hr⟩ := h calls ⟨sum, none⟩
  exact ⟨r, hrun, hr.calls, by rw [hr.level], by rw [hr.factor, hr.level]; rfl, hr.sign⟩

theorem ReadsTerm.total (h : ReadsTerm cs e) : ReadsTotal cs e := by
  intro calls
  obtain ⟨r, hrun, hr⟩ := h calls none
  obtain ⟨f, hf, hterm⟩ := Option.map_eq_some_iff.1 hr.term
  have htotal : r.level.total f = e := by rw [Level.total, hr.sum, hterm]; rfl
  exact ⟨r, hrun, hr.calls, by rw [hf, Option.map_some, htotal], hr.sign⟩

/-- **Sums group from the left** -/
theorem ReadsTotal.add (ha : ReadsTotal ta a) (hb : ReadsTerm tb b) : ReadsTotal (ta ++ '+' :: tb) (.add a b) := by
  intro calls
  obtain ⟨r, hrun, hr⟩ := ha calls
  obtain ⟨r', hrun', hr'⟩ := hb calls (some a)
  obtain ⟨f, hf, hterm⟩ := Option.map_eq_some_iff.1 hr'.term
  refine ⟨r', ?_, hr'.calls, ?_, hr'.sign⟩
  · rw [run_append, hrun, Option.bind_some, run_cons, step_plus hr, Option.bind_some, hrun']
  · rw [hf, Option.map_some, Level.total, hr'.sum, hterm]
    rfl

/-- **Products group from the left** -/
theorem ReadsTerm.mul (ha : ReadsTerm ta a) (hb : ReadsFactor tb b) : ReadsTerm (ta ++ '*' :: tb) (.mul a b) := by
  intro calls sum
  obtain ⟨r, hrun, hr⟩ := ha calls sum
  obtain ⟨r', hrun', hr'⟩ := hb calls ⟨sum, some a⟩
  refine ⟨r', ?_, hr'.calls, by rw [hr'.level], ?_, hr'.sign⟩
  · rw [run_append, hrun, Option.bind_some, run_cons, step_star hr, Option.bind_some, hrun']
  · rw [hr'.factor, hr'.level]
    rfl

theorem run_open (hname : IsPlain name) (calls : List OpenCall) (level : Level) (cs : List Char) :
    (fresh calls level).run (name ++ '(' :: cs) = (fresh (⟨name, [], level⟩ :: calls) .empty).run cs := by
  rw [run_append, fresh, run_held hname, Option.bind_some, run_cons, List.nil_append]
  rfl

/-- **A call of one argument**, or a group -/
theorem readsFactor_call (name : List Char) (hname : IsPlain name) (ha : ReadsTotal ta a)
    (hcall : Expr.call? name [a] = some f) : ReadsFactor (name ++ '(' :: (ta ++ [')'])) f := by
  intro calls level
  obtain ⟨r, hrun, hr⟩ := ha (⟨name, [], level⟩ :: calls)
  obtain ⟨r', hclose, hr'⟩ := step_close hr hcall
  refine ⟨r', ?_, hr'⟩
  rw [run_open hname, run_append, hrun, Option.bind_some, run_singleton, hclose]

/-- **A call of two arguments** -/
theorem readsFactor_call₂ (name : List Char) (hname : IsPlain name) (ha : ReadsTotal ta a) (hb : ReadsTotal tb b)
    (hcall : Expr.call? name [a, b] = some f) : ReadsFactor (name ++ '(' :: (ta ++ ',' :: (tb ++ [')']))) f := by
  intro calls level
  obtain ⟨r, hrun, hr⟩ := ha (⟨name, [], level⟩ :: calls)
  obtain ⟨r', hrun', hr'⟩ := hb (⟨name, [a], level⟩ :: calls)
  obtain ⟨r'', hclose, hr''⟩ := step_close hr' hcall
  refine ⟨r'', ?_, hr''⟩
  rw [run_open hname, run_append, hrun, Option.bind_some, run_cons, step_comma hr, Option.bind_some, run_append]
  rw [List.nil_append, hrun', Option.bind_some, run_singleton, hclose]

/-! ## Words -/

/-- a word is a factor, if no sign behind it would belong to it -/
theorem readsFactor_word (hrun : ∀ calls level, (fresh calls level).run cs = some ⟨calls, level, cs, none⟩) (hne : cs ≠ [])
    (hlast : cs.getLast? ≠ some 'e') (hword : Expr.word? cs = some e) : ReadsFactor cs e := by
  intro calls level
  refine ⟨⟨calls, level, cs, none⟩, hrun calls level, rfl, rfl, hword, ?_⟩
  simp [takesSign, hne, hlast]

theorem isPlain_digits (h : Literal.AreDigits cs) : IsPlain cs := by
  intro c hc hmark
  have hnone : "(),*+".toList.any Numeral.isDigit = false := by decide
  exact List.any_eq_false.1 hnone c hmark (h c hc)

theorem isPlain_append (ha : IsPlain ta) (hb : IsPlain tb) : IsPlain (ta ++ tb) := List.forall_mem_append.2 ⟨ha, hb⟩

theorem isPlain_front {l : Literal} (h : l.IsProper) : IsPlain l.front := by
  intro c hc hmark
  have hnone : ∀ d ∈ "(),*+".toList, ¬(Numeral.isDigit d = true ∨ d ∈ ['-', '.']) := by simp [Numeral.isDigit]
  exact hnone c hmark (Literal.mem_front h hc)

/-- **A literal is held as one word**, with the sign of its exponent -/
theorem run_literal {l : Literal} (h : l.IsProper) (calls : List OpenCall) (level : Level) :
    (fresh calls level).run l.text = some ⟨calls, level, l.text, none⟩ := by
  have hfront := isPlain_front h
  rw [Literal.text_eq, fresh]
  cases hexponent : l.exponent with
  | none =>
    rw [Literal.exponentText, List.append_nil]
    exact run_held hfront []
  | some e =>
    obtain ⟨negative, ds⟩ := e
    have hds := isPlain_digits (h.exponent _ hexponent).2
    cases negative with
    | true =>
      have hmark : IsPlain ['e', '-'] := by decide
      have hplain := isPlain_append hfront (isPlain_append hmark hds)
      exact run_held hplain []
    | false =>
      -- the reader keeps the plus sign because the mark of the exponent stands before it
      have hmark : IsPlain ['e'] := by decide
      have hstep : (⟨calls, level, l.front ++ ['e'], none⟩ : ExprReader).step '+' =
          some ⟨calls, level, l.front ++ ['e'] ++ ['+'], none⟩ := by
        simp [step, takesSign]
      have hsplit : l.front ++ Literal.exponentText (some (false, ds)) = l.front ++ ['e'] ++ '+' :: ds := by
        simp [Literal.exponentText]
      rw [hsplit, run_append, run_held (isPlain_append hfront hmark), Option.bind_some, List.nil_append, run_cons, hstep,
        Option.bind_some, run_held hds]
      simp

theorem readsFactor_literal {l : Literal} (h : l.IsProper) : ReadsFactor l.text (.literal (String.ofList l.text)) := by
  obtain ⟨d, hd, hlast⟩ := Literal.getLast?_text h
  have hother : ∀ c, Numeral.isDigit c = false → l.text.getLast? ≠ some c := by
    intro c hc heq
    rw [hlast, Option.some.injEq] at heq
    exact absurd hd (by simp [heq, hc])
  have htime : l.text ≠ "t".toList := fun heq => hother 't' (by decide) (by rw [heq]; rfl)
  have hprevious : l.text ≠ "prev_t".toList := fun heq => hother 't' (by decide) (by rw [heq]; rfl)
  have hne : l.text ≠ [] := by
    intro heq
    rw [heq] at hlast
    exact absurd hlast (by simp)
  refine readsFactor_word (run_literal h) hne (hother 'e' (by decide)) ?_
  rw [Expr.word?, if_neg htime, if_neg hprevious, Literal.plain?_text h, Option.map_some]

end ExprReader

/-! ## Trees are read back -/

namespace Expr

def isProduct : Expr → Bool
  | .mul .. => true
  | _ => false

/-- a tree that can be written: sums and products associate from the left, and numbers are literals -/
def IsProper : Expr → Prop
  | .time => True
  | .previous => True
  | .literal s => ∃ l : Literal, l.IsProper ∧ s.toList = l.text
  | .gte a b => a.IsProper ∧ b.IsProper
  | .lt a b => a.IsProper ∧ b.IsProper
  | .isnan a => a.IsProper
  | .add a b => a.IsProper ∧ b.IsProper ∧ b.isSum = false
  | .mul a b => a.IsProper ∧ b.IsProper ∧ b.isProduct = false

open ExprReader

/-- how much of an expression its text is read as, on its own -/
structure Reads (e : Expr) : Prop where
  total : ReadsTotal e.text.toList e
  term : e.isSum = false → ReadsTerm e.text.toList e
  factor : e.isSum = false → e.isProduct = false → ReadsFactor e.text.toList e

theorem Reads.of_factor {e : Expr} (h : ReadsFactor e.text.toList e) : e.Reads :=
  ⟨h.term.total, fun _ => h.term, fun _ _ => h⟩

theorem Reads.group {e : Expr} (h : e.Reads) : ReadsFactor (parens true e.text).toList e := by
  have hcall := readsFactor_call [] (by decide) h.total rfl
  simpa [parens] using hcall

/-- **The text of a tree is read as that tree** from every place where it may stand -/
theorem reads {e : Expr} (h : e.IsProper) : e.Reads := by
  induction e with
  | time => exact .of_factor (readsFactor_word (fun _ _ => run_held (by decide) []) (by decide) (by decide) (by decide))
  | previous => exact .of_factor (readsFactor_word (fun _ _ => run_held (by decide) []) (by decide) (by decide) (by decide))
  | literal s =>
    obtain ⟨l, hl, hs⟩ := h
    have hliteral := readsFactor_literal hl
    rw [← hs, String.ofList_toList] at hliteral
    exact .of_factor hliteral
  | gte a b iha ihb =>
    have hcall := readsFactor_call₂ "gte".toList (by decide) (iha h.1).total (ihb h.2).total rfl
    exact .of_factor (by simpa [text] using hcall)
  | lt a b iha ihb =>
    have hcall := readsFactor_call₂ "lt".toList (by decide) (iha h.1).total (ihb h.2).total rfl
    exact .of_factor (by simpa [text] using hcall)
  | isnan a ih =>
    have hcall := readsFactor_call "isnan".toList (by decide) (ih h).total rfl
    exact .of_factor (by simpa [text] using hcall)
  | add a b iha ihb =>
    obtain ⟨ha, hb, hsum⟩ := h
    have hadd := (iha ha).total.add ((ihb hb).term hsum)
    exact ⟨by simpa [text] using hadd, fun hsum => absurd hsum (by simp [isSum]), fun hsum => absurd hsum (by simp [isSum])⟩
  | mul a b iha ihb =>
    obtain ⟨ha, hb, hproduct⟩ := h
    have hleft : ReadsTerm (parens a.isSum a.text).toList a := by
      cases hsum : a.isSum with
      | true => exact (iha ha).group.term
      | false => exact (iha ha).term hsum
    have hright : ReadsFactor (parens b.isSum b.text).toList b := by
      cases hsum : b.isSum with
      | true => exact (ihb hb).group
      | false => exact (ihb hb).factor hsum hproduct
    have hmul : ReadsTerm (Expr.mul a b).text.toList (.mul a b) := by simpa [text] using hleft.mul hright
    exact ⟨hmul.total, fun _ => hmul, fun _ hproduct => absurd hproduct (by simp [isProduct])⟩

/-- **A tree is read back** from its text -/
theorem read?_text {e : Expr} (h : e.IsProper) : read? e.text.toList = some e := by
  obtain ⟨r, hrun, hr⟩ := (reads h).total []
  rw [read?, hrun, Option.bind_some, finish, hr.calls, List.isEmpty_nil, if_pos rfl, hr.total]

/-! ## The filter -/

theorem avoids_parens {marks : List Char} {s : String} (hs : Avoids marks s) (hopen : Avoids marks "(")
    (hclose : Avoids marks ")") (needed : Bool) : Avoids marks (parens needed s) := by
  cases needed with
  | false => exact hs
  | true => exact (hopen.append hs).append hclose

theorem avoids_text {e : Expr} (h : e.IsProper) : Avoids [Text.singleQuote] e.text := by
  have hopen : Avoids [Text.singleQuote] "(" := by decide
  have hcomma : Avoids [Text.singleQuote] "," := by decide
  have hclose : Avoids [Text.singleQuote] ")" := by decide
  induction e with
  | time => decide
  | previous => decide
  | literal s =>
    obtain ⟨l, hl, hs⟩ := h
    intro c hc hmark
    rw [text, hs] at hc
    rw [List.mem_singleton.1 hmark] at hc
    exact absurd (Literal.mem_text hl hc) (by decide)
  | gte a b iha ihb =>
    have hname : Avoids [Text.singleQuote] "gte(" := by decide
    exact (((hname.append (iha h.1)).append hcomma).append (ihb h.2)).append hclose
  | lt a b iha ihb =>
    have hname : Avoids [Text.singleQuote] "lt(" := by decide
    exact (((hname.append (iha h.1)).append hcomma).append (ihb h.2)).append hclose
  | isnan a ih =>
    have hname : Avoids [Text.singleQuote] "isnan(" := by decide
    exact (hname.append (ih h)).append hclose
  | add a b iha ihb =>
    have hplus : Avoids [Text.singleQuote] "+" := by decide
    exact ((iha h.1).append hplus).append (ihb h.2.1)
  | mul a b iha ihb =>
    have hstar : Avoids [Text.singleQuote] "*" := by decide
    exact ((avoids_parens (iha h.1) hopen hclose _).append hstar).append (avoids_parens (ihb h.2.1) hopen hclose _)

end Expr

/-- **The expression of a filter is read back** from between its quotes -/
theorem selected?_text {e : Expr} (h : e.IsProper) (others : String) (hothers : Avoids [Text.singleQuote] ("," ++ others)) :
    selected? ("select='" ++ e.text ++ "'," ++ others) = some e := by
  have hfilter : ("select='" ++ e.text ++ "'," ++ others).toList =
      "select=".toList ++ Text.singleQuote :: (e.text.toList ++ Text.singleQuote :: ("," ++ others).toList) := by
    simp [Text.singleQuote]
  have hquote : Text.singleQuote ∈ [Text.singleQuote] := List.mem_singleton_self _
  rw [selected?, hfilter, List.splitOn_append_cons_self_of_not_mem (by decide),
    List.splitOn_append_cons_self_of_not_mem ((Expr.avoids_text h).not_mem hquote),
    List.splitOn_eq_singleton (hothers.not_mem hquote)]
  exact (if_pos ⟨rfl, by simp⟩).trans (Expr.read?_text h)

end EditPlan.Filter
