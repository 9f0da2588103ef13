import Mathlib.Tactic
import EditPlan.Plan.Basic

/-!
Reading a line of shell back into words, and what quoting is worth: the words of a rendered call are its argument vector.

The reader is a machine over characters. White space parts words; single quotes keep everything up to the next one;
double quotes keep everything but a backslash before a quote or a backslash; a backslash elsewhere keeps the next character.
A line that ends inside quotes or after a backslash has no words.

Main statements:
- `run_quoteList`: from between two words, a quoted word leaves the reader at the end of exactly that word;
- `words_join`: joining is undone by reading, for every vector;
- `words_render`: the same for calls, so two calls are one line only if they are one vector.
-/

namespace EditPlan.Shell

/-! ## The reader -/

/-- characters that part words -/
def isSeparator (c : Char) : Bool := c == ' ' || c == '\t' || c == '\r' || c == '\n'

/-- where a reader stands -/
inductive Mode where
  /-- between two words -/
  | outside
  /-- in a word, not in quotes -/
  | bare
  | single
  | double
  /-- after a backslash that is not in quotes -/
  | escape
  /-- after a backslash in double quotes -/
  | doubleEscape
  deriving DecidableEq, Repr

/-- a reader: its mode, the word it is in and the words before -/
structure Reader where
  mode : Mode
  word : List Char
  words : List (List Char)
  deriving DecidableEq, Repr

namespace Reader

def start : Reader := ⟨.outside, [], []⟩

def push (r : Reader) (mode : Mode) (c : Char) : Reader := { r with mode := mode, word := r.word ++ [c] }

/-- a character outside quotes that does not part words -/
def unquoted (r : Reader) (c : Char) : Reader :=
  if c = apostrophe then { r with mode := .single }
  else if c = '"' then { r with mode := .double }
  else if c = '\\' then { r with mode := .escape }
  else r.push .bare c

def step (r : Reader) (c : Char) : Reader :=
  match r.mode with
  | .outside => if isSeparator c then r else r.unquoted c
  | .bare => if isSeparator c then ⟨.outside, [], r.words ++ [r.word]⟩ else r.unquoted c
  | .single => if c = apostrophe then { r with mode := .bare } else r.push .single c
  | .double =>
    if c = '"' then { r with mode := .bare }
    else if c = '\\' then { r with mode := .doubleEscape }
    else r.push .double c
  | .escape => r.push .bare c
  | .doubleEscape => if c = '"' ∨ c = '\\' then r.push .double c else (r.push .double '\\').push .double c

def run (r : Reader) (cs : List Char) : Reader := cs.foldl step r

/-- words at the end of a line; quotes and escapes have to be complete -/
def finish (r : Reader) : Option (List (List Char)) :=
  match r.mode with
  | .outside => some r.words
  | .bare => some (r.words ++ [r.word])
  | _ => none

theorem run_append (r : Reader) (xs ys : List Char) : r.run (xs ++ ys) = (r.run xs).run ys := List.foldl_append

theorem run_cons (r : Reader) (c : Char) (cs : List Char) : r.run (c :: cs) = (r.step c).run cs := rfl

end Reader

/-- words of a line of shell, if its quotes and escapes are complete -/
def words (line : String) : Option (List String) :=
  ((Reader.start.run line.toList).finish).map (List.map String.ofList)

/-! ## Quoted words are read back -/

/-- a safe character neither parts words nor has a meaning outside quotes -/
theorem plain_of_isSafe {c : Char} (h : isSafe c = true) :
    isSeparator c = false ∧ c ≠ apostrophe ∧ c ≠ '"' ∧ c ≠ '\\' := by
  refine ⟨?_, ?_, ?_, ?_⟩
  · by_contra hs
    simp only [isSeparator, Bool.not_eq_false, Bool.or_eq_true, beq_iff_eq] at hs
    rcases hs with ((rfl | rfl) | rfl) | rfl <;> exact absurd h (by decide)
  all_goals rintro rfl; exact absurd h (by decide)

theorem step_safe (r : Reader) {c : Char} (h : isSafe c = true) (hm : r.mode = .outside ∨ r.mode = .bare) :
    r.step c = r.push .bare c := by
  obtain ⟨hs, ha, hd, hb⟩ := plain_of_isSafe h
  rcases hm with hm | hm <;> simp [Reader.step, Reader.unquoted, hm, hs, ha, hd, hb]

theorem run_safe {cs : List Char} (h : ∀ c ∈ cs, isSafe c = true) (w : List Char) (ws : List (List Char)) :
    (⟨.bare, w, ws⟩ : Reader).run cs = ⟨.bare, w ++ cs, ws⟩ := by
  induction cs generalizing w with
  | nil => simp [Reader.run]
  | cons c cs ih =>
    rw [Reader.run_cons, step_safe _ (h c List.mem_cons_self) (Or.inr rfl)]
    simp only [Reader.push]
    rw [ih (fun d hd => h d (List.mem_cons_of_mem c hd))]
    simp

/-- between single quotes one character is read back, also a quote, for which the quotes are left and entered again -/
theorem run_quotedChar (c : Char) (w : List Char) (ws : List (List Char)) :
    (⟨.single, w, ws⟩ : Reader).run (quotedChar c) = ⟨.single, w ++ [c], ws⟩ := by
  unfold quotedChar
  split_ifs with h
  · subst h; rfl
  · simp [Reader.run, Reader.step, Reader.push, h]

theorem run_quotedChars (cs : List Char) (w : List Char) (ws : List (List Char)) :
    (⟨.single, w, ws⟩ : Reader).run (cs.flatMap quotedChar) = ⟨.single, w ++ cs, ws⟩ := by
  induction cs generalizing w with
  | nil => simp [Reader.run]
  | cons c cs ih =>
    rw [List.flatMap_cons, Reader.run_append, run_quotedChar, ih]
    simp

/-- **A quoted word is one word.** From between two words the reader gets to the end of exactly that word. -/
theorem run_quoteList (w : List Char) (ws : List (List Char)) :
    (⟨.outside, [], ws⟩ : Reader).run (quoteList w) = ⟨.bare, w, ws⟩ := by
  unfold quoteList
  split_ifs with h
  · simp only [Bool.and_eq_true, List.all_eq_true] at h
    obtain ⟨hne, hsafe⟩ := h
    cases w with
    | nil => simp at hne
    | cons c cs =>
      -- the first character opens the word, the others lengthen it
      rw [Reader.run_cons, step_safe _ (hsafe c List.mem_cons_self) (Or.inl rfl)]
      exact run_safe (fun d hd => hsafe d (List.mem_cons_of_mem c hd)) [c] ws
  · have hopen : (⟨.outside, [], ws⟩ : Reader).step apostrophe = ⟨.single, [], ws⟩ := rfl
    rw [List.cons_append, Reader.run_cons, hopen, Reader.run_append, run_quotedChars]
    rfl

theorem finish_joinList (w : List Char) (rest ws : List (List Char)) :
    ((⟨.outside, [], ws⟩ : Reader).run (joinList (w :: rest))).finish = some (ws ++ w :: rest) := by
  induction rest generalizing w ws with
  | nil => rw [joinList, run_quoteList]; rfl
  | cons v rest ih =>
    have hspace : (⟨.bare, w, ws⟩ : Reader).step ' ' = ⟨.outside, [], ws ++ [w]⟩ := rfl
    rw [joinList, Reader.run_append, run_quoteList, Reader.run_cons, hspace, ih]
    simp

/-- **Joining is undone by reading**, for every vector, the empty one and empty words included -/
theorem words_join (args : List String) : words (join args) = some args := by
  have hback : ∀ l : List String, (l.map String.toList).map String.ofList = l := by
    intro l; simp [Function.comp_def]
  unfold words join
  rw [String.toList_ofList]
  cases args with
  | nil => rfl
  | cons a rest =>
    rw [List.map_cons, Reader.start, finish_joinList, Option.map_some, List.nil_append, ← List.map_cons, hback]

/-! ## Calls -/

/-- **A call is read back as its vector**, whatever its fields hold; so no field adds, merges or splits a word, and two
calls are the same line exactly if they are the same vector. -/
theorem words_render :
    (∀ c : Invocation, words c.render = some c.arguments) ∧
    ∀ c d : Invocation, c.render = d.render ↔ c.arguments = d.arguments := by
  have hread : ∀ c : Invocation, words c.render = some c.arguments := fun c => words_join c.arguments
  refine ⟨hread, fun c d => ⟨fun h => ?_, fun h => ?_⟩⟩
  · have hc := hread c
    rw [h, hread d] at hc
    exact (Option.some.inj hc).symm
  · rw [Invocation.render, h, Invocation.render]

end EditPlan.Shell
