import Mathlib.Tactic
import EditPlan.Proofs.Binary64.Characters
import EditPlan.Proofs.Plan.Operations

/-!
The files of a plan, by name. There are three schemes of names: numbered files count up, the result of an export is named
for its format, and thumbnails have one pattern. The scheme is the command's; only the number comes from the state.

Main statements:
- `FileName.text_injective`: no name belongs to two schemes, two numbers or two formats;
- `FileName.slash_mem_text`: a name has a slash only where a format brings one in;
- `call_of_build`: an operation calls the binary of the setup, reads the file it is given and writes the file of its name.
-/

namespace EditPlan

/-! ## Names -/

/-- name of a file that an operation writes -/
inductive FileName where
  | numbered (n : ℕ)
  | result (format : String)
  | thumbnails
  deriving DecidableEq, Repr

namespace FileName

def text : FileName → String
  | .numbered n => "temp_" ++ toString n ++ ".mp4"
  | .result format => "output." ++ format
  | .thumbnails => "thumbnail_%03d.jpg"

theorem toList_numbered (n : ℕ) :
    (numbered n).text.toList = "temp_".toList ++ (Nat.toDigits 10 n ++ ".mp4".toList) := by
  rw [text, String.toList_append, String.toList_append, Nat.toString_eq_repr, Nat.toList_repr, List.append_assoc]

theorem toList_result (format : String) : (result format).text.toList = "output.".toList ++ format.toList :=
  String.toList_append

/-- letter that tells the scheme of a name -/
def letter : FileName → Char
  | .numbered _ => 'e'
  | .result _ => 'u'
  | .thumbnails => 'h'

theorem second_letter (f : FileName) : f.text.toList[1]? = some f.letter := by
  cases f with
  | numbered n => rw [toList_numbered]; rfl
  | result format => rw [toList_result]; rfl
  | thumbnails => rfl

/-- **A name tells its file**: its scheme, and its number or format -/
theorem text_injective : Function.Injective text := by
  intro f g h
  have hscheme : f.letter = g.letter :=
    Option.some.inj ((second_letter f).symm.trans ((congrArg (·.toList[1]?) h).trans (second_letter g)))
  cases f with
  | numbered m =>
    cases g with
    | numbered n =>
      have hlists := congrArg String.toList h
      rw [toList_numbered, toList_numbered] at hlists
      have hdigits : Nat.toDigits 10 m = Nat.toDigits 10 n := List.append_cancel_right (List.append_cancel_left hlists)
      rw [Decimal.toDigits_injective hdigits]
    | _ => exact absurd hscheme (by simp [letter])
  | result format =>
    cases g with
    | result format' =>
      have hlists := congrArg String.toList h
      rw [toList_result, toList_result] at hlists
      rw [String.toList_injective (List.append_cancel_left hlists)]
    | _ => exact absurd hscheme (by simp [letter])
  | thumbnails =>
    cases g with
    | thumbnails => rfl
    | _ => exact absurd hscheme (by simp [letter])

theorem one_lt_length_text (f : FileName) : 1 < f.text.toList.length := by
  obtain ⟨h, -⟩ := List.getElem?_eq_some_iff.1 (second_letter f)
  exact h

/-- **A name has a slash only where a format brings one in** -/
theorem slash_mem_text (f : FileName) :
    '/' ∈ f.text.toList ↔ ∃ format, f = result format ∧ '/' ∈ format.toList := by
  cases f with
  | numbered n =>
    have hdigits : '/' ∉ Nat.toDigits 10 n := by
      intro h
      exact absurd (Nat.isDigit_of_mem_toDigits (by decide) (by decide) h) (by decide)
    rw [toList_numbered]
    simp [hdigits]
  | result format =>
    rw [toList_result]
    simp
  | thumbnails => simp [text]

end FileName

/-! ## Operations and their names -/

variable {ν : Type} [Number ν] {setup : Setup ν} {s : State ν} {input : String} {op : Operation ν}

namespace Command

/-- the name under which a command writes whatever was written before; commands without one count up -/
def fixedName? : Command ν → Option FileName
  | .exportVideo format _ _ _ _ => some (.result format)
  | .thumbnail _ _ _ => some .thumbnails
  | _ => none

/-- name of the file that the operation of a command writes -/
def fileName (c : Command ν) (s : State ν) : FileName := c.fixedName?.getD (.numbered (s.counter + 1))

end Command

omit [Number ν] in
theorem Setup.file_injective (setup : Setup ν) : Function.Injective setup.file := by
  intro a b h
  have hlists := congrArg String.toList h
  simp only [Setup.file, String.toList_append] at hlists
  exact String.toList_injective (List.append_cancel_left hlists)

/-- **What an operation calls, reads and writes.** It calls the binary of the setup, reads the file that it is given and
writes the file of its command's name in the working directory. -/
theorem call_of_build {c : Command ν} (h : c.build setup s input = .ok (some op)) :
    op.invocation.binary = setup.binary ∧ op.input = input ∧ op.output = setup.file (c.fileName s).text := by
  unfold Operation.input Operation.output
  cases c with
  | trim start stop =>
    rw [(Build.trim_ok h).2]
    exact ⟨rfl, rfl, rfl⟩
  | cut segments =>
    rw [← Option.some.inj (Except.ok.inj h)]
    simp only [Build.cut]
    split_ifs <;> exact ⟨rfl, rfl, rfl⟩
  | addCaptions style language =>
    obtain ⟨look, -, -, hcall⟩ := Build.addCaptions_ok h
    rw [hcall]
    exact ⟨rfl, rfl, rfl⟩
  | audio action params =>
    obtain ⟨filter, -, hcall⟩ := Build.audio_ok h
    rw [hcall]
    exact ⟨rfl, rfl, rfl⟩
  | effect name intensity params =>
    obtain ⟨-, picture, sound, options, -, hcall⟩ := Build.effect_ok h
    rw [hcall]
    exact ⟨rfl, rfl, rfl⟩
  | thumbnail count style timestamps =>
    obtain ⟨times, -, hcall⟩ := Build.thumbnail_ok h
    rw [hcall]
    exact ⟨rfl, rfl, rfl⟩
  | unknown tag extras => exact absurd (Except.ok.inj h) (by simp)
  | _ =>
    rw [← Option.some.inj (Except.ok.inj h)]
    exact ⟨rfl, rfl, rfl⟩

end EditPlan
