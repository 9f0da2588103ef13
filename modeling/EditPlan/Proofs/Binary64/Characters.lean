import Mathlib.Tactic
import EditPlan.Binary64.Text

/-!
The characters of number texts. A finite number is written with digits, signs, a point and the mark of an exponent; the
other numbers have three texts. So no number text is the option that drops the sound.

Main statements:
- `Decimal.isNumeral_text`: the characters of a decimal;
- `Binary64.sixPlaces_cases`: the characters of a number in a filter argument.
-/

namespace EditPlan.Decimal

variable {layout : Layout} {ds row : List Char}

/-- a character of the text of a number: a digit, a sign, a point or the mark of an exponent -/
def isNumeralChar (c : Char) : Bool := c.isDigit || c == '-' || c == '+' || c == '.' || c == 'e'

def IsNumeral (row : List Char) : Prop := ∀ c ∈ row, isNumeralChar c = true

theorem isNumeral_append_iff {a b : List Char} : IsNumeral (a ++ b) ↔ IsNumeral a ∧ IsNumeral b := List.forall_mem_append

theorem isNumeral_cons_iff {c : Char} : IsNumeral (c :: row) ↔ isNumeralChar c = true ∧ IsNumeral row := List.forall_mem_cons

theorem isNumeral_nil : IsNumeral [] := List.forall_mem_nil _

theorem isNumeral_toDigits (n : ℕ) : IsNumeral (Nat.toDigits 10 n) := by
  intro c hc
  rw [isNumeralChar, Nat.isDigit_of_mem_toDigits (by decide) (by decide) hc]
  rfl

theorem toDigits_injective : Function.Injective (Nat.toDigits 10) := by
  intro m n h
  simpa only [Nat.ofDigitChars_ten_toDigits] using congrArg (fun digits => Nat.ofDigitChars 10 digits 0) h

theorem isNumeral_zeros (n : ℕ) : IsNumeral (zeros n) := by
  intro c hc
  rw [List.eq_of_mem_replicate hc]
  rfl

theorem isNumeral_padded (width n : ℕ) : IsNumeral (padded width n) :=
  isNumeral_append_iff.2 ⟨isNumeral_zeros _, isNumeral_toDigits n⟩

theorem isNumeral_positional (hsuffix : IsNumeral layout.wholeSuffix.toList) (hds : IsNumeral ds) (q : ℤ) :
    IsNumeral (positional layout ds q) := by
  unfold positional
  dsimp only
  split_ifs
  · rw [isNumeral_append_iff, isNumeral_append_iff]
    exact ⟨⟨hds, isNumeral_zeros _⟩, hsuffix⟩
  · rw [isNumeral_append_iff, isNumeral_cons_iff]
    exact ⟨fun c hc => hds c (List.mem_of_mem_take hc), rfl, fun c hc => hds c (List.mem_of_mem_drop hc)⟩
  · rw [isNumeral_append_iff, isNumeral_cons_iff, isNumeral_cons_iff]
    exact ⟨⟨rfl, rfl, isNumeral_zeros _⟩, hds⟩

theorem isNumeral_scientific (hds : IsNumeral ds) (lead : ℤ) : IsNumeral (scientific layout ds lead) := by
  have hsign : isNumeralChar (if lead < 0 then '-' else '+') = true := by split_ifs <;> rfl
  have hexponent : IsNumeral ('e' :: (if lead < 0 then '-' else '+') :: padded layout.exponentWidth lead.natAbs) := by
    rw [isNumeral_cons_iff, isNumeral_cons_iff]
    exact ⟨rfl, hsign, isNumeral_padded _ _⟩
  refine isNumeral_append_iff.2 ⟨?_, hexponent⟩
  rcases ds with _ | ⟨d, _ | ⟨e, rest⟩⟩
  · exact isNumeral_nil
  · exact hds
  · obtain ⟨hd, hrest⟩ := isNumeral_cons_iff.1 hds
    rw [isNumeral_cons_iff, isNumeral_cons_iff]
    exact ⟨hd, rfl, hrest⟩

/-- **Characters of a decimal**, if what follows whole numbers has no others -/
theorem isNumeral_text (hsuffix : IsNumeral layout.wholeSuffix.toList) (d : Decimal) : IsNumeral (text layout d) := by
  unfold text
  dsimp only
  split_ifs
  · exact isNumeral_positional hsuffix (isNumeral_toDigits _) _
  · exact isNumeral_scientific (isNumeral_toDigits _) _

end EditPlan.Decimal

namespace EditPlan.Binary64

open Decimal

theorem isNumeral_signText (negative : Bool) : IsNumeral (signText negative) := by
  cases negative with
  | false => exact isNumeral_nil
  | true => exact isNumeral_cons_iff.2 ⟨rfl, isNumeral_nil⟩

theorem isNumeral_magnitudeText (u : ℕ) : IsNumeral (magnitudeText u) := by
  have hsuffix : IsNumeral standard.wholeSuffix.toList := List.all_eq_true.1 (by decide)
  unfold magnitudeText
  split_ifs
  · exact isNumeral_text hsuffix _
  · exact isNumeral_text hsuffix _

theorem isNumeral_wholeText (n : ℤ) : IsNumeral (wholeText n).toList := by
  have hrepr : wholeText n = n.repr := rfl
  rw [hrepr, Int.repr_eq_if]
  split_ifs
  · rw [Nat.toList_repr]
    exact isNumeral_toDigits _
  · rw [String.toList_append, Nat.toList_repr]
    exact isNumeral_append_iff.2 ⟨isNumeral_signText true, isNumeral_toDigits _⟩

theorem text_cases (x : Binary64) : x.text ∈ ["nan", "inf", "-inf"] ∨ IsNumeral x.text.toList := by
  cases x with
  | nan => exact .inl (by decide)
  | infinite s => cases s <;> exact .inl (by decide)
  | finite s u hu =>
    rw [text, String.toList_ofList]
    exact .inr (isNumeral_append_iff.2 ⟨isNumeral_signText s, isNumeral_magnitudeText u⟩)

/-- **Characters of a number in a filter argument**: of a numeral, unless the number is not finite -/
theorem sixPlaces_cases (x : Binary64) : x.sixPlaces ∈ ["nan", "inf", "-inf"] ∨ IsNumeral x.sixPlaces.toList := by
  unfold sixPlaces
  split
  · split_ifs
    · exact .inr (isNumeral_wholeText _)
    · exact text_cases _
  · exact text_cases _

theorem ne_dropSound {text : String} (h : IsNumeral text.toList) : text ≠ "-an" := by
  rintro rfl
  exact absurd (h 'a' (by decide)) (by decide)

theorem wholeText_ne_dropSound (n : ℤ) : wholeText n ≠ "-an" := ne_dropSound (isNumeral_wholeText n)

theorem sixPlaces_ne_dropSound (x : Binary64) : x.sixPlaces ≠ "-an" := by
  rcases sixPlaces_cases x with h | h
  · have hthree : ∀ t ∈ ["nan", "inf", "-inf"], t ≠ "-an" := by decide
    exact hthree _ h
  · exact ne_dropSound h

end EditPlan.Binary64
