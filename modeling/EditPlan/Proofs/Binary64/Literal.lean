import EditPlan.Numeral
import EditPlan.Proofs.Binary64.Bounds
import EditPlan.Proofs.Binary64.Characters

/-!
Number literals: an optional minus sign, digits, an optional point with digits behind it, and an optional exponent. The
texts of decimals and of whole numbers are literals, and every literal is read as the decimal of its digits.

Main statements:
- `Literal.plain?_text`: what a literal is read as;
- `Decimal.literal_text`: the text of a decimal is a literal, and which decimal it denotes;
- `Binary64.literal_wholeText`: so is the text of a whole number.
-/

namespace EditPlan

open Numeral

/-- the parts of a number as it is written -/
structure Literal where
  negative : Bool
  whole : List Char
  /-- digits behind the point; without them there is no point -/
  part : List Char
  /-- sign and digits of an exponent -/
  exponent : Option (Bool × List Char)

namespace Literal

def pointText (part : List Char) : List Char := if part.isEmpty then [] else '.' :: part

/-- an exponent behind its mark -/
def exponentText : Option (Bool × List Char) → List Char
  | some (negative, ds) => 'e' :: (if negative then '-' else '+') :: ds
  | none => []

/-- text of a literal without its sign -/
def body (l : Literal) : List Char := l.whole ++ (pointText l.part ++ exponentText l.exponent)

def text (l : Literal) : List Char := Binary64.signText l.negative ++ l.body

def AreDigits (row : List Char) : Prop := ∀ c ∈ row, isDigit c = true

/-- a literal of digits, which has at least one of them in front and in its exponent -/
structure IsProper (l : Literal) : Prop where
  nonempty : l.whole ≠ []
  whole : AreDigits l.whole
  part : AreDigits l.part
  exponent : ∀ e ∈ l.exponent, e.2 ≠ [] ∧ AreDigits e.2

def power (l : Literal) : ℤ :=
  match l.exponent with
  | some (negative, ds) => if negative then -(ofDigits ds : ℤ) else ofDigits ds
  | none => 0

/-- the decimal that a literal is meant to be -/
def decimal (l : Literal) : Decimal := ⟨ofDigits (l.whole ++ l.part), l.power - l.part.length⟩

variable {l : Literal}

/-! ## Literals are read -/

theorem ofDigits_toDigits (n : ℕ) : ofDigits (Nat.toDigits 10 n) = n := by
  have hfold : ofDigits = fun cs => Nat.ofDigitChars 10 cs 0 := by
    funext cs
    simp only [ofDigits, Nat.ofDigitChars, Nat.mul_comm]
  rw [hfold]
  exact Nat.ofDigitChars_ten_toDigits

/-- digits end where another character stands -/
theorem takeWhile_digits {row rest : List Char} (h : AreDigits row) (hrest : ∀ c ∈ rest.head?, isDigit c = false) :
    (row ++ rest).takeWhile isDigit = row ∧ (row ++ rest).dropWhile isDigit = rest := by
  rw [List.takeWhile_append_of_pos h, List.dropWhile_append_of_pos h]
  cases rest with
  | nil => simp
  | cons c rest => simp [hrest c rfl]

theorem head?_exponentText (exponent : Option (Bool × List Char)) :
    ∀ c ∈ (exponentText exponent).head?, isDigit c = false := by
  cases exponent with
  | none => simp [exponentText]
  | some e =>
    rintro c hc
    obtain rfl : 'e' = c := Option.some.inj hc
    decide

theorem exponent?_exponentText (h : ∀ e ∈ l.exponent, e.2 ≠ [] ∧ AreDigits e.2) :
    exponent? (exponentText l.exponent) = some l.power := by
  rw [power]
  cases hexponent : l.exponent with
  | none => rfl
  | some e =>
    obtain ⟨negative, ds⟩ := e
    obtain ⟨hne, hds⟩ := h _ hexponent
    have hall : ds.all isDigit = true := List.all_eq_true.2 hds
    have hempty : ds.isEmpty = false := List.isEmpty_eq_false_iff.2 hne
    cases negative <;> simp [exponentText, exponent?, sign, hall, hempty]

/-- **A literal without a sign** is read as its decimal -/
theorem unsigned?_body (h : l.IsProper) : unsigned? l.body = some l.decimal := by
  have hexponent := exponent?_exponentText h.exponent
  have hwhole : l.whole.isEmpty = false := List.isEmpty_eq_false_iff.2 h.nonempty
  have hhead : ∀ c ∈ (pointText l.part ++ exponentText l.exponent).head?, isDigit c = false := by
    unfold pointText
    split_ifs
    · exact head?_exponentText l.exponent
    · rintro c hc
      obtain rfl : '.' = c := Option.some.inj hc
      decide
  obtain ⟨htake, hdrop⟩ := takeWhile_digits h.whole hhead
  have hfraction : fraction (pointText l.part ++ exponentText l.exponent) = (l.part, exponentText l.exponent) := by
    unfold pointText
    split_ifs with hpart
    · rw [List.isEmpty_iff.1 hpart, List.nil_append]
      cases l.exponent <;> rfl
    · obtain ⟨htake, hdrop⟩ := takeWhile_digits h.part (head?_exponentText l.exponent)
      rw [List.cons_append, fraction, htake, hdrop]
  simp [unsigned?, body, htake, hdrop, hfraction, hwhole, hexponent, decimal]

/-- digits come before the letters, so they have no case -/
theorem toLower_of_isDigit {c : Char} (hc : isDigit c = true) : c.toLower = c := by
  have hhigh : c.val ≤ '9'.val := of_decide_eq_true (Bool.and_eq_true_iff.1 hc).2
  have hletter : ¬(c.val ≥ 'A'.val ∧ c.val ≤ 'Z'.val) := fun h =>
    absurd (UInt32.le_trans h.1 hhigh) (by decide)
  exact dif_neg hletter

theorem word?_of_digit (negative : Bool) {c : Char} (hc : isDigit c = true) (r : List Char) :
    word? negative (c :: r) = none := by
  have hname : ∀ name : String, name.toList.any isDigit = false → String.ofList ((c :: r).map Char.toLower) ≠ name := by
    rintro name hnone rfl
    rw [String.toList_ofList, List.map_cons, toLower_of_isDigit hc, List.any_cons, hc, Bool.true_or] at hnone
    exact Bool.noConfusion hnone
  simp only [word?]
  rw [if_neg (hname "nan" (by decide)), if_neg (not_or.2 ⟨hname "inf" (by decide), hname "infinity" (by decide)⟩)]

theorem exists_digit (h : l.IsProper) : ∃ d r, isDigit d = true ∧ l.body = d :: r := by
  cases hwhole : l.whole with
  | nil => exact absurd hwhole h.nonempty
  | cons d r => exact ⟨d, _, h.whole d (by simp [hwhole]), by rw [body, hwhole, List.cons_append]⟩

/-- **A literal is read as the number nearest to its decimal** -/
theorem plain?_text (h : l.IsProper) : plain? l.text = some (Binary64.ofDecimal l.negative l.decimal) := by
  obtain ⟨d, r, hd, hbody⟩ := exists_digit h
  have hsign : sign l.text = (l.negative, l.body) := by
    rw [text, hbody]
    cases l.negative with
    | true => rfl
    | false =>
      have hminus : d ≠ '-' := by rintro rfl; exact absurd hd (by decide)
      have hplus : d ≠ '+' := by rintro rfl; exact absurd hd (by decide)
      simp [Binary64.signText, sign, hminus, hplus]
  have hword : word? l.negative l.body = none := by rw [hbody, word?_of_digit l.negative hd]
  simp [plain?, hsign, hword, unsigned?_body h]

/-! ## Characters of literals -/

def front (l : Literal) : List Char := Binary64.signText l.negative ++ (l.whole ++ pointText l.part)

theorem text_eq (l : Literal) : l.text = l.front ++ exponentText l.exponent := by
  simp [text, body, front]

/-- in front of its exponent a literal has digits, a minus sign and a point -/
theorem mem_front (h : l.IsProper) {c : Char} (hc : c ∈ l.front) : isDigit c = true ∨ c ∈ ['-', '.'] := by
  rcases List.mem_append.1 hc with hc | hc
  · unfold Binary64.signText at hc
    split_ifs at hc
    · exact .inr (by simp [List.mem_singleton.1 hc])
    · exact absurd hc List.not_mem_nil
  · rcases List.mem_append.1 hc with hc | hc
    · exact .inl (h.whole c hc)
    · unfold pointText at hc
      split_ifs at hc
      · exact absurd hc List.not_mem_nil
      · rcases List.mem_cons.1 hc with rfl | hc
        · exact .inr (by simp)
        · exact .inl (h.part c hc)

/-- a literal has digits, signs, a point and the mark of an exponent -/
theorem mem_text (h : l.IsProper) {c : Char} (hc : c ∈ l.text) : isDigit c = true ∨ c ∈ ['-', '+', '.', 'e'] := by
  rw [text_eq, List.mem_append] at hc
  rcases hc with hc | hc
  · exact (mem_front h hc).imp_right fun hmark => by simp at hmark ⊢; tauto
  · cases hexponent : l.exponent with
    | none => simp [hexponent, exponentText] at hc
    | some e =>
      rw [hexponent, exponentText] at hc
      rcases List.mem_cons.1 hc with rfl | hc
      · exact .inr (by simp)
      · rcases List.mem_cons.1 hc with rfl | hc
        · exact .inr (by split_ifs <;> simp)
        · exact .inl ((h.exponent e hexponent).2 c hc)

theorem getLast?_text (h : l.IsProper) : ∃ d, isDigit d = true ∧ l.text.getLast? = some d := by
  have hrow : ∀ {row : List Char}, row ≠ [] → AreDigits row → ∀ before : List Char,
      ∃ d, isDigit d = true ∧ (before ++ row).getLast? = some d := by
    intro row hne hdigits before
    refine ⟨row.getLast hne, hdigits _ (List.getLast_mem hne), ?_⟩
    rw [List.getLast?_append_of_ne_nil before hne, List.getLast?_eq_some_getLast hne]
  rw [text_eq]
  cases hexponent : l.exponent with
  | some e =>
    obtain ⟨negative, ds⟩ := e
    obtain ⟨hne, hds⟩ := h.exponent _ hexponent
    have hsplit : l.front ++ exponentText (some (negative, ds)) =
        (l.front ++ ['e', if negative then '-' else '+']) ++ ds := by simp [exponentText]
    rw [hsplit]
    exact hrow hne hds _
  | none =>
    rw [exponentText, List.append_nil, front, pointText]
    split_ifs with hpart
    · rw [List.append_nil]
      exact hrow h.nonempty h.whole _
    · have hsplit : Binary64.signText l.negative ++ (l.whole ++ '.' :: l.part) =
          (Binary64.signText l.negative ++ (l.whole ++ ['.'])) ++ l.part := by simp
      rw [hsplit]
      exact hrow (mt List.isEmpty_iff.2 hpart) h.part _

end Literal

/-! ## Texts of numbers are literals -/

namespace Decimal

open Literal

theorem areDigits_append {a b : List Char} (ha : AreDigits a) (hb : AreDigits b) : AreDigits (a ++ b) :=
  List.forall_mem_append.2 ⟨ha, hb⟩

theorem areDigits_zeros (n : ℕ) : AreDigits (zeros n) := by
  intro c hc
  rw [List.eq_of_mem_replicate hc]
  decide

theorem areDigits_toDigits (n : ℕ) : AreDigits (Nat.toDigits 10 n) := fun _ hc =>
  Nat.isDigit_of_mem_toDigits (by decide) (by decide) hc

theorem ofDigits_zeros_append (n : ℕ) (ds : List Char) : ofDigits (zeros n ++ ds) = ofDigits ds := by
  induction n with
  | zero => rfl
  | succ n ih => exact ih

theorem ofDigits_padded (width n : ℕ) : ofDigits (padded width n) = n := by
  rw [padded, ofDigits_zeros_append, digits, ofDigits_toDigits]

/-- power of ten of the leading digit -/
def lead (d : Decimal) : ℤ := ((digits d.coefficient).length : ℤ) - 1 + d.exponent

/-- positional notation: a whole number with a zero behind the point, or digits on both sides of it. With places behind the
point the digits are those of the decimal -/
theorem literal_positional {ds : List Char} (hne : ds ≠ []) (hds : AreDigits ds) (q : ℤ) :
    ∃ l : Literal, l.IsProper ∧ positional standard ds q = l.body ∧ l.exponent = none ∧
      (q < 0 → l.decimal = ⟨ofDigits ds, q⟩) := by
  have hzero : AreDigits ['0'] := areDigits_zeros 1
  unfold positional
  dsimp only
  split_ifs with hwhole hpoint
  · refine ⟨⟨false, ds ++ zeros q.toNat, ['0'], none⟩, ⟨by simp [hne], ?_, hzero, by simp⟩, ?_, rfl, by omega⟩
    · exact areDigits_append hds (areDigits_zeros _)
    · simp [body, pointText, exponentText, standard]
  · have hpos : 0 < ((ds.length : ℤ) + q).toNat := by omega
    have hpart : ¬ ds.length ≤ ((ds.length : ℤ) + q).toNat := by omega
    refine ⟨⟨false, ds.take ((ds.length : ℤ) + q).toNat, ds.drop ((ds.length : ℤ) + q).toNat, none⟩,
      ⟨by simp [hne, hpos.ne'], fun c hc => hds c (List.mem_of_mem_take hc), fun c hc => hds c (List.mem_of_mem_drop hc),
        by simp⟩, ?_, rfl, fun _ => ?_⟩
    · simp [body, pointText, exponentText, hpart]
    · rw [decimal, List.take_append_drop, List.length_drop, power, Decimal.mk.injEq]
      exact ⟨rfl, by dsimp only; omega⟩
  · refine ⟨⟨false, ['0'], zeros (-((ds.length : ℤ) + q)).toNat ++ ds, none⟩, ⟨by simp, hzero, ?_, by simp⟩, ?_, rfl,
      fun _ => ?_⟩
    · exact areDigits_append (areDigits_zeros _) hds
    · simp [body, pointText, exponentText, hne]
    · have hread := ofDigits_zeros_append ((-((ds.length : ℤ) + q)).toNat + 1) ds
      rw [decimal, List.length_append, zeros, List.length_replicate, power, Decimal.mk.injEq]
      exact ⟨hread, by dsimp only; omega⟩

theorem literal_scientific {ds : List Char} (hne : ds ≠ []) (hds : AreDigits ds) (lead : ℤ) :
    ∃ l : Literal, l.IsProper ∧ scientific standard ds lead = l.body ∧
      l.exponent = some (decide (lead < 0), padded 2 lead.natAbs) ∧
      l.decimal = ⟨ofDigits ds, lead - ((ds.length : ℤ) - 1)⟩ := by
  cases ds with
  | nil => exact absurd rfl hne
  | cons d r =>
    obtain ⟨hd, hr⟩ := List.forall_mem_cons.1 hds
    refine ⟨⟨false, [d], r, some (decide (lead < 0), padded 2 lead.natAbs)⟩,
      ⟨by simp, by simpa [AreDigits] using hd, hr, ?_⟩, ?_, rfl, ?_⟩
    · rintro e he
      obtain rfl := Option.some.inj he
      exact ⟨by simp [padded, digits], areDigits_append (areDigits_zeros _) (areDigits_toDigits _)⟩
    · cases r <;> simp [scientific, body, pointText, exponentText, standard]
    · rw [decimal, power, Decimal.mk.injEq]
      refine ⟨rfl, ?_⟩
      simp only [ofDigits_padded, decide_eq_true_eq, List.length_cons]
      split_ifs <;> omega

/-- **The text of a decimal** is a literal without a sign. It has an exponent where the decimal is very large or very
small, and it denotes the decimal if that has places behind the point -/
theorem literal_text (d : Decimal) :
    ∃ l : Literal, l.IsProper ∧ text standard d = l.body ∧
      (∀ e ∈ l.exponent, ¬ (-4 ≤ d.lead ∧ d.lead < 16) ∧ e = (decide (d.lead < 0), padded 2 d.lead.natAbs)) ∧
      (d.exponent < 0 → l.decimal = d) := by
  have hne : digits d.coefficient ≠ [] := Nat.toDigits_ne_nil
  have hdigits : AreDigits (digits d.coefficient) := areDigits_toDigits _
  have hvalue : ofDigits (digits d.coefficient) = d.coefficient := ofDigits_toDigits _
  unfold text
  dsimp only
  split_ifs with hmoderate
  · obtain ⟨l, hl, htext, hexponent, hdecimal⟩ := literal_positional hne hdigits d.exponent
    rw [hvalue] at hdecimal
    exact ⟨l, hl, htext, by simp [hexponent], hdecimal⟩
  · obtain ⟨l, hl, htext, hexponent, hdecimal⟩ := literal_scientific hne hdigits d.lead
    refine ⟨l, hl, htext, ?_, fun _ => ?_⟩
    · rintro e he
      rw [hexponent] at he
      exact ⟨hmoderate, (Option.some.inj he).symm⟩
    · rw [hdecimal, hvalue, Decimal.mk.injEq]
      refine ⟨rfl, ?_⟩
      unfold lead
      omega

end Decimal

namespace Binary64

open Literal

theorem literal_signed {l : Literal} (h : l.IsProper) (negative : Bool) :
    ∃ l' : Literal, l'.IsProper ∧ signText negative ++ l.body = l'.text ∧ l'.negative = negative ∧
      l'.exponent = l.exponent ∧ l'.decimal = l.decimal :=
  ⟨{ l with negative := negative }, ⟨h.nonempty, h.whole, h.part, h.exponent⟩, rfl, rfl, rfl, rfl⟩

theorem literal_wholeText (n : ℤ) :
    ∃ l : Literal, l.IsProper ∧ (wholeText n).toList = l.text ∧ l.negative = decide (n < 0) ∧ l.exponent = none ∧
      l.decimal = ⟨n.natAbs, 0⟩ := by
  have hproper : (⟨false, Nat.toDigits 10 n.natAbs, [], none⟩ : Literal).IsProper :=
    ⟨Nat.toDigits_ne_nil, Decimal.areDigits_toDigits _, by simp [AreDigits], by simp⟩
  have htext : (wholeText n).toList =
      signText (decide (n < 0)) ++ (⟨false, Nat.toDigits 10 n.natAbs, [], none⟩ : Literal).body := by
    have hrepr : wholeText n = n.repr := rfl
    rw [hrepr, Int.repr_eq_if]
    split_ifs with hsign
    · have habs : n.toNat = n.natAbs := by omega
      simp [habs, hsign.not_gt, signText, body, pointText, exponentText]
    · have habs : (-n).toNat = n.natAbs := by omega
      simp [habs, not_le.1 hsign, signText, body, pointText, exponentText]
  obtain ⟨l, hl, hsigned, hnegative, hexponent, hdecimal⟩ := literal_signed hproper (decide (n < 0))
  refine ⟨l, hl, htext.trans hsigned, hnegative, hexponent, hdecimal.trans ?_⟩
  simp [decimal, power, ofDigits_toDigits]

theorem isWhole_mul (n : ℕ) : isWhole (n * unitsPerOne) = true := beq_iff_eq.2 (Nat.mul_mod_left _ _)

theorem wholePart_mul (n : ℕ) : wholePart (n * unitsPerOne) = n := Nat.mul_div_cancel n (twoPow_pos _)

end Binary64

end EditPlan
