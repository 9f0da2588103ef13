import Mathlib.Data.Bool.AllAny
import Mathlib.Data.List.DropRight
import Mathlib.Tactic
import EditPlan.Filter.Value

/-!
Caption colours and the texts they are made of. A colour is six or eight hexadecimal digits behind at most one number sign,
with blanks around it; two digits make a byte. The caption colour has the same bytes in the opposite order and the last one
counted from the other end, so nothing of a colour is lost but the case of its letters. Every other text is opaque white.

Main statements:
- `isColour_iff`: the digits of a colour are what is left without blanks and number sign;
- `captionDigits_six`, `captionDigits_eight`, `captionDigits_of_not_digits`: what becomes of digits;
- `captionColour_bytes`: what becomes of a text.
Witness: `captionColour_bytes_translucent`.
-/

namespace EditPlan.Text

/-! ## Hexadecimal digits -/

/-- the hexadecimal digits in both letter cases -/
def hexCharacters : List Char := "0123456789abcdefABCDEF".toList

/-- a hexadecimal digit without small letters -/
def isUpperHexDigit (c : Char) : Bool := ('0' ≤ c && c ≤ '9') || ('A' ≤ c && c ≤ 'F')

/-- bytes written by pairs of hexadecimal digits -/
def hexBytes? : List Char → Option (List ℕ)
  | [] => some []
  | high :: low :: r => if isHexDigit high && isHexDigit low then (hexBytes? r).map (hexPair high low :: ·) else none
  | _ => none

variable {c d : Char}

theorem mem_hexCharacters (h : isHexDigit c = true) : c ∈ hexCharacters := by
  have hascii : c.toNat < 128 := by
    unfold isHexDigit hexValue? at h
    split_ifs at h with hdigit hsmall hcapital
    · exact lt_of_le_of_lt (show c.toNat ≤ 57 from hdigit.2) (by decide)
    · exact lt_of_le_of_lt (show c.toNat ≤ 102 from hsmall.2) (by decide)
    · exact lt_of_le_of_lt (show c.toNat ≤ 70 from hcapital.2) (by decide)
    · exact absurd h (by decide)
  have hall : ∀ n < 128, isHexDigit (Char.ofNat n) = true → Char.ofNat n ∈ hexCharacters := by decide
  rw [← Char.ofNat_toNat c] at h ⊢
  exact hall _ hascii h

/-- what the row of digits shows one by one holds of every digit -/
theorem of_isHexDigit {p : Char → Prop} [DecidablePred p] (hall : hexCharacters.all (fun c => p c) = true)
    (h : isHexDigit c = true) : p c := List.all_iff_forall_prop.1 hall c (mem_hexCharacters h)

theorem not_isBlank_of_isHexDigit (h : isHexDigit c = true) : isBlank c = false :=
  of_isHexDigit (p := fun c => isBlank c = false) (by decide) h

theorem isUpperHexDigit_toUpper (h : isHexDigit c = true) : isUpperHexDigit c.toUpper = true :=
  of_isHexDigit (p := fun c => isUpperHexDigit c.toUpper = true) (by decide) h

theorem hexValue?_toUpper (h : isHexDigit c = true) : hexValue? c.toUpper = hexValue? c :=
  of_isHexDigit (p := fun c => hexValue? c.toUpper = hexValue? c) (by decide) h

theorem hexValue_lt (h : isHexDigit c = true) : (hexValue? c).getD 0 < 16 :=
  of_isHexDigit (p := fun c => (hexValue? c).getD 0 < 16) (by decide) h

theorem toUpper_eq_capital (h : isHexDigit c = true) : c.toUpper = (Nat.digitChar ((hexValue? c).getD 0)).toUpper :=
  of_isHexDigit (p := fun c => c.toUpper = (Nat.digitChar ((hexValue? c).getD 0)).toUpper) (by decide) h

theorem isHexDigit_toUpper (h : isHexDigit c = true) : isHexDigit c.toUpper = true := by
  rw [isHexDigit, hexValue?_toUpper h]
  exact h

theorem hexPair_toUpper (hc : isHexDigit c = true) (hd : isHexDigit d = true) :
    hexPair c.toUpper d.toUpper = hexPair c d := by
  rw [hexPair, hexPair, hexValue?_toUpper hc, hexValue?_toUpper hd]

theorem hexPair_lt (hc : isHexDigit c = true) (hd : isHexDigit d = true) : hexPair c d < 256 := by
  have hhigh := hexValue_lt hc
  have hlow := hexValue_lt hd
  unfold hexPair
  omega

/-- two digits tell a byte, and the byte tells them up to their letter case -/
theorem toUpper_eq_of_hexPair_eq {c' d' : Char} (hc : isHexDigit c = true) (hd : isHexDigit d = true)
    (hc' : isHexDigit c' = true) (hd' : isHexDigit d' = true) (h : hexPair c d = hexPair c' d') :
    c.toUpper = c'.toUpper ∧ d.toUpper = d'.toUpper := by
  have hlow := hexValue_lt hd
  have hlow' := hexValue_lt hd'
  unfold hexPair at h
  have hvalues : (hexValue? c).getD 0 = (hexValue? c').getD 0 ∧ (hexValue? d).getD 0 = (hexValue? d').getD 0 := by omega
  rw [toUpper_eq_capital hc, toUpper_eq_capital hd, toUpper_eq_capital hc', toUpper_eq_capital hd', hvalues.1, hvalues.2]
  exact ⟨rfl, rfl⟩

theorem toUpper_of_isUpperHexDigit (h : isHexDigit c = true) : isUpperHexDigit c = true → c.toUpper = c :=
  of_isHexDigit (p := fun c => isUpperHexDigit c = true → c.toUpper = c) (by decide) h

variable {cs ds : List Char} {bs : List ℕ}

theorem hexBytes?_map_toUpper (h : ∀ c ∈ cs, isHexDigit c = true) : hexBytes? (cs.map Char.toUpper) = hexBytes? cs := by
  fun_induction hexBytes? cs with
  | case1 => rfl
  | case2 high low r hdigits ih =>
    rw [List.forall_mem_cons, List.forall_mem_cons] at h
    obtain ⟨hhigh, hlow, hr⟩ := h
    rw [List.map_cons, List.map_cons, hexBytes?, isHexDigit_toUpper hhigh, isHexDigit_toUpper hlow, ih hr,
      hexPair_toUpper hhigh hlow]
    rfl
  | case3 high low r hdigits => exact absurd (by simp [h]) hdigits
  | case4 cs hnil hpair =>
    match cs with
    | [] => exact absurd rfl hnil
    | [c] => rfl
    | high :: low :: r => exact absurd rfl (hpair high low r)

/-- **Bytes tell the digits** they are read from, up to their letter case -/
theorem map_toUpper_eq_of_hexBytes? (hcs : hexBytes? cs = some bs) (hds : hexBytes? ds = some bs) :
    cs.map Char.toUpper = ds.map Char.toUpper := by
  fun_induction hexBytes? cs generalizing ds bs with
  | case1 =>
    obtain rfl := Option.some.inj hcs
    match ds, hds with
    | [], _ => rfl
    | high :: low :: r, hds =>
      rw [hexBytes?] at hds
      split_ifs at hds
      simp at hds
  | case2 high low r hdigits ih =>
    obtain ⟨rest, hrest, rfl⟩ := Option.map_eq_some_iff.1 hcs
    match ds, hds with
    | [], hds => simp [hexBytes?] at hds
    | high' :: low' :: r', hds =>
      rw [hexBytes?] at hds
      split_ifs at hds with hdigits'
      obtain ⟨rest', hrest', heq⟩ := Option.map_eq_some_iff.1 hds
      obtain ⟨hpair, rfl⟩ := List.cons.inj heq
      rw [Bool.and_eq_true_iff] at hdigits hdigits'
      obtain ⟨hhigh, hlow⟩ := toUpper_eq_of_hexPair_eq hdigits.1 hdigits.2 hdigits'.1 hdigits'.2 hpair.symm
      rw [List.map_cons, List.map_cons, List.map_cons, List.map_cons, hhigh, hlow, ih hrest hrest']
  | case3 high low r hdigits => exact absurd hcs (by simp)
  | case4 cs hnil hpair => exact absurd hcs (by simp)

/-- a byte is written with two capital digits, from which it is read back -/
theorem hexByte_eq {n : ℕ} (h : n < 256) : ∃ high low, hexByte n = [high, low] ∧
    (∀ c ∈ [high, low], isHexDigit c = true ∧ isUpperHexDigit c = true) ∧ hexPair high low = n := by
  have hall : ∀ n < 256, (hexByte n).length = 2 ∧
      (hexByte n).all (fun c => isHexDigit c = true ∧ isUpperHexDigit c = true) = true ∧
        hexBytes? (hexByte n) = some [n] := by
    decide +kernel
  obtain ⟨hlength, hdigits, hread⟩ := hall n h
  obtain ⟨high, low, hbyte⟩ := List.length_eq_two.1 hlength
  rw [hbyte] at hdigits hread
  rw [List.all_iff_forall_prop] at hdigits
  have hhigh := (hdigits high List.mem_cons_self).1
  have hlow := (hdigits low (List.mem_cons_of_mem _ List.mem_cons_self)).1
  simp only [hexBytes?, hhigh, hlow, Bool.and_self, if_true, Option.map_some, Option.some.injEq, List.cons.injEq,
    and_true] at hread
  exact ⟨high, low, hbyte, hdigits, hread⟩

/-! ## Trimming -/

variable {blank : Char → Bool} {front middle back : List Char}

/-- what stands between characters of a class is trimmed alone -/
theorem trimList_between (hfront : ∀ c ∈ front, blank c = true) (hback : ∀ c ∈ back, blank c = true)
    (hfirst : ∀ c, middle.head? = some c → blank c = false) (hlast : ∀ c, middle.getLast? = some c → blank c = false)
    (hne : middle ≠ []) : trimList blank (front ++ (middle ++ back)) = middle := by
  have hhead : ∀ c, (middle ++ back).head? = some c → blank c = false := by
    intro c hc
    rw [List.head?_append_of_ne_nil _ hne] at hc
    exact hfirst c hc
  have hreverse : ∀ c, middle.reverse.head? = some c → blank c = false := by simpa using hlast
  rw [trimList, List.dropWhile_append_of_pos hfront, dropWhile_head_neg hhead, List.reverse_append,
    List.dropWhile_append_of_pos (by simpa using hback), dropWhile_head_neg hreverse, List.reverse_reverse]

theorem exists_trimList (blank : Char → Bool) (cs : List Char) : ∃ front back, cs = front ++ (trimList blank cs ++ back) ∧
    (∀ c ∈ front, blank c = true) ∧ ∀ c ∈ back, blank c = true := by
  refine ⟨cs.takeWhile blank, (cs.dropWhile blank).rtakeWhile blank, ?_, fun c hc => List.mem_takeWhile_imp hc,
    fun c hc => List.mem_rtakeWhile_imp hc⟩
  rw [show trimList blank cs = (cs.dropWhile blank).rdropWhile blank from rfl, List.rdropWhile_append_rtakeWhile,
    List.takeWhile_append_dropWhile]

end EditPlan.Text

namespace EditPlan.Filter

open Text

variable {color other : String} {cs ds ds' : List Char}

/-! ## Colours and their digits -/

/-- **A colour as it is written**: hexadecimal digits behind at most one number sign, and blanks around both -/
def IsColour (color : String) (ds : List Char) : Prop :=
  ∃ front hash back, color.toList = front ++ (hash ++ ds ++ back) ∧ (∀ c ∈ front, isBlank c = true) ∧
    (hash = [] ∨ hash = ['#']) ∧ (∀ c ∈ ds, isHexDigit c = true) ∧ ∀ c ∈ back, isBlank c = true

theorem dropHash_cases (cs : List Char) : ∃ hash, (hash = [] ∨ hash = ['#']) ∧ cs = hash ++ dropHash cs := by
  unfold dropHash
  split
  · exact ⟨['#'], Or.inr rfl, rfl⟩
  · exact ⟨[], Or.inl rfl, rfl⟩

theorem dropHash_digits (hds : ∀ c ∈ ds, isHexDigit c = true) : dropHash ds = ds := by
  unfold dropHash
  split
  · exact absurd (hds '#' List.mem_cons_self) (by decide)
  · rfl

/-- **The digits of a colour** are what is left of it without blanks at its ends and without one number sign -/
theorem isColour_iff (hne : ds ≠ []) :
    IsColour color ds ↔ dropHash (trimList isBlank color.toList) = ds ∧ ∀ c ∈ ds, isHexDigit c = true := by
  constructor
  · rintro ⟨front, hash, back, htext, hfront, hhash, hds, hback⟩
    have hfirst : ∀ c, (hash ++ ds).head? = some c → isBlank c = false := by
      intro c hc
      rcases hhash with rfl | rfl
      · exact not_isBlank_of_isHexDigit (hds c (List.mem_of_mem_head? hc))
      · obtain rfl : '#' = c := Option.some.inj hc
        decide
    have hlast : ∀ c, (hash ++ ds).getLast? = some c → isBlank c = false := by
      intro c hc
      rw [List.getLast?_append_of_ne_nil _ hne] at hc
      exact not_isBlank_of_isHexDigit (hds c (List.mem_of_mem_getLast? hc))
    have htrim : trimList isBlank color.toList = hash ++ ds := by
      rw [htext]
      exact trimList_between hfront hback hfirst hlast (List.append_ne_nil_of_right_ne_nil _ hne)
    refine ⟨?_, hds⟩
    rw [htrim]
    rcases hhash with rfl | rfl
    · exact dropHash_digits hds
    · rfl
  · rintro ⟨hdrop, hds⟩
    obtain ⟨front, back, htext, hfront, hback⟩ := exists_trimList isBlank color.toList
    obtain ⟨hash, hhash, htrim⟩ := dropHash_cases (trimList isBlank color.toList)
    refine ⟨front, hash, back, ?_, hfront, hhash, hds, hback⟩
    rw [htext, htrim, hdrop]

theorem captionColour_of_isColour (h : IsColour color ds) (hne : ds ≠ []) :
    captionColour color = String.ofList (captionDigits ds) := by
  rw [captionColour, ((isColour_iff hne).1 h).1]

/-! ## What becomes of digits -/

/-- digits of which the last pairs come first, as they are put into a caption colour -/
theorem hexBytes?_capitals {r r' g g' b b' : Char} (h : ∀ c ∈ [r, r', g, g', b, b'], isHexDigit c = true) :
    hexBytes? ([b, b', g, g', r, r'].map Char.toUpper) = some [hexPair b b', hexPair g g', hexPair r r'] := by
  have hreordered : ∀ c ∈ [b, b', g, g', r, r'], isHexDigit c = true := fun c hc => h c (by simp at hc ⊢; tauto)
  rw [hexBytes?_map_toUpper hreordered]
  simp only [List.forall_mem_cons] at h
  simp [hexBytes?, h]

theorem captionDigits_six (hds : ∀ c ∈ ds, isHexDigit c = true) (hlength : ds.length = 6) :
    ∃ red green blue, hexBytes? ds = some [red, green, blue] ∧ hexBytes? (captionDigits ds) = some [0, blue, green, red] := by
  obtain ⟨r, r', g, g', b, b', rfl⟩ : ∃ r r' g g' b b', ds = [r, r', g, g', b, b'] := by
    match ds, hlength with
    | [r, r', g, g', b, b'], _ => exact ⟨r, r', g, g', b, b', rfl⟩
  have hall : [r, r', g, g', b, b'].all isHexDigit = true := List.all_eq_true.2 hds
  have hopaque : isHexDigit '0' = true ∧ hexPair '0' '0' = 0 := by decide
  refine ⟨hexPair r r', hexPair g g', hexPair b b', ?_, ?_⟩
  · simp only [List.forall_mem_cons] at hds
    simp [hexBytes?, hds]
  · rw [captionDigits, if_pos hall]
    simp only [List.cons_append, List.nil_append, hexBytes?, hopaque, hexBytes?_capitals hds]
    rfl

/-- eight digits: the last two are counted from the other end -/
theorem captionDigits_eight (hds : ∀ c ∈ ds, isHexDigit c = true) (hlength : ds.length = 8) :
    ∃ red green blue alpha, hexBytes? ds = some [red, green, blue, alpha] ∧ alpha ≤ 255 ∧
      hexBytes? (captionDigits ds) = some [255 - alpha, blue, green, red] := by
  obtain ⟨r, r', g, g', b, b', a, a', rfl⟩ : ∃ r r' g g' b b' a a', ds = [r, r', g, g', b, b', a, a'] := by
    match ds, hlength with
    | [r, r', g, g', b, b', a, a'], _ => exact ⟨r, r', g, g', b, b', a, a', rfl⟩
  have hall : [r, r', g, g', b, b', a, a'].all isHexDigit = true := List.all_eq_true.2 hds
  have hcolours : ∀ c ∈ [r, r', g, g', b, b'], isHexDigit c = true := fun c hc => hds c (by simp at hc ⊢; tauto)
  have halpha : hexPair a a' < 256 := hexPair_lt (hds a (by simp)) (hds a' (by simp))
  obtain ⟨high, low, hbyte, hdigits, hpair⟩ := hexByte_eq (n := 255 - hexPair a a') (by omega)
  refine ⟨hexPair r r', hexPair g g', hexPair b b', hexPair a a', ?_, by omega, ?_⟩
  · simp only [List.forall_mem_cons] at hds
    simp [hexBytes?, hds]
  · rw [captionDigits, if_pos hall]
    simp only [hbyte, List.cons_append, List.nil_append, hexBytes?, hexBytes?_capitals hcolours, hpair,
      (hdigits high (by simp)).1, (hdigits low (by simp)).1]
    rfl

/-- all other rows of characters are opaque white -/
theorem captionDigits_of_not_digits (h : (∀ c ∈ ds, isHexDigit c = true) → ds.length ≠ 6 ∧ ds.length ≠ 8) :
    captionDigits ds = opaqueWhite := by
  unfold captionDigits
  split_ifs with hall
  · obtain ⟨hsix, height⟩ := h (List.all_eq_true.1 hall)
    split
    · exact absurd rfl hsix
    · exact absurd rfl height
    · rfl
  · rfl

theorem captionDigits_cases (ds : List Char) :
    (∀ c ∈ ds, isHexDigit c = true) ∧ (ds.length = 6 ∨ ds.length = 8) ∨ captionDigits ds = opaqueWhite := by
  by_cases h : (∀ c ∈ ds, isHexDigit c = true) ∧ (ds.length = 6 ∨ ds.length = 8)
  · exact Or.inl h
  · exact Or.inr (captionDigits_of_not_digits fun hds => not_or.1 fun hlength => h ⟨hds, hlength⟩)

/-- **Eight capital digits** stand for every row of characters -/
theorem captionDigits_capitals (ds : List Char) :
    (captionDigits ds).length = 8 ∧ ∀ c ∈ captionDigits ds, isHexDigit c = true ∧ isUpperHexDigit c = true := by
  have hcapitals : ∀ {cs : List Char}, (∀ c ∈ cs, isHexDigit c = true) →
      ∀ c ∈ cs.map Char.toUpper, isHexDigit c = true ∧ isUpperHexDigit c = true := by
    intro cs hcs c hc
    obtain ⟨d, hd, rfl⟩ := List.mem_map.1 hc
    exact ⟨isHexDigit_toUpper (hcs d hd), isUpperHexDigit_toUpper (hcs d hd)⟩
  have hreverse : ∀ {r r' g g' b b' : Char} {rest : List Char},
      (∀ c ∈ r :: r' :: g :: g' :: b :: b' :: rest, isHexDigit c = true) →
        ∀ c ∈ [b, b', g, g', r, r'], isHexDigit c = true := by
    intro r r' g g' b b' rest h
    simp only [List.forall_mem_cons] at h ⊢
    obtain ⟨hr, hr', hg, hg', hb, hb', -⟩ := h
    exact ⟨hb, hb', hg, hg', hr, hr', List.forall_mem_nil _⟩
  have hzeros : ∀ c ∈ ['0', '0'], isHexDigit c = true ∧ isUpperHexDigit c = true :=
    List.all_iff_forall_prop.1 (by decide)
  have hwhite : opaqueWhite.length = 8 ∧ ∀ c ∈ opaqueWhite, isHexDigit c = true ∧ isUpperHexDigit c = true :=
    ⟨rfl, List.all_iff_forall_prop.1 (by decide)⟩
  unfold captionDigits
  split_ifs with hall
  · have hds := List.all_eq_true.1 hall
    split
    · exact ⟨rfl, List.forall_mem_append.2 ⟨hzeros, hcapitals (hreverse hds)⟩⟩
    · rename_i a a'
      obtain ⟨high, low, hbyte, hdigits, -⟩ := hexByte_eq (n := 255 - hexPair a a') (by omega)
      rw [hbyte]
      exact ⟨rfl, List.forall_mem_append.2 ⟨hdigits, hcapitals (hreverse hds)⟩⟩
    · exact hwhite
  · exact hwhite

theorem map_toUpper_captionDigits (ds : List Char) : (captionDigits ds).map Char.toUpper = captionDigits ds := by
  have hupper : ∀ c ∈ captionDigits ds, c.toUpper = id c := fun c hc =>
    toUpper_of_isUpperHexDigit ((captionDigits_capitals ds).2 c hc).1 ((captionDigits_capitals ds).2 c hc).2
  rw [List.map_congr_left hupper, List.map_id]

/-- **Eight digits are told by the caption colour** up to their letter case, and by nothing else of them -/
theorem captionDigits_eq_iff (hds : ∀ c ∈ ds, isHexDigit c = true) (hds' : ∀ c ∈ ds', isHexDigit c = true)
    (hlength : ds.length = 8) (hlength' : ds'.length = 8) :
    captionDigits ds = captionDigits ds' ↔ ds.map Char.toUpper = ds'.map Char.toUpper := by
  obtain ⟨red, green, blue, alpha, hread, halpha, hcaption⟩ := captionDigits_eight hds hlength
  obtain ⟨red', green', blue', alpha', hread', halpha', hcaption'⟩ := captionDigits_eight hds' hlength'
  constructor
  · intro h
    rw [h, hcaption'] at hcaption
    simp only [Option.some.injEq, List.cons.injEq, and_true] at hcaption
    obtain ⟨halphas, rfl, rfl, rfl⟩ := hcaption
    obtain rfl : alpha = alpha' := by omega
    exact map_toUpper_eq_of_hexBytes? hread hread'
  · intro h
    have hbytes : hexBytes? ds = hexBytes? ds' := by rw [← hexBytes?_map_toUpper hds, h, hexBytes?_map_toUpper hds']
    rw [hread, hread'] at hbytes
    simp only [Option.some.injEq, List.cons.injEq, and_true] at hbytes
    obtain ⟨rfl, rfl, rfl, rfl⟩ := hbytes
    rw [← map_toUpper_captionDigits ds, ← map_toUpper_captionDigits ds']
    exact map_toUpper_eq_of_hexBytes? hcaption hcaption'

/-! ## What becomes of a text -/

/-- **A caption colour keeps the bytes of the colour.** It has eight capital hexadecimal digits. If the text is a colour of six
or eight digits, these are read back from it as blue, green and red behind an alpha counted from 255, which is 0 for six
digits; so colours of eight digits have one caption colour exactly if their digits are the same up to the letter case. Every
other text is opaque white. -/
theorem captionColour_bytes (color : String) :
    (captionColour color).toList.length = 8 ∧ (∀ c ∈ (captionColour color).toList, isUpperHexDigit c = true) ∧
    (∀ ds, IsColour color ds → ds.length = 6 → ∃ red green blue, hexBytes? ds = some [red, green, blue] ∧
      hexBytes? (captionColour color).toList = some [0, blue, green, red]) ∧
    (∀ ds, IsColour color ds → ds.length = 8 → ∃ red green blue alpha, hexBytes? ds = some [red, green, blue, alpha] ∧
      alpha ≤ 255 ∧ hexBytes? (captionColour color).toList = some [255 - alpha, blue, green, red]) ∧
    (∀ ds other ds', IsColour color ds → ds.length = 8 → IsColour other ds' → ds'.length = 8 →
      (captionColour color = captionColour other ↔ ds.map Char.toUpper = ds'.map Char.toUpper)) ∧
    ((∀ ds, IsColour color ds → ds.length ≠ 6 ∧ ds.length ≠ 8) → captionColour color = "00FFFFFF") := by
  have hread : ∀ {color ds}, IsColour color ds → 0 < ds.length →
      captionColour color = String.ofList (captionDigits ds) ∧ ∀ c ∈ ds, isHexDigit c = true := by
    intro color ds hcolour hlength
    have hne : ds ≠ [] := List.length_pos_iff.1 hlength
    exact ⟨captionColour_of_isColour hcolour hne, ((isColour_iff hne).1 hcolour).2⟩
  refine ⟨?_, ?_, fun ds hcolour hlength => ?_, fun ds hcolour hlength => ?_, ?_, ?_⟩
  · rw [captionColour, String.toList_ofList]
    exact (captionDigits_capitals _).1
  · rw [captionColour, String.toList_ofList]
    exact fun c hc => ((captionDigits_capitals _).2 c hc).2
  · obtain ⟨hcaption, hds⟩ := hread hcolour (by omega)
    rw [hcaption, String.toList_ofList]
    exact captionDigits_six hds hlength
  · obtain ⟨hcaption, hds⟩ := hread hcolour (by omega)
    rw [hcaption, String.toList_ofList]
    exact captionDigits_eight hds hlength
  · intro ds other ds' hcolour hlength hcolour' hlength'
    obtain ⟨hcaption, hds⟩ := hread hcolour (by omega)
    obtain ⟨hcaption', hds'⟩ := hread hcolour' (by omega)
    rw [hcaption, hcaption', String.ofList_inj, captionDigits_eq_iff hds hds' hlength hlength']
  · intro hnone
    rcases captionDigits_cases (dropHash (trimList isBlank color.toList)) with ⟨hds, hlength⟩ | hwhite
    · have hne : dropHash (trimList isBlank color.toList) ≠ [] := by
        rintro hnil
        rw [hnil] at hlength
        simp at hlength
      obtain ⟨hsix, height⟩ := hnone _ ((isColour_iff hne).2 ⟨rfl, hds⟩)
      exact absurd hlength (not_or.2 ⟨hsix, height⟩)
    · rw [captionColour, hwhite]
      rfl

/-- a colour with blanks around it and letters of both cases, seen through by half; another one with the same bytes; and a
text with two number signs, which is no colour -/
theorem captionColour_bytes_translucent :
    let digits := "0a1B2c80".toList
    let others := "0A1b2C80".toList
    IsColour "\t#0a1B2c80 \n" digits ∧ digits.length = 8 ∧ IsColour "0A1b2C80" others ∧ others.length = 8 ∧
      hexBytes? digits = some [10, 27, 44, 128] ∧ captionColour "\t#0a1B2c80 \n" = "7F2C1B0A" ∧
      hexBytes? (captionColour "\t#0a1B2c80 \n").toList = some [127, 44, 27, 10] ∧
      captionColour "\t#0a1B2c80 \n" = captionColour "0A1b2C80" ∧
      (∀ ds, IsColour "##ABCDE" ds → ds.length ≠ 6 ∧ ds.length ≠ 8) ∧ captionColour "##ABCDE" = "00FFFFFF" := by
  intro digits others
  have hall : ∀ c ∈ digits, isHexDigit c = true := List.all_iff_forall_prop.1 (by decide)
  have hall' : ∀ c ∈ others, isHexDigit c = true := List.all_iff_forall_prop.1 (by decide)
  have hcolour : IsColour "\t#0a1B2c80 \n" digits := (isColour_iff (by decide)).2 ⟨by decide, hall⟩
  have hcolour' : IsColour "0A1b2C80" others := (isColour_iff (by decide)).2 ⟨by decide, hall'⟩
  have hnone : ∀ ds, IsColour "##ABCDE" ds → ds.length ≠ 6 ∧ ds.length ≠ 8 := by
    intro ds hds
    rcases eq_or_ne ds [] with rfl | hne
    · decide
    · obtain ⟨rfl, hdigits⟩ := (isColour_iff hne).1 hds
      exact absurd (hdigits '#' (by decide)) (by decide)
  obtain ⟨-, -, -, height, hsame, -⟩ := captionColour_bytes "\t#0a1B2c80 \n"
  obtain ⟨-, -, -, -, -, hwhite⟩ := captionColour_bytes "##ABCDE"
  obtain ⟨red, green, blue, alpha, hread, -, hcaption⟩ := height digits hcolour rfl
  have hdigits : hexBytes? digits = some [10, 27, 44, 128] := by decide
  simp only [hdigits, Option.some.injEq, List.cons.injEq, and_true] at hread
  obtain ⟨rfl, rfl, rfl, rfl⟩ := hread
  exact ⟨hcolour, rfl, hcolour', rfl, hdigits, by decide, hcaption,
    (hsame digits _ others hcolour rfl hcolour' rfl).2 (by decide), hnone, hwhite hnone⟩

end EditPlan.Filter
