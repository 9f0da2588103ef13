/-!
Characters and texts: digits and blanks, cutting a text into parts and lines, and texts as rows of code points.
-/

namespace EditPlan.Text

/-!
## Hexadecimal digits

They are read in either letter case, and numbers are written with them.
-/

/-- value of a hexadecimal digit -/
def hexValue? (c : Char) : Option Nat :=
  if '0' ≤ c ∧ c ≤ '9' then some (c.toNat - '0'.toNat)
  else if 'a' ≤ c ∧ c ≤ 'f' then some (c.toNat - 'a'.toNat + 10)
  else if 'A' ≤ c ∧ c ≤ 'F' then some (c.toNat - 'A'.toNat + 10)
  else none

def isHexDigit (c : Char) : Bool := (hexValue? c).isSome

/-- value of two hexadecimal digits; other characters count as zero -/
def hexPair (high low : Char) : Nat := (hexValue? high).getD 0 * 16 + (hexValue? low).getD 0

/-- lower-case hexadecimal digits of a number, padded with zeros to `width` -/
def hexDigits (width n : Nat) : List Char :=
  let ds := Nat.toDigits 16 n
  List.replicate (width - ds.length) '0' ++ ds

/-- a byte in two upper-case hexadecimal digits -/
def hexByte (n : Nat) : List Char := (hexDigits 2 n).map Char.toUpper

/-!
## Decimal digits

The digits of a script are ten neighbours, so a table of the zeros suffices.
-/

/-- the zeros of the scripts beyond ASCII -/
def zeros : List Nat := [
  0x660, 0x6f0, 0x7c0, 0x966, 0x9e6, 0xa66, 0xae6, 0xb66, 0xbe6, 0xc66, 0xce6, 0xd66, 0xde6, 0xe50, 0xed0, 0xf20,
  0x1040, 0x1090, 0x17e0, 0x1810, 0x1946, 0x19d0, 0x1a80, 0x1a90, 0x1b50, 0x1bb0, 0x1c40, 0x1c50, 0xa620, 0xa8d0,
  0xa900, 0xa9d0, 0xa9f0, 0xaa50, 0xabf0, 0xff10, 0x104a0, 0x10d30, 0x11066, 0x110f0, 0x11136, 0x111d0, 0x112f0,
  0x11450, 0x114d0, 0x11650, 0x116c0, 0x11730, 0x118e0, 0x11950, 0x11c50, 0x11d50, 0x11da0, 0x16a60, 0x16ac0,
  0x16b50, 0x1d7ce, 0x1d7d8, 0x1d7e2, 0x1d7ec, 0x1d7f6, 0x1e140, 0x1e2f0, 0x1e950, 0x1fbf0]

/-- the ASCII digit of the same value; other characters are kept -/
def asciiDigit (c : Char) : Char :=
  match zeros.find? fun z => decide (z ≤ c.toNat) && decide (c.toNat < z + 10) with
  | some z => Char.ofNat ('0'.toNat + (c.toNat - z))
  | none => c

/-!
## Blank characters

Two classes that differ in the four information separators, and trimming by a class.
-/

def isWhiteSpace (c : Char) : Bool :=
  let n := c.toNat
  (0x9 ≤ n && n ≤ 0xd) || n == 0x20 || n == 0x85 || n == 0xa0 || n == 0x1680 || (0x2000 ≤ n && n ≤ 0x200a)
    || n == 0x2028 || n == 0x2029 || n == 0x202f || n == 0x205f || n == 0x3000

/-- White space and the four information separators. -/
def isBlank (c : Char) : Bool := isWhiteSpace c || (0x1c ≤ c.toNat && c.toNat ≤ 0x1f)

/-- characters without those of a class at either end -/
def trimList (blank : Char → Bool) (cs : List Char) : List Char :=
  ((cs.dropWhile blank).reverse.dropWhile blank).reverse

/-- text without the blanks at either end -/
def strip (s : String) : String := String.ofList (trimList isBlank s.toList)

def isBlankText (s : String) : Bool := s.toList.all isBlank

theorem dropWhile_head_neg {p : Char → Bool} {cs : List Char} (h : ∀ c, cs.head? = some c → p c = false) :
    cs.dropWhile p = cs := by
  cases cs with
  | nil => rfl
  | cons c r => simp [h c rfl]

/-!
## Parts

Cutting a text at every occurrence of one character.
-/

/-- parts between the occurrences of `sep`; a text without it is one part -/
def splitOn (sep : Char) : List Char → List (List Char)
  | [] => [[]]
  | c :: r =>
    if c = sep then [] :: splitOn sep r
    else match splitOn sep r with
      | [] => [[c]]
      | p :: ps => (c :: p) :: ps

theorem splitOn_ne_nil (sep : Char) (cs : List Char) : splitOn sep cs ≠ [] := by
  cases cs with
  | nil => simp [splitOn]
  | cons c r =>
    unfold splitOn
    split
    · simp
    · split <;> simp

/-!
## Lines

Where lines end. Besides the line feed several controls and separators break a line; a carriage return and the line feed
behind it are one break.
-/

def isBreak (c : Char) : Bool :=
  let n := c.toNat
  (0xa ≤ n && n ≤ 0xd) || (0x1c ≤ n && n ≤ 0x1e) || n == 0x85 || n == 0x2028 || n == 0x2029

def breaks : List Char → Nat
  | [] => 0
  | c :: r => if isBreak c && !(c == '\r' && r.head? == some '\n') then breaks r + 1 else breaks r

/-!
## Code points

Texts as rows of code points. A text that comes from UTF-16 can hold half a character, which is a code point and no
character; a `String` holds characters only. So a half is written as the character of private use that is 0x100000 above
it, and a character of that stretch is written with a mark in front, as is the mark itself. Everything that counts,
orders, shows or encodes the code points of a text goes through `codePoints`.
-/

/-- whether a code point is the first or the second half of a character in UTF-16 -/
def isHalf (n : Nat) : Bool := 0xd800 ≤ n && n ≤ 0xdfff

def isCodePoint (n : Nat) : Bool := n < 0x110000

/-- character that a half is written as -/
def standIn (n : Nat) : Char := Char.ofNat (0x100000 + n)

/-- mark in front of a character that would be taken for a half -/
def mark : Char := Char.ofNat 0x10e000

/-- whether a code point is written with a mark -/
def needsMark (n : Nat) : Bool := 0x10d800 ≤ n && n ≤ 0x10e000

def ofCodePoint (n : Nat) : List Char :=
  if isHalf n then [standIn n] else if needsMark n then [mark, Char.ofNat n] else [Char.ofNat n]

/-- code point that a character without a mark writes -/
def plainPoint (c : Char) : Nat := if needsMark c.toNat then c.toNat - 0x100000 else c.toNat

/-- one character after what was read before it (last code point first), and whether a mark stands before it -/
def pointStep : List Nat × Bool → Char → List Nat × Bool
  | (read, true), c => (c.toNat :: read, false)
  | (read, false), c => if c = mark then (read, true) else (plainPoint c :: read, false)

def codePoints (s : String) : List Nat := (s.toList.foldl pointStep ([], false)).1.reverse

def text (ns : List Nat) : String := String.ofList (ns.flatMap ofCodePoint)

theorem toNat_ofNat {n : Nat} (h : n.isValidChar) : (Char.ofNat n).toNat = n := by
  rw [Char.ofNat, dif_pos h]
  rfl

theorem toNat_mark : mark.toNat = 0x10e000 := toNat_ofNat (Or.inr ⟨by decide, by decide⟩)

theorem ne_mark {c : Char} {n : Nat} (h : c.toNat = n) (hn : n ≠ 0x10e000) : c ≠ mark := fun e =>
  hn (h.symm.trans ((congrArg Char.toNat e).trans toNat_mark))

def ofPlain (s : String) : String := text (s.toList.map Char.toNat)

/-- whether a row of code points comes before another one or is the same -/
def comesBefore : List Nat → List Nat → Bool
  | [], _ => true
  | _ :: _, [] => false
  | m :: ms, n :: ns => m < n || (m == n && comesBefore ms ns)

def size (s : String) : Nat := (codePoints s).length

def lastPart (n : Nat) (s : String) : String := text ((codePoints s).drop (size s - n))

/-- whether a text holds no half of a character -/
def isWhole (s : String) : Bool := (codePoints s).all fun n => !isHalf n

theorem foldl_pointStep_plain {cs : List Char} (h : ∀ c ∈ cs, c.toNat < 0xd800) (read : List Nat) :
    cs.foldl pointStep (read, false) = ((cs.map Char.toNat).reverse ++ read, false) := by
  induction cs generalizing read with
  | nil => rfl
  | cons c cs ih =>
    have hc : c.toNat < 0xd800 := h c List.mem_cons_self
    have hmark : c ≠ mark := ne_mark rfl (by omega)
    have hplain : needsMark c.toNat = false := by
      simp only [needsMark, Bool.and_eq_false_iff, decide_eq_false_iff_not]
      omega
    rw [List.foldl_cons, pointStep, if_neg hmark, plainPoint, hplain, ih fun d hd => h d (List.mem_cons_of_mem c hd)]
    simp

/-- a text of characters below the halves holds none -/
theorem isWhole_ofList {cs : List Char} (h : (cs.all fun c => decide (c.toNat < 0xd800)) = true) :
    isWhole (String.ofList cs) = true := by
  have hplain : ∀ c ∈ cs, c.toNat < 0xd800 := by simpa using h
  rw [isWhole, codePoints, String.toList_ofList, foldl_pointStep_plain hplain, List.append_nil, List.reverse_reverse,
    List.all_map, List.all_eq_true]
  intro c hc
  have hlow := hplain c hc
  simp only [Function.comp_apply, isHalf, Bool.not_eq_true', Bool.and_eq_false_iff, decide_eq_false_iff_not]
  omega

/-- escape of a code point by its number, as short as the number allows -/
def numberEscape (n : Nat) : List Char :=
  if n < 0x100 then '\\' :: 'x' :: hexDigits 2 n
  else if n < 0x10000 then '\\' :: 'u' :: hexDigits 4 n
  else '\\' :: 'U' :: hexDigits 8 n

end EditPlan.Text
